import Dealership.Service.Moves

/-!
# The books of the service department

Keys are keys, every decision answers an estimate of its order and is told after that
estimate was generated, and an estimate is withdrawn only by a re-quote told after it was
sent.  Over these, two things the department wants: no open or undecided work on an order
that was handed back (`HandedBack`), and an approval from the current visit behind every
order that is worked on (`Approved`).
-/

namespace Dealership.Service

open Library List
open Inventory (LotLock)
open Policy (ReauthenticationGrant)

/-! ## Reading the history -/

/-- The order is checked in: from its appointment, or by a transition. -/
def entersCheckedIn : ROEventType → Bool
  | .created_from_appointment _ => true
  | .status_changed _ target _ => target = .checked_in
  | _ => false

/-- The re-quote edge. -/
def entersEstimatePending : ROEventType → Bool
  | .status_changed _ target _ => target = .estimate_pending
  | _ => false

def generates (estimateId : String) : ROEventType → Bool
  | .estimate_generated id _ => id = estimateId
  | _ => false

def sendsOut (estimateId : String) : ROEventType → Bool
  | .estimate_sent id => id = estimateId
  | _ => false

def records (authorizationId : String) : ROEventType → Bool
  | .authorization_received id .. => id = authorizationId
  | _ => false

theorem history_tell (d : Shop) (roId : String) (event : ROEventType) (userId id : String) :
    (d.tell roId event userId).history id = d.history id ++ if roId = id then [event] else [] := by
  unfold Shop.history Shop.tell
  rw [filter_append, map_append]
  by_cases h : roId = id
  · simp [h]
  · simp [h]

theorem exists_since_tell {d : Shop} {roId userId id : String} {event : ROEventType}
    {p : ROEventType → Bool} {Q : ROEventType → Prop} (h : ∃ y ∈ since p (d.history id), Q y)
    (hevent : roId = id → p event = false) :
    ∃ y ∈ since p ((d.tell roId event userId).history id), Q y := by
  rw [history_tell]
  by_cases hid : roId = id
  · rw [if_pos hid]
    exact exists_since_concat h (hevent hid)
  · rw [if_neg hid, append_nil]
    exact h

/-! ## The books in order -/

structure Filed (d : Shop) : Prop where
  orders : (d.repair_orders.map RepairOrder.ro_id).Nodup
  lines : (d.ro_line_items.map LineItem.line_item_id).Nodup
  estimates : (d.ro_estimates.map Estimate.estimate_id).Nodup
  authorizations : (d.ro_authorizations.map ROAuthorization.authorization_id).Nodup
  grants : (d.grants.map fun g => g.grantId).Nodup
  answers : ∀ a ∈ d.ro_authorizations, ∃ e ∈ d.ro_estimates,
    e.estimate_id = a.estimate_id ∧ e.ro_id = a.ro_id
  told : ∀ a ∈ d.ro_authorizations,
    ∃ event ∈ since (generates a.estimate_id) (d.history a.ro_id),
      records a.authorization_id event = true
  withdrawn : ∀ e ∈ d.ro_estimates, e.status = .expired →
    ∃ event ∈ since (sendsOut e.estimate_id) (d.history e.ro_id), entersEstimatePending event = true

/-- The order is with the customer again. -/
def ROStatus.handedBack (s : ROStatus) : Bool := s = .ready_for_pickup || s = .closed

/-- No open or undecided work on an order that was handed back. -/
def HandedBack (d : Shop) : Prop :=
  ∀ r ∈ d.repair_orders, r.status.handedBack = true → ∀ l ∈ d.ro_line_items, l.ro_id = r.ro_id →
    l.isOpen = false ∧ l.undecided = false

instance (d : Shop) : Decidable (HandedBack d) :=
  inferInstanceAs (Decidable (∀ r ∈ d.repair_orders, _ → ∀ l ∈ d.ro_line_items, _ → _ ∧ _))

def ROStatus.worked (s : ROStatus) : Bool :=
  s ∈ [.authorized, .in_repair, .waiting_parts, .sublet_in_progress, .qc, .ready_for_pickup,
    .closed]

/-- The customer approved a line of the order since it was last checked in. -/
def ApprovedThisVisit (roId : String) (d : Shop) : Prop :=
  ∃ a ∈ d.ro_authorizations, a.ro_id = roId ∧ a.approves a.estimate_id = true ∧
    ∃ event ∈ since entersCheckedIn (d.history roId), records a.authorization_id event = true

/-- Behind every order that is worked on there is an approval from its current visit. -/
def Approved (d : Shop) : Prop :=
  ∀ r ∈ d.repair_orders, r.status.worked = true → ApprovedThisVisit r.ro_id d

section Congr

variable {d d' : Shop}

theorem SameBooks.history (h : SameBooks d d') (id : String) : d'.history id = d.history id := by
  rw [Shop.history, h.events, Shop.history]

theorem Filed.congr (hd : Filed d) (h : SameBooks d d') : Filed d' := by
  obtain ⟨h1, h2, h3, h4, h5, h6, h7, h8⟩ := hd
  constructor <;>
    simp only [h.orders, h.lines, h.estimates, h.authorizations, h.grants, h.history] <;> assumption

theorem HandedBack.congr (hd : HandedBack d) (horders : d'.repair_orders = d.repair_orders)
    (hlines : d'.ro_line_items = d.ro_line_items) : HandedBack d' := by
  unfold HandedBack
  rw [horders, hlines]
  exact hd

theorem Approved.congr (hd : Approved d) (horders : d'.repair_orders = d.repair_orders)
    (hauthorizations : d'.ro_authorizations = d.ro_authorizations)
    (hevents : d'.ro_events = d.ro_events) : Approved d' := by
  unfold Approved ApprovedThisVisit Shop.history
  rw [horders, hauthorizations, hevents]
  exact hd

end Congr

/-! ## One change at a time -/

section Filed

variable {d : Shop} (hd : Filed d)

include hd

theorem Filed.tell {roId userId : String} {event : ROEventType}
    (hsent : ∀ e ∈ d.ro_estimates, e.status = .expired → sendsOut e.estimate_id event = false)
    (hgenerated : ∀ e ∈ d.ro_estimates, generates e.estimate_id event = false) :
    Filed (d.tell roId event userId) where
  orders := hd.orders
  lines := hd.lines
  estimates := hd.estimates
  authorizations := hd.authorizations
  grants := hd.grants
  answers := hd.answers
  told := by
    intro a ha
    obtain ⟨e, he, hid, -⟩ := hd.answers a ha
    exact exists_since_tell (hd.told a ha) fun _ => hid ▸ hgenerated e he
  withdrawn := fun e he hexpired =>
    exists_since_tell (hd.withdrawn e he hexpired) fun _ => hsent e he hexpired

theorem Filed.tell_other (roId userId : String) (event : ROEventType)
    (hsent : ∀ id, sendsOut id event = false) (hgenerated : ∀ id, generates id event = false) :
    Filed (d.tell roId event userId) :=
  hd.tell (fun e _ _ => hsent e.estimate_id) fun e _ => hgenerated e.estimate_id

theorem Filed.setStatus (roId : String) (status : ROStatus) : Filed (d.setStatus roId status) where
  orders := nodup_map_updateWhere hd.orders fun _ _ => rfl
  lines := hd.lines
  estimates := hd.estimates
  authorizations := hd.authorizations
  grants := hd.grants
  answers := hd.answers
  told := hd.told
  withdrawn := hd.withdrawn

theorem Filed.moved (r : RepairOrder) (sources : List ROStatus) (target : ROStatus) :
    Filed (d.moved r sources target) := by
  unfold Shop.moved
  split
  · exact hd.setStatus _ _
  · exact hd

theorem Filed.setLines (ids : List String) (f : LineItem → LineItem)
    (hf : ∀ l, (f l).line_item_id = l.line_item_id) : Filed (d.setLines ids f) where
  orders := hd.orders
  lines := nodup_map_updateWhere hd.lines fun l _ => hf l
  estimates := hd.estimates
  authorizations := hd.authorizations
  grants := hd.grants
  answers := hd.answers
  told := hd.told
  withdrawn := hd.withdrawn

theorem Filed.setEstimates (ids : List String) (status : EstimateStatus)
    (h : status = .expired → ∀ e ∈ d.ro_estimates, e.estimate_id ∈ ids →
      ∃ event ∈ since (sendsOut e.estimate_id) (d.history e.ro_id),
        entersEstimatePending event = true) : Filed (d.setEstimates ids status) where
  orders := hd.orders
  lines := hd.lines
  estimates := nodup_map_updateWhere hd.estimates fun _ _ => rfl
  authorizations := hd.authorizations
  grants := hd.grants
  answers := by
    intro a ha
    obtain ⟨e, he, hid, hro⟩ := hd.answers a ha
    by_cases hin : e.estimate_id ∈ ids
    · exact ⟨_, mem_updateWhere_of_pos he hin, hid, hro⟩
    · exact ⟨e, mem_updateWhere_of_neg he hin, hid, hro⟩
  told := hd.told
  withdrawn := by
    intro e he hexpired
    rcases updateWhere_cases he with ⟨he, -⟩ | ⟨f, hf, hin, rfl⟩
    · exact hd.withdrawn e he hexpired
    · exact h hexpired f hf hin

theorem Filed.spend (grantId : String) (now : Int) : Filed (d.spend grantId now) where
  orders := hd.orders
  lines := hd.lines
  estimates := hd.estimates
  authorizations := hd.authorizations
  grants := nodup_map_updateWhere hd.grants fun _ _ => rfl
  answers := hd.answers
  told := hd.told
  withdrawn := hd.withdrawn

theorem Filed.addOrder {r : RepairOrder} (hfresh : ∀ s ∈ d.repair_orders, s.ro_id ≠ r.ro_id) :
    Filed { d with repair_orders := d.repair_orders ++ [r] } where
  orders := nodup_key_insert hd.orders hfresh
  lines := hd.lines
  estimates := hd.estimates
  authorizations := hd.authorizations
  grants := hd.grants
  answers := hd.answers
  told := hd.told
  withdrawn := hd.withdrawn

theorem Filed.addLine {l : LineItem}
    (hfresh : ∀ m ∈ d.ro_line_items, m.line_item_id ≠ l.line_item_id) :
    Filed { d with ro_line_items := d.ro_line_items ++ [l] } where
  orders := hd.orders
  lines := nodup_key_insert hd.lines hfresh
  estimates := hd.estimates
  authorizations := hd.authorizations
  grants := hd.grants
  answers := hd.answers
  told := hd.told
  withdrawn := hd.withdrawn

theorem Filed.addEstimate {e : Estimate} (hdraft : e.status = .draft)
    (hfresh : ∀ f ∈ d.ro_estimates, f.estimate_id ≠ e.estimate_id) :
    Filed { d with ro_estimates := d.ro_estimates ++ [e] } where
  orders := hd.orders
  lines := hd.lines
  estimates := nodup_key_insert hd.estimates hfresh
  authorizations := hd.authorizations
  grants := hd.grants
  answers := by
    intro a ha
    obtain ⟨f, hf, h⟩ := hd.answers a ha
    exact ⟨f, mem_append_left _ hf, h⟩
  told := hd.told
  withdrawn := by
    intro f hf hexpired
    rcases mem_inserted hf with hf | rfl
    · exact hd.withdrawn f hf hexpired
    · rw [hdraft] at hexpired
      cases hexpired

theorem Filed.addAuthorization {a : ROAuthorization}
    (hfresh : ∀ b ∈ d.ro_authorizations, b.authorization_id ≠ a.authorization_id)
    (hanswers : ∃ e ∈ d.ro_estimates, e.estimate_id = a.estimate_id ∧ e.ro_id = a.ro_id)
    (htold : ∃ event ∈ since (generates a.estimate_id) (d.history a.ro_id),
      records a.authorization_id event = true) :
    Filed { d with ro_authorizations := d.ro_authorizations ++ [a] } where
  orders := hd.orders
  lines := hd.lines
  estimates := hd.estimates
  authorizations := nodup_key_insert hd.authorizations hfresh
  grants := hd.grants
  answers := by
    intro b hb
    rcases mem_inserted hb with hb | rfl
    · exact hd.answers b hb
    · exact hanswers
  told := by
    intro b hb
    rcases mem_inserted hb with hb | rfl
    · exact hd.told b hb
    · exact htold
  withdrawn := hd.withdrawn

end Filed

/-! ## Every move keeps the books -/

theorem Filed.pays {held : List LotLock} {w : ServiceWorld} {action roId token : String}
    {d paid : Shop} (hd : Filed d) (h : Pays held w action roId token d paid) : Filed paid := by
  cases h with
  | spends _ _ _ => exact hd.spend _ _

theorem Filed.moves {tidy : Prop} {held : List LotLock} {c : ServiceCall} {d d' : Shop}
    (hd : Filed d) (hm : ServiceMoves tidy held c d d') : Filed d' := by
  cases hm with
  | stays same => exact hd.congr same
  | @opens c r event userId _ _ key fresh status same =>
    refine Filed.congr (Filed.tell_other (hd.addOrder fresh) _ _ _ ?_ ?_) same
    · intro id
      unfold opensWith at status
      split at status <;> first | rfl | cases status
    · intro id
      unfold opensWith at status
      split at status <;> first | rfl | cases status
  | adds _ _ fresh same => exact (hd.addLine fresh).congr same
  | edits _ _ same =>
    refine Filed.congr (hd.setLines _ _ ?_) same
    exact fun _ => rfl
  | dispatches _ same =>
    refine Filed.congr (hd.setLines _ _ ?_) same
    exact fun _ => rfl
  | inspects _ _ _ same =>
    exact Filed.congr ((hd.moved _ _ _).tell_other _ _ _ (fun _ => rfl) fun _ => rfl) same
  | @quotes c r e ids userId _ _ _ _ _ _ fresh _ draft _ _ same =>
    -- The estimate is told of before it is there, so nothing answers it yet.
    have htell : Filed (d.tell r.ro_id (.estimate_generated e.estimate_id e.version) userId) :=
      hd.tell (fun _ _ _ => rfl) fun f hf => decide_eq_false (fresh f hf).symm
    have h := ((htell.addEstimate draft fresh).setLines ids (quotedAs e.estimate_id)
      fun _ => rfl).moved r [.inspection_in_progress, .checked_in] .estimate_pending
    refine h.congr ?_
    unfold Shop.moved at same ⊢
    split at same
    · rename_i hmoved
      rw [if_pos hmoved]
      exact same
    · rename_i hmoved
      rw [if_neg hmoved]
      exact same
  | @sends c r e userId _ _ _ _ estimate _ draft same =>
    have hset : Filed (d.setEstimates [e.estimate_id] .sent) :=
      hd.setEstimates _ _ fun h => by cases h
    refine Filed.congr (Filed.tell (hset.moved _ _ _) ?_ fun _ _ => rfl) same
    intro f hf hexpired
    refine decide_eq_false fun heq => ?_
    have hf' : f ∈ (d.setEstimates [e.estimate_id] .sent).ro_estimates := by
      unfold Shop.moved at hf
      split at hf
      · exact hf
      · exact hf
    rcases updateWhere_cases hf' with ⟨-, hnot⟩ | ⟨_, _, _, rfl⟩
    · exact hnot (mem_singleton.mpr heq.symm)
    · cases hexpired
  | @decides c r e a approved declined status n m userId _ paid _ _ _ payment estimate order
      _ status_ne _ fresh answers _ same =>
      have hpaid : Filed paid ∧ paid.ro_estimates = d.ro_estimates ∧
          paid.ro_authorizations = d.ro_authorizations := by
        rcases payment with rfl | ⟨w, action, token, h⟩
        · exact ⟨hd, rfl, rfl⟩
        · refine ⟨hd.pays h, ?_, ?_⟩
          · cases h
            rfl
          · cases h
            rfl
      obtain ⟨hfiled, hestimates, hauthorizations⟩ := hpaid
      have htell := hfiled.tell_other r.ro_id userId
        (.authorization_received a.authorization_id a.method a.status n m) (fun _ => rfl)
        fun _ => rfl
      have hadd := htell.addAuthorization (a := a)
        (fun b hb => fresh b (hauthorizations ▸ hb))
        ⟨e, hestimates ▸ estimate, answers.2.symm, order.trans answers.1.symm⟩ (by
          rw [history_tell, if_pos answers.1.symm]
          exact exists_since_concat_last rfl (decide_eq_true rfl))
      have hlines := (hadd.setLines approved (markApproved a.authorization_id)
        fun _ => rfl).setLines declined (markDeclined a.authorization_id) fun _ => rfl
      exact Filed.congr (hlines.setEstimates _ _ fun h => absurd h status_ne) same
  | @transitions w r target input quotes lines _ paid _ _ _ _ payment _ _ withdrawn _ _ same =>
    have hpaid : Filed paid ∧ paid.ro_estimates = d.ro_estimates := by
      split at payment
      · refine ⟨hd.pays payment, ?_⟩
        cases payment
        rfl
      · exact ⟨payment ▸ hd, payment ▸ rfl⟩
    obtain ⟨hfiled, hestimates⟩ := hpaid
    have htell := (hfiled.setStatus r.ro_id target).tell_other r.ro_id w.userId
      (.status_changed r.status target input.reason) (fun _ => rfl) fun _ => rfl
    have hset := htell.setEstimates quotes .expired (by
      intro _ f hf hin
      obtain ⟨hro, htarget⟩ := withdrawn f (hestimates ▸ hf) hin
      rw [history_tell, if_pos hro.symm]
      exact exists_since_concat_last rfl (decide_eq_true htarget))
    exact Filed.congr (hset.setLines lines unasked fun _ => rfl) same
  | returns _ _ _ _ _ same =>
    refine Filed.congr (Filed.tell_other (Filed.tell_other (hd.setStatus _ _) _ _ _ ?_ ?_) _ _ _
      ?_ ?_) same
    all_goals exact fun _ => rfl

end Dealership.Service
