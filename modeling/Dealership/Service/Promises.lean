import Dealership.Service.Books

/-!
# What the department promises, and when a move keeps it

The two gates look at the lines once, on the way into `ready_for_pickup`, and the evidence
is looked for once, on the way into `authorized`.  Here is what the moves that pass no gate
have to leave alone for the promises to last.
-/

namespace Dealership.Service

open Library List
open Inventory (LotLock)

variable {s : ROStatus} {held : List LotLock} {c : ServiceCall} {roId : String} {tidy : Prop}
  {d : Shop}

/-! ## Work on what was handed back -/

/-- A line is not added to an order that was handed back, and an update of one there leaves
it finished and decided. -/
def ServiceCall.Tidy (c : ServiceCall) (held : List LotLock) (d : Shop) : Prop :=
  match c with
  | .addLineItem _ roId _ => .row "repair_orders" roId .keyShare ∈ held →
      ∀ r ∈ d.repair_orders, r.ro_id = roId → r.status.handedBack = false
  | .updateLineItem w _ lineItemId updates =>
    .row "ro_line_items" lineItemId .noKeyUpdate ∈ held →
      ∀ l ∈ d.ro_line_items, l.line_item_id = lineItemId →
        ∀ r ∈ d.repair_orders, r.ro_id = l.ro_id → r.status.handedBack = true →
          (updates.apply w.supervises l).isOpen = false ∧
            (updates.apply w.supervises l).undecided = false
  | _ => True

instance ServiceCall.decidableTidy :
    ∀ (c : ServiceCall) (held : List LotLock) (d : Shop), Decidable (c.Tidy held d)
  | .addLineItem .., _, d =>
    inferInstanceAs (Decidable (_ → ∀ r ∈ d.repair_orders, _ → _ = false))
  | .updateLineItem .., _, d => inferInstanceAs (Decidable (_ → ∀ l ∈ d.ro_line_items, _ →
      ∀ r ∈ d.repair_orders, _ → _ → _ ∧ _))
  | .createRO .., _, _ | .checkIn .., _, _ | .dispatchTech .., _, _ | .startMPISession .., _, _
  | .generateEstimate .., _, _ | .sendEstimate .., _, _ | .recordAuthorization .., _, _
  | .transitionRO .., _, _ | .createComebackCase .., _, _ => .isTrue trivial

section HandedBack

variable {d : Shop} (hd : HandedBack d)

include hd

theorem HandedBack.setStatus (roId : String) (status : ROStatus)
    (h : status.handedBack = true → ∀ l ∈ d.ro_line_items, l.ro_id = roId →
      l.isOpen = false ∧ l.undecided = false) : HandedBack (d.setStatus roId status) := by
  intro r hr hback l hl hro
  rcases updateWhere_cases hr with ⟨hr, -⟩ | ⟨s, hs, hid, rfl⟩
  · exact hd r hr hback l hl hro
  · exact h hback l hl (hro.trans hid)

theorem HandedBack.moved (r : RepairOrder) (sources : List ROStatus) (target : ROStatus)
    (h : target.handedBack = false) : HandedBack (d.moved r sources target) := by
  unfold Shop.moved
  split
  · exact hd.setStatus _ _ fun hback => absurd (h.symm.trans hback) Bool.false_ne_true
  · exact hd

theorem HandedBack.setLines (ids : List String) (f : LineItem → LineItem)
    (hro : ∀ l, (f l).ro_id = l.ro_id)
    (h : ∀ r ∈ d.repair_orders, r.status.handedBack = true → ∀ l ∈ d.ro_line_items,
      l.line_item_id ∈ ids → l.ro_id = r.ro_id → l.isOpen = false ∧ l.undecided = false →
        (f l).isOpen = false ∧ (f l).undecided = false) : HandedBack (d.setLines ids f) := by
  intro r hr hback l hl hid
  rcases updateWhere_cases hl with ⟨hl, -⟩ | ⟨m, hm, hin, rfl⟩
  · exact hd r hr hback l hl hid
  · have hid' := (hro m).symm.trans hid
    exact h r hr hback m hm hin hid' (hd r hr hback m hm hid')

theorem HandedBack.addOrder {r : RepairOrder} (h : r.status.handedBack = false) :
    HandedBack { d with repair_orders := d.repair_orders ++ [r] } := by
  intro s hs hback
  rcases mem_inserted hs with hs | rfl
  · exact hd s hs hback
  · rw [h] at hback
    cases hback

theorem HandedBack.addLine {l : LineItem}
    (h : ∀ r ∈ d.repair_orders, r.ro_id = l.ro_id → r.status.handedBack = false) :
    HandedBack { d with ro_line_items := d.ro_line_items ++ [l] } := by
  intro r hr hback m hm hro
  rcases mem_inserted hm with hm | rfl
  · exact hd r hr hback m hm hro
  · rw [h r hr hro.symm] at hback
    cases hback

end HandedBack

theorem markApproved_finished {id : String} {l : LineItem} (h : l.isOpen = false) :
    (markApproved id l).isOpen = false ∧ (markApproved id l).undecided = false := by
  refine ⟨h, ?_⟩
  simp [LineItem.undecided, markApproved]

theorem markDeclined_finished {id : String} {l : LineItem} :
    (markDeclined id l).isOpen = false ∧ (markDeclined id l).undecided = false := by
  simp [LineItem.isOpen, LineItem.undecided, markDeclined]

theorem opensWith_not_handedBack {event : ROEventType}
    (h : opensWith s event = true) : s.handedBack = false ∧ s.worked = false := by
  unfold opensWith at h
  split at h
  · exact ⟨rfl, rfl⟩
  · exact ⟨rfl, rfl⟩
  · cases h

/-- Only from `ready_for_pickup` is an order closed. -/
theorem source_of_closed (h : isTransitionAllowed s .closed = true) : s = .ready_for_pickup := by
  cases s <;> first | rfl | cases h

theorem not_handedBack_of_quotable (h : s ∈ quotable) : ¬ s.handedBack = true := by
  cases s <;> simp_all [quotable, ROStatus.handedBack]

theorem not_handedBack_of_requoted
    (h : isTransitionAllowed s .estimate_pending = true) : ¬ s.handedBack = true := by
  cases s <;> simp_all [isTransitionAllowed, allowedTransitionsFrom, ROStatus.handedBack]

theorem HandedBack.moves {d' : Shop} (ht : tidy) (hf : Filed d) (hd : HandedBack d)
    (htidy : c.Tidy held d) (hm : ServiceMoves tidy held c d d') :
    HandedBack d' := by
  cases hm with
  | stays same => exact hd.congr same.orders same.lines
  | opens _ _ status same =>
    exact (hd.addOrder (opensWith_not_handedBack status).1).congr same.orders same.lines
  | adds order _ _ same => exact (hd.addLine (htidy order)).congr same.orders same.lines
  | @edits w l updates _ _ lock found same =>
    have h := hd.setLines [l.line_item_id] (updates.apply w.supervises) (fun _ => rfl) ?_
    · exact h.congr same.orders same.lines
    · intro r hr hback m hm hin hro _
      have hsame : m = l := eq_of_key hf.lines hm found (mem_singleton.mp hin)
      exact htidy lock m hm (hsame ▸ rfl) r hr hro.symm hback
  | @dispatches c lineItemId techUserId _ _ _ same =>
    have h := hd.setLines [lineItemId] (assignedTo techUserId) (fun _ => rfl)
      fun _ _ _ _ _ _ _ h => h
    exact h.congr same.orders same.lines
  | inspects _ _ _ same => exact (hd.moved _ _ _ rfl).congr same.orders same.lines
  | @quotes c r e ids userId _ _ _ found status _ _ _ _ _ lines same =>
    -- The lines put to the customer are those of an order that is being quoted.
    have h := hd.setLines ids (quotedAs e.estimate_id) (fun _ => rfl) ?_
    · have h' : HandedBack (Shop.setLines { d with ro_estimates := d.ro_estimates ++ [e] } ids
          (quotedAs e.estimate_id)) := h.congr rfl rfl
      exact (h'.moved _ _ _ rfl).congr same.orders same.lines
    · intro s hs hback l hl hin hro
      have hsame : s = r := eq_of_key hf.orders hs found (hro.symm.trans (lines l hl hin))
      rw [hsame] at hback
      exact absurd hback (not_handedBack_of_quotable status)
  | @sends c r e _ _ _ _ _ _ _ _ same =>
    have h : HandedBack (d.setEstimates [e.estimate_id] .sent) := hd.congr rfl rfl
    exact (h.moved _ _ _ rfl).congr same.orders same.lines
  | @decides c r e a approved declined status n m userId _ paid _ _ _ payment _ _ _ _ _ _ _ _
      same =>
      have hpaid : HandedBack paid := by
        rcases payment with rfl | ⟨w, action, token, h⟩
        · exact hd
        · cases h
          exact hd
      have happroved := hpaid.setLines approved (markApproved a.authorization_id)
        (fun _ => rfl) fun _ _ _ _ _ _ _ h => markApproved_finished h.1
      have hdeclined := happroved.setLines declined (markDeclined a.authorization_id)
        (fun _ => rfl) fun _ _ _ _ _ _ _ _ => markDeclined_finished
      exact hdeclined.congr same.orders same.lines
  | @transitions w r target input quotes lines _ paid _ _ found allowed payment gates _ _ _ taken
      same =>
      have hpaid : paid.repair_orders = d.repair_orders ∧ paid.ro_line_items = d.ro_line_items := by
        split at payment
        · cases payment
          exact ⟨rfl, rfl⟩
        · exact payment ▸ ⟨rfl, rfl⟩
      have hlines := (hd.congr hpaid.1 hpaid.2).setLines lines unasked (fun _ => rfl) ?_
      · refine HandedBack.congr (hlines.setStatus r.ro_id target ?_) same.orders same.lines
        intro hback l hl hro
        rw [ROStatus.handedBack, Bool.or_eq_true, decide_eq_true_eq, decide_eq_true_eq] at hback
        have hkept : l ∈ d.ro_line_items := by
          rcases updateWhere_cases hl with ⟨hl, -⟩ | ⟨m, hm, hin, rfl⟩
          · exact hpaid.2 ▸ hl
          · have htarget := (taken m (hpaid.2 ▸ hm) hin).2
            rw [htarget] at hback
            rcases hback with h | h <;> cases h
        rcases hback with rfl | rfl
        · exact gates ht rfl l hkept hro
        · have hpickup := source_of_closed allowed
          exact hd r found (by rw [hpickup]; rfl) l hkept hro
      · intro s hs hback l hl hin hro _
        obtain ⟨hid, htarget⟩ := taken l (hpaid.2 ▸ hl) hin
        have hsame : s = r := eq_of_key hf.orders (hpaid.1 ▸ hs) found (hro.symm.trans hid)
        rw [htarget] at allowed
        rw [hsame] at hback
        exact absurd hback (not_handedBack_of_requoted allowed)
  | returns _ _ _ _ _ same =>
    exact (hd.setStatus _ _ fun h => by cases h).congr same.orders same.lines

/-! ## The approval behind the work -/

/-- The latest estimate stands: if its order went back to `estimate_pending` after it was sent,
it had been answered in full, and if the order came back since it was generated, a line of
it has been approved since. -/
def Standing (roId : String) (d : Shop) : Prop :=
  ∀ e ∈ latestEstimate roId d,
    ((∃ event ∈ since (sendsOut e.estimate_id) (d.history roId),
        entersEstimatePending event = true) → e.status = .approved ∨ e.status = .declined) ∧
    ((∃ event ∈ since (generates e.estimate_id) (d.history roId),
        entersCheckedIn event = true) → ∃ a ∈ d.ro_authorizations, a.ro_id = roId ∧
          a.approves e.estimate_id = true ∧
            ∃ event ∈ since entersCheckedIn (d.history roId),
              records a.authorization_id event = true)

instance (roId : String) (d : Shop) : Decidable (Standing roId d) :=
  inferInstanceAs (Decidable (∀ e ∈ latestEstimate roId d, _ ∧ _))

def ServiceCall.Fresh (c : ServiceCall) (held : List LotLock) (d : Shop) : Prop :=
  match c with
  | .transitionRO _ roId .authorized _ => orderLock roId ∈ held → Standing roId d
  | _ => True

/-- What the evidence of a standing estimate is worth: it has not been withdrawn, and a line
of it was approved since the order was last checked in. -/
def AuthorizedNow (roId : String) (d : Shop) : Prop :=
  ∃ e, latestEstimate roId d = some e ∧ e.status ≠ .expired ∧
    ∃ a ∈ d.ro_authorizations, a.ro_id = roId ∧ a.approves e.estimate_id = true ∧
      ∃ event ∈ since entersCheckedIn (d.history roId), records a.authorization_id event = true

theorem mem_evidenceOf {a : ROAuthorization}
    (h : a ∈ evidenceOf roId d) : a ∈ d.ro_authorizations ∧ a.ro_id = roId ∧
      ∃ e, latestEstimate roId d = some e ∧ a.approves e.estimate_id = true := by
  obtain ⟨hof, hany⟩ := mem_filter.mp h
  obtain ⟨ha, hro⟩ := mem_filter.mp hof
  obtain ⟨e, he, happroves⟩ := Option.any_eq_true _ _ |>.mp hany
  exact ⟨ha, of_decide_eq_true hro, e, he, happroves⟩

theorem mem_of_latestEstimate {e : Estimate}
    (h : latestEstimate roId d = some e) : e ∈ d.ro_estimates ∧ e.ro_id = roId := by
  obtain ⟨he, hro⟩ := mem_filter.mp (mem_of_find?_eq_some h)
  exact ⟨he, of_decide_eq_true hro⟩

/-- The evidence the gate finds is worth what it should be, where the estimate stands. -/
theorem authorizedNow_of_evidence (hf : Filed d) (hstanding : Standing roId d)
    (hevidence : evidenceOf roId d ≠ []) :
    AuthorizedNow roId d := by
  obtain ⟨a, ha⟩ := exists_mem_of_ne_nil _ hevidence
  obtain ⟨hmem, hro, e, hlatest, happroves⟩ := mem_evidenceOf ha
  obtain ⟨he, hero⟩ := mem_of_latestEstimate hlatest
  obtain ⟨hquote, hvisit⟩ := hstanding e hlatest
  refine ⟨e, hlatest, fun hexpired => ?_, ?_⟩
  · have hrequoted := hf.withdrawn e he hexpired
    rw [hero] at hrequoted
    rcases hquote hrequoted with h | h
    · rw [hexpired] at h
      cases h
    · rw [hexpired] at h
      cases h
  · by_cases hback : ∃ event ∈ since (generates e.estimate_id) (d.history roId),
        entersCheckedIn event = true
    · exact hvisit hback
    · refine ⟨a, hmem, hro, happroves, ?_⟩
      have hsub : since (generates e.estimate_id) (d.history roId) ⊆
          since entersCheckedIn (d.history roId) :=
        since_subset fun event hevent => Bool.eq_false_iff.mpr fun hin =>
          hback ⟨event, hevent, hin⟩
      have hestimate : a.estimate_id = e.estimate_id := by
        simp only [ROAuthorization.approves, Bool.and_eq_true, decide_eq_true_eq] at happroves
        exact happroves.2
      obtain ⟨event, hevent, hrecords⟩ := hf.told a hmem
      rw [hestimate, hro] at hevent
      exact ⟨event, hsub hevent, hrecords⟩

section Approved

variable {d : Shop} (hd : Approved d)

include hd

theorem Approved.tell (roId userId : String) (event : ROEventType)
    (h : entersCheckedIn event = true → ∀ r ∈ d.repair_orders, r.ro_id = roId →
      r.status.worked = false) : Approved (d.tell roId event userId) := by
  intro r hr hworked
  obtain ⟨a, ha, hro, happroves, hsince⟩ := hd r hr hworked
  refine ⟨a, ha, hro, happroves, exists_since_tell hsince fun hid => ?_⟩
  refine Bool.eq_false_iff.mpr fun hin => ?_
  rw [h hin r hr hid.symm] at hworked
  cases hworked

theorem Approved.setStatus (roId : String) (status : ROStatus)
    (h : status.worked = true → ∀ r ∈ d.repair_orders, r.ro_id = roId →
      ApprovedThisVisit roId d) : Approved (d.setStatus roId status) := by
  intro r hr hworked
  rcases updateWhere_cases hr with ⟨hr, -⟩ | ⟨s, hs, hid, rfl⟩
  · exact hd r hr hworked
  · have happroved := h hworked s hs hid
    rw [← hid] at happroved
    exact happroved

theorem Approved.moved (r : RepairOrder) (sources : List ROStatus) (target : ROStatus)
    (h : target.worked = false) : Approved (d.moved r sources target) := by
  unfold Shop.moved
  split
  · exact hd.setStatus _ _ fun hworked => absurd (h.symm.trans hworked) Bool.false_ne_true
  · exact hd

theorem Approved.addOrder {r : RepairOrder} (h : r.status.worked = false) :
    Approved { d with repair_orders := d.repair_orders ++ [r] } := by
  intro s hs hworked
  rcases mem_inserted hs with hs | rfl
  · exact hd s hs hworked
  · rw [h] at hworked
    cases hworked

theorem Approved.addAuthorization (a : ROAuthorization) :
    Approved { d with ro_authorizations := d.ro_authorizations ++ [a] } := by
  intro r hr hworked
  obtain ⟨b, hb, h⟩ := hd r hr hworked
  exact ⟨b, mem_append_left _ hb, h⟩

end Approved

theorem worked_source {t : ROStatus} (h : isTransitionAllowed s t = true)
    (hworked : t.worked = true) : t = .authorized ∨ s.worked = true := by
  cases s <;> cases t <;>
    first
      | exact .inl rfl
      | exact .inr (by decide)
      | exact absurd h (by decide)
      | exact absurd hworked (by decide)

/-- The latest estimate and the approvals on file, after a transition that re-quotes nothing. -/
theorem AuthorizedNow.congr {d' : Shop} (h : AuthorizedNow roId d)
    (hestimates : d'.ro_estimates = d.ro_estimates)
    (hauthorizations : d'.ro_authorizations = d.ro_authorizations)
    (hhistory : ∀ a, (∃ event ∈ since entersCheckedIn (d.history roId),
      records a event = true) → ∃ event ∈ since entersCheckedIn (d'.history roId),
        records a event = true) : AuthorizedNow roId d' := by
  obtain ⟨e, hlatest, hstatus, a, ha, hro, happroves, hsince⟩ := h
  refine ⟨e, ?_, hstatus, a, hauthorizations ▸ ha, hro, happroves, hhistory _ hsince⟩
  unfold latestEstimate maxVersion Shop.estimatesOf at hlatest ⊢
  rw [hestimates]
  exact hlatest

theorem Pays.files {w : ServiceWorld} {action token : String} {paid : Shop}
    (h : Pays held w action roId token d paid) :
    paid.repair_orders = d.repair_orders ∧ paid.ro_estimates = d.ro_estimates ∧
      paid.ro_authorizations = d.ro_authorizations ∧ paid.ro_events = d.ro_events := by
  cases h
  exact ⟨rfl, rfl, rfl, rfl⟩

theorem Approved.moves {d' : Shop} (hf : Filed d) (hd : Approved d) (hfresh : c.Fresh held d)
    (hm : ServiceMoves tidy held c d d') : Approved d' := by
  cases hm with
  | stays same => exact hd.congr same.orders same.authorizations same.events
  | @opens c r event userId _ _ _ fresh status same =>
    have h := (hd.addOrder (opensWith_not_handedBack status).2).tell r.ro_id userId event ?_
    · exact h.congr same.orders same.authorizations same.events
    · intro _ s hs hid
      rcases mem_inserted hs with hs | rfl
      · exact absurd hid (fresh s hs)
      · exact (opensWith_not_handedBack status).2
  | adds _ _ _ same | edits _ _ same | dispatches _ same =>
    exact hd.congr same.orders same.authorizations same.events
  | @inspects c r sessionId userId _ _ _ _ _ same =>
    have h := (hd.moved r [.checked_in] .inspection_in_progress rfl).tell r.ro_id userId
      (.mpi_started sessionId) fun hin => by cases hin
    exact h.congr same.orders same.authorizations same.events
  | @quotes c r e ids userId _ _ _ _ _ _ _ _ _ _ _ same =>
    have hbase : Approved (Shop.setLines { d with ro_estimates := d.ro_estimates ++ [e] } ids
      (quotedAs e.estimate_id)) := hd.congr rfl rfl rfl
    have h := (hbase.moved r [.inspection_in_progress, .checked_in] .estimate_pending rfl).tell
      r.ro_id userId (.estimate_generated e.estimate_id e.version) fun hin => by cases hin
    exact h.congr same.orders same.authorizations same.events
  | @sends c r e userId _ _ _ _ _ _ _ same =>
    have hbase : Approved (d.setEstimates [e.estimate_id] .sent) := hd.congr rfl rfl rfl
    have h := (hbase.moved r [.estimate_pending] .awaiting_authorization rfl).tell r.ro_id
      userId (.estimate_sent e.estimate_id) fun hin => by cases hin
    exact h.congr same.orders same.authorizations same.events
  | @decides c r e a approved declined status n m userId _ paid _ _ _ payment _ _ _ _ _ _ _ _
      same =>
      have hpaid : Approved paid := by
        rcases payment with rfl | ⟨w, action, token, h⟩
        · exact hd
        · obtain ⟨horders, _, hauthorizations, hevents⟩ := h.files
          exact hd.congr horders hauthorizations hevents
      have h := (hpaid.addAuthorization a).tell r.ro_id userId
        (.authorization_received a.authorization_id a.method a.status n m) fun hin => by cases hin
      exact h.congr same.orders same.authorizations same.events
  | @transitions w r target input quotes lines _ paid _ lock found allowed payment _ evidence _ _
      _ same =>
      have hpaid : paid.repair_orders = d.repair_orders ∧
          paid.ro_authorizations = d.ro_authorizations ∧ paid.ro_events = d.ro_events := by
        split at payment
        · obtain ⟨horders, _, hauthorizations, hevents⟩ := payment.files
          exact ⟨horders, hauthorizations, hevents⟩
        · exact payment ▸ ⟨rfl, rfl, rfl⟩
      have happroved : target.worked = true → ApprovedThisVisit r.ro_id d := by
        intro hworked
        rcases worked_source allowed hworked with rfl | hsource
        · obtain ⟨e, -, -, a, ha, hro, happroves, hsince⟩ :=
            authorizedNow_of_evidence hf (hfresh lock) (evidence rfl)
          refine ⟨a, ha, hro, ?_, hsince⟩
          simp only [ROAuthorization.approves, Bool.and_eq_true, decide_eq_true_eq] at happroves ⊢
          exact ⟨happroves.1, trivial⟩
        · exact hd r found hsource
      have hstatus := hd.setStatus r.ro_id target fun hworked _ _ _ => happroved hworked
      have h := hstatus.tell r.ro_id w.userId (.status_changed r.status target input.reason) ?_
      · refine h.congr (same.orders.trans ?_) (same.authorizations.trans hpaid.2.1)
          (same.events.trans ?_)
        · change (paid.setStatus r.ro_id target).repair_orders = _
          unfold Shop.setStatus
          rw [hpaid.1]
          rfl
        · change paid.ro_events ++ _ = d.ro_events ++ _
          rw [hpaid.2.2]
      · intro hin s hs hid
        have htarget : target = .checked_in := of_decide_eq_true hin
        rcases updateWhere_cases hs with ⟨_, hne⟩ | ⟨_, _, _, rfl⟩
        · exact absurd hid hne
        · change target.worked = false
          rw [htarget]
          rfl
  | @returns c r s caseId userId _ _ _ _ _ _ _ same =>
    have hback := hd.setStatus r.ro_id .comeback fun h => by cases h
    have hopened := hback.tell r.ro_id userId (.comeback_opened caseId s.ro_id)
      fun hin => by cases hin
    have hlinked := hopened.tell s.ro_id userId (.comeback_linked caseId r.ro_id)
      fun hin => by cases hin
    exact hlinked.congr same.orders same.authorizations same.events

/-! ## Grants -/

theorem ServiceMoves.grants {d' : Shop}
    (hm : ServiceMoves tidy held c d d') : d'.grants = d.grants ∨
      ∃ g ∈ d.grants, ∃ now, g.consumedAt = none ∧ d'.grants = (d.spend g.grantId now).grants := by
  have hpays : ∀ {w : ServiceWorld} {action roId token : String} {paid : Shop},
      Pays held w action roId token d paid → ∃ g ∈ d.grants, ∃ now, g.consumedAt = none ∧
        paid.grants = (d.spend g.grantId now).grants := by
    intro w action roId token paid h
    cases h with
    | @spends g lock found pays =>
      simp only [grantPays, Bool.and_eq_true, Option.isNone_iff_eq_none] at pays
      exact ⟨g, found, w.now, pays.1.1.1.2, rfl⟩
  cases hm with
  | stays same | opens _ _ _ same | adds _ _ _ same | edits _ _ same | dispatches _ same
  | returns _ _ _ _ _ same => exact .inl same.grants
  | inspects _ _ _ same | quotes _ _ _ _ _ _ _ _ _ same | sends _ _ _ _ _ same =>
    refine .inl (same.grants.trans ?_)
    change (Shop.moved _ _ _ _).grants = _
    unfold Shop.moved
    split <;> rfl
  | decides _ _ payment _ _ _ _ _ _ _ _ same =>
    rcases payment with rfl | ⟨w, action, token, h⟩
    · exact .inl same.grants
    · obtain ⟨g, hg, now, hnone, hpaid⟩ := hpays h
      exact .inr ⟨g, hg, now, hnone, same.grants.trans hpaid⟩
  | transitions _ _ _ payment _ _ _ _ _ same =>
    split at payment
    · obtain ⟨g, hg, now, hnone, hpaid⟩ := hpays payment
      exact .inr ⟨g, hg, now, hnone, same.grants.trans hpaid⟩
    · exact .inl (same.grants.trans (payment ▸ rfl))

end Dealership.Service
