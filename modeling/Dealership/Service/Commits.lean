import Dealership.Service.Parts

/-!
# Each call keeps the contract

The scripts, one by one, against whatever others commit between their statements.  A call
that works on a repair order has locked it first, so at its end the order, its estimates and
its decisions are as the call read them.
-/

namespace Dealership.Service

open Library List
open Inventory (LotLock)
open Policy (ReauthenticationGrant)
open Sales (Locked)

variable {held : List LotLock} {c : ServiceCall} {pending : Shop → Shop} {roId : String}
  {tidy fresh : Prop} {d : Shop} {B : Type} {d' x : Shop}

theorem findRO_held {r : RepairOrder} (hlock : orderLock r.ro_id ∈ held) (hr : r ∈ d.repair_orders)
    (hs : Since tidy held d d') (hf : Filed d') :
    findRO r.ro_id d' = some r :=
  find?_eq_some_of_key hf.orders (hs.1.orders r hr hlock)

theorem SameBooks.tell {d : Shop} (h : SameBooks d d') (roId : String) (event : ROEventType)
    (userId : String) : SameBooks (d.tell roId event userId) (d'.tell roId event userId) where
  tenant := h.tenant
  orders := h.orders
  lines := h.lines
  estimates := h.estimates
  authorizations := h.authorizations
  events := by
    change d'.ro_events ++ _ = d.ro_events ++ _
    rw [h.events]
  grants := h.grants

theorem SameBooks.moved {d : Shop} (h : SameBooks d d') (r : RepairOrder) (sources : List ROStatus)
    (target : ROStatus) :
    SameBooks (d.moved r sources target) (d'.moved r sources target) := by
  unfold Shop.moved
  split
  · constructor
    · exact h.tenant
    · exact congrArg (updateWhere _ _) h.orders
    · exact h.lines
    · exact h.estimates
    · exact h.authorizations
    · exact h.events
    · exact h.grants
  · exact h

/-! ## Opening -/

theorem sound_opens {w : ServiceWorld} {r : RepairOrder} {event : ROEventType} {b : B}
    (hstatus : opensWith r.status event = true) : (services B tidy fresh).Sound c
      (insertRO r >>= fun _ => recordROEvent w r.ro_id event >>= fun _ => pure b) held
      (fun x => x) d := by
  refine insertRO_sound fun d₁ held₁ _ _ hkey _ hfree => ?_
  refine sound_recordROEvent fun d₂ held₂ hsub₂ hr₂ => ?_
  refine sound_moves fun d₃ hr₃ _ => ?_
  have hs := hr₂.trans (hr₃.mono hsub₂)
  exact .opens (hsub₂ _ hkey) (hs.1.orderKeys _ hkey hfree) hstatus
    ⟨rfl, rfl, rfl, rfl, rfl, rfl, rfl⟩

variable (w : ServiceWorld)

theorem createRO_sound (input : ROInput) :
    (services RepairOrder tidy fresh).Sound (.createRO w input) (createRO w input) []
      (fun x => x) d := by
  unfold createRO
  refine requireUuid_sound (requireUuid_sound (requireUuid_sound ?_))
  refine insist_sound fun _ => insist_sound fun _ => ?_
  unfold requireFreeAppointment
  cases input.appointment_id with
  | none => exact sound_opens rfl
  | some appointmentId =>
    dsimp only
    rw [Script.bind_assoc]
    refine lockAppointment_sound fun appt d₁ more _ _ _ _ => ?_
    rw [Script.bind_assoc]
    refine sound_select_bind fun d₂ _ _ _ => ?_
    exact insist_sound fun _ => sound_opens rfl

theorem checkIn_sound (appointmentId : String) (odometer : Option Rat) :
    (services CheckInResult tidy fresh).Sound (.checkIn w appointmentId odometer)
      (checkIn w appointmentId odometer) [] (fun x => x) d := by
  unfold checkIn
  refine requireUuid_sound (insist_sound fun _ => ?_)
  refine lockAppointment_sound fun appt d₁ more _ _ _ _ => ?_
  refine sound_select_bind fun d₂ _ _ _ => ?_
  cases orderOf appointmentId d₂ with
  | some ro => exact sound_moves fun d' _ _ => .stays ⟨rfl, rfl, rfl, rfl, rfl, rfl, rfl⟩
  | none =>
    refine insist_sound fun _ => ?_
    refine insertRO_sound fun d₃ held₃ _ _ hkey _ hfree => ?_
    refine store_sound fun d₄ held₄ hsub₄ _ hr₄ _ _ => ?_
    refine sound_recordROEvent fun d₅ held₅ hsub₅ hr₅ => ?_
    refine sound_aside (writes_syncQueueForRO _ _) fun _ synced d₆ held₆ hsub₆ hr₆ hsynced => ?_
    refine sound_aside (writes_convertOffers _ _ _) ?_
    intro _ converted d₇ held₇ hsub₇ hr₇ hconverted
    refine sound_moves fun d₈ hr₈ _ => ?_
    have hlast := hr₆.trans ((hr₇.trans (hr₈.mono hsub₇)).mono hsub₆)
    have hs := hr₄.trans ((hr₅.trans (hlast.mono hsub₅)).mono hsub₄)
    have hup : ∀ k ∈ held₄, k ∈ held₇ := fun k hk => hsub₇ _ (hsub₆ _ (hsub₅ _ hk))
    have hstatus : opensWith .checked_in (.created_from_appointment appointmentId) = true := rfl
    have hsame := (hsynced d₈).trans (hconverted d₈)
    exact .opens (hup _ (hsub₄ _ hkey)) (hs.1.orderKeys _ hkey hfree) hstatus
      ⟨hsame.tenant, hsame.orders, hsame.lines, hsame.estimates, hsame.authorizations,
        hsame.events, hsame.grants⟩

/-! ## Lines -/

theorem addLineItem_sound (roId : String) (input : LineInput) :
    (services LineItem tidy fresh).Sound (.addLineItem w roId input) (addLineItem w roId input)
      [] (fun x => x) d := by
  unfold addLineItem
  refine insist_sound fun _ => ?_
  cases input.line_type with
  | none => exact trivial
  | some lineType =>
    refine insist_sound fun _ => insist_sound fun _ => ?_
    refine assertRO_sound fun r d₁ held₁ _ _ _ _ _ _ => ?_
    refine insertLine_sound fun d₂ held₂ _ horder hkey hfree => ?_
    refine sound_moves fun d₃ hr₃ _ => ?_
    exact .adds horder hkey (hr₃.1.lineKeys _ hkey hfree) ⟨rfl, rfl, rfl, rfl, rfl, rfl, rfl⟩

theorem updateLineItem_sound (roId lineItemId : String) (updates : LineUpdates) :
    (services LineItem tidy fresh).Sound (.updateLineItem w roId lineItemId updates)
      (updateLineItem w roId lineItemId updates) [] (fun x => x) d := by
  unfold updateLineItem
  refine validateUpdates_sound ?_
  refine assertRO_sound fun r d₁ held₁ _ _ _ _ _ _ => ?_
  refine assertLineItem_sound fun l d₂ held₂ hid hro _ hlock _ _ hl => ?_
  subst hid hro
  unfold requireUnfrozen
  simp only [Script.bind_assoc]
  refine insist_sound fun _ => insist_sound fun _ => insist_sound fun _ => ?_
  refine insist_sound fun _ => insist_sound fun _ => ?_
  unfold writeLine
  refine sound_execute_bind fun d₃ held₃ hsub₃ hlocks₃ hr₃ _ _ _ => ?_
  refine insist_sound fun hhit => ?_
  rw [if_pos hhit] at hlocks₃
  have hrow : .row "ro_line_items" l.line_item_id .noKeyUpdate ∈ held₃ := hlocks₃ _ mem_cons_self
  simp only [if_pos hhit]
  refine sound_moves fun d₄ hr₄ _ => ?_
  have hs := hr₃.trans (hr₄.mono hsub₃)
  exact .edits hrow (hs.1.lines l hl hlock) ⟨rfl, rfl, rfl, rfl, rfl, rfl, rfl⟩

theorem dispatchTech_sound (input : DispatchInput) :
    (services WorkTicket tidy fresh).Sound (.dispatchTech w input) (dispatchTech w input) []
      (fun x => x) d := by
  unfold dispatchTech
  refine requireUuid_sound ?_
  refine assertRO_sound fun r d₁ held₁ _ _ _ _ _ _ => ?_
  refine assertLineItem_sound fun l d₂ held₂ _ _ _ _ _ _ _ => ?_
  refine sound_select_bind fun d₃ _ _ _ => ?_
  refine insist_sound fun _ => ?_
  refine store_sound fun d₄ held₄ _ _ _ _ _ => ?_
  refine sound_execute_bind fun d₅ held₅ _ _ _ _ _ _ => ?_
  refine store_sound fun d₆ held₆ _ hlocks₆ _ _ _ => ?_
  refine sound_moves fun d₇ _ _ => ?_
  exact .dispatches (hlocks₆ _ mem_cons_self) ⟨rfl, rfl, rfl, rfl, rfl, rfl, rfl⟩

/-! ## Inspection -/

theorem startMPISession_sound (roId templateId techUserId : String) :
    (services MpiSession tidy fresh).Sound (.startMPISession w roId templateId techUserId)
      (startMPISession w roId templateId techUserId) [] (fun x => x) d := by
  unfold startMPISession
  refine requireUuid_sound (requireUuid_sound ?_)
  refine assertRO_sound fun r d₁ held₁ hid _ hlock _ _ hr => ?_
  subst hid
  refine insist_sound fun hstatus => ?_
  refine sound_select_bind fun d₂ hr₂ _ _ => ?_
  refine insist_sound fun _ => ?_
  refine sound_execute_bind fun d₃ held₃ hsub₃ _ hr₃ _ _ _ => ?_
  have hr₃' : r ∈ d₃.repair_orders := (hr₂.trans hr₃).1.orders r hr hlock
  refine sound_moveRO (fun _ => findRO_held (hsub₃ _ hlock) hr₃') ?_
  intro d₄ held₄ hsub₄ hr₄
  refine sound_syncQueueForRO fun synced d₅ held₅ hsub₅ hr₅ hsynced => ?_
  refine sound_recordROEvent fun d₆ held₆ hsub₆ hr₆ => ?_
  refine sound_moves fun d₇ hr₇ _ => ?_
  have hlast := hr₅.trans ((hr₆.trans (hr₇.mono hsub₆)).mono hsub₅)
  have hs := hr₄.trans (hlast.mono hsub₄)
  have hsame : SameBooks d₇ { d₇ with mpi_sessions := d₇.mpi_sessions ++
    [⟨w.newId, r.ro_id, templateId, techUserId, .started⟩] } := ⟨rfl, rfl, rfl, rfl, rfl, rfl, rfl⟩
  exact .inspects (hsub₆ _ (hsub₅ _ (hsub₄ _ (hsub₃ _ hlock))))
    (hs.1.orders r hr₃' (hsub₃ _ hlock)) (of_decide_eq_true hstatus)
    (((hsame.moved r [.checked_in] .inspection_in_progress).trans (hsynced d₇)).tell r.ro_id
      (.mpi_started w.newId) w.userId)

/-! ## What is held lasts -/

section Held

variable {d' : Shop}

theorem line_of_held {ids : List String} (hlocked : ∀ id ∈ ids, Locked held "ro_line_items" id)
    (hids : ∀ id ∈ ids, ∃ l ∈ d.ro_line_items, l.line_item_id = id ∧ l.ro_id = roId)
    (hs : Since tidy held d d') (hf : Filed d') :
    ∀ l ∈ d'.ro_line_items, l.line_item_id ∈ ids → l.ro_id = roId := by
  intro l hl hin
  obtain ⟨m, hm, hid, hro⟩ := hids _ hin
  have hm' : m ∈ d'.ro_line_items := hs.1.lines m hm (hid ▸ hlocked _ hin)
  rw [eq_of_key hf.lines hl hm' hid.symm]
  exact hro

variable {r : RepairOrder} (hlock : orderLock r.ro_id ∈ held) (hr : r ∈ d.repair_orders)
  (hs : Since tidy held d d')

include hlock hr hs

theorem estimate_held {e : Estimate} (he : e ∈ d.ro_estimates) (hro : e.ro_id = r.ro_id) :
    e ∈ d'.ro_estimates := by
  have hof : e ∈ d'.estimatesOf r.ro_id := by
    rw [(hs.1.files r hr hlock).1]
    exact mem_filter.mpr ⟨he, decide_eq_true hro⟩
  exact (mem_filter.mp hof).1

theorem estimate_of_held (hf : Filed d') {ids : List String}
    (hids : ∀ id ∈ ids, ∃ e ∈ d.ro_estimates, e.estimate_id = id ∧ e.ro_id = r.ro_id) :
    ∀ e ∈ d'.ro_estimates, e.estimate_id ∈ ids → e.ro_id = r.ro_id := by
  intro e he hin
  obtain ⟨m, hm, hid, hro⟩ := hids _ hin
  rw [eq_of_key hf.estimates he (estimate_held hlock hr hs hm hro) hid.symm]
  exact hro

theorem evidence_held : evidenceOf r.ro_id d' = evidenceOf r.ro_id d := by
  obtain ⟨hestimates, hauthorizations⟩ := hs.1.files r hr hlock
  unfold evidenceOf latestEstimate maxVersion
  rw [hestimates, hauthorizations]

end Held

theorem mem_rowLocks {table : String} {ids : List String} (h : ∀ k ∈ rowLocks table ids, k ∈ held) :
    ∀ id ∈ ids, .row table id .noKeyUpdate ∈ held :=
  fun _ hid => h _ (mem_map_of_mem hid)

/-! ## Estimates -/

theorem mem_unquotedLines :
    ∀ id ∈ (unquotedLines roId x).map (·.line_item_id), ∃ l ∈ x.ro_line_items,
      l.line_item_id = id ∧ l.ro_id = roId := by
  intro id hid
  obtain ⟨l, hl, rfl⟩ := mem_map.mp hid
  obtain ⟨hmem, hro⟩ := mem_filter.mp (mem_filter.mp hl).1
  exact ⟨l, hmem, rfl, of_decide_eq_true hro⟩

theorem generateEstimate_sound (roId : String) (languageMode : Option String) :
    (services Estimate tidy fresh).Sound (.generateEstimate w roId languageMode)
      (generateEstimate w roId languageMode) [] (fun x => x) d := by
  unfold generateEstimate
  refine insist_sound fun _ => ?_
  refine assertRO_sound fun r d₁ held₁ hid _ hlock _ _ hr => ?_
  subst hid
  refine insist_sound fun hstatus => ?_
  refine sound_selectLocking_bind fun d₂ held₂ hsub₂ _ hr₂ _ _ => ?_
  refine insist_sound fun _ => ?_
  refine sound_select_bind fun d₃ hr₃ _ _ => ?_
  refine insist_sound fun _ => ?_
  refine insertEstimate_sound fun d₄ held₄ hsub₄ hr₄ hkey hfree => ?_
  refine store_sound fun d₅ held₅ hsub₅ hlocks₅ hr₅ _ _ => ?_
  have hlocked := mem_rowLocks hlocks₅
  have hlock₅ : orderLock r.ro_id ∈ held₅ := hsub₅ _ (hsub₄ _ (hsub₂ _ hlock))
  have hr₅' : r ∈ d₅.repair_orders :=
    (hr₂.trans (((hr₃.trans hr₄).trans (hr₅.mono hsub₄)).mono hsub₂)).1.orders r hr hlock
  refine sound_moveRO (fun _ => findRO_held hlock₅ hr₅') fun d₆ held₆ hsub₆ hr₆ => ?_
  refine sound_syncQueueForRO fun synced d₇ held₇ hsub₇ hr₇ hsynced => ?_
  refine sound_recordROEvent fun d₈ held₈ hsub₈ hr₈ => ?_
  refine sound_moves fun d₉ hr₉ hf => ?_
  have hlast := hr₇.trans ((hr₈.trans (hr₉.mono hsub₈)).mono hsub₇)
  have hs : Since tidy held₅ d₅ d₉ := hr₆.trans (hlast.mono hsub₆)
  have hsub : ∀ k ∈ held₅, k ∈ held₈ := fun k hk => hsub₈ _ (hsub₇ _ (hsub₆ _ hk))
  refine .quotes (hsub _ hlock₅) (hs.1.orders r hr₅' hlock₅) (of_decide_eq_true hstatus)
    (hsub _ (hsub₅ _ hkey)) ((hr₅.trans (hs.mono hsub₅)).1.estimateKeys _ hkey hfree) rfl rfl
    (fun id hid => hsub _ (hlocked id hid)) ?_ ((hsynced d₉).tell _ _ _)
  exact line_of_held (d := d₅) (fun id hid => .inr (hlocked id hid)) mem_unquotedLines hs hf

theorem sendEstimate_sound (roId estimateId : String) :
    (services Estimate tidy fresh).Sound (.sendEstimate w roId estimateId)
      (sendEstimate w roId estimateId) [] (fun x => x) d := by
  unfold sendEstimate
  refine requireUuid_sound ?_
  refine assertRO_sound fun r d₁ held₁ hid _ hlock _ _ hr => ?_
  subst hid
  refine insist_sound fun _ => ?_
  refine lockEstimate_sound fun e d₂ held₂ hid hro hsub₂ hr₂ he => ?_
  subst hid
  refine insist_sound fun hdraft => ?_
  have hlock₂ := hsub₂ _ hlock
  have hr₂' := hr₂.1.orders r hr hlock
  unfold setEstimate
  refine store_sound fun d₃ held₃ hsub₃ _ hr₃ _ _ => ?_
  have hlock₃ := hsub₃ _ hlock₂
  have hr₃' := hr₃.1.orders r hr₂' hlock₂
  refine sound_moveRO (fun _ => findRO_held hlock₃ hr₃') fun d₄ held₄ hsub₄ hr₄ => ?_
  refine sound_syncQueueForRO fun synced d₅ held₅ hsub₅ hr₅ hsynced => ?_
  refine sound_recordROEvent fun d₆ held₆ hsub₆ hr₆ => ?_
  refine sound_moves fun d₇ hr₇ _ => ?_
  have hlast := hr₅.trans ((hr₆.trans (hr₇.mono hsub₆)).mono hsub₅)
  have hs : Since tidy held₂ d₂ d₇ := hr₃.trans ((hr₄.trans (hlast.mono hsub₄)).mono hsub₃)
  exact .sends (hsub₆ _ (hsub₅ _ (hsub₄ _ hlock₃))) (hs.1.orders r hr₂' hlock₂)
    (estimate_held hlock₂ hr₂' hs he hro) hro (of_decide_eq_true hdraft)
    ((hsynced d₇).tell _ _ _)

/-! ## Paid steps -/

/-- What a transaction has written when it has paid, or has had nothing to pay: the grants,
and nothing besides. -/
def SpendsOnly (pay : Shop → Shop) : Prop := ∀ x, pay x = { x with grants := (pay x).grants }

/-- What was asked for a step is paid, and stays paid. -/
def Paid (tidy needed : Prop) [Decidable needed] (held : List LotLock) (w : ServiceWorld)
    (action roId token : String) (pay : Shop → Shop) (d : Shop) : Prop :=
  SpendsOnly pay ∧ ∀ more d', (∀ k ∈ held, k ∈ more) → Since tidy held d d' →
    if needed then Pays more w action roId token d' (pay d') else pay d' = d'

theorem sound_stepUp {needed : Bool} {w : ServiceWorld} {token : Option String} {action : String}
    {k : Unit → ServiceWork B} (h : ∀ pay d' more, (∀ k ∈ held, k ∈ more) → Since tidy held d d' →
      Paid tidy (needed = true) more w action roId (token.getD "") pay d' →
        (services B tidy fresh).Sound c (k ()) more pay d') : (services B tidy fresh).Sound c
      ((if needed then consumeSensitiveActionGrant w token action roId else pure ()) >>= k) held
      (fun x => x) d := by
  cases needed with
  | false =>
    refine h (fun x => x) d held (fun _ hk => hk) ⟨.refl _ _, fun _ => .refl _ _⟩
      ⟨fun _ => rfl, fun _ _ _ _ => ?_⟩
    rw [if_neg Bool.false_ne_true]
  | true =>
    refine sound_consumeSensitiveActionGrant fun g d' more hsub hlock hr hg hpays => ?_
    refine h (fun x => x.spend g.grantId w.now) d' more hsub hr ⟨fun _ => rfl, ?_⟩
    intro more' d'' hsub' hs
    rw [if_pos rfl]
    refine .spends (hsub' _ hlock) (hs.1.grants g hg (.inr hlock)) ?_
    rw [hs.1.tenant]
    exact hpays

/-! ## Decisions -/

theorem deriveEstimateStatus_ne_expired (approved declined undecided : Nat) :
    deriveEstimateStatus approved declined undecided ≠ .expired := by
  unfold deriveEstimateStatus
  repeat' split
  all_goals decide

theorem sound_validateDecision {input : AuthorizationInput}
    {k : AuthorizationMethod → ServiceWork B}
    (h : ∀ method, (services B tidy fresh).Sound c (k method) held pending d) :
    (services B tidy fresh).Sound c (validateDecision input >>= k) held pending d := by
  unfold validateDecision
  rw [Script.bind_assoc]
  refine requireUuid_sound ?_
  cases AuthorizationMethod.parse input.method with
  | none => exact trivial
  | some method =>
    simp only [Script.bind_assoc]
    refine insist_sound fun _ => insist_sound fun _ => insist_sound fun _ => ?_
    exact insist_sound fun _ => insist_sound fun _ => insist_sound fun _ => h method

theorem sound_requireAnswerable {estimateId : String} {k : Estimate → ServiceWork B}
    (hpending : ∀ x, (pending x).ro_estimates = x.ro_estimates)
    (h : ∀ e d' d'' more, e.estimate_id = estimateId → e.ro_id = roId →
      e.status = .sent ∨ e.status = .partially_approved → (∀ k ∈ held, k ∈ more) →
        Since tidy held d d' → e ∈ d'.ro_estimates → Since tidy more d' d'' →
          (services B tidy fresh).Sound c (k e) more pending d'') :
    (services B tidy fresh).Sound c (requireAnswerable roId estimateId >>= k) held pending d := by
  unfold requireAnswerable
  rw [Script.bind_assoc]
  refine lockEstimate_sound fun e d₁ held₁ hid hro hsub₁ hr₁ he => ?_
  simp only [Script.bind_assoc]
  refine insist_sound fun hstatus => ?_
  refine sound_select_bind fun d₂ hr₂ _ _ => ?_
  refine insist_sound fun _ => ?_
  rw [Bool.or_eq_true, decide_eq_true_eq, decide_eq_true_eq] at hstatus
  exact h e d₁ d₂ held₁ hid hro hstatus hsub₁ hr₁ (hpending d₁ ▸ he) hr₂

theorem recordAuthorization_sound (roId : String) (input : AuthorizationInput) :
    (services ROAuthorization tidy fresh).Sound (.recordAuthorization w roId input)
      (recordAuthorization w roId input) [] (fun x => x) d := by
  unfold recordAuthorization
  refine sound_validateDecision fun method => ?_
  refine assertRO_sound fun r d₁ held₁ hid _ hlock₁ _ _ hr₁ => ?_
  subst hid
  refine sound_stepUp fun pay d₂ held₂ hsub₂ hs₂ hpaid => ?_
  have hlock₂ := hsub₂ _ hlock₁
  have hr₂ := hs₂.1.orders r hr₁ hlock₁
  have hestimates : ∀ x, (pay x).ro_estimates = x.ro_estimates := by
    intro x
    rw [hpaid.1 x]
  refine sound_requireAnswerable hestimates ?_
  intro e d₃ d₄ held₄ hid hro hstatus hsub₄ hs₃ he hs₄
  have hlock₄ := hsub₄ _ hlock₂
  have hr₃ := hs₃.1.orders r hr₂ hlock₂
  have he₄ := estimate_held hlock₄ hr₃ hs₄ he hro
  have hr₄ := hs₄.1.orders r hr₃ hlock₄
  unfold assertLineItemsOnRO
  simp only [Script.bind_assoc]
  refine insist_sound fun _ => ?_
  refine sound_selectLocking_bind fun d₅ held₅ hsub₅ _ hs₅ _ _ => ?_
  refine insist_sound fun _ => insist_sound fun _ => ?_
  unfold insertAuthorization
  refine sound_execute_bind fun d₆ held₆ hsub₆ hlocks₆ hs₆ _ _ hacc => ?_
  have hkey : .index "ro_authorizations_pkey" w.newId ∈ held₆ := hlocks₆ _ mem_cons_self
  have hfree : ∀ b ∈ d₆.ro_authorizations, b.authorization_id ≠ w.newId := by
    intro b hb
    have hsame : (pay d₆).ro_authorizations = d₆.ro_authorizations := by
      rw [hpaid.1 d₆]
    exact of_decide_eq_true (all_eq_true.mp hacc b (hsame ▸ hb))
  refine store_sound fun d₇ held₇ hsub₇ hlocks₇ hs₇ _ _ => ?_
  refine store_sound fun d₈ held₈ hsub₈ hlocks₈ hs₈ _ _ => ?_
  refine sound_selectLocking_bind fun d₉ held₉ hsub₉ _ hs₉ _ _ => ?_
  generalize tally r.ro_id e.estimate_id _ = counted
  obtain ⟨approvedCount, declinedCount, pendingCount⟩ := counted
  unfold setEstimate
  refine store_sound fun d₁₀ held₁₀ hsub₁₀ _ hs₁₀ _ _ => ?_
  refine sound_recordROEvent fun d₁₁ held₁₁ hsub₁₁ hs₁₁ => ?_
  refine sound_moves fun d₁₂ hs₁₂ _ => ?_
  have hlast : Since tidy held₈ d₈ d₁₂ :=
    hs₉.trans ((hs₁₀.trans ((hs₁₁.trans (hs₁₂.mono hsub₁₁)).mono hsub₁₀)).mono hsub₉)
  have hsince : Since tidy held₆ d₆ d₁₂ := hs₇.trans ((hs₈.trans (hlast.mono hsub₈)).mono hsub₇)
  have hwhole : Since tidy held₄ d₄ d₁₂ := hs₅.trans ((hs₆.trans (hsince.mono hsub₆)).mono hsub₅)
  have hup₈ : ∀ k ∈ held₈, k ∈ held₁₁ := fun k hk => hsub₁₁ _ (hsub₁₀ _ (hsub₉ _ hk))
  have hup₆ : ∀ k ∈ held₆, k ∈ held₁₁ := fun k hk => hup₈ _ (hsub₈ _ (hsub₇ _ hk))
  have hup₄ : ∀ k ∈ held₄, k ∈ held₁₁ := fun k hk => hup₆ _ (hsub₆ _ (hsub₅ _ hk))
  have hpayment : pay d₁₂ = d₁₂ ∨ ∃ w action token,
      Pays held₁₁ w action r.ro_id token d₁₂ (pay d₁₂) := by
    have hdue := hpaid.2 held₁₁ d₁₂ (fun k hk => hup₄ _ (hsub₄ _ hk))
      (hs₃.trans ((hs₄.trans hwhole).mono hsub₄))
    split at hdue
    · exact .inr ⟨_, _, _, hdue⟩
    · exact .inl hdue
  have hlocked : ∀ id ∈ input.approved_items.named ++ input.declined_items.named,
      .row "ro_line_items" id .noKeyUpdate ∈ held₁₁ := by
    intro id hin
    rcases mem_append.mp hin with hin | hin
    · exact hup₈ _ (hsub₈ _ (mem_rowLocks hlocks₇ id hin))
    · exact hup₈ _ (mem_rowLocks hlocks₈ id hin)
  exact .decides (hup₄ _ hlock₄) (hwhole.1.orders r hr₄ hlock₄) hpayment
    (estimate_held hlock₄ hr₄ hwhole he₄ hro) hro hstatus
    (deriveEstimateStatus_ne_expired _ _ _) (hup₆ _ hkey)
    (hsince.1.authorizationKeys _ hkey hfree) ⟨rfl, hid.symm⟩ hlocked (.refl _)

/-! ## Transitions -/

/-- Nothing open or undecided was seen on the order, by statements that left their marks. -/
def SeenFinished (held : List LotLock) (roId : String) (d : Shop) : Prop :=
  openMark roId ∈ held ∧ undecidedMark roId ∈ held ∧
    ∀ l ∈ d.ro_line_items, l.ro_id = roId → l.isOpen = false ∧ l.undecided = false

theorem SeenFinished.since {more : List LotLock} (h : SeenFinished held roId d)
    (hlock : orderLock roId ∈ held) (hsub : ∀ k ∈ held, k ∈ more) (hs : GatesKept held d d') :
    SeenFinished more roId d' := by
  obtain ⟨hopen, hundecided, hall⟩ := h
  refine ⟨hsub _ hopen, hsub _ hundecided, fun l hl hro => ⟨?_, ?_⟩⟩
  · exact hs.work roId hlock hopen (fun m hm hid => (hall m hm hid).1) l hl hro
  · exact hs.decisions roId hlock hundecided (fun m hm hid => (hall m hm hid).2) l hl hro

theorem of_isEmpty_filter {p : LineItem → Bool} (h : ((d.linesOf roId).filter p).isEmpty = true) :
    ∀ l ∈ d.ro_line_items, l.ro_id = roId → p l = false := by
  intro l hl hro
  have hof : l ∈ d.linesOf roId := mem_filter.mpr ⟨hl, decide_eq_true hro⟩
  exact Bool.eq_false_iff.mpr (filter_eq_nil_iff.mp (List.isEmpty_iff.mp h) l hof)

section Gates

variable {B : Type} {k : Unit → ServiceWork B}

theorem sound_where {asked : Prop} [Decidable asked] {s : ServiceWork Unit}
    (hyes : asked → (services B tidy fresh).Sound c (s >>= k) held pending d)
    (hno : ¬ asked → (services B tidy fresh).Sound c (k ()) held pending d) :
    (services B tidy fresh).Sound c ((if asked then s else pure ()) >>= k) held pending d := by
  split
  · rename_i h
    exact hyes h
  · rename_i h
    exact hno h

theorem sound_requireFinishedWork (hpending : ∀ x, (pending x).ro_line_items = x.ro_line_items)
    (hlock : orderLock roId ∈ held) (h : ∀ d' more, (∀ k ∈ held, k ∈ more) → Since tidy held d d' →
      (tidy → SeenFinished more roId d') → (services B tidy fresh).Sound c (k ()) more pending d') :
    (services B tidy fresh).Sound c (requireFinishedWork roId >>= k) held pending d := by
  unfold requireFinishedWork
  simp only [Script.bind_assoc]
  refine sound_selectLocking_bind fun d₁ held₁ hsub₁ hlocks₁ hs₁ _ _ => ?_
  refine insist_sound fun hopen => ?_
  refine sound_selectLocking_bind fun d₂ held₂ hsub₂ hlocks₂ hs₂ _ _ => ?_
  refine insist_sound fun hundecided => ?_
  have hlines : ∀ x roId, (pending x).linesOf roId = x.linesOf roId := by
    intro x roId
    rw [Shop.linesOf, hpending, Shop.linesOf]
  rw [openWork, hlines] at hopen
  rw [undecidedWork, hlines] at hundecided
  have hmark₁ : openMark roId ∈ held₁ := hlocks₁ _ mem_cons_self
  refine h d₂ held₂ (fun k hk => hsub₂ _ (hsub₁ _ hk)) (hs₁.trans (hs₂.mono hsub₁)) ?_
  intro ht
  refine ⟨hsub₂ _ hmark₁, hlocks₂ _ mem_cons_self, fun l hl hro => ⟨?_, ?_⟩⟩
  · exact (hs₂.2 ht).work roId (hsub₁ _ hlock) hmark₁ (of_isEmpty_filter hopen) l hl hro
  · exact of_isEmpty_filter hundecided l hl hro

/-- What a transition has seen when it has passed its gates. -/
structure Passed (tidy : Prop) (target : ROStatus) (held : List LotLock) (roId : String)
    (d : Shop) : Prop where
  work : tidy → target = .ready_for_pickup → SeenFinished held roId d
  evidence : target = .authorized → evidenceOf roId d ≠ []

theorem Passed.since {target : ROStatus} {r : RepairOrder} {more : List LotLock} {d' : Shop}
    (h : Passed tidy target held r.ro_id d) (hlock : orderLock r.ro_id ∈ held)
    (hr : r ∈ d.repair_orders) (hsub : ∀ k ∈ held, k ∈ more) (hs : Since tidy held d d') :
    Passed tidy target more r.ro_id d' where
  work := fun ht htarget => (h.work ht htarget).since hlock hsub (hs.2 ht)
  evidence := fun htarget => by
    rw [evidence_held hlock hr hs]
    exact h.evidence htarget

theorem sound_transitionGates {w : ServiceWorld} {r : RepairOrder} {target : ROStatus}
    {input : TransitionInput} (hlock : orderLock r.ro_id ∈ held) (hr : r ∈ d.repair_orders)
    (h : ∀ pay d' more, (∀ k ∈ held, k ∈ more) → r ∈ d'.repair_orders →
      Paid tidy (transitionRequiresStepUp target = true) more w (transitionAction target) r.ro_id
        (input.step_up_token.getD "") pay d' → Passed tidy target more r.ro_id d' →
          (services B tidy fresh).Sound c (k ()) more pay d') :
    (services B tidy fresh).Sound c (transitionGates w r.ro_id target input >>= k) held
      (fun x => x) d := by
  unfold transitionGates
  simp only [Script.bind_assoc]
  refine sound_stepUp fun pay d₁ held₁ hsub₁ hs₁ hpaid => ?_
  have hlock₁ := hsub₁ _ hlock
  have hr₁ := hs₁.1.orders r hr hlock
  have hpay : ∀ x, (pay x).ro_line_items = x.ro_line_items ∧
      (pay x).ro_estimates = x.ro_estimates ∧ (pay x).ro_authorizations = x.ro_authorizations := by
    intro x
    rw [hpaid.1 x]
    exact ⟨rfl, rfl, rfl⟩
  have hpaid' : ∀ {more : List LotLock} {d' : Shop}, (∀ k ∈ held₁, k ∈ more) →
      Since tidy held₁ d₁ d' → Paid tidy (transitionRequiresStepUp target = true) more w
        (transitionAction target) r.ro_id (input.step_up_token.getD "") pay d' := by
    intro more d' hsub hs
    exact ⟨hpaid.1, fun more' d'' hsub' hs' =>
      hpaid.2 more' d'' (fun k hk => hsub' _ (hsub _ hk)) (hs.trans (hs'.mono hsub))⟩
  -- What is left after the first gate.
  have hevidence : ∀ {more : List LotLock} {d' : Shop}, (∀ k ∈ held₁, k ∈ more) →
      Since tidy held₁ d₁ d' →
      (tidy → target = .ready_for_pickup → SeenFinished more r.ro_id d') →
      (services B tidy fresh).Sound c ((if transitionRequiresAuthorization target then
        requireEvidence r.ro_id else pure ()) >>= k) more pay d' := by
    intro more d' hsub hs hwork
    have hlock' := hsub _ hlock₁
    have hr' := hs.1.orders r hr₁ hlock₁
    refine sound_where (fun _ => ?_) fun hnot => ?_
    · unfold requireEvidence readOf
      simp only [Script.bind_assoc]
      refine sound_selectLocking_bind fun d₂ held₂ hsub₂ _ hs₂ _ _ => ?_
      refine insist_sound fun hfound => ?_
      refine h pay d₂ held₂ (fun k hk => hsub₂ _ (hsub _ (hsub₁ _ hk)))
        (hs₂.1.orders r hr' hlock')
        (hpaid' (fun k hk => hsub₂ _ (hsub _ hk)) (hs.trans (hs₂.mono hsub))) ⟨?_, ?_⟩
      · exact fun ht htarget => (hwork ht htarget).since hlock' hsub₂ (hs₂.2 ht)
      · intro _ hnone
        have hsame : evidenceOf r.ro_id (pay d₂) = evidenceOf r.ro_id d₂ := by
          unfold evidenceOf latestEstimate maxVersion Shop.authorizationsOf Shop.estimatesOf
          rw [(hpay d₂).2.1, (hpay d₂).2.2]
        rw [hsame, hnone] at hfound
        cases hfound
    · refine h pay d' more (fun k hk => hsub _ (hsub₁ _ hk)) hr' (hpaid' hsub hs) ⟨hwork, ?_⟩
      exact fun htarget => absurd (by rw [htarget]; rfl) hnot
  have happroved : ∀ {more : List LotLock} {d' : Shop}, (∀ k ∈ held₁, k ∈ more) →
      Since tidy held₁ d₁ d' →
      (tidy → target = .ready_for_pickup → SeenFinished more r.ro_id d') →
      (services B tidy fresh).Sound c ((if target = .in_repair then requireApprovedWork r.ro_id
        else pure ()) >>= fun _ => (if transitionRequiresAuthorization target then
          requireEvidence r.ro_id else pure ()) >>= k) more pay d' := by
    intro more d' hsub hs hwork
    refine sound_where (fun _ => ?_) fun _ => hevidence hsub hs hwork
    unfold requireApprovedWork
    simp only [Script.bind_assoc]
    refine sound_select_bind fun d₂ hs₂ _ _ => ?_
    refine insist_sound fun _ => hevidence hsub (hs.trans (hs₂.mono hsub)) ?_
    exact fun ht htarget => (hwork ht htarget).since (hsub _ hlock₁) (fun _ hk => hk) (hs₂.2 ht)
  refine sound_where (fun _ => ?_) fun hnot => ?_
  · refine sound_requireFinishedWork (fun x => (hpay x).1) hlock₁ ?_
    exact fun d₂ held₂ hsub₂ hs₂ hwork => happroved hsub₂ hs₂ fun ht _ => hwork ht
  · refine happroved (fun _ hk => hk) ⟨.refl _ _, fun _ => .refl _ _⟩ ?_
    exact fun _ htarget => absurd htarget hnot

end Gates

theorem mem_openEstimates :
    ∀ id ∈ openEstimates roId x, ∃ e ∈ x.ro_estimates, e.estimate_id = id ∧ e.ro_id = roId := by
  intro id hid
  obtain ⟨e, he, rfl⟩ := mem_map.mp hid
  obtain ⟨hmem, hro⟩ := mem_filter.mp (mem_filter.mp he).1
  exact ⟨e, hmem, rfl, of_decide_eq_true hro⟩

theorem mem_pendingLines :
    ∀ id ∈ pendingLines roId x, ∃ l ∈ x.ro_line_items, l.line_item_id = id ∧ l.ro_id = roId := by
  intro id hid
  obtain ⟨l, hl, rfl⟩ := mem_map.mp hid
  obtain ⟨hmem, hro⟩ := mem_filter.mp (mem_filter.mp hl).1
  exact ⟨l, hmem, rfl, of_decide_eq_true hro⟩

theorem setEstimates_nil (x : Shop) (status : EstimateStatus) : x.setEstimates [] status = x := by
  unfold Shop.setEstimates updateWhere
  simp

theorem setLines_nil (x : Shop) (f : LineItem → LineItem) : x.setLines [] f = x := by
  unfold Shop.setLines updateWhere
  simp

theorem transitionRO_sound (roId : String) (target : ROStatus) (input : TransitionInput) :
    (services RepairOrder tidy fresh).Sound (.transitionRO w roId target input)
      (transitionRO w roId target input) [] (fun x => x) d := by
  unfold transitionRO
  refine assertRO_sound fun r d₁ held₁ hid _ hlock₁ _ _ hr₁ => ?_
  subst hid
  refine insist_sound fun hallowed => ?_
  refine sound_transitionGates hlock₁ hr₁ fun pay d₂ held₂ hsub₂ hr₂ hpaid hpassed => ?_
  have hlock₂ := hsub₂ _ hlock₁
  have hpay : ∀ x, (pay x).repair_orders = x.repair_orders ∧
      (pay x).ro_estimates = x.ro_estimates ∧ (pay x).ro_line_items = x.ro_line_items := by
    intro x
    rw [hpaid.1 x]
    exact ⟨rfl, rfl, rfl⟩
  have hfound : ∀ d', Since tidy held₂ d₂ d' → Filed d' → findRO r.ro_id (pay d') = some r := by
    intro d' hs hf
    rw [findRO, (hpay d').1]
    exact findRO_held hlock₂ hr₂ hs hf
  refine sound_moveRO hfound fun d₃ held₃ hsub₃ hs₃ => ?_
  refine insist_sound fun _ => ?_
  have hlock₃ := hsub₃ _ hlock₂
  have hr₃ := hs₃.1.orders r hr₂ hlock₂
  have hmoved : ∀ x, (pay x).moved r [r.status] target = (pay x).setStatus r.ro_id target :=
    fun x => if_pos mem_cons_self
  simp only [hmoved]
  -- The end of the transaction, whatever has been withdrawn.
  have htold : ∀ (quotes lines : List String) {more : List LotLock} {d' : Shop},
      (∀ k ∈ held₃, k ∈ more) → Since tidy held₃ d₃ d' →
      (∀ id ∈ quotes, ∃ e ∈ d₃.ro_estimates, e.estimate_id = id ∧ e.ro_id = r.ro_id) →
      (quotes ≠ [] → target = .estimate_pending) →
      (∀ id ∈ lines, .row "ro_line_items" id .noKeyUpdate ∈ more) →
      (∀ id ∈ lines, ∃ l ∈ d'.ro_line_items, l.line_item_id = id ∧ l.ro_id = r.ro_id) →
      (lines ≠ [] → target = .estimate_pending) →
      (services RepairOrder tidy fresh).Sound (.transitionRO w r.ro_id target input)
        (syncQueueForRO w { r with status := target } >>= fun _ =>
          recordROEvent w r.ro_id (.status_changed r.status target input.reason) >>= fun _ =>
            pure { r with status := target }) more
        (fun x => (((pay x).setStatus r.ro_id target).setEstimates quotes .expired).setLines lines
          unasked) d' := by
    intro quotes lines more d' hsub hs hquotes hwithdrawn hlocked hlines htaken
    refine sound_aside (writes_syncQueueForRO _ _) fun _ synced d₄ held₄ hsub₄ hs₄ hsynced => ?_
    refine sound_recordROEvent fun d₅ held₅ hsub₅ hs₅ => ?_
    refine sound_moves fun d₆ hs₆ hf => ?_
    have hlast : Since tidy more d' d₆ := hs₄.trans ((hs₅.trans (hs₆.mono hsub₅)).mono hsub₄)
    have hwhole : Since tidy held₃ d₃ d₆ := hs.trans (hlast.mono hsub)
    have hup : ∀ k ∈ held₃, k ∈ held₅ := fun k hk => hsub₅ _ (hsub₄ _ (hsub _ hk))
    have hfull : Since tidy held₂ d₂ d₆ := hs₃.trans (hwhole.mono hsub₃)
    have hgates := hpassed.since hlock₂ hr₂ (fun k hk => hup _ (hsub₃ _ hk)) hfull
    have hquoted := estimate_of_held hlock₃ hr₃ hwhole hf hquotes
    have howned := line_of_held (fun id hin => .inr (hlocked id hin)) hlines hlast hf
    exact .transitions (hup _ hlock₃) (hwhole.1.orders r hr₃ hlock₃) hallowed
      (hpaid.2 held₅ d₆ (fun k hk => hup _ (hsub₃ _ hk)) hfull)
      (fun ht htarget => (hgates.work ht htarget).2.2) hgates.evidence
      (fun e he hin => ⟨hquoted e he hin, hwithdrawn (ne_nil_of_mem hin)⟩)
      (fun id hin => hsub₅ _ (hsub₄ _ (hlocked id hin)))
      (fun l hl hin => ⟨howned l hl hin, htaken (ne_nil_of_mem hin)⟩)
      ((hsynced d₆).tell _ _ _)
  refine sound_where (fun htarget => ?_) fun _ => ?_
  · unfold withdrawEstimates
    simp only [Script.bind_assoc]
    refine store_sound fun d₄ held₄ hsub₄ _ hs₄ _ _ => ?_
    refine store_sound fun d₅ held₅ hsub₅ hlocks₅ hs₅ _ _ => ?_
    have hquotes : ∀ id ∈ openEstimates r.ro_id ((pay d₄).setStatus r.ro_id target),
        ∃ e ∈ d₃.ro_estimates, e.estimate_id = id ∧ e.ro_id = r.ro_id := by
      intro id hin
      obtain ⟨e, he, hid, hro⟩ := mem_openEstimates id hin
      have hof : e ∈ d₄.estimatesOf r.ro_id :=
        mem_filter.mpr ⟨(hpay d₄).2.1 ▸ he, decide_eq_true hro⟩
      rw [(hs₄.1.files r hr₃ hlock₃).1] at hof
      exact ⟨e, (mem_filter.mp hof).1, hid, hro⟩
    have hlines : ∀ id ∈ pendingLines r.ro_id (((pay d₅).setStatus r.ro_id target).setEstimates
        (openEstimates r.ro_id ((pay d₄).setStatus r.ro_id target)) .expired),
        ∃ l ∈ d₅.ro_line_items, l.line_item_id = id ∧ l.ro_id = r.ro_id := by
      intro id hin
      obtain ⟨l, hl, hid, hro⟩ := mem_pendingLines id hin
      exact ⟨l, (hpay d₅).2.2 ▸ hl, hid, hro⟩
    exact htold _ _ (fun k hk => hsub₅ _ (hsub₄ _ hk)) (hs₄.trans (hs₅.mono hsub₄)) hquotes
      (fun _ => htarget) (mem_rowLocks hlocks₅) hlines fun _ => htarget
  · have hend := htold [] [] (fun _ hk => hk)
      ⟨.refl _ _, fun _ => .refl _ _⟩ (forall_mem_nil _) (absurd rfl) (forall_mem_nil _)
      (forall_mem_nil _) (absurd rfl)
    simpa only [setEstimates_nil, setLines_nil] using hend

/-! ## Comebacks -/

theorem createComebackCase_sound (input : ComebackInput) :
    (services ComebackCase tidy fresh).Sound (.createComebackCase w input)
      (createComebackCase w input) [] (fun x => x) d := by
  unfold createComebackCase
  refine insist_sound fun _ => insist_sound fun _ => insist_sound fun _ => ?_
  generalize jsLe input.original_ro_id input.new_ro_id = sorted
  dsimp only
  refine assertRO_sound fun r₁ d₁ held₁ hid₁ _ hlock₁ _ _ hr₁ => ?_
  refine assertRO_sound fun r₂ d₂ held₂ hid₂ hsub₂ hlock₂ hs₂ _ hr₂ => ?_
  -- Whichever was locked first, both are.
  have hboth : (orderLock input.original_ro_id ∈ held₂ ∧ orderLock input.new_ro_id ∈ held₂) ∧
      (∃ s ∈ d₂.repair_orders, s.ro_id = input.new_ro_id) := by
    have hr₁' : r₁ ∈ d₂.repair_orders := hs₂.1.orders r₁ hr₁ (hid₁ ▸ hlock₁)
    have hlock₁' := hsub₂ _ hlock₁
    split at hid₁
    · rename_i hsorted
      rw [if_pos hsorted] at hlock₁' hlock₂ hid₂
      exact ⟨⟨hlock₁', hlock₂⟩, r₂, hr₂, hid₂⟩
    · rename_i hsorted
      rw [if_neg hsorted] at hlock₁' hlock₂ hid₂
      exact ⟨⟨hlock₂, hlock₁'⟩, r₁, hr₁', hid₁⟩
  obtain ⟨⟨hlock, hother⟩, s, hs, hnew⟩ := hboth
  refine assertRO_sound fun r d₃ held₃ hid hsub₃ _ hs₃ _ hr => ?_
  refine insist_sound fun hstatus => ?_
  rw [← hnew] at hother ⊢
  rw [← hid] at hlock ⊢
  have hlock₃ := hsub₃ _ hlock
  have hs' := hs₃.1.orders s hs hother
  refine sound_execute_bind fun d₄ held₄ hsub₄ _ hs₄ _ _ _ => ?_
  have hlock₄ := hsub₄ _ hlock₃
  have hr₄ := hs₄.1.orders r hr hlock₃
  have hother₄ := hsub₄ _ (hsub₃ _ hother)
  have hs₄' := hs₄.1.orders s hs' (hsub₃ _ hother)
  refine sound_moveRO (fun _ => findRO_held hlock₄ hr₄) fun d₅ held₅ hsub₅ hs₅ => ?_
  refine sound_syncQueueForRO fun synced d₆ held₆ hsub₆ hs₆ hsynced => ?_
  refine sound_recordROEvent fun d₇ held₇ hsub₇ hs₇ => ?_
  refine sound_recordROEvent fun d₈ held₈ hsub₈ hs₈ => ?_
  refine sound_moves fun d₉ hs₉ _ => ?_
  have hlast := hs₆.trans ((hs₇.trans ((hs₈.trans (hs₉.mono hsub₈)).mono hsub₇)).mono hsub₆)
  have hsince : Since tidy held₄ d₄ d₉ := hs₅.trans (hlast.mono hsub₅)
  have hup : ∀ k ∈ held₄, k ∈ held₈ := fun k hk => hsub₈ _ (hsub₇ _ (hsub₆ _ (hsub₅ _ hk)))
  have hclosed := of_decide_eq_true hstatus
  have hmoved : ∀ x : Shop, x.moved r [.closed] .comeback = x.setStatus r.ro_id .comeback :=
    fun x => if_pos (mem_singleton.mpr hclosed)
  simp only [hmoved] at hsynced
  have hsame : ∀ opened, SameBooks (d₉.setStatus r.ro_id .comeback)
      (Shop.setStatus { d₉ with comeback_cases := opened } r.ro_id .comeback) :=
    fun _ => ⟨rfl, rfl, rfl, rfl, rfl, rfl, rfl⟩
  exact .returns (hup _ hlock₄) (hsince.1.orders r hr₄ hlock₄) hclosed (hup _ hother₄)
    (hsince.1.orders s hs₄' hother₄)
    ((((hsame _).trans (hsynced d₉)).tell r.ro_id (.comeback_opened w.newId s.ro_id)
      w.userId).tell s.ro_id (.comeback_linked w.newId r.ro_id) w.userId)

/-! ## All of them -/

theorem ServiceCall.program_sound (c : ServiceCall) :
    (services Unit tidy fresh).Sound c c.program [] (fun x => x) d := by
  cases c with
  | createRO w input => exact Contract.Sound.of_onAnswers (createRO_sound w input)
  | checkIn w appointmentId odometer =>
    exact Contract.Sound.of_onAnswers (checkIn_sound w appointmentId odometer)
  | addLineItem w roId input => exact Contract.Sound.of_onAnswers (addLineItem_sound w roId input)
  | updateLineItem w roId lineItemId updates =>
    exact Contract.Sound.of_onAnswers (updateLineItem_sound w roId lineItemId updates)
  | dispatchTech w input => exact Contract.Sound.of_onAnswers (dispatchTech_sound w input)
  | startMPISession w roId templateId techUserId =>
    exact Contract.Sound.of_onAnswers (startMPISession_sound w roId templateId techUserId)
  | generateEstimate w roId languageMode =>
    exact Contract.Sound.of_onAnswers (generateEstimate_sound w roId languageMode)
  | sendEstimate w roId estimateId =>
    exact Contract.Sound.of_onAnswers (sendEstimate_sound w roId estimateId)
  | recordAuthorization w roId input =>
    exact Contract.Sound.of_onAnswers (recordAuthorization_sound w roId input)
  | transitionRO w roId target input =>
    exact Contract.Sound.of_onAnswers (transitionRO_sound w roId target input)
  | createComebackCase w input =>
    exact Contract.Sound.of_onAnswers (createComebackCase_sound w input)

end Dealership.Service
