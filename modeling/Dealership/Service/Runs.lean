import Dealership.Service.Commits
import Dealership.Library.Census

/-!
# Nothing is handed back unfinished, and work is authorized

All calls together.  While nobody adds a line to an order that was handed back, or opens one
behind a gate that has looked, no order is handed back with open or undecided work.  While
orders are authorized on estimates that stand, each is authorized by an approval of what is
asked now, and paid for with a grant that pays for nothing else.
-/

namespace Dealership.Service

open Library List
open Inventory (LotLock)
open Policy (ReauthenticationGrant)

variable {held : List LotLock} {c : ServiceCall} {tidy : Prop} {answer : Unit}

theorem services_cooperate {fresh : Prop} {admits : ServiceServer → Event ServiceCall → Prop}
    (htidy : tidy → ∀ S i s, admits S (.turn i) → S.session i = some s →
      s.call.Tidy s.held S.committed ∧ ∀ j < S.sessions.length, j ≠ i →
        ∀ t ∈ S.session j, s.call.Spares s.held S.committed t.held)
    (hfresh : fresh → ∀ S i s, admits S (.turn i) → S.session i = some s →
      s.call.Fresh s.held S.committed) :
    (services Unit tidy fresh).Cooperates LotLock.conflicts ServiceCall.program
      (fun _ _ => True) admits where
  refl := fun _ h d => ⟨.refl h d, fun _ => .refl h d⟩
  trans := fun _ _ _ _ _ => Since.trans
  symm := LotLock.conflicts_symm
  begins := fun _ c _ _ => c.program_sound
  sets_apart := fun _ _ _ _ _ _ => ⟨trivial, trivial⟩
  finds := fun S i s ha hs => ⟨fun ht => (htidy ht S i s ha hs).1, fun hfr => hfresh hfr S i s ha hs⟩
  respects := by
    intro S i j s t a ha hij hs ht _ hbeside hi hmoves
    refine ⟨(hmoves.1.touches hi.1).undisturbed hbeside.2, fun htidied => ?_⟩
    exact hmoves.1.gatesKept hi.1 hbeside.2
      ((htidy htidied S i s ha hs).2 j (lt_of_session ht) (Ne.symm hij) t ht)

/-! ## Nothing is handed back unfinished -/

/-- No line is added to an order that was handed back, and an update leaves the lines of one
finished and decided, and opens or reprices none that a gate under way has looked for. -/
def Tended (S : ServiceServer) : Event ServiceCall → Prop
  | .turn i => ∀ s ∈ S.session i, s.call.Tidy s.held S.committed ∧
      ∀ j < S.sessions.length, j ≠ i → ∀ t ∈ S.session j, s.call.Spares s.held S.committed t.held
  | .arrive _ | .abort _ => True

instance (S : ServiceServer) : ∀ e, Decidable (Tended S e)
  | .turn i => inferInstanceAs (Decidable (∀ s ∈ S.session i, s.call.Tidy s.held S.committed ∧
      ∀ j < S.sessions.length, j ≠ i → ∀ t ∈ S.session j, s.call.Spares s.held S.committed t.held))
  | .arrive _ | .abort _ => .isTrue trivial

/-- **Nothing is handed back unfinished.**  From books in order, in every interleaving in which
lines are tended, no order that was handed back has open or undecided work. -/
theorem handed_back_finished {d : Shop} (hf : Filed d) (hd : HandedBack d)
    {events : List (Event ServiceCall)}
    (h : Along (Server.step LotLock.conflicts ServiceCall.program) Tended (.fresh d) events) :
    HandedBack (run (Server.step LotLock.conflicts ServiceCall.program) (.fresh d)
      events).committed := by
  have hc : (services Unit True False).Cooperates LotLock.conflicts ServiceCall.program
      (fun _ _ => True) Tended :=
    services_cooperate (fun _ _ _ s ha hs => ha s hs) False.elim
  exact (hc.guarded ⟨hf, fun _ => hd, False.elim⟩ h).inv.2.1 trivial

/-! ## Work is authorized -/

/-- The order enters `authorized`. -/
def EntersAuthorized (roId : String) (before after : Shop) : Prop :=
  (∃ r ∈ after.repair_orders, r.ro_id = roId ∧ r.status = .authorized) ∧
    ¬ ∃ r ∈ before.repair_orders, r.ro_id = roId ∧ r.status = .authorized

def grantSpent : ServiceEnding → Option String
  | .committed _ _ before after => (before.grants.find? fun g => g.consumedAt.isNone &&
      after.grants.any fun f => f.grantId = g.grantId && f.consumedAt.isSome).map (·.grantId)
  | _ => none

/-- An order enters `authorized` by a transition of its own, paid for with a grant for exactly
that, on an approval of what is asked now. -/
def AuthorizesDuly : ServiceEnding → Prop
  | .committed c answer before after => ∀ roId, EntersAuthorized roId before after →
      (∃ w input, c = .transitionRO w roId .authorized input ∧ ∃ g ∈ before.grants,
        grantPays w before.tenant_id "service.ro.transition:authorized" roId
          (input.step_up_token.getD "") g = true ∧
        grantSpent (.committed c answer before after) = some g.grantId) ∧
      AuthorizedNow roId after
  | _ => True

section Entering

variable {d d' : Shop}

def NoneEnters (d d' : Shop) : Prop :=
  ∀ s ∈ d'.repair_orders, s.status = .authorized →
    ∃ r ∈ d.repair_orders, r.ro_id = s.ro_id ∧ r.status = .authorized

theorem NoneEnters.not_enters (h : NoneEnters d d') (roId : String) :
    ¬ EntersAuthorized roId d d' := by
  rintro ⟨⟨s, hs, hid, hstatus⟩, hnot⟩
  obtain ⟨r, hr, hid', hstatus'⟩ := h s hs hstatus
  exact hnot ⟨r, hr, hid'.trans hid, hstatus'⟩

theorem NoneEnters.of_orders (h : d'.repair_orders = d.repair_orders) : NoneEnters d d' := by
  intro s hs hstatus
  exact ⟨s, h ▸ hs, rfl, hstatus⟩

theorem noneEnters_setStatus (roId : String) {status : ROStatus} (h : status ≠ .authorized) :
    NoneEnters d (d.setStatus roId status) := by
  intro s hs hstatus
  rcases updateWhere_cases hs with ⟨hs, -⟩ | ⟨r, _, _, rfl⟩
  · exact ⟨s, hs, rfl, hstatus⟩
  · exact absurd hstatus h

theorem noneEnters_moved (r : RepairOrder) (sources : List ROStatus) {target : ROStatus}
    (h : target ≠ .authorized) : NoneEnters d (d.moved r sources target) := by
  unfold Shop.moved
  split
  · exact noneEnters_setStatus _ h
  · exact .of_orders rfl

end Entering

theorem grantSpent_of_pays {w : ServiceWorld} {action roId token : String} {d paid d' : Shop}
    (hf : Filed d) (h : Pays held w action roId token d paid) (hd' : d'.grants = paid.grants) :
    ∃ g ∈ d.grants, grantPays w d.tenant_id action roId token g = true ∧
      grantSpent (.committed c answer d d') = some g.grantId := by
  cases h with
  | @spends g lock found pays =>
    refine ⟨g, found, pays, ?_⟩
    have hnone : g.consumedAt.isNone = true := by
      simp only [grantPays, Bool.and_eq_true] at pays
      exact pays.1.1.1.2
    have hspent : ({ g with consumedAt := some w.now } : ReauthenticationGrant) ∈ d'.grants := by
      rw [hd']
      exact mem_updateWhere_of_pos (p := fun f : ReauthenticationGrant => f.grantId = g.grantId)
        (f := fun f => { f with consumedAt := some w.now }) found rfl
    rw [grantSpent, Option.map_eq_some_iff]
    cases hfind : d.grants.find? fun x => x.consumedAt.isNone &&
        d'.grants.any fun f => f.grantId = x.grantId && f.consumedAt.isSome with
    | none =>
      have hnot := find?_eq_none.mp hfind g found
      rw [Bool.and_eq_true, any_eq_true, not_and] at hnot
      exact absurd ⟨_, hspent, by simp⟩ (hnot hnone)
    | some x =>
      refine ⟨x, rfl, ?_⟩
      have hx := find?_some hfind
      rw [Bool.and_eq_true, any_eq_true] at hx
      obtain ⟨hfresh, f, hmem, hf'⟩ := hx
      rw [Bool.and_eq_true, decide_eq_true_eq] at hf'
      rw [hd'] at hmem
      rcases updateWhere_cases hmem with ⟨hmem, -⟩ | ⟨y, _, hid, rfl⟩
      · -- What was spent before is not what is spent now.
        rw [eq_of_key hf.grants hmem (mem_of_find?_eq_some hfind) hf'.1] at hf'
        rw [Option.isNone_iff_eq_none] at hfresh
        rw [hfresh] at hf'
        cases hf'.2
      · exact hf'.1.symm.trans hid

/-- **Every entry into `authorized` is a due one.** -/
theorem ServiceMoves.authorizesDuly {d d' : Shop} (hf : Filed d) (hfresh : c.Fresh held d)
    (hm : ServiceMoves tidy held c d d') : AuthorizesDuly (.committed c answer d d') := by
  have hnone : NoneEnters d d' → AuthorizesDuly (.committed c answer d d') :=
    fun h roId henters => absurd henters (h.not_enters roId)
  cases hm with
  | stays same | adds _ _ _ same | edits _ _ same | dispatches _ same =>
    exact hnone (.of_orders same.orders)
  | @opens c r event userId _ _ _ _ status same =>
    refine hnone fun s hs hstatus => ?_
    rw [same.orders] at hs
    rcases mem_append.mp hs with hs | hs
    · exact ⟨s, hs, rfl, hstatus⟩
    · have hworked := (opensWith_not_handedBack status).2
      rw [← mem_singleton.mp hs, hstatus] at hworked
      cases hworked
  | @inspects c r _ _ _ _ _ _ _ same =>
    exact hnone fun s hs => noneEnters_moved r [.checked_in] (by decide) s (same.orders ▸ hs)
  | @quotes c r e ids _ _ _ _ _ _ _ _ _ _ _ _ same =>
    exact hnone fun s hs => noneEnters_moved (d := Shop.setLines { d with
      ro_estimates := d.ro_estimates ++ [e] } ids (quotedAs e.estimate_id)) r
        [.inspection_in_progress, .checked_in] (by decide) s (same.orders ▸ hs)
  | @sends c r e _ _ _ _ _ _ _ _ same =>
    exact hnone fun s hs => noneEnters_moved (d := d.setEstimates [e.estimate_id] .sent) r
      [.estimate_pending] (by decide) s (same.orders ▸ hs)
  | @decides c r e a approved declined status n m userId _ paid _ _ _ payment _ _ _ _ _ _ _ _
      same =>
      have hpaid : paid.repair_orders = d.repair_orders := by
        rcases payment with rfl | ⟨w, action, token, h⟩
        · rfl
        · exact h.files.1
      exact hnone (.of_orders (same.orders.trans hpaid))
  | @returns c r s caseId userId _ _ _ _ _ _ _ same =>
    exact hnone fun x hx => noneEnters_setStatus r.ro_id (by decide) x (same.orders ▸ hx)
  | @transitions w r target input quotes lines _ paid _ lock found allowed payment _ evidence
      withdrawn _ _ same =>
      by_cases htarget : target = .authorized
      · subst htarget
        have hpays : Pays held w (transitionAction .authorized) r.ro_id
            (input.step_up_token.getD "") d paid := payment
        obtain ⟨horders, hestimates, hauthorizations, hevents⟩ := hpays.files
        intro roId henters
        have hid : roId = r.ro_id := by
          by_contra hne
          obtain ⟨⟨s, hs, hsid, hstatus⟩, hnot⟩ := henters
          rw [same.orders] at hs
          rcases updateWhere_cases hs with ⟨hs, -⟩ | ⟨x, _, hxid, rfl⟩
          · exact hnot ⟨s, horders ▸ hs, hsid, hstatus⟩
          · exact hne (hsid.symm.trans hxid)
        subst hid
        refine ⟨⟨w, input, rfl, grantSpent_of_pays hf hpays same.grants⟩, ?_⟩
        have hnow := authorizedNow_of_evidence hf (hfresh lock) (evidence rfl)
        refine hnow.congr (same.estimates.trans ?_) (same.authorizations.trans hauthorizations) ?_
        · -- Nothing is withdrawn on the way to `authorized`.
          refine (updateWhere_of_forall_not fun e he hin => ?_).trans hestimates
          have hwithdrawn := (withdrawn e (hestimates ▸ he) hin).2
          cases hwithdrawn
        · intro a hsince
          rw [same.history, history_tell, if_pos rfl]
          have hsame : Shop.history (Shop.setLines (Shop.setEstimates (paid.setStatus r.ro_id
              .authorized) quotes .expired) lines unasked) r.ro_id = d.history r.ro_id := by
            change (paid.ro_events.filter _).map _ = (d.ro_events.filter _).map _
            rw [hevents]
          rw [hsame]
          exact exists_since_concat hsince rfl
      · have hpaid : paid.repair_orders = d.repair_orders := by
          split at payment
          · exact payment.files.1
          · rw [payment]
        refine hnone fun s hs hstatus => ?_
        obtain ⟨x, hx, hid, hxs⟩ := noneEnters_setStatus (d := paid) r.ro_id htarget s
          (same.orders ▸ hs) hstatus
        exact ⟨x, hpaid ▸ hx, hid, hxs⟩

def Spent (grantId : String) (d : Shop) : Prop :=
  ∃ g ∈ d.grants, g.grantId = grantId ∧ g.consumedAt.isSome = true

theorem ServiceMoves.spent {d d' : Shop} (hm : ServiceMoves tidy held c d d') {x : String}
    (h : Spent x d) : Spent x d' := by
  obtain ⟨g, hg, hid, hspent⟩ := h
  rcases hm.grants with hsame | ⟨f, hf, now, hnone, hspends⟩
  · exact ⟨g, hsame ▸ hg, hid, hspent⟩
  · have hkept := mem_updateWhere_of_neg (p := fun g : ReauthenticationGrant =>
      g.grantId = f.grantId) (f := fun g => { g with consumedAt := some now }) hg
    by_cases hsame : g.grantId = f.grantId
    · refine ⟨{ g with consumedAt := some now }, ?_, hid, rfl⟩
      rw [hspends]
      exact mem_updateWhere_of_pos (p := fun g : ReauthenticationGrant => g.grantId = f.grantId)
        (f := fun g => { g with consumedAt := some now }) hg hsame
    · refine ⟨g, ?_, hid, hspent⟩
      rw [hspends]
      exact hkept hsame

theorem spent_of_grantSpent {d d' : Shop} (hf : Filed d) {x : String}
    (h : grantSpent (.committed c answer d d') = some x) :
    ¬ Spent x d ∧ Spent x d' := by
  obtain ⟨g, hfind, rfl⟩ := Option.map_eq_some_iff.mp h
  have hg := find?_some hfind
  rw [Bool.and_eq_true, any_eq_true] at hg
  obtain ⟨hnone, f, hf', hspent⟩ := hg
  rw [Bool.and_eq_true, decide_eq_true_eq] at hspent
  refine ⟨?_, f, hf', hspent⟩
  rintro ⟨y, hy, hid, hyspent⟩
  rw [eq_of_key hf.grants hy (mem_of_find?_eq_some hfind) hid] at hyspent
  rw [Option.isNone_iff_eq_none] at hnone
  rw [hnone] at hyspent
  cases hyspent

instance ServiceCall.decidableFresh :
    ∀ (c : ServiceCall) (held : List LotLock) (d : Shop), Decidable (c.Fresh held d)
  | .transitionRO _ roId .authorized _, _, d =>
    inferInstanceAs (Decidable (_ → Standing roId d))
  | .transitionRO _ _ .draft _, _, _ | .transitionRO _ _ .checked_in _, _, _
  | .transitionRO _ _ .inspection_in_progress _, _, _ | .transitionRO _ _ .estimate_pending _, _, _
  | .transitionRO _ _ .awaiting_authorization _, _, _ | .transitionRO _ _ .in_repair _, _, _
  | .transitionRO _ _ .waiting_parts _, _, _ | .transitionRO _ _ .sublet_in_progress _, _, _
  | .transitionRO _ _ .qc _, _, _ | .transitionRO _ _ .ready_for_pickup _, _, _
  | .transitionRO _ _ .closed _, _, _ | .transitionRO _ _ .canceled _, _, _
  | .transitionRO _ _ .comeback _, _, _ | .createRO .., _, _ | .checkIn .., _, _
  | .addLineItem .., _, _ | .updateLineItem .., _, _ | .dispatchTech .., _, _
  | .startMPISession .., _, _ | .generateEstimate .., _, _ | .sendEstimate .., _, _
  | .recordAuthorization .., _, _ | .createComebackCase .., _, _ => .isTrue trivial

/-- An order is authorized while its latest estimate stands: answered in full where it was
taken back, and answered since the order came back where it was made before. -/
def Current (S : ServiceServer) : Event ServiceCall → Prop
  | .turn i => ∀ s ∈ S.session i, s.call.Fresh s.held S.committed
  | .arrive _ | .abort _ => True

instance (S : ServiceServer) : ∀ e, Decidable (Current S e)
  | .turn i => inferInstanceAs (Decidable (∀ s ∈ S.session i, s.call.Fresh s.held S.committed))
  | .arrive _ | .abort _ => .isTrue trivial

/-- Every entry into `authorized` is due, no grant is spent twice, an order that is worked on
was approved during its visit, and only what was committed has changed anything. -/
structure WorkAuthorized (d : Shop) (S : ServiceServer) : Prop where
  duly : ∀ e ∈ S.history, AuthorizesDuly e
  once : (S.history.filterMap grantSpent).Nodup
  approved : Approved S.committed
  linked : Linked d S.history S.committed

/-- **Work is authorized by a decision on what is asked.**  From books in order, in every
interleaving in which orders are authorized on estimates that stand. -/
theorem work_authorized {d : Shop} (hf : Filed d) (hd : Approved d)
    {events : List (Event ServiceCall)}
    (h : Along (Server.step LotLock.conflicts ServiceCall.program) Current (.fresh d) events) :
    WorkAuthorized d (run (Server.step LotLock.conflicts ServiceCall.program) (.fresh d)
      events) := by
  have hc : (services Unit False True).Cooperates LotLock.conflicts ServiceCall.program
      (fun _ _ => True) Current :=
    services_cooperate False.elim fun _ _ _ s ha hs => ha s hs
  have hg := hc.guarded ⟨hf, False.elim, fun _ => hd⟩ h
  refine ⟨?_, ?_, hg.inv.2.2 trivial, linked_run _ _ d events⟩
  · intro e he
    have hkeeps := hg.history e he
    cases e with
    | raised c error => exact trivial
    | aborted c => exact trivial
    | committed c answer before after =>
      obtain ⟨hi, -, held, hmoves, hfresh⟩ := hkeeps
      exact hmoves.authorizesDuly hi.1 (hfresh trivial)
  · refine hc.once ⟨hf, False.elim, fun _ => hd⟩ Spent ?_ ?_ h
    · intro e d d' hleads hkeeps x hx
      cases e with
      | raised c error => exact hleads.symm ▸ hx
      | aborted c => exact hleads.symm ▸ hx
      | committed c answer before after =>
        obtain ⟨rfl, rfl⟩ := hleads
        obtain ⟨-, -, held, hmoves, -⟩ := hkeeps
        exact hmoves.spent hx
    · intro e d d' hleads hkeeps x hx
      cases e with
      | raised c error => cases hx
      | aborted c => cases hx
      | committed c answer before after =>
        obtain ⟨rfl, rfl⟩ := hleads
        exact spent_of_grantSpent hkeeps.1.1 hx

/-! ## A visit -/

instance (roId : String) (before after : Shop) : Decidable (EntersAuthorized roId before after) :=
  inferInstanceAs (Decidable ((∃ r ∈ after.repair_orders, _ ∧ _) ∧
    ¬ ∃ r ∈ before.repair_orders, _ ∧ _))

instance AuthorizedNow.decidable (roId : String) (d : Shop) : Decidable (AuthorizedNow roId d) :=
  match h : latestEstimate roId d with
  | none => .isFalse fun ⟨_, he, _⟩ => Option.some_ne_none _ (he.symm.trans h)
  | some e => decidable_of_iff (e.status ≠ .expired ∧ ∃ a ∈ d.ro_authorizations, a.ro_id = roId ∧
      a.approves e.estimate_id = true ∧ ∃ event ∈ since entersCheckedIn (d.history roId),
        records a.authorization_id event = true)
      ⟨fun h' => ⟨e, h, h'⟩, fun ⟨_, he, h'⟩ => Option.some.inj (h.symm.trans he) ▸ h'⟩

/-- An order enters `authorized` on an approval that is not of what is asked now. -/
def EntersUnduly (roId : String) : ServiceEnding → Prop
  | .committed _ _ before after => EntersAuthorized roId before after ∧ ¬ AuthorizedNow roId after
  | _ => False

instance (roId : String) : ∀ e, Decidable (EntersUnduly roId e)
  | .committed _ _ before after =>
    inferInstanceAs (Decidable (EntersAuthorized roId before after ∧ ¬ AuthorizedNow roId after))
  | .raised .. | .aborted .. => .isFalse id

theorem WorkAuthorized.not_unduly {d : Shop} {S : ServiceServer} (h : WorkAuthorized d S)
    (roId : String) : ¬ ∃ e ∈ S.history, EntersUnduly roId e := by
  rintro ⟨e, he, hunduly⟩
  cases e with
  | committed c answer before after => exact hunduly.2 (h.duly _ he roId hunduly.1).2
  | raised c error => exact hunduly
  | aborted c => exact hunduly

namespace Visit

def booking : String := uuid "1"

def order : String := uuid "2"

def line : String := uuid "3"

def other : String := uuid "4"

def quote : String := uuid "5"

def approval : String := uuid "6"

def world (id : String) : ServiceWorld :=
  ⟨"advisor", [.service_advisor], 0, id, id, fun s => s⟩

def grant (id : String) : ReauthenticationGrant where
  grantId := id
  grantHash := id
  tenantId := "t"
  userLinkId := "advisor"
  action := "service.ro.transition:authorized"
  resourceType := some "repair_order"
  resourceId := some order
  assuranceLevel := .freshAndMfaPolicy
  mfaPolicyCertifiedAtIssue := true
  expiresAt := 100
  consumedAt := none

def morning : Shop :=
  .opening "t" [⟨booking, uuid "9", "c", "v", 0, none, .scheduled, [], .sms, .en, .phone⟩] [] []
    [grant "g", grant "h"]

theorem morning_filed : Filed morning :=
  ⟨nodup_nil, nodup_nil, nodup_nil, nodup_nil, by decide,
    forall_mem_nil _, forall_mem_nil _, forall_mem_nil _⟩

abbrev serve : List (Event ServiceCall) → ServiceServer :=
  served LotLock.conflicts ServiceCall.program morning

def work (id : String) : ServiceCall :=
  .addLineItem (world id) order ⟨some .labor, none, "brakes", none, none, false⟩

def finish (id : String) : ServiceCall :=
  .updateLineItem (world "") order id ⟨false, false, some (some .completed), none, none⟩

def reopen (id : String) : ServiceCall :=
  .updateLineItem (world "") order id ⟨false, false, some (some .in_progress), none, none⟩

def approve (approved : List String) : ServiceCall :=
  .recordAuthorization (world approval) order
    ⟨quote, "signature", .items approved, .absent, true, none, none⟩

def moveTo (target : ROStatus) (token : Option String) : ServiceCall :=
  .transitionRO (world target.text) order target ⟨none, token⟩

/-- The car is checked in, and a quote for the work is sent. -/
def quoted (lines : List String) : List ServiceCall :=
  [.checkIn (world order) booking none] ++ lines.map work ++
    [.generateEstimate (world quote) order none, .sendEstimate (world "") order quote]

/-- The work is approved, done and checked. -/
def repaired : List ServiceCall :=
  quoted [line] ++ [approve [line], moveTo .authorized (some "g"), moveTo .in_repair none,
    finish line, moveTo .qc none]

def handedBack : List ServiceCall := repaired ++ [moveTo .ready_for_pickup none]

def lateLine : List ServiceCall := handedBack ++ [work other]

/-- A line is reopened behind the gates: nine calls are done, and the transition has looked
at the lines when the update takes its turns. -/
def overtaken : List (Event ServiceCall) :=
  oneByOne 17 repaired 0 ++ [.arrive (moveTo .ready_for_pickup none), .arrive (reopen line),
    .turn 9, .turn 9, .turn 9] ++ List.replicate 17 (.turn 10) ++ List.replicate 17 (.turn 9)

/-- One of two lines is approved, the quote is taken back, and the order is authorized on it. -/
def takenBack : List ServiceCall :=
  quoted [line, other] ++ [approve [line], moveTo .estimate_pending none,
    moveTo .awaiting_authorization none, moveTo .authorized (some "g")]

/-- The car comes back, and is worked on for what was approved the last time. -/
def cameBack : List ServiceCall :=
  repaired ++ [moveTo .ready_for_pickup none, moveTo .closed none, moveTo .comeback none,
    moveTo .checked_in none, moveTo .inspection_in_progress none, moveTo .authorized (some "h")]

end Visit

open Visit in
/-- The car is handed back, with its work done. -/
theorem visit_handed_back :
    (serve (oneByOne 17 handedBack 0)).committed.repair_orders.map (·.status) =
        [.ready_for_pickup] ∧
      HandedBack (serve (oneByOne 17 handedBack 0)).committed :=
  ⟨by decide +kernel, handed_back_finished morning_filed (forall_mem_nil _) (by decide +kernel)⟩

open Visit in
/-- The customer has the car, and work is open on it. -/
theorem late_line_and_overtaken :
    ¬ HandedBack (serve (oneByOne 17 lateLine 0)).committed ∧
      ¬ HandedBack (serve overtaken).committed :=
  ⟨by decide +kernel, by decide +kernel⟩

open Visit in
/-- The work was authorized, with one grant of the two. -/
theorem visit_authorized :
    (serve (oneByOne 17 repaired 0)).history.filterMap grantSpent = ["g"] ∧
      WorkAuthorized morning (serve (oneByOne 17 repaired 0)) :=
  ⟨by decide +kernel, work_authorized morning_filed (forall_mem_nil _) (by decide +kernel)⟩

open Visit in
/-- An order is authorized on a quote that was taken back, and on an approval of the last
visit. -/
theorem taken_back_and_came_back :
    ¬ WorkAuthorized morning (serve (oneByOne 17 takenBack 0)) ∧
      ¬ WorkAuthorized morning (serve (oneByOne 17 cameBack 0)) :=
  ⟨fun h => h.not_unduly order (by decide +kernel), fun h => h.not_unduly order (by decide +kernel)⟩

end Dealership.Service
