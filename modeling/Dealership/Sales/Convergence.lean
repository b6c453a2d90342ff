import Dealership.Sales.Intake

/-!
# Intake converges

Each call, checked against what the others may commit between its statements, and then
all of them together: no call raises, a handoff that can be received ends with one
opportunity, and a customer has one open file at a rooftop.
-/

namespace Dealership.Sales

open Library List
open Inventory (LotLock)

variable {answer : IntakeAnswer} {held : List LotLock} {c : IntakeCall}

/-! ## Each call keeps the contract -/

section Calls

variable {B : Type} {g : B → IntakeAnswer} {c : IntakeCall} {held : List LotLock} {d : Showroom}

theorem seam_around {x : String} {d d' : Showroom} (h : SameAround d d') : seam x d' = seam x d := by
  rw [seam, h.handoffs, h.leads, ← seam]

theorem sound_says {b : B} (h : ∀ d', Steady c held d d' → c.Says (g b) d') :
    (intake.onAnswers g).Sound c (pure b) held (fun x => x) d := by
  intro d' hr hi _
  have hfact : Intakes held c (g b) d' d' := .answers (h d' hr)
  exact ⟨hi, hfact⟩

theorem sound_intakes {b : B} {pending : Showroom → Showroom}
    (h : ∀ d', Steady c held d d' → Filed d' → Intakes held c (g b) d' (pending d')) :
    (intake.onAnswers g).Sound c (pure b) held pending d := by
  intro d' hr hi _
  have hintakes := h d' hr hi
  exact ⟨hi.intakes hintakes, hintakes⟩

end Calls

/-- The note intake gives is short enough, and nobody owned the file before. -/
theorem assignment_valid {opportunityId owner actor note : String} {reason : AssignmentReason}
    (hnote : note.length ≤ 500) :
    ¬ (OpportunityAssignment.mk opportunityId none owner reason (some note) actor).valid = false := by
  simp [OpportunityAssignment.valid, hnote]

theorem receiveHandoff_sound {w : SalesWorld} {input : ReceiveInput} (d : Showroom)
    (hactor : w.access.knows input.actingUserLinkId = true) (hnew : NewOpportunity w.newId d) :
    (intake.onAnswers .receipt).Sound (.receiveHandoff w input) (receiveHandoff w input) []
      (fun x => x) d := by
  have hunreceivable : ∀ d' : Showroom, (∀ h, seam input.handoffId d' ≠ some (h, .handed_off)) →
      ∀ {d'' : Showroom}, SameAround d' d'' → ∀ h, ¬ Receivable input.handoffId h d'' := by
    intro d' hno d'' haround h hrec
    rw [Receivable, seam_around haround] at hrec
    exact hno h hrec
  unfold receiveHandoff
  rw [actorOnFloor, requireActor_of_knows hactor]
  refine sound_selectLocking_bind fun d₁ held₁ _ hlocks₁ hr₁ _ _ => ?_
  have hlock : intakeKey input.handoffId ∈ held₁ := hlocks₁ _ mem_cons_self
  have hnew₁ := hr₁.own hnew
  refine sound_select_bind fun d₂ hr₂ _ _ => ?_
  cases hreceived : receivedFrom input.handoffId d₂ with
  | some o =>
    obtain ⟨ho, hid⟩ := receivedFrom_some hreceived
    exact sound_says fun d' hr => ⟨hr.kept o ho, hid⟩
  | none =>
    refine sound_select_bind fun d₃ hr₃ _ _ => ?_
    cases hseam : seam input.handoffId d₃ with
    | none =>
      refine sound_says fun d' hr => hunreceivable d₃ (fun h => ?_) hr.around
      rw [hseam]
      exact nofun
    | some s =>
      obtain ⟨h, state⟩ := s
      dsimp only
      split
      · rename_i hstate
        refine sound_says fun d' hr => hunreceivable d₃ (fun h' => ?_) hr.around
        rw [hseam]
        rintro hsome
        cases hsome
        exact hstate rfl
      rename_i hstate
      rw [not_not] at hstate
      subst hstate
      refine sound_select_bind fun d₄ hr₄ _ _ => ?_
      generalize expectedAppointment h.handed_snapshot.lead_id d₄ = appointmentId
      generalize ho : receivedOpportunity w input.actingUserLinkId input.handoffId h
        appointmentId = o
      have hfirst : ∀ {d' : Showroom}, Steady (.receiveHandoff w input) held₁ d₄ d' →
          receivedFrom input.handoffId d' = none := fun hr =>
        hr.unreceived _ hlock (hr₄.unreceived _ hlock (hr₃.unreceived _ hlock hreceived))
      have hopened : ∀ {d' : Showroom}, Steady (.receiveHandoff w input) held₁ d₄ d' →
          (IntakeCall.receiveHandoff w input).Finds held₁ d' →
            NoneOpen o.rooftop_id o.party_id d' := by
        intro d' hr hf
        have hseam' : seam input.handoffId d' = some (h, .handed_off) := by
          rw [seam_around (hr₄.around.trans hr.around)]
          exact hseam
        rw [← ho]
        exact openFile_none.mp (hf (hfirst hr) _ hseam' rfl)
      have hid : ∀ {d' : Showroom}, Steady (.receiveHandoff w input) held₁ d₄ d' →
          NewOpportunity o.opportunity_id d' := by
        intro d' hr
        rw [← ho]
        exact hr.own (hr₄.own (hr₃.own (hr₂.own hnew₁)))
      refine sound_execute_bind_of ?_ ?_
      swap
      · intro d₅ hr₅ _ hf₅ hrefused
        rw [Opportunity.fits_of (hid hr₅) (hopened hr₅ hf₅), Bool.or_true] at hrefused
        cases hrefused
      · intro d₅ held₅ hsub₅ hlocks₅ hr₅ _ hf₅ _
        rw [hfirst hr₅]
        simp only [Option.isSome_none, Bool.false_eq_true, if_false]
        have hentry : openEntry o.rooftop_id o.party_id ∈ held₅ :=
          hlocks₅ _ (mem_cons_of_mem _ mem_cons_self)
        have hcommit : ∀ {d' d'' : Showroom} {more : List LotLock}, (∀ k ∈ held₅, k ∈ more) →
            Steady (.receiveHandoff w input) held₅ d₅ d' → SameAround d' d'' →
            d''.opportunities = d'.opportunities ++ [o] →
              Intakes more (.receiveHandoff w input) (.receipt (.received o)) d' d'' := by
          intro d' d'' more hsub hr haround hadds
          subst ho
          refine .receives (hsub _ (hsub₅ _ hlock)) rfl rfl
            (hr.unreceived _ (hsub₅ _ hlock) (hfirst hr₅)) ?_
          exact ⟨rfl, hr.own (hid hr₅), rfl, hsub _ hentry,
            hr.closed _ _ hentry (hopened hr₅ hf₅), hadds, haround⟩
        cases howner : o.owner_user_link_id with
        | some owner =>
          refine sound_execute_bind_of (fun d₆ held₆ hsub₆ _ hr₆ _ _ _ => ?_)
            fun _ _ _ _ h => absurd h (assignment_valid (by decide))
          refine sound_intakes fun d' hr _ => ?_
          exact hcommit hsub₆ (hr₆.trans (hr.mono hsub₆)) ⟨rfl, rfl, rfl, rfl⟩ rfl
        | none =>
          refine sound_intakes fun d' hr _ => ?_
          exact hcommit (fun _ hk => hk) hr ⟨rfl, rfl, rfl, rfl⟩ rfl

theorem openWalkIn_sound {w : SalesWorld} {input : WalkInInput} (d : Showroom)
    (hactor : w.access.knows input.actingUserLinkId = true) (hnew : NewOpportunity w.newId d) :
    (intake.onAnswers .walkIn).Sound (.openWalkIn w input) (openWalkIn w input) []
      (fun x => x) d := by
  unfold openWalkIn
  rw [actorOnFloor, requireActor_of_knows hactor]
  change (intake.onAnswers .walkIn).Sound _ (if _ then _ else _) _ _ _
  split
  · exact sound_says fun _ _ => trivial
  refine sound_selectLocking_bind fun d₁ held₁ _ hlocks₁ hr₁ _ _ => ?_
  have hlock : walkInKey input.rooftopId input.partyId ∈ held₁ := hlocks₁ _ mem_cons_self
  refine sound_select_bind fun d₂ hr₂ _ _ => ?_
  cases hopen : openFile input.rooftopId input.partyId d₂ with
  | some o =>
    obtain ⟨ho, hfor⟩ := openFile_some hopen
    exact sound_says fun d' hr => ⟨hr.kept o ho, hfor⟩
  | none =>
    refine sound_selectLocking_bind fun d₃ held₃ hsub₃ hlocks₃ hr₃ _ _ => ?_
    have hread : footprint "parties" input.partyId ∈ held₃ := hlocks₃ _ mem_cons_self
    cases hparty : refuseParty input.partyId d₃ with
    | some refusal =>
      refine sound_says fun _ _ => ?_
      unfold refuseParty at hparty
      split at hparty
      · cases hparty
        trivial
      split at hparty
      · cases hparty
        trivial
      · cases hparty
    | none =>
      refine sound_select_bind fun d₄ hr₄ _ _ => ?_
      dsimp only
      cases hcar : refuseCar input.rooftopId input.interestStockItemId d₄ with
      | some refusal =>
        refine sound_says fun _ _ => ?_
        unfold refuseCar at hcar
        split at hcar
        · cases hcar
        split at hcar
        · cases hcar
          trivial
        split at hcar
        · cases hcar
          trivial
        split at hcar
        · cases hcar
          trivial
        · cases hcar
      | none =>
        generalize ho : walkInOpportunity w input.actingUserLinkId input = o
        -- No walk-in of the customer gets past the key, and no handoff comes in.
        have hfree : ∀ {d' : Showroom}, Steady (.openWalkIn w input) held₃ d₄ d' →
            (IntakeCall.openWalkIn w input).Finds held₃ d' →
              NoneOpen o.rooftop_id o.party_id d' := by
          intro d' hr hf p hp hpopen
          have hfrom : Steady (.openWalkIn w input) held₁ d₂ d' :=
            hr₃.trans ((hr₄.trans hr).mono hsub₃)
          rw [← ho] at hpopen
          rcases hfrom.walkIns _ _ hlock p hp hpopen with hp' | horigin
          · exact openFile_none.mp hopen p hp' hpopen
          · have hparty' : refuseParty input.partyId d' = none := by
              rw [refuseParty, (hr₄.trans hr).around.parties, ← refuseParty]
              exact hparty
            have hcar' : refuseCar input.rooftopId input.interestStockItemId d' = none := by
              unfold refuseCar at hcar ⊢
              rw [hr.around.lot]
              exact hcar
            have hwalk := hf hread hparty' hcar' p hp hpopen
            rw [horigin] at hwalk
            cases hwalk
        have hid : ∀ {d' : Showroom}, Steady (.openWalkIn w input) held₃ d₄ d' →
            NewOpportunity w.newId d' := fun hr =>
          hr.own (hr₄.own (hr₃.own (hr₂.own (hr₁.own hnew))))
        have hdrawn : o.opportunity_id = w.newId := by
          rw [← ho]
          rfl
        refine sound_execute_bind_of ?_ ?_
        swap
        · intro d₅ hr₅ _ hf₅ hrefused
          rw [Opportunity.fits_of (hdrawn ▸ hid hr₅) (hfree hr₅ hf₅)] at hrefused
          cases hrefused
        · intro d₅ held₅ hsub₅ hlocks₅ hr₅ _ hf₅ _
          have hentry : openEntry o.rooftop_id o.party_id ∈ held₅ :=
            hlocks₅ _ (mem_cons_of_mem _ mem_cons_self)
          refine sound_execute_bind_of (fun d₆ held₆ hsub₆ _ hr₆ _ _ _ => ?_)
            fun _ _ _ _ h => absurd h (assignment_valid (by decide))
          refine sound_intakes fun d' hr _ => ?_
          have hsteady := hr₆.trans (hr.mono hsub₆)
          have hkey := hsub₆ _ (hsub₅ _ (hsub₃ _ hlock))
          have hclosed := hsteady.closed _ _ hentry (hfree hr₅ hf₅)
          have hown := hsteady.own (hid hr₅)
          subst ho
          exact .walksIn hkey ⟨rfl, rfl⟩ rfl rfl
            ⟨rfl, hown, rfl, hsub₆ _ hentry, hclosed, rfl, ⟨rfl, rfl, rfl, rfl⟩⟩

theorem IntakeCall.program_sound (c : IntakeCall) (d : Showroom) (hactor : c.Attributable)
    (hnew : NewOpportunity c.newId d) : intake.Sound c c.program [] (fun x => x) d := by
  cases c with
  | receiveHandoff w input => exact .of_onAnswers (receiveHandoff_sound d hactor hnew)
  | openWalkIn w input => exact .of_onAnswers (openWalkIn_sound d hactor hnew)

/-! ## Side by side -/

/-- Two calls draw different ids. -/
def Distinct (a b : IntakeCall) : Prop := a.newId ≠ b.newId

theorem not_both {held' : List LotLock} (hclear : ∀ k ∈ held, ∀ l ∈ held', k.conflicts l = false)
    {k : LotLock} (hk : k ∈ held) (hk' : k ∈ held') (hself : k.conflicts k = true) : False := by
  have hfree := hclear k hk k hk'
  rw [hself] at hfree
  cases hfree

theorem Intakes.steady {b : IntakeCall} {more : List LotLock} {d d' : Showroom}
    (hi : Intakes held c answer d d') (hclear : ∀ k ∈ held, ∀ l ∈ more, k.conflicts l = false)
    (hdistinct : Distinct c b) :
    Steady b more d d' := by
  have hopens : ∀ {o : Opportunity}, Opens held c o d d' →
      (∀ x, o.handoff_id = some x → intakeKey x ∈ held) →
      (∀ r p, o.openFor r p = true → o.origin = .crm_handoff ∨ walkInKey r p ∈ held) →
        Steady b more d d' := by
    intro o h hhandoff hwalk
    refine ⟨h.around, fun p hp => ?_, fun hnew p hp => ?_, fun x hx hnone => ?_,
      fun r q hkey p hp hopen => ?_, fun r q hentry hnone p hp => ?_⟩
    · rw [h.opportunities]
      exact mem_append_left _ hp
    · rw [h.opportunities] at hp
      rcases mem_inserted hp with hp | rfl
      · exact hnew p hp
      · rw [h.id]
        exact hdistinct
    · rw [receivedFrom_none] at hnone ⊢
      rw [h.opportunities]
      intro p hp
      rcases mem_inserted hp with hp | rfl
      · exact hnone p hp
      · intro hid
        exact not_both hclear (hhandoff x hid) hx (by simp [intakeKey, LotLock.conflicts])
    · rw [h.opportunities] at hp
      rcases mem_inserted hp with hp | rfl
      · exact .inl hp
      · rcases hwalk r q hopen with horigin | hlock
        · exact .inr horigin
        · exact (not_both hclear hlock hkey (by simp [walkInKey, LotLock.conflicts])).elim
    · rw [h.opportunities] at hp
      rcases mem_inserted hp with hp | rfl
      · exact hnone p hp
      · intro hopen
        obtain ⟨rfl, rfl⟩ := Opportunity.of_openFor hopen
        exact not_both hclear h.entry hentry (by simp [openEntry, LotLock.conflicts])
  cases hi with
  | answers => exact .refl b more d
  | receives lock handoff origin _ opens =>
    refine hopens opens (fun x hx => ?_) fun _ _ _ => .inl origin
    rw [handoff] at hx
    cases hx
    exact lock
  | walksIn lock customer handoff _ opens =>
    refine hopens opens (fun x hx => ?_) fun r p hopen => .inr ?_
    · rw [handoff] at hx
      cases hx
    · obtain ⟨hr, hp⟩ := Opportunity.of_openFor hopen
      rw [← hr, ← hp, customer.1, customer.2]
      exact lock

/-- Callers are known and draw new ids, and none is cut off. -/
def Called (S : IntakeServer) : Event IntakeCall → Prop
  | .arrive c => c.Attributable ∧ NewOpportunity c.newId S.committed ∧
      ∀ s ∈ S.underWay, Distinct s.call c
  | .turn _ => True
  | .abort _ => False

instance (S : IntakeServer) : ∀ e, Decidable (Called S e)
  | .arrive c => inferInstanceAs (Decidable (c.Attributable ∧
      (∀ o ∈ S.committed.opportunities, o.opportunity_id ≠ c.newId) ∧
        ∀ s ∈ S.underWay, s.call.newId ≠ c.newId))
  | .turn _ => .isTrue trivial
  | .abort _ => .isFalse id

/-- A receipt finds no file open on its customer, and no file comes in by a handoff while a
walk-in of its customer is past the question whether one is open. -/
def Uncontested (S : IntakeServer) (e : Event IntakeCall) : Prop :=
  Called S e ∧ match e with
    | .turn i => ∀ s ∈ S.session i, s.call.Finds s.held S.committed
    | _ => True

instance (S : IntakeServer) : ∀ e, Decidable (Uncontested S e)
  | .turn i => inferInstanceAs (Decidable (_ ∧ ∀ s ∈ S.session i, s.call.Finds _ _))
  | .arrive c => inferInstanceAs (Decidable (Called S (.arrive c) ∧ True))
  | .abort i => inferInstanceAs (Decidable (Called S (.abort i) ∧ True))

theorem intake_cooperates :
    intake.Cooperates LotLock.conflicts IntakeCall.program Distinct Uncontested where
  refl := Steady.refl
  trans := fun _ _ _ _ _ => .trans
  symm := LotLock.conflicts_symm
  begins := fun S c ha _ => c.program_sound S.committed ha.1.1 ha.1.2.1
  sets_apart := fun _ _ _ _ ha hs =>
    ⟨ha.1.2.2 _ (mem_underWay hs), Ne.symm (ha.1.2.2 _ (mem_underWay hs))⟩
  finds := fun _ _ _ ha hs => ha.2 _ hs
  respects := by
    intro S i j s t a _ _ _ _ _ hbeside _ hintakes
    exact Intakes.steady hintakes hbeside.2 hbeside.1

/-! ## What intake comes to -/

/-- The call was answered with what its outcome names: a receipt of a lead that is handed
off with the opportunity of that handoff, a walk-in with a file of its customer. -/
def Answered (e : IntakeEnding) (d : Showroom) : Prop :=
  match e with
  | .committed (.receiveHandoff _ input) (.receipt outcome) before _ =>
    (∃ o ∈ d.opportunities, o.handoff_id = some input.handoffId ∧
      (outcome = .received o ∨ outcome = .already_received o)) ∨
    ((outcome = .not_found ∨ ∃ error, outcome = .invalid error) ∧
      ∀ h, ¬ Receivable input.handoffId h before)
  | .committed (.openWalkIn _ input) (.walkIn outcome) _ after =>
    (∃ o ∈ after.opportunities, o.openFor input.rooftopId input.partyId = true ∧
      (outcome = .opened o ∨ outcome = .already_open o)) ∨
    outcome = .not_found ∨ ∃ error, outcome = .invalid error
  | _ => False

/-- Every call is answered, a handoff has one opportunity, and a customer one open file at
a rooftop. -/
structure Converges (S : IntakeServer) : Prop where
  answered : ∀ e ∈ S.history, Answered e S.committed
  one_each : ∀ handoffId, (S.committed.opportunities.filter fun o =>
    o.handoff_id = some handoffId).length ≤ 1
  one_file : ∀ rooftopId partyId,
    (S.committed.opportunities.filter (·.openFor rooftopId partyId)).length ≤ 1

theorem Intakes.kept {d d' : Showroom} (hi : Intakes held c answer d d') :
    ∀ o ∈ d.opportunities, o ∈ d'.opportunities := by
  cases hi with
  | answers => exact fun _ ho => ho
  | receives _ _ _ _ opens =>
    intro o ho
    rw [opens.opportunities]
    exact mem_append_left _ ho
  | walksIn _ _ _ _ opens =>
    intro o ho
    rw [opens.opportunities]
    exact mem_append_left _ ho

theorem Intakes.answered {d d' : Showroom} (hi : Intakes held c answer d d') :
    Answered (.committed c answer d d') d' := by
  cases hi with
  | answers fact =>
    cases c with
    | receiveHandoff w input =>
      cases answer with
      | walkIn outcome => exact fact.elim
      | receipt outcome =>
        cases outcome with
        | received o => exact fact.elim
        | already_received o => exact .inl ⟨o, fact.1, fact.2, .inr rfl⟩
        | not_found => exact .inr ⟨.inl rfl, fact⟩
        | invalid error => exact .inr ⟨.inr ⟨error, rfl⟩, fact⟩
    | openWalkIn w input =>
      cases answer with
      | receipt outcome => exact fact.elim
      | walkIn outcome =>
        cases outcome with
        | opened o => exact fact.elim
        | already_open o => exact .inl ⟨o, fact.1, fact.2, .inr rfl⟩
        | not_found => exact .inr (.inl rfl)
        | invalid error => exact .inr (.inr ⟨error, rfl⟩)
  | @receives w input o _ _ _ handoff _ _ opens =>
    refine .inl ⟨o, ?_, handoff, .inl rfl⟩
    rw [opens.opportunities]
    exact mem_append_right _ (mem_singleton_self o)
  | @walksIn w input o _ _ _ customer _ _ opens =>
    refine .inl ⟨o, ?_, ?_, .inl rfl⟩
    · rw [opens.opportunities]
      exact mem_append_right _ (mem_singleton_self o)
    · rw [← customer.1, ← customer.2]
      exact Opportunity.openFor_self (by rw [opens.stage]; rfl)

theorem Answered.later {e : IntakeEnding} {d d' : Showroom} (h : Answered e d)
    (hkept : ∀ o ∈ d.opportunities, o ∈ d'.opportunities) : Answered e d' := by
  cases e with
  | raised c error => exact h
  | aborted c => exact h
  | committed c answer before after =>
    cases c with
    | openWalkIn w input =>
      cases answer with
      | receipt outcome => exact h
      | walkIn outcome => exact h
    | receiveHandoff w input =>
      cases answer with
      | walkIn outcome => exact h
      | receipt outcome =>
        rcases h with ⟨o, ho, h⟩ | h
        · exact .inl ⟨o, hkept o ho, h⟩
        · exact .inr h

/-- **Intake converges.**  From files in order, in every interleaving of receipts and
walk-ins in which no file comes in from the other side where it is not looked for. -/
theorem walk_ins_converge {db : Showroom} (hdb : Filed db) {events : List (Event IntakeCall)}
    (h : Along (Server.step LotLock.conflicts IntakeCall.program) Uncontested (.fresh db) events) :
    Converges (run (Server.step LotLock.conflicts IntakeCall.program) (.fresh db) events) := by
  have hg := intake_cooperates.guarded hdb h
  have hnodup : (run (Server.step LotLock.conflicts IntakeCall.program) (.fresh db)
      events).committed.opportunities.Nodup := hg.inv.ids.of_map _
  refine ⟨?_, fun x => ?_, fun r p => ?_⟩
  · have hcommitted : ∀ e ∈ (run (Server.step LotLock.conflicts IntakeCall.program) (.fresh db)
        events).history, ∀ c, e ≠ .aborted c := by
      rintro e he c rfl
      exact Contract.not_aborted (P := fun _ => True) (fun _ _ _ hadm _ => hadm.1.elim) h
        (fun _ _ => not_mem_nil) trivial he
    have hnil : ∀ e ∈ ([] : List IntakeEnding), (∀ c, e ≠ .aborted c) → Answered e db :=
      forall_mem_nil _
    have haccount := intake_cooperates.account
      (I := fun es d => ∀ e ∈ es, (∀ c, e ≠ .aborted c) → Answered e d) hdb hnil ?_ h
    · exact fun e he => haccount e he (hcommitted e he)
    · intro es e d d' hes hleads hkeeps e' he' hnot
      cases e with
      | committed c answer before after =>
        obtain ⟨rfl, rfl⟩ := hleads
        obtain ⟨-, -, held, hintakes⟩ := hkeeps
        rcases mem_inserted he' with he' | rfl
        · exact (hes e' he' hnot).later (Intakes.kept hintakes)
        · exact Intakes.answered hintakes
      | raised c error => exact hkeeps.elim
      | aborted c =>
        cases hleads
        rcases mem_append.mp he' with he' | he'
        · exact hes e' he' hnot
        · exact absurd (mem_singleton.mp he') (hnot c)
  · refine length_le_one_of_forall_eq (hnodup.filter _) fun o ho q hq => ?_
    simp only [mem_filter, decide_eq_true_eq] at ho hq
    refine hg.inv.handoffs o ho.1 q hq.1 ?_ (ho.2.trans hq.2.symm)
    rw [ho.2]
    exact nofun
  · refine length_le_one_of_forall_eq (hnodup.filter _) fun o ho q hq => ?_
    rw [mem_filter] at ho hq
    exact hg.inv.files r p o ho.1 q hq.1 ho.2 hq.2

/-! ## A customer with a lead comes by -/

namespace AtTheDoor

def clerk := "c0000000-0000-4000-8000-000000000001"

def world (id : String) : SalesWorld :=
  ⟨⟨fun _ => true, fun _ _ => true⟩, 0, id, "e" ++ id⟩

def customer : Crm.Party :=
  ⟨"p", .person, "Ada", some "Ada", some "Ray", none, none, none, .active, true, 1⟩

def lead (id : String) : Crm.Lead :=
  ⟨id, "r", "p", none, none, .handed_off, none, some clerk, none, "s", none, none, none, none,
    some 0, none, 1⟩

def handoff (id leadId : String) : Crm.LeadHandoff :=
  ⟨id, leadId, ⟨leadId, "r", "p", none, none, "s", some clerk, none, some 0⟩, clerk, clerk⟩

/-- One customer, two leads of theirs handed off, and no file open yet. -/
def doorstep : Showroom :=
  .quiet [customer] [lead "l", lead "m"] [handoff "h" "l", handoff "k" "m"] ⟨[], [], [], [], []⟩

theorem doorstep_filed : Filed doorstep :=
  ⟨nodup_nil, forall_mem_nil _, forall_mem_nil _, fun _ _ => forall_mem_nil _⟩

def receive (id handoffId : String) : Event IntakeCall :=
  .arrive (.receiveHandoff (world id) ⟨clerk, handoffId⟩)

def walkIn (id : String) : Event IntakeCall :=
  .arrive (.openWalkIn (world id) ⟨clerk, "r", "p", none⟩)

abbrev serve : List (Event IntakeCall) → IntakeServer :=
  served LotLock.conflicts IntakeCall.program doorstep

/-- A receipt runs, a second one of the same handoff waits for it, a walk-in of the
customer follows, and then another. -/
def oneFile : List (Event IntakeCall) :=
  [receive "1" "h", receive "2" "h"] ++ List.replicate 3 (.turn 0) ++ [.turn 1] ++
    List.replicate 4 (.turn 0) ++ List.replicate 6 (.turn 1) ++
    walkIn "3" :: List.replicate 6 (.turn 2) ++ walkIn "4" :: List.replicate 6 (.turn 3)

/-- A walk-in is taken, and then the lead of the customer is received. -/
def twoFiles : List (Event IntakeCall) :=
  walkIn "1" :: List.replicate 7 (.turn 0) ++ receive "2" "h" :: List.replicate 6 (.turn 1)

end AtTheDoor

open AtTheDoor in
/-- One receipt opens the file, and the others are answered with it. -/
theorem one_file_converges :
    ((serve oneFile).committed.opportunities.length = 1 ∧ (serve oneFile).history.length = 4) ∧
      Converges (serve oneFile) :=
  ⟨by decide +kernel, walk_ins_converge doorstep_filed (by decide +kernel)⟩

def HasNotRaised : IntakeEnding → Prop
  | .raised .. => False
  | _ => True

theorem Answered.hasNotRaised {e : IntakeEnding} {d : Showroom} (h : Answered e d) :
    HasNotRaised e := by
  cases e with
  | raised c error => exact h
  | committed c answer before after => trivial
  | aborted c => trivial

instance : ∀ e, Decidable (HasNotRaised e)
  | .raised .. => .isFalse id
  | .committed .. | .aborted .. => .isTrue trivial

open AtTheDoor in
/-- A handoff whose customer has walked in cannot be received: the call raises. -/
theorem walked_in_before_receipt :
    ¬ ∀ events : List (Event IntakeCall),
      Along (Server.step LotLock.conflicts IntakeCall.program) Called (.fresh doorstep) events →
        Converges (serve events) := by
  intro h
  have hanswered := (h twoFiles (by decide +kernel)).answered
  have hquiet : ∀ e ∈ (serve twoFiles).history, HasNotRaised e := fun e he =>
    (hanswered e he).hasNotRaised
  exact absurd hquiet (by decide +kernel)

end Dealership.Sales
