import Dealership.Desking.Lifecycle
import Dealership.Jacket.IntakeCalls
import Dealership.Jacket.Lockstep

/-!
# Intake converges

Openers of one file wait for each other, so one that has found no active jacket opens the
first one since.  Two things can come between it and an active jacket.  The version it asks
for may be held by a jacket already: that jacket has been voided, and it is the answer all
the same.  Or an approval may commit while the opener waits for the row of the version it
saw stand: that version no longer does, and the one that does was not in the snapshot.

In every run where neither happens each opener is answered with an active jacket of its
file.  That a file has one active jacket, and that exactly one opener opens one between two
voids, holds of these runs as well.
-/

namespace Dealership.Jacket.Intake

open Library List
open Inventory (LotLock)

variable {rooftopOf : String → String} {held more : List LotLock} {d d' : DealRows}
  {file : String}

/-! ## What the rows say -/

def activeFor (file : String) (j : DealJacket) : Bool :=
  j.desking_case_id = file && j.state ≠ .voided

theorem activeFor_iff {j : DealJacket} :
    activeFor file j = true ↔ j.desking_case_id = file ∧ j.state ≠ .voided := by
  rw [activeFor, Bool.and_eq_true, decide_eq_true_iff, decide_eq_true_iff]

def Active (file : String) (d : DealRows) : Prop :=
  ∃ j ∈ d.cabinet.deal_jackets, activeFor file j = true

def Stands (file : String) (d : DealRows) : Prop :=
  ∃ s ∈ d.desk.desking_scenarios, s.desking_case_id = file ∧ s.state = .approved

theorem mem_standing {s : Desking.Scenario} :
    s ∈ Desking.standingScenarios d.desk file ↔
      s ∈ d.desk.desking_scenarios ∧ s.desking_case_id = file ∧ s.state = .approved := by
  rw [Desking.standingScenarios, mem_filter, decide_eq_true_eq]

theorem activeJacket_some {j : DealJacket} (h : activeJacket file d = some j) :
    j ∈ d.cabinet.deal_jackets ∧ activeFor file j = true := by
  obtain ⟨hmem, hactive⟩ := of_find?_eq_some h
  exact ⟨hmem, activeFor_iff.mpr hactive⟩

theorem activeJacket_none : activeJacket file d = none ↔ ¬ Active file d := by
  rw [activeJacket, find?_eq_none]
  constructor
  · rintro h ⟨j, hj, hactive⟩
    exact h j hj (decide_eq_true (activeFor_iff.mp hactive))
  · intro h j hj hactive
    exact h ⟨j, hj, activeFor_iff.mpr (of_decide_eq_true hactive)⟩

/-- Ids are keys, a jacket is at the rooftop of its file, a file has one active jacket, and a
version that stands was approved. -/
structure Kept (rooftopOf : String → String) (d : DealRows) : Prop where
  jacketIds : (d.cabinet.deal_jackets.map (·.jacket_id)).Nodup
  rooftops : ∀ j ∈ d.cabinet.deal_jackets, j.rooftop_id = rooftopOf j.desking_case_id
  oneActive : ∀ file, ∀ j ∈ d.cabinet.deal_jackets, ∀ k ∈ d.cabinet.deal_jackets,
    activeFor file j = true → activeFor file k = true → j = k
  versionIds : (d.desk.desking_scenarios.map (·.scenario_id)).Nodup
  approvals : ∀ s ∈ d.desk.desking_scenarios, s.state = .approved →
    ∃ a ∈ d.desk.scenario_approvals, a.scenario_id = s.scenario_id ∧ a.decision = .approved

/-- How many items the checklist of a new jacket can have. -/
def OpenWorld.itemCount (w : OpenWorld) : Nat := w.configuration.document_requirements.length

/-- The ids the database draws for the rows an opener writes are new. -/
def OpenWorld.Draws (w : OpenWorld) (d : DealRows) : Prop :=
  (∀ j ∈ d.cabinet.deal_jackets, j.jacket_id ≠ w.newJacketId) ∧
    ∀ n < w.itemCount, ∀ i ∈ d.cabinet.jacket_checklist_items, i.item_id ≠ w.newItemId n

instance (w : OpenWorld) (d : DealRows) : Decidable (w.Draws d) :=
  inferInstanceAs (Decidable (_ ∧ ∀ n < _, ∀ i ∈ d.cabinet.jacket_checklist_items, _))

def IntakeCall.Draws : IntakeCall → DealRows → Prop
  | .openJacket w .., d => w.Draws d
  | _, _ => True

/-! ## What a commit does -/

def IntakeCall.Says : IntakeCall → IntakeAnswer → Prop
  | .openJacket _ _ file, .opening (.already_open j) => activeFor (canonicalUuid file) j = true
  | .voidJacket .., .move (.moved _) => False
  | .voidJacket .., .move _ => True
  | .decideScenario .., .decision _ => True
  | _, _ => False

/-- A jacket is opened: the first active one of its file, under new ids. -/
structure Opens (rooftopOf : String → String) (held : List LotLock) (w : OpenWorld)
    (file : String) (j : DealJacket) (d d' : DealRows) : Prop where
  key : intakeKey file ∈ held
  none : ¬ Active file d
  case : j.desking_case_id = file
  rooftop : j.rooftop_id = rooftopOf file
  state : j.state = .open
  id : j.jacket_id = w.newJacketId
  draws : w.Draws d
  jackets : d'.cabinet.deal_jackets = d.cabinet.deal_jackets ++ [j]
  items : ∀ i ∈ d'.cabinet.jacket_checklist_items, i ∈ d.cabinet.jacket_checklist_items ∨
    ∃ n < w.itemCount, i.item_id = w.newItemId n
  desk : d'.desk = d.desk

/-- A jacket is voided, and no other row of a jacket is touched. -/
structure Voids (held : List LotLock) (j : DealJacket) (d d' : DealRows) : Prop where
  row : jacketRow j.jacket_id ∈ held
  mem : j ∈ d.cabinet.deal_jackets
  state : j.state ≠ .voided
  ids : d'.cabinet.deal_jackets.map (·.jacket_id) = d.cabinet.deal_jackets.map (·.jacket_id)
  kept : ∀ r ∈ d.cabinet.deal_jackets, r.jacket_id ≠ j.jacket_id → r ∈ d'.cabinet.deal_jackets
  jackets : ∀ r ∈ d'.cabinet.deal_jackets,
    (r ∈ d.cabinet.deal_jackets ∧ r.jacket_id ≠ j.jacket_id) ∨ r = j.moved .voided
  items : d'.cabinet.jacket_checklist_items = d.cabinet.jacket_checklist_items
  desk : d'.desk = d.desk

/-- A version is decided: its file has an approved version if it had one. -/
structure Decides (held : List LotLock) (d d' : DealRows) : Prop where
  ids : d'.desk.desking_scenarios.map (·.scenario_id) =
    d.desk.desking_scenarios.map (·.scenario_id)
  kept : ∀ s ∈ d.desk.desking_scenarios, versionRow s.scenario_id ∉ held →
    s ∈ d'.desk.desking_scenarios
  approvals : ∀ s ∈ d'.desk.desking_scenarios, s.state = .approved →
    ∃ a ∈ d'.desk.scenario_approvals, a.scenario_id = s.scenario_id ∧ a.decision = .approved
  stands : ∀ file, Stands file d → Stands file d'
  cabinet : d'.cabinet = d.cabinet

/-- What a commit that held `held` did to the rows. -/
inductive Intakes (rooftopOf : String → String) (held : List LotLock) :
    IntakeCall → IntakeAnswer → DealRows → DealRows → Prop where
  | answers {c : IntakeCall} {answer : IntakeAnswer} {d : DealRows} (fact : c.Says answer) :
      Intakes rooftopOf held c answer d d
  | opens {w : OpenWorld} {actor file : String} {j : DealJacket} {d d' : DealRows}
      (spelled : canonicalUuid file = file) (opens : Opens rooftopOf held w file j d d') :
      Intakes rooftopOf held (.openJacket w actor file) (.opening (.opened j)) d d'
  | voids {w : JacketWorld} {input : VoidJacketInput} {j : DealJacket} {d d' : DealRows}
      (voids : Voids held j d d') :
      Intakes rooftopOf held (.voidJacket w input) (.move (.moved (j.moved .voided))) d d'
  | decides {w : Desking.DeskWorld} {input : Desking.DecideInput}
      {out : Desking.DecisionOutcome} {d d' : DealRows} (decides : Decides held d d') :
      Intakes rooftopOf held (.decideScenario w input) (.decision out) d d'

variable {c : IntakeCall} {answer : IntakeAnswer}

theorem Kept.opens {w : OpenWorld} {j : DealJacket} (h : Kept rooftopOf d)
    (ho : Opens rooftopOf held w file j d d') : Kept rooftopOf d' := by
  refine ⟨?_, ?_, ?_, ho.desk ▸ h.versionIds, ho.desk ▸ h.approvals⟩
  · rw [ho.jackets]
    exact nodup_key_insert h.jacketIds fun r hr => ho.id ▸ ho.draws.1 r hr
  · rw [ho.jackets]
    intro r hr
    rcases mem_inserted hr with hr | rfl
    · exact h.rooftops r hr
    · rw [ho.rooftop, ho.case]
  · rw [ho.jackets]
    have hfirst : ∀ x, ∀ r ∈ d.cabinet.deal_jackets, activeFor x r = true →
        ¬ activeFor x j = true := by
      intro x r hr hactive hj
      obtain rfl := ho.case.symm.trans (activeFor_iff.mp hj).1
      exact ho.none ⟨r, hr, hactive⟩
    intro x r hr k hk hra hka
    rcases mem_inserted hr with hr | rfl
    · rcases mem_inserted hk with hk | rfl
      · exact h.oneActive x r hr k hk hra hka
      · exact absurd hka (hfirst x r hr hra)
    · rcases mem_inserted hk with hk | rfl
      · exact absurd hra (hfirst x k hk hka)
      · rfl

theorem Voids.active_of {x : String} {j r : DealJacket} (hv : Voids held j d d')
    (hr : r ∈ d'.cabinet.deal_jackets) (hactive : activeFor x r = true) :
    r ∈ d.cabinet.deal_jackets ∧ r.jacket_id ≠ j.jacket_id := by
  rcases hv.jackets r hr with hr | rfl
  · exact hr
  · exact absurd rfl (activeFor_iff.mp hactive).2

theorem Kept.voids {j : DealJacket} (h : Kept rooftopOf d) (hv : Voids held j d d') :
    Kept rooftopOf d' := by
  refine ⟨hv.ids ▸ h.jacketIds, fun r hr => ?_, fun x r hr k hk hra hka => ?_,
    hv.desk ▸ h.versionIds, hv.desk ▸ h.approvals⟩
  · rcases hv.jackets r hr with ⟨hr, -⟩ | rfl
    · exact h.rooftops r hr
    · exact h.rooftops j hv.mem
  · exact h.oneActive x r (hv.active_of hr hra).1 k (hv.active_of hk hka).1 hra hka

theorem Kept.decides (h : Kept rooftopOf d) (hd : Decides held d d') : Kept rooftopOf d' :=
  ⟨hd.cabinet ▸ h.jacketIds, hd.cabinet ▸ h.rooftops, hd.cabinet ▸ h.oneActive,
    hd.ids ▸ h.versionIds, hd.approvals⟩

/-! ## The contract of intake -/

/-- What a transaction relies on: no jacket of its file is opened while it holds the advisory
key, the rows it has locked stay, a file with an approved version has one, and its own ids
stay new. -/
structure Steady (c : IntakeCall) (held : List LotLock) (d d' : DealRows) : Prop where
  inactive : ∀ file, intakeKey file ∈ held → ¬ Active file d → ¬ Active file d'
  jacket : ∀ j ∈ d.cabinet.deal_jackets, jacketRow j.jacket_id ∈ held →
    j ∈ d'.cabinet.deal_jackets
  version : ∀ s ∈ d.desk.desking_scenarios, versionRow s.scenario_id ∈ held →
    s ∈ d'.desk.desking_scenarios
  stands : ∀ file, Stands file d → Stands file d'
  own : c.Draws d → c.Draws d'

theorem Steady.refl (c : IntakeCall) (held : List LotLock) (d : DealRows) : Steady c held d d :=
  ⟨fun _ _ h => h, fun _ h _ => h, fun _ h _ => h, fun _ h => h, fun h => h⟩

theorem Steady.trans {a b e : DealRows} (hab : Steady c held a b) (hbe : Steady c held b e) :
    Steady c held a e where
  inactive := fun x hx h => hbe.inactive x hx (hab.inactive x hx h)
  jacket := fun j hj hrow => hbe.jacket j (hab.jacket j hj hrow) hrow
  version := fun s hs hrow => hbe.version s (hab.version s hs hrow) hrow
  stands := fun x h => hbe.stands x (hab.stands x h)
  own := fun h => hbe.own (hab.own h)

theorem Steady.mono {a b : DealRows} (hsub : ∀ k ∈ held, k ∈ more) (h : Steady c more a b) :
    Steady c held a b where
  inactive := fun x hx => h.inactive x (hsub _ hx)
  jacket := fun j hj hrow => h.jacket j hj (hsub _ hrow)
  version := fun s hs hrow => h.version s hs (hsub _ hrow)
  stands := h.stands
  own := h.own

/-- A version an opener has seen stand still does, and no jacket holds it. -/
def IntakeCall.Finds (c : IntakeCall) (held : List LotLock) (d : DealRows) : Prop :=
  match c with
  | .openJacket _ _ file => ∀ id ∈ snapshot held,
    id ∈ (Desking.standingScenarios d.desk (canonicalUuid file)).map (·.scenario_id) ∧
      holderOf id d = none
  | _ => True

instance : ∀ (c : IntakeCall) (held : List LotLock) (d : DealRows), Decidable (c.Finds held d)
  | .openJacket .., held, _ => inferInstanceAs (Decidable (∀ id ∈ snapshot held, _ ∧ _ = _))
  | .voidJacket .., _, _ | .decideScenario .., _, _ => .isTrue trivial

def IntakeCall.MayRaise : IntakeCall → Prop
  | .openJacket .. => False
  | _ => True

def intake (rooftopOf : String → String) :
    Contract IntakeCall DealRows LotLock Raise IntakeAnswer where
  inv := Kept rooftopOf
  rely := Steady
  finds := IntakeCall.Finds
  ensures := fun c held => Intakes rooftopOf held c
  mayRaise := fun c _ => c.MayRaise

theorem intake_regular (c : IntakeCall) : (intake rooftopOf).Regular c :=
  ⟨Steady.refl c, fun _ _ _ _ => Steady.trans, fun _ _ _ _ hsub => Steady.mono hsub⟩

instance {w : JacketWorld} {input : VoidJacketInput} :
    (intake rooftopOf).Tolerant (.voidJacket w input) := ⟨fun _ => trivial⟩

instance {w : Desking.DeskWorld} {input : Desking.DecideInput} :
    (intake rooftopOf).Tolerant (.decideScenario w input) := ⟨fun _ => trivial⟩

/-! ## An opener -/

/-- An opener by someone who works the rooftop of the file and writes its id the way the
database does, with what the database provides: the rows of the file and its rooftop, a clock
that can be read and distinct ids. -/
@[mk_iff]
structure Attends (rooftopOf : String → String) (w : OpenWorld) (actor file : String) : Prop where
  spelled : canonicalUuid file = file
  known : w.access.knows actor = true
  works : w.access.reaches actor (rooftopOf file) = true
  deskFile : ∃ f ∈ w.sources.desking_cases.find? fun c => c.desking_case_id = file,
    f.rooftop_id = rooftopOf file
  rooftop : (w.sources.rooftops.find? fun r => r.rooftop_id = rooftopOf file).isSome = true
  clock : (w.timestamptz w.clock).isSome = true
  items : ((range w.itemCount).map w.newItemId).Nodup

theorem requirements_length_le (w : OpenWorld) (scope : ResolutionScope) :
    (resolveConfigurationWithin w.configuration scope).requirements.length ≤ w.itemCount := by
  rw [resolveConfigurationWithin, length_insertionSort, Entries.values, length_map]
  exact Nat.le_trans (length_pick_le _ _ _) (length_filter_le _ _)

abbrev opening (rooftopOf : String → String) :
    Contract IntakeCall DealRows LotLock Raise OpenJacketOutcome :=
  (intake rooftopOf).onAnswers .opening

section Opener

variable {w : OpenWorld} {actor : String}

theorem getApproved_sound {g : Option ApprovedDeskingVersion → IntakeWork OpenJacketOutcome}
    {f : DeskFile} (hspelled : canonicalUuid file = file)
    (hfile : (w.sources.desking_cases.find? fun c => c.desking_case_id = file) = some f)
    (hstands : Stands file d)
    (h : ∀ fact held' d', fact.deskingCase = f → (∀ k ∈ held, k ∈ held') →
      seen fact.scenario.scenario_id ∈ held' → Steady (.openJacket w actor file) held d d' →
        (opening rooftopOf).Sound (.openJacket w actor file) (g (some fact)) held'
          (fun x => x) d') :
    (opening rooftopOf).Sound (.openJacket w actor file)
      (getApprovedDeskingVersionWithin w file >>= g) held (fun x => x) d := by
  rw [getApprovedDeskingVersionWithin, hfile]
  dsimp only
  rw [Script.bind_assoc]
  refine sound_selectLocking_bind fun d₁ held₁ hsub₁ hlocks₁ hr₁ _ _ => ?_
  rw [Script.bind_assoc]
  refine sound_selectLocking_bind fun d₂ held₂ hsub₂ hlocks₂ hr₂ _ hf₂ => ?_
  -- what stood in the snapshot stands when its row is locked
  obtain ⟨t, ht, hcase, happroved⟩ := hr₁.stands file hstands
  have hseen : ∀ s ∈ Desking.standingScenarios d₁.desk file, seen s.scenario_id ∈ held₁ :=
    fun s hs => hlocks₁ _ (mem_map.mpr ⟨s, hs, rfl⟩)
  have ht₁ : t ∈ Desking.standingScenarios d₁.desk file := mem_standing.mpr ⟨ht, hcase, happroved⟩
  have hfound := (hf₂ _ (mem_snapshot (hseen t ht₁))).1
  rw [hspelled] at hfound
  obtain ⟨s, hs, hid⟩ := mem_map.mp hfound
  have hkept : s ∈ (Desking.standingScenarios d₂.desk file).filter fun s =>
      s.scenario_id ∈ (Desking.standingScenarios d₁.desk file).map (·.scenario_id) :=
    mem_filter.mpr ⟨hs, decide_eq_true (mem_map.mpr ⟨t, ht₁, hid.symm⟩)⟩
  obtain ⟨scenario, rest, hlocked⟩ := exists_cons_of_ne_nil (ne_nil_of_mem hkept)
  rw [hlocked]
  have hscenario : scenario ∈ (Desking.standingScenarios d₂.desk file).filter fun s =>
      s.scenario_id ∈ (Desking.standingScenarios d₁.desk file).map (·.scenario_id) :=
    hlocked ▸ mem_cons_self
  obtain ⟨hstanding, hstood⟩ := mem_filter.mp hscenario
  have hstood := of_decide_eq_true hstood
  have hrow : versionRow scenario.scenario_id ∈ held₂ := hlocks₂ _ (mem_map.mpr ⟨_, hstood, rfl⟩)
  obtain ⟨hmem, -, hstate⟩ := mem_standing.mp hstanding
  obtain ⟨t', ht', hid'⟩ := mem_map.mp hstood
  have hmark : seen scenario.scenario_id ∈ held₂ := hid' ▸ hsub₂ _ (hseen t' ht')
  dsimp only
  rw [Script.bind_assoc]
  refine sound_select_bind fun d₃ hr₃ hi₃ _ => ?_
  obtain ⟨a, ha, hof, hdecision⟩ := hi₃.approvals scenario (hr₃.version _ hmem hrow) hstate
  cases happroval : (w.sourcesAt d₃.desk).scenario_approvals.find? fun a =>
      a.scenario_id = scenario.scenario_id ∧ a.decision = .approved with
  | none =>
    rw [find?_eq_none] at happroval
    exact absurd (decide_eq_true ⟨hof, hdecision⟩) (happroval _ (mem_map.mpr ⟨a, ha, rfl⟩))
  | some approval =>
    dsimp only
    rw [Script.bind_assoc]
    refine sound_select_bind fun d₄ hr₄ _ _ => ?_
    have hsub : ∀ k ∈ held, k ∈ held₂ := fun k hk => hsub₂ _ (hsub₁ k hk)
    exact h _ held₂ d₄ rfl hsub hmark (hr₁.trans ((hr₂.mono hsub₁).trans
      ((hr₃.mono hsub).trans (hr₄.mono hsub))))

/-- What an opener has written so far: its jacket, and the first items of the checklist. -/
structure Written (w : OpenWorld) (j : DealJacket) (n : Nat) (d d' : DealRows) : Prop where
  jackets : d'.cabinet.deal_jackets = d.cabinet.deal_jackets ++ [j]
  items : ∀ i ∈ d'.cabinet.jacket_checklist_items, i ∈ d.cabinet.jacket_checklist_items ∨
    ∃ m < n, i.item_id = w.newItemId m
  desk : d'.desk = d.desk

theorem insertItems_sound {j : DealJacket} {rs : List Requirement} {n : Nat}
    {pending : DealRows → DealRows} {g : Unit → IntakeWork OpenJacketOutcome}
    (hdistinct : ((range w.itemCount).map w.newItemId).Nodup) (hn : n + rs.length ≤ w.itemCount)
    (hpending : ∀ x, Written w j n x (pending x)) (hdraws : w.Draws d)
    (h : ∀ held' pending' d', (∀ k ∈ held, k ∈ held') →
      (∀ x, Written w j w.itemCount x (pending' x)) →
        Steady (.openJacket w actor file) held d d' →
          (opening rooftopOf).Sound (.openJacket w actor file) (g ()) held' pending' d') :
    (opening rooftopOf).Sound (.openJacket w actor file)
      (insertItems ((rs.zipIdx n).map fun r => r.1.item j.jacket_id (w.newItemId r.2)) >>= g)
      held pending d := by
  induction rs generalizing n held pending d with
  | nil =>
    refine h held pending d (fun _ hk => hk) (fun x => ?_) (.refl _ _ _)
    obtain ⟨hjackets, hitems, hdesk⟩ := hpending x
    refine ⟨hjackets, fun i hi => (hitems i hi).imp_right ?_, hdesk⟩
    rintro ⟨m, hm, hid⟩
    exact ⟨m, Nat.lt_of_lt_of_le hm hn, hid⟩
  | cons r rs ih =>
    rw [length_cons] at hn
    have hlt : n < w.itemCount := by omega
    rw [zipIdx_cons, map_cons, insertItems, Script.bind_assoc]
    refine sound_execute_bind_of ?_ ?_
    · intro d₁ held₁ hsub₁ _ hr₁ _ _ _
      refine ih (n := n + 1) (by omega) (fun x => ?_) (hr₁.own hdraws) ?_
      · obtain ⟨hjackets, hitems, hdesk⟩ := hpending x
        split
        · refine ⟨hjackets, fun i hi => (hitems i hi).imp_right ?_, hdesk⟩
          rintro ⟨m, hm, hid⟩
          exact ⟨m, Nat.lt_succ_of_lt hm, hid⟩
        · refine ⟨hjackets, fun i hi => ?_, hdesk⟩
          rcases mem_inserted hi with hi | rfl
          · refine (hitems i hi).imp_right ?_
            rintro ⟨m, hm, hid⟩
            exact ⟨m, Nat.lt_succ_of_lt hm, hid⟩
          · exact .inr ⟨n, Nat.lt_succ_self n, rfl⟩
      · intro held' pending' d' hsub hp hr
        exact h held' pending' d' (fun k hk => hsub k (hsub₁ k hk)) hp (hr₁.trans (hr.mono hsub₁))
    · intro d₁ hr₁ _ _ hrefused
      -- the id is new: among the committed items, and among those of this checklist
      have hnew : ((pending d₁).cabinet.jacket_checklist_items.all fun q =>
          q.item_id ≠ w.newItemId n) = true := by
        refine all_eq_true.mpr fun i hi => decide_eq_true fun hid => ?_
        rcases (hpending d₁).items i hi with hi | ⟨m, hm, hid'⟩
        · exact (hr₁.own hdraws).2 n hlt i hi hid
        · have heq : m = n := inj_on_of_nodup_map hdistinct
            (mem_range.mpr (Nat.lt_trans hm hlt)) (mem_range.mpr hlt) (hid'.symm.trans hid)
          exact Nat.lt_irrefl n (heq ▸ hm)
      have hall := (Bool.or_eq_false_iff.mp hrefused).2
      rw [show ((r, n).1.item j.jacket_id (w.newItemId (r, n).2)).item_id = w.newItemId n from rfl,
        hnew] at hall
      cases hall

theorem bindJacket_sound {fact : ApprovedDeskingVersion} (ha : Attends rooftopOf w actor file)
    (hcase : fact.deskingCase.desking_case_id = file)
    (hrooftop : fact.deskingCase.rooftop_id = rooftopOf file) (hkey : intakeKey file ∈ held)
    (hseen : seen fact.scenario.scenario_id ∈ held) (hnone : ¬ Active file d) (hdraws : w.Draws d) :
    (opening rooftopOf).Sound (.openJacket w actor file) (bindJacket w actor fact) held
      (fun x => x) d := by
  obtain ⟨rooftop, hfind⟩ := Option.isSome_iff_exists.mp ha.rooftop
  obtain ⟨instant, hclock⟩ := Option.isSome_iff_exists.mp ha.clock
  have hcast : w.cast w.clock = .ok instant := by
    rw [JacketWorld.cast, hclock]
    rfl
  rw [bindJacket, hrooftop, hfind]
  dsimp only
  generalize hj : jacketOf w.toJacketWorld actor rooftop.legal_entity_id fact = j
  have hof : j.desking_case_id = file := by rw [← hj, ← hcase]; rfl
  have hversion : j.approved_scenario_id = fact.scenario.scenario_id := by rw [← hj]; rfl
  have hid : j.jacket_id = w.newJacketId := by rw [← hj]; rfl
  have hat : j.rooftop_id = rooftopOf file := by rw [← hj, ← hrooftop]; rfl
  have hstate : j.state = .open := by rw [← hj]; rfl
  have hfree : ∀ {d' : DealRows}, (IntakeCall.openJacket w actor file).Finds held d' →
      holderOf j.approved_scenario_id d' = none := by
    intro d' hf
    rw [hversion]
    exact (hf _ (mem_snapshot hseen)).2
  refine sound_execute_bind_of ?_ ?_
  · intro d₁ held₁ hsub₁ _ hr₁ _ hf₁ _
    rw [hfree hf₁]
    simp only [Option.isNone_none, Option.isSome_none, Bool.false_eq_true, if_true, if_false]
    rw [resolveChecklist, hcast]
    dsimp only
    refine insertItems_sound (n := 0) ha.items ?_ (fun x => ?_) (hr₁.own hdraws) ?_
    · rw [Nat.zero_add]
      exact requirements_length_le w _
    · refine ⟨rfl, fun i hi => .inl hi, rfl⟩
    · intro held' pending' d' hsub hp hr
      have hkey' := hsub _ (hsub₁ _ hkey)
      intro d'' hr'' hi'' _
      have hsteady := hr₁.trans ((hr.trans (hr''.mono hsub)).mono hsub₁)
      obtain ⟨hjackets, hitems, hdesk⟩ := hp d''
      have hopens : Opens rooftopOf held' w file j d'' (pending' d'') :=
        ⟨hkey', hsteady.inactive file hkey hnone, hof, hat, hstate, hid, hsteady.own hdraws,
          hjackets, hitems, hdesk⟩
      exact ⟨hi''.opens hopens, .opens ha.spelled hopens⟩
  · intro d₁ hr₁ _ hf₁ hrefused
    -- nobody holds the version, nobody has opened the file, and the id is new
    have hactive : activeJacket j.desking_case_id d₁ = none := by
      rw [hof]
      exact activeJacket_none.mpr (hr₁.inactive file hkey hnone)
    have hnew : (d₁.cabinet.deal_jackets.all fun r => r.jacket_id ≠ j.jacket_id) = true := by
      rw [hid]
      exact all_eq_true.mpr fun r hr => decide_eq_true ((hr₁.own hdraws).1 r hr)
    rw [hactive, hnew, Option.isNone_none, Bool.and_self, Bool.or_true] at hrefused
    cases hrefused

theorem openJacketWithin_sound (ha : Attends rooftopOf w actor file) (hstands : Stands file d)
    (hdraws : w.Draws d) :
    (opening rooftopOf).Sound (.openJacket w actor file) (openJacketWithin w actor file) []
      (fun x => x) d := by
  rw [openJacketWithin, actorWithin, requireActor_of_knows ha.known, ha.spelled]
  refine sound_selectLocking_bind fun d₁ held₁ _ hlocks₁ hr₁ _ _ => ?_
  have hkey : intakeKey file ∈ held₁ := hlocks₁ _ mem_cons_self
  dsimp only
  refine sound_select_bind fun d₂ hr₂ hi₂ _ => ?_
  cases hactive : activeJacket file d₂ with
  | some already =>
    obtain ⟨hmem, hof⟩ := activeJacket_some hactive
    dsimp only
    rw [hi₂.rooftops already hmem, (activeFor_iff.mp hof).1, if_pos ha.works]
    intro d' _ hi' _
    refine ⟨hi', .answers ?_⟩
    rw [IntakeCall.Says, ha.spelled]
    exact hof
  | none =>
    dsimp only
    obtain ⟨f, hf, hat⟩ := ha.deskFile
    refine getApproved_sound ha.spelled hf (hr₂.stands file (hr₁.stands file hstands)) ?_
    intro fact held₃ d₃ hfact hsub₃ hseen hr₃
    have hrooftop : fact.deskingCase.rooftop_id = rooftopOf file := hfact ▸ hat
    dsimp only
    rw [hrooftop, if_pos ha.works]
    refine bindJacket_sound ha ?_ hrooftop (hsub₃ _ hkey) hseen
      (hr₃.inactive file hkey (activeJacket_none.mp hactive))
      (hr₃.own (hr₂.own (hr₁.own hdraws)))
    rw [hfact]
    exact (of_find?_eq_some hf).2

end Opener

/-! ## A void -/

/-- A statement that touches no jacket, no checklist and no row of the desk. -/
structure Spares (d d' : DealRows) : Prop where
  jackets : d'.cabinet.deal_jackets = d.cabinet.deal_jackets
  items : d'.cabinet.jacket_checklist_items = d.cabinet.jacket_checklist_items
  desk : d'.desk = d.desk

theorem Spares.refl (d : DealRows) : Spares d d := ⟨rfl, rfl, rfl⟩

theorem Spares.trans {a b e : DealRows} (hab : Spares a b) (hbe : Spares b e) : Spares a e :=
  ⟨hbe.jackets.trans hab.jackets, hbe.items.trans hab.items, hbe.desk.trans hab.desk⟩

theorem voidWithJacket_spares (reason : String) (p : Package) :
    (voidWithJacket reason p).Writes Spares := by
  refine (writes_execute ?_ _ _ _ _).bind fun _ => writes_execute ?_ _ _ _ _
  · exact fun _ d => ⟨rfl, rfl, rfl⟩
  · intro _ d
    obtain ⟨ev, hceremony⟩ := voidCeremonyOfPackageWithin_eq p.package_id d.cabinet
    rw [hceremony]
    exact ⟨rfl, rfl, rfl⟩

theorem voidEach_spares (reason : String) (ps : List Package) :
    (voidEach reason ps).Writes Spares := by
  induction ps with
  | nil => exact writes_pure ()
  | cons p ps ih => exact (voidWithJacket_spares reason p).bind fun _ => ih

abbrev voiding (rooftopOf : String → String) :
    Contract IntakeCall DealRows LotLock Raise JacketMoveOutcome :=
  (intake rooftopOf).onAnswers .move

section Void

variable {w : JacketWorld} {input : VoidJacketInput}

theorem sound_unmoved {out : JacketMoveOutcome} (h : ∀ j, out ≠ .moved j) :
    (voiding rooftopOf).Sound (.voidJacket w input) (pure out) held (fun x => x) d := by
  intro d' _ hi _
  refine ⟨hi, .answers ?_⟩
  cases out with
  | moved j => exact absurd rfl (h j)
  | already_there | version_conflict | invalid | not_found => trivial

theorem voids_moved {j : DealJacket} (hi : Kept rooftopOf d) (hrow : jacketRow j.jacket_id ∈ held)
    (hj : j ∈ d.cabinet.deal_jackets) (hstate : j.state ≠ .voided) (hread : isRead input j j = true)
    (hdesk : d'.desk = d.desk)
    (hitems : d'.cabinet.jacket_checklist_items = d.cabinet.jacket_checklist_items)
    (hmoved : d'.cabinet.deal_jackets = updateWhere (fun r => isRead input j r = true)
      (DealJacket.moved .voided) d.cabinet.deal_jackets) : Voids held j d d' := by
  have hof : ∀ r ∈ d.cabinet.deal_jackets, isRead input j r = true → r = j := by
    intro r hr hhere
    rw [isRead, Bool.and_eq_true, decide_eq_true_eq] at hhere
    exact eq_of_key hi.jacketIds hr hj hhere.1
  refine ⟨hrow, hj, hstate, ?_, fun r hr hne => ?_, fun r hr => ?_, hitems, hdesk⟩
  · rw [hmoved]
    exact map_updateWhere fun _ _ => rfl
  · rw [hmoved]
    exact mem_updateWhere_of_neg hr fun hhere => hne (congrArg _ (hof r hr hhere))
  · rw [hmoved] at hr
    rcases updateWhere_cases hr with ⟨hr, hnot⟩ | ⟨k, hk, hhere, rfl⟩
    · refine .inl ⟨hr, fun hid => hnot ?_⟩
      rw [eq_of_key hi.jacketIds hr hj hid]
      exact hread
    · rw [hof k hk hhere]
      exact .inr rfl

theorem voidJacket_sound (d : DealRows) :
    (voiding rooftopOf).Sound (.voidJacket w input) (Intake.voidJacket w input) []
      (fun x => x) d := by
  rw [Intake.voidJacket, actorWithin]
  cases hactor : requireActor w.access input.actingUserLinkId with
  | error e => exact trivial
  | ok actor =>
    refine sound_selectLocking_bind fun d₁ held₁ _ hlocks₁ hr₁ _ _ => ?_
    have hlock : jacketRow input.jacketId ∈ held₁ := hlocks₁ _ mem_cons_self
    cases hfound : requireJacketWithin w d₁.cabinet actor input.jacketId with
    | none => exact sound_unmoved fun _ => JacketMoveOutcome.noConfusion
    | some jacket =>
      obtain ⟨hmem, hid⟩ := of_requireJacketWithin hfound
      dsimp only
      split
      · exact sound_unmoved fun _ => JacketMoveOutcome.noConfusion
      cases hrefusal : input.refusal jacket with
      | some out => exact sound_unmoved (VoidJacketInput.refusal_unmoved hrefusal)
      | none =>
        obtain ⟨hstate, hversion⟩ := VoidJacketInput.refusal_none hrefusal
        have hread : isRead input jacket jacket = true := by
          rw [isRead, hversion, decide_eq_true rfl, decide_eq_true rfl]
          rfl
        dsimp only
        refine sound_selectLocking_bind fun d₂ held₂ hsub₂ _ hr₂ _ _ => ?_
        refine Contract.Sound.past_writes (κ := voiding rooftopOf) (c := .voidJacket w input)
          (Q := Spares) (fun _ _ _ => Spares.trans) (intake_regular _).onAnswers (fun _ => trivial)
          (voidEach_spares _ _) Spares.refl ?_
        intro _ held₃ pending d₃ hsub₃ hspares hr₃
        have hrow : jacketRow jacket.jacket_id ∈ held₁ := hid ▸ hlock
        refine sound_execute_bind fun d₄ held₄ hsub₄ _ hr₄ _ _ _ => ?_
        have hfrom : ∀ {d' : DealRows}, Steady (.voidJacket w input) held₃ d₃ d' →
            jacket ∈ d'.cabinet.deal_jackets := fun hr =>
          (hr₂.trans ((hr₃.trans (hr.mono hsub₃)).mono hsub₂)).jacket jacket hmem hrow
        -- the row is as it was read, so the update finds it
        have hany : (pending d₄).cabinet.deal_jackets.any (isRead input jacket) = true := by
          rw [(hspares d₄).jackets]
          exact any_eq_true.mpr ⟨jacket, hfrom hr₄, hread⟩
        rw [hany, if_pos rfl]
        intro d' hr hi _
        have hmoved : Voids held₄ jacket d' { pending d' with cabinet := { (pending d').cabinet with
            deal_jackets := updateWhere (fun r => isRead input jacket r = true)
              (DealJacket.moved .voided) (pending d').cabinet.deal_jackets } } :=
          voids_moved hi (hsub₄ _ (hsub₃ _ (hsub₂ _ hrow))) (hfrom (hr₄.trans (hr.mono hsub₄)))
            hstate hread (hspares d').desk (hspares d').items (by rw [← (hspares d').jackets])
        exact ⟨hi.voids hmoved, .voids hmoved⟩

end Void

/-! ## A decision -/

/-- Statements that supersede the versions named and touch no other. -/
structure Supersedes (ids : List String) (d d' : DealRows) : Prop where
  versionIds : d'.desk.desking_scenarios.map (·.scenario_id) =
    d.desk.desking_scenarios.map (·.scenario_id)
  kept : ∀ s ∈ d.desk.desking_scenarios, s.scenario_id ∉ ids → s ∈ d'.desk.desking_scenarios
  standing : ∀ s ∈ d'.desk.desking_scenarios, s.state = .approved →
    s ∈ d.desk.desking_scenarios
  approvals : d'.desk.scenario_approvals = d.desk.scenario_approvals
  cabinet : d'.cabinet = d.cabinet

variable {ids : List String}

theorem Supersedes.refl (ids : List String) (d : DealRows) : Supersedes ids d d :=
  ⟨rfl, fun _ h _ => h, fun _ h _ => h, rfl, rfl⟩

theorem Supersedes.trans {a b e : DealRows} (hab : Supersedes ids a b)
    (hbe : Supersedes ids b e) : Supersedes ids a e where
  versionIds := hbe.versionIds.trans hab.versionIds
  kept := fun s hs hnot => hbe.kept s (hab.kept s hs hnot) hnot
  standing := fun s hs hstate => hab.standing s (hbe.standing s hs hstate) hstate
  approvals := hbe.approvals.trans hab.approvals
  cabinet := hbe.cabinet.trans hab.cabinet

theorem supersedeStanding_writes (actor : String) (scenario : Desking.Scenario)
    {s : Desking.Scenario} (hs : s.scenario_id ∈ ids) :
    (supersedeStanding actor scenario s).Writes (Supersedes ids) := by
  refine (writes_execute ?_ _ _ _ _).bind fun _ => writes_execute ?_ _ _ _ _
  · intro _ d
    refine ⟨map_updateWhere fun _ _ => rfl, fun r hr hnot => ?_, fun r hr hstate => ?_, rfl, rfl⟩
    · refine mem_updateWhere_of_neg hr fun hid => hnot ?_
      rw [of_decide_eq_true hid]
      exact hs
    · rcases updateWhere_cases hr with ⟨hr, -⟩ | ⟨k, -, -, rfl⟩
      · exact hr
      · cases hstate
  · exact fun _ d => ⟨rfl, fun _ h _ => h, fun _ h _ => h, rfl, rfl⟩

theorem supersedeEach_writes (actor : String) (scenario : Desking.Scenario)
    {ss : List Desking.Scenario} (hss : ∀ s ∈ ss, s.scenario_id ∈ ids) :
    (supersedeEach actor scenario ss).Writes (Supersedes ids) := by
  induction ss with
  | nil => exact writes_pure ()
  | cons s ss ih =>
    exact (supersedeStanding_writes actor scenario (hss s mem_cons_self)).bind fun _ =>
      ih fun t ht => hss t (mem_cons_of_mem _ ht)

abbrev deciding (rooftopOf : String → String) :
    Contract IntakeCall DealRows LotLock Raise Desking.DecisionOutcome :=
  (intake rooftopOf).onAnswers .decision

section Decision

variable {w : Desking.DeskWorld} {input : Desking.DecideInput}

theorem sound_undecided {out : Desking.DecisionOutcome} :
    (deciding rooftopOf).Sound (.decideScenario w input) (pure out) held (fun x => x) d := by
  intro d' _ hi _
  exact ⟨hi, .answers trivial⟩

/-- The versions to be superseded stand for the same file, and their rows are held. -/
def Stood (input : Desking.DecideInput) (scenario : Desking.Scenario) (held : List LotLock)
    (ids : List String) (d : DealRows) : Prop :=
  ∀ id ∈ ids, versionRow id ∈ held ∧ input.decision = .approved ∧
    ∃ s ∈ d.desk.desking_scenarios, s.scenario_id = id ∧ s.state = .approved ∧
      s.desking_case_id = scenario.desking_case_id

section Stood

variable {scenario : Desking.Scenario} (h : Stood input scenario held ids d)

include h

theorem Stood.mono (hsub : ∀ k ∈ held, k ∈ more) : Stood input scenario more ids d :=
  fun id hin => (h id hin).imp_left (hsub _)

theorem Stood.steady (hr : Steady (.decideScenario w input) held d d') :
    Stood input scenario held ids d' := by
  intro id hin
  obtain ⟨hheld, hdecision, s, hs, rfl, happroved, hcase⟩ := h id hin
  exact ⟨hheld, hdecision, s, hr.version s hs hheld, rfl, happroved, hcase⟩

theorem Stood.not_mem (hi : Kept rooftopOf d) (hmem : scenario ∈ d.desk.desking_scenarios)
    (hstate : scenario.state = .submitted) : scenario.scenario_id ∉ ids := by
  intro hin
  obtain ⟨-, -, s, hs, heq, happroved, -⟩ := h _ hin
  rw [eq_of_key hi.versionIds hs hmem heq, hstate] at happroved
  cases happroved

end Stood

theorem decides_of {scenario : Desking.Scenario} {pending : DealRows → DealRows}
    {a : Desking.Approval} (hi : Kept rooftopOf d)
    (hmem : scenario ∈ d.desk.desking_scenarios) (hid : scenario.scenario_id = input.scenarioId)
    (hstate : scenario.state = .submitted) (hreviewed : isReviewed input scenario = true)
    (hlock : versionRow input.scenarioId ∈ held)
    (hstood : Stood input scenario held ids d)
    (hpending : Supersedes ids d (pending d)) (ha : a.scenario_id = input.scenarioId)
    (hdecision : a.decision = input.decision) (hcabinet : d'.cabinet = (pending d).cabinet)
    (happrovals : d'.desk.scenario_approvals = (pending d).desk.scenario_approvals ++ [a])
    (hmoved : d'.desk.desking_scenarios = updateWhere (fun s => isReviewed input s = true)
      (Desking.Scenario.moved input.decision.state) (pending d).desk.desking_scenarios) :
    Decides held d d' := by
  have hsame : ∀ s ∈ d.desk.desking_scenarios, s.scenario_id = input.scenarioId → s = scenario :=
    fun s hs heq => eq_of_key hi.versionIds hs hmem (heq.trans hid.symm)
  have hof : ∀ s, isReviewed input s = true → s.scenario_id = input.scenarioId := by
    intro s hs
    rw [isReviewed, Bool.and_eq_true, decide_eq_true_eq] at hs
    exact hs.1
  have hthere : scenario ∈ (pending d).desk.desking_scenarios :=
    hpending.kept _ hmem (hstood.not_mem hi hmem hstate)
  have huntouched : ∀ s ∈ d.desk.desking_scenarios, s.scenario_id ∉ ids →
      s.scenario_id ≠ input.scenarioId → s ∈ d'.desk.desking_scenarios := by
    intro s hs hnot hne
    rw [hmoved]
    exact mem_updateWhere_of_neg (hpending.kept s hs hnot) fun hhere => hne (hof s hhere)
  refine ⟨?_, fun s hs hnot => ?_, fun s hs happroved => ?_, ?_, hcabinet.trans hpending.cabinet⟩
  · rw [hmoved, ← hpending.versionIds]
    exact map_updateWhere fun _ _ => rfl
  · refine huntouched s hs (fun hin => hnot (hstood _ hin).1) fun heq => hnot ?_
    rw [heq]
    exact hlock
  · rw [happrovals, hpending.approvals]
    rw [hmoved] at hs
    rcases updateWhere_cases hs with ⟨hs, -⟩ | ⟨r, -, hhere, rfl⟩
    · obtain ⟨b, hb, hbof, hbd⟩ := hi.approvals s (hpending.standing s hs happroved) happroved
      exact ⟨b, mem_append_left _ hb, hbof, hbd⟩
    · refine ⟨a, mem_append_right _ (mem_singleton_self a), ?_, ?_⟩
      · rw [ha]
        exact (hof r hhere).symm
      · rw [hdecision]
        change input.decision.state = .approved at happroved
        cases hd : input.decision with
        | approved => rfl
        | rejected =>
          rw [hd] at happroved
          cases happroved
  · rintro x ⟨s, hs, hcase, happroved⟩
    by_cases hin : s.scenario_id ∈ ids
    · obtain ⟨-, hdecided, t, ht, heq, -, htcase⟩ := hstood _ hin
      obtain rfl := eq_of_key hi.versionIds ht hs heq
      refine ⟨scenario.moved input.decision.state, ?_, htcase ▸ hcase, ?_⟩
      · rw [hmoved]
        exact mem_updateWhere_of_pos hthere hreviewed
      · rw [hdecided]
        rfl
    · refine ⟨s, huntouched s hs hin fun heq => ?_, hcase, happroved⟩
      rw [hsame s hs heq, hstate] at happroved
      cases happroved

theorem supersedeFor_sound {actor : String} {scenario : Desking.Scenario}
    {g : Unit → IntakeWork Desking.DecisionOutcome}
    (h : ∀ ids held' pending d', (∀ k ∈ held, k ∈ held') →
      Stood input scenario held' ids d' →
      (∀ x, Supersedes ids x (pending x)) → Steady (.decideScenario w input) held d d' →
        (deciding rooftopOf).Sound (.decideScenario w input) (g ()) held' pending d') :
    (deciding rooftopOf).Sound (.decideScenario w input)
      (supersedeFor input.decision actor scenario >>= g) held (fun x => x) d := by
  cases hdecision : input.decision with
  | rejected =>
    exact h [] held (fun x => x) d (fun _ hk => hk) (forall_mem_nil _) (Supersedes.refl [])
      (.refl _ _ _)
  | approved =>
    rw [supersedeFor, Script.bind_assoc]
    refine sound_selectLocking_bind fun d₁ held₁ hsub₁ hlocks₁ hr₁ _ _ => ?_
    generalize hstanding : Desking.standingScenarios d₁.desk scenario.desking_case_id = standing
    refine Contract.Sound.past_writes (κ := deciding rooftopOf) (c := .decideScenario w input)
      (Q := Supersedes (standing.map (·.scenario_id))) (fun _ _ _ => Supersedes.trans)
      (intake_regular _).onAnswers (fun _ => trivial)
      (supersedeEach_writes actor scenario fun s hs => mem_map.mpr ⟨s, hs, rfl⟩)
      (Supersedes.refl _) ?_
    intro _ held' pending d' hsub hpending hr
    have hstood : Stood input scenario held₁ (standing.map (·.scenario_id)) d₁ := by
      intro id hid
      obtain ⟨s, hs, rfl⟩ := mem_map.mp hid
      rw [← hstanding] at hs
      obtain ⟨hmem, hcase, happroved⟩ := mem_standing.mp hs
      exact ⟨hlocks₁ _ (mem_map.mpr ⟨s, hs, rfl⟩), hdecision, s, hmem, rfl, happroved, hcase⟩
    exact h _ held' pending d' (fun k hk => hsub k (hsub₁ k hk)) ((hstood.steady hr).mono hsub)
      hpending (hr₁.trans (hr.mono hsub₁))

theorem recordDecision_sound {actor : String} {scenario : Desking.Scenario}
    (hmem : scenario ∈ d.desk.desking_scenarios) (hid : scenario.scenario_id = input.scenarioId)
    (hstate : scenario.state = .submitted)
    (hversion : scenario.authorization_version = input.expectedVersion)
    (hlock : versionRow input.scenarioId ∈ held) :
    (deciding rooftopOf).Sound (.decideScenario w input) (recordDecision w input actor scenario)
      held (fun x => x) d := by
  have hreviewed : isReviewed input scenario = true := by
    rw [isReviewed, hid, hversion, decide_eq_true rfl, decide_eq_true rfl]
    rfl
  rw [recordDecision]
  refine supersedeFor_sound fun ids held₁ pending d₁ hsub₁ hstood₁ hpending hr₁ => ?_
  have hlock₁ : versionRow input.scenarioId ∈ held₁ := hsub₁ _ hlock
  have hrow : versionRow scenario.scenario_id ∈ held₁ := hid ▸ hlock₁
  have hmem₁ := hr₁.version _ hmem (hid ▸ hlock)
  refine sound_execute_bind fun d₂ held₂ hsub₂ _ hr₂ _ _ _ => ?_
  refine sound_execute_bind fun d₃ held₃ hsub₃ _ hr₃ hi₃ _ _ => ?_
  have hr₁₃ := hr₂.trans (hr₃.mono hsub₂)
  -- the row is as it was read, so the update finds it
  have hmem₃ := hr₁₃.version _ hmem₁ hrow
  have hthere : scenario ∈ (pending d₃).desk.desking_scenarios :=
    (hpending d₃).kept _ hmem₃ ((hstood₁.steady hr₁₃).not_mem hi₃ hmem₃ hstate)
  cases hfind : (pending d₃).desk.desking_scenarios.find? (isReviewed input) with
  | none =>
    rw [find?_eq_none] at hfind
    exact absurd hreviewed (hfind _ hthere)
  | some row =>
    dsimp only
    refine sound_execute_bind fun d₄ held₄ hsub₄ _ hr₄ _ _ _ => ?_
    refine sound_execute_bind fun d₅ held₅ hsub₅ _ hr₅ _ _ _ => ?_
    intro d' hr hi _
    have hsteady := hr₁₃.trans ((hr₄.trans ((hr₅.trans (hr.mono hsub₅)).mono hsub₄)).mono
      fun k hk => hsub₃ _ (hsub₂ k hk))
    have hheld : ∀ k ∈ held₁, k ∈ held₅ := fun k hk => hsub₅ _ (hsub₄ _ (hsub₃ _ (hsub₂ k hk)))
    suffices hdecides : Decides held₅ d' _ from
      ⟨hi.decides hdecides, .decides hdecides⟩
    refine decides_of (a := input.approval w actor scenario) hi (hsteady.version _ hmem₁ hrow) hid
      hstate hreviewed (hheld _ hlock₁) ((hstood₁.steady hsteady).mono hheld)
      (hpending d') hid rfl rfl ?_ ?_
    · cases input.decision <;> rfl
    · cases input.decision <;> rfl

theorem decideScenario_sound (d : DealRows) :
    (deciding rooftopOf).Sound (.decideScenario w input) (Intake.decideScenario w input) []
      (fun x => x) d := by
  rw [Intake.decideScenario, actorWithin]
  cases hactor : requireActor w.access input.actingUserLinkId with
  | error e => exact trivial
  | ok actor =>
    refine sound_selectLocking_bind fun d₁ held₁ _ hlocks₁ hr₁ _ _ => ?_
    have hlock : versionRow input.scenarioId ∈ held₁ := hlocks₁ _ mem_cons_self
    cases hfound : d₁.desk.desking_scenarios.find? fun s => s.scenario_id = input.scenarioId with
    | none => exact sound_undecided
    | some scenario =>
      obtain ⟨hmem, hid⟩ := of_find?_eq_some hfound
      dsimp only
      refine sound_selectLocking_bind fun d₂ held₂ hsub₂ _ hr₂ _ _ => ?_
      split
      · exact sound_undecided
      refine sound_select_bind fun d₃ hr₃ _ _ => ?_
      split
      · exact sound_undecided
      cases hrefusal : Desking.decisionRefusal w input actor scenario with
      | some out => exact sound_undecided
      | none =>
        obtain ⟨hstate, -, hversion⟩ := Desking.decisionRefusal_eq_none hrefusal
        have hmem₃ := (hr₂.trans (hr₃.mono hsub₂)).version _ hmem (hid ▸ hlock)
        exact recordDecision_sound hmem₃ hid hstate hversion (hsub₂ _ hlock)

end Decision

/-! ## Side by side -/

/-- Two openers draw different ids. -/
def Distinct : IntakeCall → IntakeCall → Prop
  | .openJacket w .., .openJacket v .. => w.newJacketId ≠ v.newJacketId ∧
      ∀ m < w.itemCount, ∀ n < v.itemCount, w.newItemId m ≠ v.newItemId n
  | _, _ => True

theorem Distinct.symm {a b : IntakeCall} (h : Distinct a b) : Distinct b a := by
  cases a with
  | openJacket w actor file =>
    cases b with
    | openJacket v _ _ => exact ⟨Ne.symm h.1, fun m hm n hn => Ne.symm (h.2 n hn m hm)⟩
    | voidJacket | decideScenario => trivial
  | voidJacket | decideScenario => cases b <;> trivial

instance : ∀ a b, Decidable (Distinct a b)
  | .openJacket w _ _, .openJacket v _ _ => inferInstanceAs (Decidable (_ ≠ _ ∧
      ∀ m < w.itemCount, ∀ n < v.itemCount, w.newItemId m ≠ v.newItemId n))
  | .openJacket .., .voidJacket .. | .openJacket .., .decideScenario ..
  | .voidJacket .., _ | .decideScenario .., _ => .isTrue trivial

theorem not_both (hclear : ∀ k ∈ held, ∀ l ∈ more, k.conflicts l = false) {k : LotLock}
    (hk : k ∈ held) (hk' : k ∈ more) (hself : k.conflicts k = true) : False := by
  have hfree := hclear k hk k hk'
  rw [hself] at hfree
  cases hfree

theorem Active.opens {w : OpenWorld} {j : DealJacket} {x : String}
    (ho : Opens rooftopOf held w file j d d') : Active x d' ↔ Active x d ∨ x = file := by
  rw [Active, ho.jackets]
  constructor
  · rintro ⟨r, hr, hactive⟩
    rcases mem_inserted hr with hr | rfl
    · exact .inl ⟨r, hr, hactive⟩
    · exact .inr ((activeFor_iff.mp hactive).1.symm.trans ho.case)
  · rintro (⟨r, hr, hactive⟩ | rfl)
    · exact ⟨r, mem_append_left _ hr, hactive⟩
    · refine ⟨j, mem_append_right _ (mem_singleton_self j), activeFor_iff.mpr ⟨ho.case, ?_⟩⟩
      rw [ho.state]
      exact JacketState.noConfusion

theorem Active.voids {j : DealJacket} {x : String} (hi : Kept rooftopOf d)
    (hv : Voids held j d d') : Active x d' ↔ Active x d ∧ x ≠ j.desking_case_id := by
  constructor
  · rintro ⟨r, hr, hactive⟩
    obtain ⟨hr, hne⟩ := hv.active_of hr hactive
    refine ⟨⟨r, hr, hactive⟩, fun heq => hne (congrArg _ ?_)⟩
    exact hi.oneActive x r hr j hv.mem hactive (activeFor_iff.mpr ⟨heq.symm, hv.state⟩)
  · rintro ⟨⟨r, hr, hactive⟩, hne⟩
    refine ⟨r, hv.kept r hr fun hid => hne ?_, hactive⟩
    rw [← eq_of_key hi.jacketIds hr hv.mem hid]
    exact (activeFor_iff.mp hactive).1.symm

theorem Intakes.steady {b : IntakeCall} (h : Kept rooftopOf d)
    (hi : Intakes rooftopOf held c answer d d')
    (hclear : ∀ k ∈ held, ∀ l ∈ more, k.conflicts l = false) (hdistinct : Distinct c b) :
    Steady b more d d' := by
  cases hi with
  | answers => exact .refl b more d
  | @opens w actor file j _ _ _ opens =>
    refine ⟨fun x hkey hnone => ?_, fun r hr _ => ?_, fun s hs _ => opens.desk ▸ hs,
      fun x hstands => ?_, fun hdraws => ?_⟩
    · rw [Active.opens opens]
      rintro (hactive | rfl)
      · exact hnone hactive
      · exact not_both hclear opens.key hkey (by simp [intakeKey, LotLock.conflicts])
    · rw [opens.jackets]
      exact mem_append_left _ hr
    · rw [Stands, opens.desk]
      exact hstands
    · cases b with
      | voidJacket | decideScenario => trivial
      | openJacket v _ _ =>
        refine ⟨fun r hr => ?_, fun n hn i hi => ?_⟩
        · rw [opens.jackets] at hr
          rcases mem_inserted hr with hr | rfl
          · exact hdraws.1 r hr
          · rw [opens.id]
            exact hdistinct.1
        · rcases opens.items i hi with hi | ⟨m, hm, hid⟩
          · exact hdraws.2 n hn i hi
          · rw [hid]
            exact hdistinct.2 m hm n hn
  | @voids w input j _ _ voids =>
    refine ⟨fun x _ hnone => ?_, fun r hr hrow => ?_, fun s hs _ => voids.desk ▸ hs,
      fun x hstands => ?_, fun hdraws => ?_⟩
    · rw [Active.voids h voids]
      exact fun hactive => hnone hactive.1
    · refine voids.kept r hr fun hid => ?_
      rw [hid] at hrow
      exact not_both hclear voids.row hrow
        (by simp [jacketRow, LotLock.conflicts, Crm.RowLock.conflicts])
    · rw [Stands, voids.desk]
      exact hstands
    · cases b with
      | voidJacket | decideScenario => trivial
      | openJacket v _ _ =>
        refine ⟨fun r hr => ?_, fun n hn i hi => hdraws.2 n hn i (voids.items ▸ hi)⟩
        rcases voids.jackets r hr with ⟨hr, -⟩ | rfl
        · exact hdraws.1 r hr
        · exact hdraws.1 j voids.mem
  | decides decides =>
    refine ⟨fun x _ hnone => ?_, fun r hr _ => decides.cabinet ▸ hr, fun s hs hrow => ?_,
      decides.stands, fun hdraws => ?_⟩
    · rw [Active, decides.cabinet]
      exact hnone
    · refine decides.kept s hs fun hheld => ?_
      exact not_both hclear hheld hrow
        (by simp [versionRow, LotLock.conflicts, Crm.RowLock.conflicts])
    · cases b with
      | voidJacket | decideScenario => trivial
      | openJacket v _ _ =>
        rw [IntakeCall.Draws, OpenWorld.Draws, decides.cabinet]
        exact hdraws

/-- An opener comes to a file with an approved version, and finds its ids new. -/
def IntakeCall.Arrives (rooftopOf : String → String) : IntakeCall → DealRows → Prop
  | .openJacket w actor file, d => Attends rooftopOf w actor file ∧ Stands file d ∧ w.Draws d
  | _, _ => True

/-- Openers come to files with an approved version, draw new ids, and are not cut off. -/
def Called (rooftopOf : String → String) (S : IntakeServer) : Event IntakeCall → Prop
  | .arrive c => c.Arrives rooftopOf S.committed ∧ ∀ s ∈ S.underWay, Distinct s.call c
  | .turn _ => True
  | .abort i => ∀ s ∈ S.session i, s.call.MayRaise

/-- At every turn of an opener, the version it has seen stand still does, and no jacket
holds it. -/
def Undisturbed (rooftopOf : String → String) (S : IntakeServer) (e : Event IntakeCall) : Prop :=
  Called rooftopOf S e ∧ match e with
    | .turn i => ∀ s ∈ S.session i, s.call.Finds s.held S.committed
    | _ => True

theorem IntakeCall.program_sound (c : IntakeCall) (d : DealRows) (h : c.Arrives rooftopOf d) :
    (intake rooftopOf).Sound c c.program [] (fun x => x) d := by
  cases c with
  | openJacket w actor file => exact .of_onAnswers (openJacketWithin_sound h.1 h.2.1 h.2.2)
  | voidJacket w input => exact .of_onAnswers (voidJacket_sound d)
  | decideScenario w input => exact .of_onAnswers (decideScenario_sound d)

theorem intake_cooperates (rooftopOf : String → String) :
    (intake rooftopOf).Cooperates LotLock.conflicts IntakeCall.program Distinct
      (Undisturbed rooftopOf) where
  refl := Steady.refl
  trans := fun _ _ _ _ _ => .trans
  symm := LotLock.conflicts_symm
  begins := fun S c ha _ => c.program_sound S.committed ha.1.1
  sets_apart := fun _ _ _ _ ha hs =>
    ⟨ha.1.2 _ (mem_underWay hs), (ha.1.2 _ (mem_underWay hs)).symm⟩
  finds := fun _ _ _ ha hs => ha.2 _ hs
  respects := by
    intro S i j s t a _ _ _ _ _ hbeside hi hintakes
    exact Intakes.steady hi hintakes hbeside.2 hbeside.1

/-! ## What intake comes to -/

def Converged (file : String) : OpenJacketOutcome → Prop
  | .opened j | .already_open j => activeFor file j = true
  | _ => False

instance (file : String) : ∀ out, Decidable (Converged file out)
  | .opened _ | .already_open _ => inferInstanceAs (Decidable (_ = true))
  | .not_approved _ | .not_found => .isFalse id

/-- Whoever opens a jacket is answered with an active jacket of the file. -/
def Answered : IntakeEnding → Prop
  | .committed (.openJacket _ _ file) (.opening out) _ _ => Converged (canonicalUuid file) out
  | .committed (.openJacket ..) _ _ _ => False
  | .raised (.openJacket ..) _ | .aborted (.openJacket ..) => False
  | _ => True

def opened (file : String) : IntakeEnding → Bool
  | .committed _ (.opening (.opened j)) _ _ => j.desking_case_id = file
  | _ => false

def voided (file : String) : IntakeEnding → Bool
  | .committed _ (.move (.moved j)) _ _ => j.desking_case_id = file
  | _ => false

/-- Every opener is answered with an active jacket of its file, a file has one at a time, and
between two voids one of them opened it. -/
structure Converges (S : IntakeServer) : Prop where
  answered : ∀ e ∈ S.history, Answered e
  one_active : ∀ file, (S.committed.cabinet.deal_jackets.filter (activeFor file)).length ≤ 1
  one_opened : ∀ file before first between second rest,
    S.history = before ++ first :: (between ++ second :: rest) →
    voided file first = true → (∀ e ∈ between, voided file e = false) →
    voided file second = true → (between.filter (opened file)).length = 1

section Endings

variable {e : IntakeEnding}

/-- What an ending tells of a file, and what it does to it. -/
structure Tells (file : String) (e : IntakeEnding) (d d' : DealRows) : Prop where
  ofOpened : opened file e = true → ¬ Active file d ∧ Active file d'
  ofVoided : voided file e = true → Active file d ∧ ¬ Active file d'
  ofNeither : opened file e = false → voided file e = false →
    (Active file d' ↔ Active file d)

theorem Tells.of_quiet (ho : opened file e = false) (hv : voided file e = false) :
    Tells file e d d := by
  refine ⟨fun h => ?_, fun h => ?_, fun _ _ => Iff.rfl⟩
  · rw [ho] at h
    cases h
  · rw [hv] at h
    cases h

theorem IntakeCall.Says.tells {d₁ d₂ : DealRows} (h : c.Says answer) :
    Tells file (.committed c answer d₁ d₂) d d := by
  cases c with
  | openJacket w actor x =>
    cases answer with
    | move | decision => exact h.elim
    | opening out =>
      cases out with
      | already_open j => exact .of_quiet rfl rfl
      | opened | not_approved | not_found => exact h.elim
  | voidJacket w input =>
    cases answer with
    | opening | decision => exact h.elim
    | move out =>
      cases out with
      | moved j => exact h.elim
      | already_there | version_conflict | invalid | not_found => exact .of_quiet rfl rfl
  | decideScenario w input =>
    cases answer with
    | opening | move => exact h.elim
    | decision out => exact .of_quiet rfl rfl

theorem Intakes.tells (h : Kept rooftopOf d) (hi : Intakes rooftopOf held c answer d d') :
    Tells file (.committed c answer d d') d d' := by
  cases hi with
  | answers fact => exact fact.tells
  | @opens w actor x j _ _ _ opens =>
    refine ⟨fun ho => ?_, fun hv => Bool.noConfusion hv, fun ho _ => ?_⟩
    · have hfile := opens.case.symm.trans (of_decide_eq_true ho)
      exact ⟨hfile ▸ opens.none, (Active.opens opens).mpr (.inr hfile.symm)⟩
    · rw [Active.opens opens]
      refine or_iff_left fun hfile => of_decide_eq_false ho ?_
      rw [opens.case, hfile]
  | @voids w input j _ _ voids =>
    have hactive := Active.voids (x := file) h voids
    refine ⟨fun ho => Bool.noConfusion ho, fun hv => ?_, fun _ hv => ?_⟩
    · have hfile : j.desking_case_id = file := of_decide_eq_true hv
      refine ⟨⟨j, voids.mem, activeFor_iff.mpr ⟨hfile, voids.state⟩⟩, fun ha => ?_⟩
      exact (hactive.mp ha).2 hfile.symm
    · rw [hactive]
      exact and_iff_left fun hfile => of_decide_eq_false hv hfile.symm
  | decides decides =>
    refine ⟨fun ho => Bool.noConfusion ho, fun hv => Bool.noConfusion hv, fun _ _ => ?_⟩
    rw [Active, decides.cabinet, Active]

theorem tells_of_leads (hk : (intake rooftopOf).Keeps e) (hl : e.Leads d d') :
    Tells file e d d' := by
  cases e with
  | committed c answer before after =>
    obtain ⟨rfl, rfl⟩ := hl
    obtain ⟨hi, -, held, hintakes⟩ := hk
    exact hintakes.tells hi
  | raised c error =>
    cases hl
    exact .of_quiet rfl rfl
  | aborted c =>
    cases hl
    exact .of_quiet rfl rfl

theorem opened_between {es : List IntakeEnding} (hl : Linked d es d')
    (hk : ∀ e ∈ es, (intake rooftopOf).Keeps e) (hv : ∀ e ∈ es, voided file e = false) :
    (Active file d → (es.filter (opened file)).length = 0 ∧ Active file d') ∧
      (¬ Active file d → Active file d' → (es.filter (opened file)).length = 1) := by
  induction es generalizing d with
  | nil =>
    cases hl
    exact ⟨fun ha => ⟨rfl, ha⟩, fun hnot ha => absurd ha hnot⟩
  | cons e es ih =>
    obtain ⟨m, he, hl⟩ := hl
    have htells : Tells file e d m := tells_of_leads (hk e mem_cons_self) he
    obtain ⟨hactive, hinactive⟩ := ih hl (fun f hf => hk f (mem_cons_of_mem _ hf))
      fun f hf => hv f (mem_cons_of_mem _ hf)
    cases ho : opened file e with
    | true =>
      obtain ⟨hbefore, hafter⟩ := htells.ofOpened ho
      refine ⟨fun ha => absurd ha hbefore, fun _ _ => ?_⟩
      rw [filter_cons_of_pos ho, length_cons, (hactive hafter).1]
    | false =>
      have hsame := htells.ofNeither ho (hv e mem_cons_self)
      rw [filter_cons_of_neg (by rw [ho]; exact Bool.false_ne_true), ← hsame]
      exact ⟨hactive, hinactive⟩

theorem Intakes.answered (hi : Intakes rooftopOf held c answer d d') :
    Answered (.committed c answer d d') := by
  cases hi with
  | answers fact =>
    cases c with
    | voidJacket | decideScenario => trivial
    | openJacket w actor x =>
      cases answer with
      | move | decision => exact fact.elim
      | opening out =>
        cases out with
        | already_open j => exact fact
        | opened | not_approved | not_found => exact fact.elim
  | opens spelled opens =>
    rw [Answered, spelled, Converged, activeFor_iff]
    refine ⟨opens.case, ?_⟩
    rw [opens.state]
    exact JacketState.noConfusion
  | voids => trivial
  | decides => trivial

end Endings

/-- **Intake converges.**  From rows in order, in every interleaving of openers, voids and
decisions in which an opener finds the version it has seen still standing, and held by no
jacket. -/
theorem intake_converges {db : DealRows} (hdb : Kept rooftopOf db)
    {events : List (Event IntakeCall)}
    (h : Along (Server.step LotLock.conflicts IntakeCall.program) (Undisturbed rooftopOf)
      (.fresh db) events) :
    Converges (run (Server.step LotLock.conflicts IntakeCall.program) (.fresh db) events) := by
  have hg := (intake_cooperates rooftopOf).guarded hdb h
  have hlinked := linked_run LotLock.conflicts IntakeCall.program db events
  refine ⟨fun e he => ?_, fun file => ?_, ?_⟩
  · cases e with
    | committed c answer before after =>
      obtain ⟨-, -, held, hintakes⟩ := hg.history _ he
      exact hintakes.answered
    | raised c error =>
      have hraise : c.MayRaise := hg.history _ he
      cases c with
      | openJacket => exact hraise.elim
      | voidJacket | decideScenario => trivial
    | aborted c =>
      cases c with
      | openJacket w actor file =>
        refine Contract.not_aborted (P := fun c => ¬ c.MayRaise) (fun S i s hadm hs hnot => ?_) h
          (fun _ _ => not_mem_nil) (fun hraise => hraise) he
        exact hnot (hadm.1 s hs)
      | voidJacket | decideScenario => trivial
  · refine length_le_one_of_forall_eq (hg.inv.jacketIds.of_map.filter _) fun j hj k hk => ?_
    rw [mem_filter] at hj hk
    exact hg.inv.oneActive file j hj.1 k hk.1 hj.2 hk.2
  · intro file before first between second rest hhistory hfirst hbetween hsecond
    have hkeeps := hg.history
    dsimp only at hlinked
    rw [hhistory] at hlinked hkeeps
    obtain ⟨d₁, -, d₂, hlfirst, hl⟩ := hlinked.split
    obtain ⟨d₃, hlbetween, d₄, hlsecond, -⟩ := hl.split
    have htfirst : Tells file first d₁ d₂ := tells_of_leads (hkeeps first (by simp)) hlfirst
    have htsecond : Tells file second d₃ d₄ := tells_of_leads (hkeeps second (by simp)) hlsecond
    exact (opened_between hlbetween (fun e he => hkeeps e (by simp [he])) hbetween).2
      (htfirst.ofVoided hfirst).2 (htsecond.ofVoided hsecond).1

/-! ## One file, approved twice -/

instance (w : OpenWorld) (actor : String) : Decidable (Attends rooftopOf w actor file) :=
  decidable_of_iff' _ (attends_iff rooftopOf w actor file)

instance (file : String) (d : DealRows) : Decidable (Stands file d) :=
  inferInstanceAs (Decidable (∃ s ∈ d.desk.desking_scenarios, _ ∧ _))

instance : ∀ (c : IntakeCall) (d : DealRows), Decidable (c.Arrives rooftopOf d)
  | .openJacket .., _ => inferInstanceAs (Decidable (_ ∧ _ ∧ _))
  | .voidJacket .., _ | .decideScenario .., _ => .isTrue trivial

instance : ∀ c : IntakeCall, Decidable c.MayRaise
  | .openJacket .. => .isFalse id
  | .voidJacket .. | .decideScenario .. => .isTrue trivial

instance (S : IntakeServer) : ∀ e, Decidable (Called rooftopOf S e)
  | .arrive c => inferInstanceAs (Decidable (c.Arrives rooftopOf S.committed ∧
      ∀ s ∈ S.underWay, Distinct s.call c))
  | .turn _ => .isTrue trivial
  | .abort i => inferInstanceAs (Decidable (∀ s ∈ S.session i, s.call.MayRaise))

instance (S : IntakeServer) : ∀ e, Decidable (Undisturbed rooftopOf S e)
  | .turn i => inferInstanceAs (Decidable (_ ∧ ∀ s ∈ S.session i, s.call.Finds _ _))
  | .arrive c => inferInstanceAs (Decidable (Called rooftopOf S (.arrive c) ∧ True))
  | .abort i => inferInstanceAs (Decidable (Called rooftopOf S (.abort i) ∧ True))

instance : ∀ e, Decidable (Answered e)
  | .committed (.openJacket _ _ file) (.opening out) _ _ =>
    inferInstanceAs (Decidable (Converged (canonicalUuid file) out))
  | .committed (.openJacket ..) (.move _) _ _ | .committed (.openJacket ..) (.decision _) _ _
  | .raised (.openJacket ..) _ | .aborted (.openJacket ..) => .isFalse id
  | .committed (.voidJacket ..) _ _ _ | .committed (.decideScenario ..) _ _ _
  | .raised (.voidJacket ..) _ | .raised (.decideScenario ..) _
  | .aborted (.voidJacket ..) | .aborted (.decideScenario ..) => .isTrue trivial

namespace TwiceApproved

open CashDeal (scenario approval world midnight manager)

/-- The version in front of the manager while the first one stands. -/
def successor : Desking.Scenario :=
  { scenario with
    scenario_id := "6a000000-0000-4000-8000-000000000018"
    version_no := 2
    state := .submitted }

/-- A file with an approved version and a submitted one, and no jacket yet. -/
def desk : DealRows where
  desk :=
    { desking_cases := [⟨scenario.desking_case_id, scenario.rooftop_id, .approved, some 0, 1⟩]
      desking_scenarios := [scenario, successor]
      scenario_line_items := []
      scenario_rule_applications := []
      scenario_state_events := []
      scenario_approvals := [approval.toApproval] }
  cabinet := .empty

def theRooftop : String → String := fun _ => scenario.rooftop_id

theorem desk_kept : Kept theRooftop desk :=
  ⟨nodup_nil, forall_mem_nil _, fun _ => forall_mem_nil _, by decide, by decide⟩

/-- Someone opens the jacket of the file; the digit tells the ids that are drawn. -/
def opener (digit : String) : Event IntakeCall :=
  .arrive (.openJacket
    { world midnight with
      newJacketId := "6a000000-0000-4000-8000-00000000001" ++ digit
      newItemId := fun n => "6a000000-0000-4000-800" ++ digit ++ "-00000000000" ++ decimal n
      decidedAt := fun _ => midnight }
    manager scenario.desking_case_id)

def voider (digit : String) : Event IntakeCall :=
  .arrive (.voidJacket (world midnight)
    ⟨manager, "6a000000-0000-4000-8000-00000000001" ++ digit, "stale", 1⟩)

/-- The manager approves the second version. -/
def approver : Event IntakeCall :=
  .arrive (.decideScenario
    { access := ⟨fun _ => true, fun _ _ => true⟩
      isEligibleManager := fun _ _ => true
      rules := ⟨[], nodup_nil, nodup_nil, forall_mem_nil _, forall_mem_nil _⟩
      clock := CashDeal.clock
      now := midnight
      timestamptz := fun _ => none
      newScenarioId := "6a000000-0000-4000-8000-000000000019"
      newApprovalId := "6a000000-0000-4000-8000-00000000001a" }
    ⟨manager, successor.scenario_id, .approved, "out", 1, none, none, none⟩)

abbrev serve : List (Event IntakeCall) → IntakeServer :=
  served LotLock.conflicts IntakeCall.program desk

def turns (n i : Nat) : List (Event IntakeCall) := replicate n (.turn i)

/-- Two openers at once, and a void.  A third opener has found no active jacket when the
second version is approved, and asks for the approved version only then; and a void. -/
def reapproved : List (Event IntakeCall) :=
  [opener "1", opener "2"] ++ turns 2 0 ++ turns 1 1 ++ turns 8 0 ++ turns 3 1 ++
    voider "1" :: turns 4 2 ++ opener "3" :: turns 2 3 ++ approver :: turns 11 4 ++ turns 8 3 ++
      voider "3" :: turns 4 5

/-- A jacket is opened and voided, and opened again under the same version. -/
def reopened : List (Event IntakeCall) :=
  opener "1" :: turns 10 0 ++ voider "1" :: turns 4 1 ++ opener "2" :: turns 10 2

/-- An opener has seen the first version stand; the approval of the second has its row, and
commits while the opener waits for it. -/
def superseded : List (Event IntakeCall) :=
  opener "1" :: turns 3 0 ++ approver :: turns 4 1 ++ turns 1 0 ++ turns 7 1 ++ turns 2 0

end TwiceApproved

open TwiceApproved in
/-- Two openers are answered with one jacket, and the third opens the next one. -/
theorem reapproved_converges :
    ((serve reapproved).history.map (opened CashDeal.scenario.desking_case_id) =
        [true, false, false, false, true, false] ∧
      (serve reapproved).history.map (voided CashDeal.scenario.desking_case_id) =
        [false, false, true, false, false, true]) ∧
      Converges (serve reapproved) :=
  ⟨by decide +kernel, intake_converges desk_kept (by decide +kernel)⟩

open TwiceApproved in
/-- The answer is the voided jacket, or that no version is approved. -/
theorem not_converges_reopened_superseded :
    (Along (Server.step LotLock.conflicts IntakeCall.program) (Called theRooftop)
      (.fresh desk) reopened ∧ ¬ Converges (serve reopened)) ∧
    Along (Server.step LotLock.conflicts IntakeCall.program) (Called theRooftop)
      (.fresh desk) superseded ∧ ¬ Converges (serve superseded) := by
  refine ⟨⟨by decide +kernel, fun h => ?_⟩, by decide +kernel, fun h => ?_⟩
  · exact absurd h.answered (by decide +kernel)
  · exact absurd h.answered (by decide +kernel)

end Dealership.Jacket.Intake
