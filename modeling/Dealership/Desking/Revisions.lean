import Dealership.Desking.Builds
import Mathlib.Logic.Relation

/-!
# Revision links

A version may name the version it revises.  The service takes that name from the caller and the
foreign key only asks for a version of the same tenant, so nothing ties it to the case the
caller was authorised for.  Where every call names a version of its own case, the links of a
case form a forest over its versions: each leads to an earlier one.
-/

namespace Dealership.Desking

open Library List

variable {db : Desk}

def Revises (db : Desk) (s p : Scenario) : Prop :=
  s ∈ db.desking_scenarios ∧ p ∈ db.desking_scenarios ∧
    s.supersedes_scenario_id = some p.scenario_id

/-- Every revision link leads to an earlier version of the same case. -/
def LinksInside (db : Desk) : Prop :=
  ∀ s ∈ db.desking_scenarios, ∀ id ∈ s.supersedes_scenario_id,
    ∃ p ∈ db.desking_scenarios, p.scenario_id = id ∧
      p.desking_case_id = s.desking_case_id ∧ p.version_no < s.version_no

instance (db : Desk) : Decidable (LinksInside db) :=
  inferInstanceAs (Decidable (∀ s ∈ db.desking_scenarios, ∀ id ∈ s.supersedes_scenario_id, _))

/-- The revision links of every case form a forest over its own versions. -/
structure RevisionForest (db : Desk) : Prop where
  inside : LinksInside db
  parent : ∀ s p q, Revises db s p → Revises db s q → p = q
  descends : ∀ s p, Relation.TransGen (Revises db) s p →
    p.desking_case_id = s.desking_case_id ∧ p.version_no < s.version_no
  acyclic : ∀ s, ¬ Relation.TransGen (Revises db) s s

theorem LinksInside.forest (h : LinksInside db) (hids : UniqueIds db) :
    RevisionForest db := by
  have hunique : ∀ {p q : Scenario}, p ∈ db.desking_scenarios → q ∈ db.desking_scenarios →
      p.scenario_id = q.scenario_id → p = q := fun hp hq => eq_of_key hids.2 hp hq
  have hstep : ∀ s p, Revises db s p →
      p.desking_case_id = s.desking_case_id ∧ p.version_no < s.version_no := by
    rintro s p ⟨hs, hp, hlink⟩
    obtain ⟨q, hq, hid, hcase, hversion⟩ := h s hs p.scenario_id hlink
    obtain rfl := hunique hq hp hid
    exact ⟨hcase, hversion⟩
  have hchain : ∀ s p, Relation.TransGen (Revises db) s p →
      p.desking_case_id = s.desking_case_id ∧ p.version_no < s.version_no := by
    intro s p hsp
    induction hsp with
    | single hlink => exact hstep s _ hlink
    | tail _ hlink ih =>
      obtain ⟨hcase, hversion⟩ := hstep _ _ hlink
      exact ⟨hcase.trans ih.1, hversion.trans ih.2⟩
  refine ⟨h, ?_, hchain, fun s hs => absurd (hchain s s hs).2 (Nat.lt_irrefl _)⟩
  rintro s p q ⟨-, hp, hsp⟩ ⟨-, hq, hsq⟩
  exact hunique hp hq (Option.some.inj (hsp.symm.trans hsq))

/-! ## What the commands do to the links -/

/-- A build names a version of its own case, if it names any. -/
def Call.NamesOwnCase (db : Desk) : Call → Prop
  | .build _ input => ∀ s ∈ db.desking_scenarios,
      input.supersedesScenarioId = some s.scenario_id → s.desking_case_id = input.deskingCaseId
  | _ => True

instance (db : Desk) (call : Call) : Decidable (call.NamesOwnCase db) := by
  cases call <;> unfold Call.NamesOwnCase <;> infer_instance

theorem lt_nextVersionNo {s : Scenario} (hs : s ∈ db.desking_scenarios) :
    s.version_no < nextVersionNo db s.desking_case_id := by
  have hmem : s.version_no ∈ ((db.desking_scenarios.filter fun r =>
      r.desking_case_id = s.desking_case_id).map (·.version_no)) :=
    mem_map_of_mem (mem_filter.mpr ⟨hs, decide_eq_true rfl⟩)
  exact Nat.lt_succ_of_le (le_foldl_max (.inl hmem))

theorem LinksInside.of_frozen {db' : Desk} (h : LinksInside db)
    (hsame : db'.desking_scenarios.map Scenario.frozen =
      db.desking_scenarios.map Scenario.frozen) : LinksInside db' := by
  have hfind : ∀ {a b : Desk}, a.desking_scenarios.map Scenario.frozen =
      b.desking_scenarios.map Scenario.frozen → ∀ r ∈ a.desking_scenarios,
      ∃ r' ∈ b.desking_scenarios, r'.frozen = r.frozen := by
    intro a b hab r hr
    have hmem : r.frozen ∈ b.desking_scenarios.map Scenario.frozen := hab ▸ mem_map_of_mem hr
    obtain ⟨r', hr', heq⟩ := mem_map.mp hmem
    exact ⟨r', hr', heq⟩
  have hcolumns : ∀ {r r' : Scenario}, r'.frozen = r.frozen →
      r'.scenario_id = r.scenario_id ∧ r'.desking_case_id = r.desking_case_id ∧
      r'.version_no = r.version_no ∧ r'.supersedes_scenario_id = r.supersedes_scenario_id := by
    intro r r' heq
    simp only [Scenario.frozen, Scenario.mk.injEq] at heq
    exact ⟨heq.1, heq.2.1, heq.2.2.2.1, heq.2.2.2.2.1⟩
  intro s hs id hid
  obtain ⟨s₀, hs₀, heq⟩ := hfind hsame s hs
  obtain ⟨-, hcase, hversion, hlink⟩ := hcolumns heq
  obtain ⟨p₀, hp₀, hpid, hpcase, hpversion⟩ := h s₀ hs₀ id (hlink ▸ hid)
  obtain ⟨p, hp, heq'⟩ := hfind hsame.symm p₀ hp₀
  obtain ⟨hid', hcase', hversion', -⟩ := hcolumns heq'
  refine ⟨p, hp, hid'.trans hpid, ?_, ?_⟩
  · rw [hcase', hpcase, hcase]
  · rw [hversion', ← hversion]
    exact hpversion

theorem LinksInside.build {w : DeskWorld} {input : BuildScenarioInput} {db' : Desk}
    {out : BuildOutcome} (h : LinksInside db) (hown : (Call.build w input).NamesOwnCase db)
    (hbuild : buildScenarioWithin w input db = .ok (out, db')) : LinksInside db' := by
  obtain ⟨rfl, -⟩ | ⟨c, instant, computed, expiresAt, -, -, hadmits, -, rfl⟩ :=
    built_of_build hbuild
  · exact h
  intro s hs id hid
  rcases mem_inserted hs with hs | rfl
  · obtain ⟨p, hp, hlink⟩ := h s hs id hid
    exact ⟨p, mem_append_left _ hp, hlink⟩
  · obtain ⟨p, hp, rfl⟩ := hadmits.supersedes id hid
    have hcase : p.desking_case_id = input.deskingCaseId := hown p hp hid
    refine ⟨p, mem_append_left _ hp, rfl, hcase, ?_⟩
    show p.version_no < nextVersionNo db input.deskingCaseId
    exact hcase ▸ lt_nextVersionNo hp

theorem LinksInside.step (h : LinksInside db) (hids : UniqueIds db) (call : Call)
    (hown : call.NamesOwnCase db) : LinksInside (step db call) := by
  rcases step_edit hids call with ⟨w, input, rfl⟩ | hedit
  · exact committed_induction h fun _ _ hbuild => h.build hown hbuild
  · exact h.of_frozen hedit.frozen

/-! ## Histories -/

/-- In every state a history reaches in which every build names a version of its own case, or
none, the revision links of every case form a forest over its own versions. -/
theorem revisions_form_forest (start : OpenCases) (calls : List Call)
    (hown : Along step (fun db call => call.NamesOwnCase db) start.desk calls) :
    RevisionForest (run step start.desk calls) := by
  have hboth := Along.invariant (I := fun db => Coherent db ∧ LinksInside db)
    (fun _ call h hcall => ⟨h.1.step call, h.2.step h.1.ids call hcall⟩) hown
    ⟨start.coherent, fun _ hs => absurd hs not_mem_nil⟩
  exact hboth.2.forest hboth.1.ids

/-! ## Two cases -/

/-- A second open case at the same rooftop. -/
def twoCases : OpenCases where
  cases := [northCase, { northCase with desking_case_id := "case-2" }]
  ids := by decide
  allOpen := by decide

def newYearsEveAgain : DeskWorld := { newYearsEve with newScenarioId := "scenario-2" }

/-- A revision of the first pencil of `case-1`, built on the given case. -/
def revisionOn (deskingCaseId : String) : BuildScenarioInput :=
  { cashRequest with
    deskingCaseId
    supersedesScenarioId := some "scenario-1" }

/-- A first pencil, and a revision of it. -/
def revisedOn (deskingCaseId : String) : List Call :=
  [.build newYearsEve cashRequest, .build newYearsEveAgain (revisionOn deskingCaseId)]

/-- The revision of another case's version is written under this case. -/
theorem revision_crosses_cases :
    ¬ ∀ (start : OpenCases) (calls : List Call), LinksInside (run step start.desk calls) := by
  intro h
  have hcross : ¬ LinksInside (run step twoCases.desk (revisedOn "case-2")) := by decide +kernel
  exact hcross (h twoCases (revisedOn "case-2"))

/-- Revised on its own case, the deal has two versions, the second above the first. -/
theorem revision_stands_above_its_predecessor :
    RevisionForest (run step twoCases.desk (revisedOn "case-1")) ∧
      (run step twoCases.desk (revisedOn "case-1")).desking_scenarios.length = 2 :=
  ⟨revisions_form_forest twoCases (revisedOn "case-1") (by decide +kernel), by decide +kernel⟩

end Dealership.Desking
