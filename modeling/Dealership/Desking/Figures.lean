import Dealership.Desking.Lifecycle

/-!
# What an output fingerprint digests

A scenario's output fingerprint is the digest of its figures and lines, from the
statement that inserts it to the end of every history: no command sets a figure.
-/

namespace Dealership.Desking

open Library List

variable {db db' : Desk}

/-- The figures and lines a fingerprint is taken over. -/
def ComputedScenario.outputRecord (c : ComputedScenario) : Value :=
  Desking.outputRecord c.tradeEquityCents c.taxableAmountCents c.taxTotalCents c.feeTotalCents
    c.incentiveTotalCents c.amountFinancedCents c.monthlyPaymentCents c.lines

/-- The fingerprint of a computation is that of its figures and lines. -/
def ComputedScenario.Digested (c : ComputedScenario) : Prop :=
  c.outputFingerprint = fingerprint c.outputRecord

theorem digested_of_computeScenario {inputs : ScenarioInputs} {rules : List ResolvedRule}
    {c : ComputedScenario} (h : computeScenario inputs rules = .ok c) : c.Digested := by
  rw [computeScenario, priceWith] at h
  obtain ⟨monthly, -, h⟩ := bind_eq_ok.mp h
  cases h
  rfl

/-! ## The computations on file -/

def Desk.computations (db : Desk) : List ComputedScenario :=
  db.desking_scenarios.map (·.computed)

theorem buildScenarioWithin_computations {w : DeskWorld} {input : BuildScenarioInput}
    {out : BuildOutcome} (h : buildScenarioWithin w input db = .ok (out, db')) :
    db'.computations = db.computations ∨
      ∃ c, c.Digested ∧ db'.computations = db.computations ++ [c] := by
  obtain ⟨_, -, h⟩ := bind_eq_ok.mp h
  split at h
  · cases h
    exact .inl rfl
  split at h
  · cases h
    exact .inl rfl
  obtain ⟨instant, -, h⟩ := bind_eq_ok.mp h
  obtain ⟨_, -, h⟩ := bind_eq_ok.mp h
  dsimp only at h
  split at h
  · cases h
    exact .inl rfl
  obtain ⟨c, hc, h⟩ := bind_eq_ok.mp h
  obtain ⟨_, -, h⟩ := bind_eq_ok.mp h
  obtain ⟨d₁, h₁, h⟩ := bind_eq_ok.mp h
  obtain ⟨d₂, h₂, h⟩ := bind_eq_ok.mp h
  obtain ⟨d₃, h₃, h⟩ := bind_eq_ok.mp h
  cases h
  obtain ⟨-, rfl⟩ := insertScenario_ok h₁
  obtain rfl := insertComputation_ok h₂
  obtain rfl := stateEvent_ok h₃
  refine .inr ⟨c, ?_, map_append⟩
  generalize hr : computeScenario (input.inputs w) _ = r at hc
  cases r with
  | error e => cases hc
  | ok c' =>
    cases hc
    exact digested_of_computeScenario hr

def Desk.AllDigested (db : Desk) : Prop := ∀ c ∈ db.computations, c.Digested

theorem Desk.AllDigested.edit (h : db.AllDigested) (hedit : Edit db db') : db'.AllDigested := by
  have hsame : db'.computations = db.computations := by
    have hfigures := congrArg (List.map (·.computed)) hedit.frozen
    rwa [map_map, map_map] at hfigures
  intro c hc
  rw [hsame] at hc
  exact h c hc

theorem step_digested (hids : UniqueIds db) (h : db.AllDigested) (call : Call) :
    (step db call).AllDigested := by
  rcases step_edit hids call with ⟨w, input, rfl⟩ | hedit
  · refine committed_induction (P := Desk.AllDigested) h fun _ _ hrun => ?_
    rcases buildScenarioWithin_computations hrun with hsame | ⟨c, hc, happend⟩
    · intro c hc
      rw [hsame] at hc
      exact h c hc
    · intro c' hc'
      rw [happend] at hc'
      rcases mem_inserted hc' with hc' | rfl
      · exact h c' hc'
      · exact hc
  · exact h.edit hedit

end Dealership.Desking
