import Dealership.Library.ReadCommitted

/-!
# What a history adds up to

The endings of a server, in order, lead from the rows it began with to the rows that
are committed: each commit starts from the rows the one before it left, and what
raised or was cut off left them as they were.  So an account kept along a history, to
which each ending adds what its contract says it did, is an account of the committed
rows.
-/

namespace Dealership.Library

open List

variable {C D K E A : Type}

/-- The call of a transaction that has ended. -/
def Ending.call : Ending C D E A → C
  | committed call _ _ _ => call
  | raised call _ => call
  | aborted call => call

def Ending.Leads : Ending C D E A → D → D → Prop
  | committed _ _ before after, d, d' => d = before ∧ d' = after
  | raised _ _, d, d' => d' = d
  | aborted _, d, d' => d' = d

/-- The endings lead, one after another, from `d` to `d'`. -/
def Linked : D → List (Ending C D E A) → D → Prop
  | d, [], d' => d' = d
  | d, e :: es, d' => ∃ m, e.Leads d m ∧ Linked m es d'

theorem Linked.concat {d m d' : D} {es : List (Ending C D E A)} (h : Linked d es m)
    {e : Ending C D E A} (he : e.Leads m d') : Linked d (es ++ [e]) d' := by
  induction es generalizing d with
  | nil =>
    cases h
    exact ⟨d', he, rfl⟩
  | cons e' es ih =>
    obtain ⟨n, he', h⟩ := h
    exact ⟨n, he', ih h⟩

/-- A history leads through the rows between its parts. -/
theorem Linked.split {d d' : D} {es more : List (Ending C D E A)} (h : Linked d (es ++ more) d') :
    ∃ m, Linked d es m ∧ Linked m more d' := by
  induction es generalizing d with
  | nil => exact ⟨d, rfl, h⟩
  | cons e es ih =>
    obtain ⟨n, he, h⟩ := h
    obtain ⟨m, hes, hmore⟩ := ih h
    exact ⟨m, ⟨n, he, hes⟩, hmore⟩

/-- The history so far leads from `d` to the committed rows. -/
theorem Linked.step {conflicts : K → K → Bool} {program : C → Script D K E A} {d : D}
    {S : Server C D K E A} (h : Linked d S.history S.committed) (e : Event C) :
    Linked d (S.step conflicts program e).history (S.step conflicts program e).committed := by
  cases e with
  | arrive c => exact h
  | turn i =>
    rw [Server.step]
    cases S.session i with
    | none => exact h
    | some s =>
      dsimp only
      unfold Server.turn
      split
      · exact h.concat ⟨rfl, rfl⟩
      · exact h.concat rfl
      dsimp only
      split
      · exact h
      · exact h
  | abort i =>
    rw [Server.step]
    cases S.session i with
    | none => exact h
    | some s => exact h.concat rfl

theorem linked_run (conflicts : K → K → Bool) (program : C → Script D K E A) (d : D)
    (events : List (Event C)) :
    let S := Library.run (Server.step conflicts program) (.fresh d) events
    Linked d S.history S.committed := by
  have hstep : ∀ (S : Server C D K E A) (e : Event C), Linked d S.history S.committed →
      Linked d (S.step conflicts program e).history (S.step conflicts program e).committed :=
    fun _ e h => h.step e
  refine run_invariant (I := fun S : Server C D K E A => Linked d S.history S.committed) hstep ?_
    events
  exact rfl

theorem committed_step (conflicts : K → K → Bool) (program : C → Script D K E A)
    (S : Server C D K E A) (e : Event C) :
    (S.step conflicts program e).committed = S.committed ∨
      ∃ c a, Ending.committed c a S.committed (S.step conflicts program e).committed ∈
        (S.step conflicts program e).history := by
  cases e with
  | arrive c => exact .inl rfl
  | abort i =>
    rw [Server.step]
    cases S.session i with
    | none => exact .inl rfl
    | some s => exact .inl rfl
  | turn i =>
    rw [Server.step]
    cases S.session i with
    | none => exact .inl rfl
    | some s =>
      dsimp only
      unfold Server.turn
      split
      · exact .inr ⟨_, _, mem_append_right _ mem_cons_self⟩
      · exact .inl rfl
      dsimp only
      split
      · exact .inl rfl
      · exact .inl rfl

namespace Contract

variable {κ : Contract C D K E A}

/-- What holds of commits within the contract, of refusals it allows and of what was cut off
holds of every ending that is as the contract says. -/
theorem Keeps.cases {P : Ending C D E A → Prop} {e : Ending C D E A} (he : κ.Keeps e)
    (committed : ∀ c a before after held, κ.inv before → κ.ensures c held a before after →
      P (.committed c a before after))
    (raised : ∀ c error, κ.mayRaise c error → P (.raised c error))
    (aborted : ∀ c, P (.aborted c)) : P e := by
  cases e with
  | committed c a before after =>
    obtain ⟨hi, -, held, hens⟩ := he
    exact committed c a before after held hi hens
  | raised c error => exact raised c error he
  | aborted c => exact aborted c

theorem Keeps.leads {P : Ending C D E A → D → D → Prop} {e : Ending C D E A} (he : κ.Keeps e)
    {d d' : D} (hleads : e.Leads d d')
    (committed : ∀ c a before after held, κ.inv before → κ.ensures c held a before after →
      P (.committed c a before after) before after)
    (raised : ∀ c error d, κ.mayRaise c error → P (.raised c error) d d)
    (aborted : ∀ c d, P (.aborted c) d d) : P e d d' := by
  cases e with
  | committed c a before after =>
    obtain ⟨rfl, rfl⟩ := hleads
    obtain ⟨hi, -, held, hens⟩ := he
    exact committed c a _ _ held hi hens
  | raised c error =>
    cases hleads
    exact raised c error _ he
  | aborted c =>
    cases hleads
    exact aborted c _

theorem account {I : List (Ending C D E A) → D → Prop}
    (hstep : ∀ es e d d', I es d → e.Leads d d' → κ.Keeps e → I (es ++ [e]) d')
    {done es : List (Ending C D E A)} {d d' : D} (hd : I done d) (h : Linked d es d')
    (hk : ∀ e ∈ es, κ.Keeps e) : I (done ++ es) d' := by
  induction es generalizing done d with
  | nil =>
    cases h
    rwa [append_nil]
  | cons e es ih =>
    obtain ⟨m, he, h⟩ := h
    have hnext := ih (hstep done e d m hd he (hk e mem_cons_self)) h
      fun e' he' => hk e' (mem_cons_of_mem e he')
    rwa [append_assoc, singleton_append] at hnext

/-- **The rule for accounts.**  In every admitted run, what is true of no history and
the rows at the start, and stays true with each ending, is true of the whole history
and the committed rows. -/
theorem Cooperates.account {conflicts : K → K → Bool} {program : C → Script D K E A}
    {apart : C → C → Prop} {admits : Server C D K E A → Event C → Prop}
    (hc : Cooperates κ conflicts program apart admits) {d : D} (hd : κ.inv d)
    {I : List (Ending C D E A) → D → Prop} (hnil : I [] d)
    (hstep : ∀ es e d d', I es d → e.Leads d d' → κ.Keeps e → I (es ++ [e]) d')
    {events : List (Event C)}
    (h : Along (Server.step conflicts program) admits (.fresh d) events) :
    let S := Library.run (Server.step conflicts program) (.fresh d) events
    I S.history S.committed :=
  Contract.account hstep hnil (linked_run conflicts program d events) (hc.guarded hd h).history

section Related

variable {conflicts : K → K → Bool} {program : C → Script D K E A} {apart : C → C → Prop}
  {admits : Server C D K E A → Event C → Prop}

/-- **The rule for what commits relate.**  What relates the rows before and after each commit
relates those at any point of an admitted run and at any later one. -/
theorem Cooperates.related (hc : Cooperates κ conflicts program apart admits) {R : D → D → Prop}
    (hrefl : ∀ d, R d d) (htrans : ∀ a b d, R a b → R b d → R a d)
    (hstep : ∀ c held a before after, κ.inv before → κ.ensures c held a before after →
      R before after) {d : D} (hd : κ.inv d) {events more : List (Event C)}
    (h : Along (Server.step conflicts program) admits (.fresh d) (events ++ more)) :
    R (Library.run (Server.step conflicts program) (.fresh d) events).committed
      (Library.run (Server.step conflicts program) (.fresh d) (events ++ more)).committed := by
  rw [along_append] at h
  have hg := hc.guarded hd h.1
  rw [run_append]
  generalize Library.run (Server.step conflicts program) (.fresh d) events = S at h hg ⊢
  have hmore := h.2
  clear h
  induction more generalizing S with
  | nil => exact hrefl _
  | cons e more ih =>
    have hnext := hg.step hc hmore.1
    refine htrans _ _ _ ?_ (ih _ hnext hmore.2)
    rcases committed_step conflicts program S e with hsame | ⟨c, a, hmem⟩
    · rw [hsame]
      exact hrefl _
    · obtain ⟨hi, -, held, hens⟩ := hnext.history _ hmem
      exact hstep c held a _ _ hi hens

theorem Cooperates.preserves (hc : Cooperates κ conflicts program apart admits) {J : D → Prop}
    (hstep : ∀ c held a before after, κ.inv before → κ.ensures c held a before after →
      J before → J after) {d : D} (hd : κ.inv d) (hJ : J d) {events : List (Event C)}
    (h : Along (Server.step conflicts program) admits (.fresh d) events) :
    J (Library.run (Server.step conflicts program) (.fresh d) events).committed := by
  have hall : Along (Server.step conflicts program) admits (.fresh d) ([] ++ events) := h
  exact hc.related (R := fun a b => J a → J b) (fun _ ha => ha)
    (fun _ _ _ hab hbd ha => hbd (hab ha)) hstep hd hall hJ

end Related

end Contract

end Dealership.Library
