import Dealership.Library.Waiting

/-!
# The rows a jacket's operations lock

Each operation as the rows it asks for, in order: `FOR UPDATE` on a row named by its id waits for
that row and ends the call when there is none; a row of an `UPDATE`, or of a `FOR UPDATE` that also
asks for a state, may turn out not to match and is then left alone.  A row the transaction has
locked already is not listed again, nor are the rows it inserted itself.  Any call may end early.

There is one ceremony to a package, so a ceremony is named by the package it signs.
-/

namespace Dealership.Jacket.Locks

open Library List

/-- The rows of one jacket's paperwork. -/
inductive Row where
  | jacket
  | package (p : Nat)
  | item (i : Nat)
  | ceremony (p : Nat)
  | signer (p k : Nat)
deriving DecidableEq

/-! ## The shared helpers -/

def requireJacketWithin : List (Wish Row) := [.lock .jacket]

def requirePackageWithin (p : Nat) : List (Wish Row) := .lock (.package p) :: requireJacketWithin

def loadItemForUpdate (i : Nat) : List (Wish Row) := [.lock (.item i)]

/-- The live version, if there is one: the row is asked for by its state. -/
def predecessorPackageWithin (live : Nat) : List (Wish Row) := [.update (.package live)]

def voidCeremonyOfPackageWithin (p : Nat) : List (Wish Row) := [.update (.ceremony p)]

def signerByTokenWithin (p k : Nat) : List (Wish Row) := [.lock (.signer p k)]

def requireCeremonyWithin (p : Nat) : List (Wish Row) := [.lock (.ceremony p)]

def loadCeremonyContext (p : Nat) : List (Wish Row) :=
  requireCeremonyWithin p ++ [.lock (.package p), .lock .jacket]

/-! ## The operations -/

/-- A call, with the rows its own rows and its input lead it to: the package that is live, the
checklist items it renders, the signer its token or session names, the ceremonies that are due with
the signers of each who have not signed. -/
inductive Op where
  | openJacket
  | assemblePackage (live : Nat) (items : List Nat)
  | markReviewReady (p : Nat)
  | reviewPackage (p : Nat)
  | sendPackage (p : Nat)
  | voidPackage (p : Nat)
  | voidJacket (live : List Nat)
  | satisfyWithEvidence (i : Nat)
  | waiveRequirement (i : Nat)
  | placeLegalHold
  | openSignerSession (p k : Nat)
  | consentToElectronicRecords (p k : Nat)
  | signAsCustomer (p k : Nat)
  | signAsDealerRepresentative (p k : Nat)
  | declineAsCustomer (p k : Nat)
  | expireDueCeremoniesForTenant (due : List (Nat × List Nat))

variable {r : Row} {s : Hall Row Op}

/-- What one ceremony goes on to lock once the expiry pass has it. -/
def expires (d : Nat × List Nat) : Row × List Row :=
  (.ceremony d.1, d.2.map (.signer d.1) ++ [.package d.1])

def Op.locks : Op → List (Wish Row)
  | .openJacket => []
  | .assemblePackage live items =>
    requireJacketWithin ++ predecessorPackageWithin live ++ [.update (.ceremony live)] ++
      items.map fun i => .update (.item i)
  | .markReviewReady p | .reviewPackage p | .sendPackage p => requirePackageWithin p
  | .voidPackage p => requirePackageWithin p ++ voidCeremonyOfPackageWithin p
  | .voidJacket live =>
    requireJacketWithin ++ (live.map fun p => .update (.package p)) ++
      live.flatMap voidCeremonyOfPackageWithin
  | .satisfyWithEvidence i | .waiveRequirement i => requireJacketWithin ++ loadItemForUpdate i
  | .placeLegalHold => requireJacketWithin
  | .openSignerSession p k | .consentToElectronicRecords p k | .signAsCustomer p k
  | .signAsDealerRepresentative p k | .declineAsCustomer p k =>
    signerByTokenWithin p k ++ loadCeremonyContext p
  | .expireDueCeremoniesForTenant due => [.whichFree (due.map expires)]

/-! ## The five orders -/

/-- In which order an operation locks, and which packages it works on. -/
inductive Order where
  | jacketFirst (packages : List Nat)
  | packageFirst (p : Nat)
  | packageThenCeremony (p : Nat)
  | signerFirst (p k : Nat)
  | ceremonyFirst (due : List (Nat × List Nat))

def Op.order : Op → Order
  | .openJacket | .satisfyWithEvidence _ | .waiveRequirement _ | .placeLegalHold => .jacketFirst []
  | .assemblePackage live _ => .jacketFirst [live]
  | .voidJacket live => .jacketFirst live
  | .markReviewReady p | .reviewPackage p | .sendPackage p => .packageFirst p
  | .voidPackage p => .packageThenCeremony p
  | .openSignerSession p k | .consentToElectronicRecords p k | .signAsCustomer p k
  | .signAsDealerRepresentative p k | .declineAsCustomer p k => .signerFirst p k
  | .expireDueCeremoniesForTenant due => .ceremonyFirst due

/-- The package is locked, or its ceremony, by a call that does not have the jacket yet. -/
def Order.reaches (p : Nat) : Order → Prop
  | .jacketFirst _ => False
  | .packageFirst q | .packageThenCeremony q | .signerFirst q _ => q = p
  | .ceremonyFirst due => ∃ d ∈ due, d.1 = p

instance (p : Nat) : ∀ o : Order, Decidable (o.reaches p)
  | .jacketFirst _ => .isFalse id
  | .packageFirst q | .packageThenCeremony q | .signerFirst q _ =>
    inferInstanceAs (Decidable (q = p))
  | .ceremonyFirst due => inferInstanceAs (Decidable (∃ d ∈ due, d.1 = p))

/-- Each can come to hold what the other waits for. -/
def Order.opposes : Order → Order → Prop
  | .jacketFirst packages, o => ∃ p ∈ packages, o.reaches p
  | .packageThenCeremony p, .signerFirst q _ => q = p
  | .packageThenCeremony p, .ceremonyFirst due => ∃ d ∈ due, d.1 = p
  | .signerFirst p k, .ceremonyFirst due => ∃ d ∈ due, d.1 = p ∧ k ∈ d.2
  | _, _ => False

instance : ∀ o u : Order, Decidable (o.opposes u)
  | .jacketFirst packages, o => inferInstanceAs (Decidable (∃ p ∈ packages, o.reaches p))
  | .packageThenCeremony p, .signerFirst q _ => inferInstanceAs (Decidable (q = p))
  | .packageThenCeremony p, .ceremonyFirst due => inferInstanceAs (Decidable (∃ d ∈ due, d.1 = p))
  | .signerFirst p k, .ceremonyFirst due =>
    inferInstanceAs (Decidable (∃ d ∈ due, d.1 = p ∧ k ∈ d.2))
  | .packageFirst _, _ | .signerFirst _ _, .jacketFirst _ | .signerFirst _ _, .packageFirst _
  | .signerFirst _ _, .packageThenCeremony _ | .signerFirst _ _, .signerFirst _ _
  | .packageThenCeremony _, .jacketFirst _ | .packageThenCeremony _, .packageFirst _
  | .packageThenCeremony _, .packageThenCeremony _ | .ceremonyFirst _, _ =>
    .isFalse (by simp [Order.opposes])

/-- Two calls that, run together, can come to wait for each other. -/
def Op.clash (o u : Op) : Prop := o.order.opposes u.order ∨ u.order.opposes o.order

instance (o u : Op) : Decidable (o.clash u) :=
  inferInstanceAs (Decidable (o.order.opposes u.order ∨ u.order.opposes o.order))

theorem Op.clash_symm (o u : Op) (h : o.clash u) : u.clash o := h.symm

/-! ## How far a call is -/

/-- A row a call that locks the jacket first goes on to. -/
def Inside (packages : List Nat) (r : Row) : Prop :=
  r = .jacket ∨ (∃ i, r = .item i) ∨ ∃ p ∈ packages, r = .package p ∨ r = .ceremony p

/-- A row the expiry pass goes on to, having the ceremony it belongs to. -/
def Beyond (due : List (Nat × List Nat)) (held : List Row) (r : Row) : Prop :=
  ∃ d ∈ due, .ceremony d.1 ∈ held ∧ (r = .package d.1 ∨ ∃ k ∈ d.2, r = .signer d.1 k)

/-- What a call of the order holds and what it still asks for. -/
def Stage : Order → List Row → List (Wish Row) → Prop
  | .jacketFirst packages, held, ahead =>
    (.jacket ∈ held ∨ (held = [] ∧ (ahead = [] ∨ ∃ rest, ahead = .lock .jacket :: rest))) ∧
      (∀ r ∈ held, Inside packages r) ∧
      ∀ w ∈ ahead, ∃ r, (w = .lock r ∨ w = .update r) ∧ Inside packages r
  | .packageFirst p, held, ahead =>
    (held = [] ∧ ahead = [.lock (.package p), .lock .jacket]) ∨
      (held = [.package p] ∧ ahead = [.lock .jacket]) ∨
      (held = [.jacket, .package p] ∧ ahead = [])
  | .packageThenCeremony p, held, ahead =>
    (held = [] ∧ ahead = [.lock (.package p), .lock .jacket, .update (.ceremony p)]) ∨
      (held = [.package p] ∧ ahead = [.lock .jacket, .update (.ceremony p)]) ∨
      (held = [.jacket, .package p] ∧ ahead = [.update (.ceremony p)]) ∨
      ((held = [.jacket, .package p] ∨ held = [.ceremony p, .jacket, .package p]) ∧ ahead = [])
  | .signerFirst p k, held, ahead =>
    (held = [] ∧ ahead = [.lock (.signer p k), .lock (.ceremony p), .lock (.package p),
        .lock .jacket]) ∨
      (held = [.signer p k] ∧ ahead = [.lock (.ceremony p), .lock (.package p), .lock .jacket]) ∨
      (held = [.ceremony p, .signer p k] ∧ ahead = [.lock (.package p), .lock .jacket]) ∨
      (held = [.package p, .ceremony p, .signer p k] ∧ ahead = [.lock .jacket]) ∨
      (held = [.jacket, .package p, .ceremony p, .signer p k] ∧ ahead = [])
  | .ceremonyFirst due, held, ahead =>
    (held = [] ∧ ahead = [.whichFree (due.map expires)]) ∨
      ((∀ r ∈ held, (∃ d ∈ due, r = .ceremony d.1) ∨ Beyond due held r) ∧
        ∀ w ∈ ahead, ∃ r, w = .update r ∧ Beyond due held r)

def Staged (t : Holder Row Op) : Prop := Stage t.call.order t.held t.ahead

theorem staged_start (o : Op) : Staged ⟨o, [], o.locks⟩ := by
  have first : ∀ (packages : List Nat) (rest : List (Wish Row)),
      (∀ w ∈ rest, ∃ r, (w = .lock r ∨ w = .update r) ∧ Inside packages r) →
      Stage (.jacketFirst packages) [] (.lock .jacket :: rest) := by
    intro packages rest rows
    exact ⟨.inr ⟨rfl, .inr ⟨rest, rfl⟩⟩, fun r hr => absurd hr not_mem_nil,
      forall_mem_cons.mpr ⟨⟨_, .inl rfl, .inl rfl⟩, rows⟩⟩
  cases o with
  | openJacket =>
    exact ⟨.inr ⟨rfl, .inl rfl⟩, fun r hr => absurd hr not_mem_nil,
      fun w hw => absurd hw not_mem_nil⟩
  | placeLegalHold => exact first [] [] (fun w hw => absurd hw not_mem_nil)
  | satisfyWithEvidence i | waiveRequirement i =>
    refine first [] (loadItemForUpdate i) fun w hw => ?_
    exact ⟨.item i, .inl (mem_singleton.mp hw), .inr (.inl ⟨i, rfl⟩)⟩
  | assemblePackage live items =>
    refine first [live] (.update (.package live) :: .update (.ceremony live) ::
      items.map fun i => .update (.item i)) fun w hw => ?_
    have hlive : live ∈ [live] := mem_singleton_self live
    simp only [mem_cons, mem_map] at hw
    rcases hw with rfl | rfl | ⟨i, -, rfl⟩
    · exact ⟨_, .inr rfl, .inr (.inr ⟨live, hlive, .inl rfl⟩)⟩
    · exact ⟨_, .inr rfl, .inr (.inr ⟨live, hlive, .inr rfl⟩)⟩
    · exact ⟨_, .inr rfl, .inr (.inl ⟨i, rfl⟩)⟩
  | voidJacket live =>
    refine first live ((live.map fun p => .update (.package p)) ++
      live.flatMap voidCeremonyOfPackageWithin) fun w hw => ?_
    simp only [voidCeremonyOfPackageWithin, mem_append, mem_map, mem_flatMap, mem_singleton] at hw
    rcases hw with ⟨p, hp, rfl⟩ | ⟨p, hp, rfl⟩
    · exact ⟨_, .inr rfl, .inr (.inr ⟨p, hp, .inl rfl⟩)⟩
    · exact ⟨_, .inr rfl, .inr (.inr ⟨p, hp, .inr rfl⟩)⟩
  | markReviewReady p | reviewPackage p | sendPackage p => exact .inl ⟨rfl, rfl⟩
  | voidPackage p => exact .inl ⟨rfl, rfl⟩
  | openSignerSession p k | consentToElectronicRecords p k | signAsCustomer p k
  | signAsDealerRepresentative p k | declineAsCustomer p k => exact .inl ⟨rfl, rfl⟩
  | expireDueCeremoniesForTenant due => exact .inl ⟨rfl, rfl⟩

variable {w : Wish Row} {p : Nat}

theorem row_eq {a : Row} (hr : w = .lock r ∨ w = .update r)
    (ha : w = .lock a ∨ w = .update a) : r = a := by
  rcases hr with rfl | rfl
  · exact ha.elim (fun h => Wish.lock.inj h) (fun h => absurd h nofun)
  · exact ha.elim (fun h => absurd h nofun) (fun h => Wish.update.inj h)

variable {rest : List (Wish Row)}

theorem head_eq {x : Wish Row} {a : Row} {more : List (Wish Row)} (hw : w = .lock r ∨ w = .update r)
    (hx : x = .lock a ∨ x = .update a) (he : w :: rest = x :: more) : r = a ∧ rest = more := by
  obtain ⟨rfl, rfl⟩ := cons_eq_cons.mp he
  exact ⟨row_eq hw hx, rfl⟩

variable {held : List Row}

theorem Beyond.mono {due : List (Nat × List Nat)} {held' : List Row} (h : Beyond due held r)
    (hsub : held ⊆ held') : Beyond due held' r := by
  obtain ⟨d, hd, hc, hr⟩ := h
  exact ⟨d, hd, hsub hc, hr⟩

variable {o : Order}

/-- Granting a row: the call moves on to its next stage. -/
theorem Stage.take (hw : w = .lock r ∨ w = .update r)
    (h : Stage o held (w :: rest)) : Stage o (r :: held) rest := by
  cases o with
  | jacketFirst packages =>
    obtain ⟨first, rows, wishes⟩ := h
    obtain ⟨r', hr', hin⟩ := wishes w mem_cons_self
    obtain rfl := row_eq hw hr'
    refine ⟨.inl ?_, forall_mem_cons.mpr ⟨hin, rows⟩, fun v hv => wishes v (mem_cons_of_mem _ hv)⟩
    rcases first with hj | ⟨-, he | ⟨rest', he⟩⟩
    · exact mem_cons_of_mem _ hj
    · exact absurd he (cons_ne_nil _ _)
    · obtain ⟨rfl, -⟩ := head_eq hw (.inl rfl) he
      exact mem_cons_self
  | packageFirst p =>
    rcases h with ⟨rfl, he⟩ | ⟨rfl, he⟩ | ⟨-, he⟩
    · obtain ⟨rfl, rfl⟩ := head_eq hw (.inl rfl) he
      exact .inr (.inl ⟨rfl, rfl⟩)
    · obtain ⟨rfl, rfl⟩ := head_eq hw (.inl rfl) he
      exact .inr (.inr ⟨rfl, rfl⟩)
    · exact absurd he (cons_ne_nil _ _)
  | packageThenCeremony p =>
    rcases h with ⟨rfl, he⟩ | ⟨rfl, he⟩ | ⟨rfl, he⟩ | ⟨-, he⟩
    · obtain ⟨rfl, rfl⟩ := head_eq hw (.inl rfl) he
      exact .inr (.inl ⟨rfl, rfl⟩)
    · obtain ⟨rfl, rfl⟩ := head_eq hw (.inl rfl) he
      exact .inr (.inr (.inl ⟨rfl, rfl⟩))
    · obtain ⟨rfl, rfl⟩ := head_eq hw (.inr rfl) he
      exact .inr (.inr (.inr ⟨.inr rfl, rfl⟩))
    · exact absurd he (cons_ne_nil _ _)
  | signerFirst p k =>
    rcases h with ⟨rfl, he⟩ | ⟨rfl, he⟩ | ⟨rfl, he⟩ | ⟨rfl, he⟩ | ⟨-, he⟩
    · obtain ⟨rfl, rfl⟩ := head_eq hw (.inl rfl) he
      exact .inr (.inl ⟨rfl, rfl⟩)
    · obtain ⟨rfl, rfl⟩ := head_eq hw (.inl rfl) he
      exact .inr (.inr (.inl ⟨rfl, rfl⟩))
    · obtain ⟨rfl, rfl⟩ := head_eq hw (.inl rfl) he
      exact .inr (.inr (.inr (.inl ⟨rfl, rfl⟩)))
    · obtain ⟨rfl, rfl⟩ := head_eq hw (.inl rfl) he
      exact .inr (.inr (.inr (.inr ⟨rfl, rfl⟩)))
    · exact absurd he (cons_ne_nil _ _)
  | ceremonyFirst due =>
    have hsub : held ⊆ r :: held := subset_cons_self r held
    rcases h with ⟨-, he⟩ | ⟨rows, wishes⟩
    · obtain ⟨rfl, -⟩ := cons_eq_cons.mp he
      exact absurd hw nofun
    · obtain ⟨r', hr', hb⟩ := wishes w mem_cons_self
      obtain rfl := row_eq hw (.inr hr')
      refine .inr ⟨forall_mem_cons.mpr ⟨.inr (hb.mono hsub), ?_⟩, ?_⟩
      · exact fun q hq => (rows q hq).imp_right fun hq => hq.mono hsub
      · intro v hv
        obtain ⟨q, hq, hb⟩ := wishes v (mem_cons_of_mem _ hv)
        exact ⟨q, hq, hb.mono hsub⟩

theorem Stage.leave (h : Stage o held (.update r :: rest)) : Stage o held rest := by
  cases o with
  | jacketFirst packages =>
    obtain ⟨first, rows, wishes⟩ := h
    refine ⟨first.imp_right ?_, rows, fun v hv => wishes v (mem_cons_of_mem _ hv)⟩
    rintro ⟨-, he | ⟨rest', he⟩⟩
    · exact absurd he (cons_ne_nil _ _)
    · exact absurd (cons_eq_cons.mp he).1 nofun
  | packageFirst p =>
    rcases h with ⟨-, he⟩ | ⟨-, he⟩ | ⟨-, he⟩ <;> exact absurd he (by simp)
  | packageThenCeremony p =>
    rcases h with ⟨-, he⟩ | ⟨-, he⟩ | ⟨rfl, he⟩ | ⟨-, he⟩
    · exact absurd he (by simp)
    · exact absurd he (by simp)
    · exact .inr (.inr (.inr ⟨.inl rfl, (cons_eq_cons.mp he).2⟩))
    · exact absurd he (by simp)
  | signerFirst p k =>
    rcases h with ⟨-, he⟩ | ⟨-, he⟩ | ⟨-, he⟩ | ⟨-, he⟩ | ⟨-, he⟩ <;> exact absurd he (by simp)
  | ceremonyFirst due =>
    rcases h with ⟨-, he⟩ | ⟨rows, wishes⟩
    · exact absurd he (by simp)
    · exact .inr ⟨rows, fun v hv => wishes v (mem_cons_of_mem _ hv)⟩

/-- Only the expiry pass takes what is free, and that is the first thing it does. -/
theorem Stage.skip {offers : List (Row × List Row)} (free : Row → Bool)
    (h : Stage o held (.whichFree offers :: rest)) :
    Stage o ((offers.filter fun a => free a.1).map (·.1) ++ held)
      ((offers.filter fun a => free a.1).flatMap (fun a => a.2.map .update) ++ rest) := by
  cases o with
  | jacketFirst packages =>
    obtain ⟨r, hr, -⟩ := h.2.2 _ mem_cons_self
    exact absurd hr nofun
  | packageFirst p =>
    rcases h with ⟨-, he⟩ | ⟨-, he⟩ | ⟨-, he⟩ <;> exact absurd he (by simp)
  | packageThenCeremony p =>
    rcases h with ⟨-, he⟩ | ⟨-, he⟩ | ⟨-, he⟩ | ⟨-, he⟩ <;> exact absurd he (by simp)
  | signerFirst p k =>
    rcases h with ⟨-, he⟩ | ⟨-, he⟩ | ⟨-, he⟩ | ⟨-, he⟩ | ⟨-, he⟩ <;> exact absurd he (by simp)
  | ceremonyFirst due =>
    rcases h with ⟨rfl, he⟩ | ⟨-, wishes⟩
    · obtain ⟨hw, rfl⟩ := cons_eq_cons.mp he
      obtain rfl : offers = due.map expires := by simpa using hw
      rw [append_nil, append_nil]
      refine .inr ⟨?_, ?_⟩
      · intro r hr
        obtain ⟨a, ha, rfl⟩ := mem_map.mp hr
        obtain ⟨d, hd, rfl⟩ := mem_map.mp (mem_filter.mp ha).1
        exact .inl ⟨d, hd, rfl⟩
      · intro w hw
        obtain ⟨a, ha, hw⟩ := mem_flatMap.mp hw
        obtain ⟨d, hd, rfl⟩ := mem_map.mp (mem_filter.mp ha).1
        obtain ⟨r, hr, rfl⟩ := mem_map.mp hw
        refine ⟨r, rfl, d, hd, mem_map.mpr ⟨_, ha, rfl⟩, ?_⟩
        rcases mem_append.mp hr with hr | hr
        · obtain ⟨k, hk, rfl⟩ := mem_map.mp hr
          exact .inr ⟨k, hk, rfl⟩
        · exact .inl (mem_singleton.mp hr)
    · obtain ⟨r, hr, -⟩ := wishes _ mem_cons_self
      exact absurd hr nofun

theorem staged_granted (free : Row → Bool) (t : Holder Row Op) (h : Staged t) :
    Staged (t.granted free) := by
  obtain e | ⟨r, rest, hw, -, e⟩ | ⟨offers, rest, hw, e⟩ := t.granted_cases free
  · rwa [e]
  · rw [e]
    rw [Staged] at h
    rcases hw with hw | hw
    · exact (hw ▸ h).take (.inl rfl)
    · exact (hw ▸ h).take (.inr rfl)
  · rw [e]
    rw [Staged, hw] at h
    exact h.skip free

theorem staged_passed (t : Holder Row Op) (h : Staged t) : Staged t.passed := by
  obtain e | ⟨r, rest, hw, e⟩ := t.passed_cases
  · rwa [e]
  · rw [e]
    rw [Staged, hw] at h
    exact h.leave

/-! ## Waits rise -/

/-- Ceremonies below packages below the jacket; signers and checklist items at the bottom. -/
def Row.rank : Row → Nat
  | .signer _ _ | .item _ => 0
  | .ceremony _ => 1
  | .package _ => 2
  | .jacket => 3

variable {ahead : List (Wish Row)}

/-- Who holds a ceremony holds the jacket too, or signs it, or lets it expire. -/
theorem Stage.ceremony_held (h : Stage o held ahead) (hp : .ceremony p ∈ held) :
    .jacket ∈ held ∨ (∃ k, o = .signerFirst p k) ∨
      ∃ due, o = .ceremonyFirst due ∧ ∃ d ∈ due, d.1 = p := by
  by_cases hj : .jacket ∈ held
  · exact .inl hj
  right
  cases o with
  | jacketFirst packages =>
    obtain ⟨rfl, -⟩ := h.1.resolve_left hj
    exact absurd hp not_mem_nil
  | packageFirst q =>
    rcases h with ⟨rfl, -⟩ | ⟨rfl, -⟩ | ⟨rfl, -⟩ <;> simp at hp
  | packageThenCeremony q =>
    rcases h with ⟨rfl, -⟩ | ⟨rfl, -⟩ | ⟨rfl, -⟩ | ⟨rfl | rfl, -⟩
    · simp at hp
    · simp at hp
    · simp at hj
    · simp at hj
    · simp at hj
  | signerFirst q k =>
    rcases h with ⟨rfl, -⟩ | ⟨rfl, -⟩ | ⟨rfl, -⟩ | ⟨rfl, -⟩ | ⟨rfl, -⟩
    · simp at hp
    · simp at hp
    · obtain rfl : p = q := by simpa using hp
      exact .inl ⟨k, rfl⟩
    · obtain rfl : p = q := by simpa using hp
      exact .inl ⟨k, rfl⟩
    · simp at hj
  | ceremonyFirst due =>
    rcases h with ⟨rfl, -⟩ | ⟨rows, -⟩
    · exact absurd hp not_mem_nil
    · rcases rows _ hp with ⟨d, hd, he⟩ | ⟨d, -, -, he | ⟨k, -, he⟩⟩
      · exact .inr ⟨due, rfl, d, hd, (Row.ceremony.inj he).symm⟩
      · exact absurd he nofun
      · exact absurd he nofun

theorem Stage.package_held (h : Stage o held ahead) (hp : .package p ∈ held) :
    .jacket ∈ held ∨ o.reaches p := by
  by_cases hj : .jacket ∈ held
  · exact .inl hj
  right
  cases o with
  | jacketFirst packages =>
    obtain ⟨rfl, -⟩ := h.1.resolve_left hj
    exact absurd hp not_mem_nil
  | packageFirst q =>
    rcases h with ⟨rfl, -⟩ | ⟨rfl, -⟩ | ⟨rfl, -⟩
    · simp at hp
    · have : p = q := by simpa using hp
      exact this.symm
    · simp at hj
  | packageThenCeremony q =>
    rcases h with ⟨rfl, -⟩ | ⟨rfl, -⟩ | ⟨rfl, -⟩ | ⟨rfl | rfl, -⟩
    · simp at hp
    · have : p = q := by simpa using hp
      exact this.symm
    · simp at hj
    · simp at hj
    · simp at hj
  | signerFirst q k =>
    rcases h with ⟨rfl, -⟩ | ⟨rfl, -⟩ | ⟨rfl, -⟩ | ⟨rfl, -⟩ | ⟨rfl, -⟩
    · simp at hp
    · simp at hp
    · simp at hp
    · have : p = q := by simpa using hp
      exact this.symm
    · simp at hj
  | ceremonyFirst due =>
    rcases h with ⟨rfl, -⟩ | ⟨rows, -⟩
    · exact absurd hp not_mem_nil
    · rcases rows _ hp with ⟨d, -, he⟩ | ⟨d, hd, -, he | ⟨k, -, he⟩⟩
      · exact absurd he nofun
      · exact ⟨d, hd, (Row.package.inj he).symm⟩
      · exact absurd he nofun

theorem Stage.signer_held {k : Nat} (h : Stage o held ahead) (hp : .signer p k ∈ held) :
    o = .signerFirst p k ∨ .ceremony p ∈ held := by
  cases o with
  | jacketFirst packages =>
    rcases h.2.1 _ hp with he | ⟨i, he⟩ | ⟨q, -, he | he⟩ <;> exact absurd he nofun
  | packageFirst q =>
    rcases h with ⟨rfl, -⟩ | ⟨rfl, -⟩ | ⟨rfl, -⟩ <;> simp at hp
  | packageThenCeremony q =>
    rcases h with ⟨rfl, -⟩ | ⟨rfl, -⟩ | ⟨rfl, -⟩ | ⟨rfl | rfl, -⟩ <;> simp at hp
  | signerFirst q j =>
    rcases h with ⟨rfl, -⟩ | ⟨rfl, -⟩ | ⟨rfl, -⟩ | ⟨rfl, -⟩ | ⟨rfl, -⟩
    · simp at hp
    all_goals
      obtain ⟨rfl, rfl⟩ : p = q ∧ k = j := by simpa using hp
      exact .inl rfl
  | ceremonyFirst due =>
    rcases h with ⟨rfl, -⟩ | ⟨rows, -⟩
    · exact absurd hp not_mem_nil
    · rcases rows _ hp with ⟨d, -, he⟩ | ⟨d, -, hc, he | ⟨j, -, he⟩⟩
      · exact absurd he nofun
      · exact absurd he nofun
      · obtain ⟨rfl, rfl⟩ := Row.signer.inj he
        exact .inr hc

theorem Stage.item_held {i : Nat} (h : Stage o held ahead) (hi : .item i ∈ held) :
    .jacket ∈ held := by
  cases o with
  | jacketFirst packages =>
    refine h.1.resolve_right ?_
    rintro ⟨rfl, -⟩
    exact absurd hi not_mem_nil
  | packageFirst q =>
    rcases h with ⟨rfl, -⟩ | ⟨rfl, -⟩ | ⟨rfl, -⟩ <;> simp at hi
  | packageThenCeremony q =>
    rcases h with ⟨rfl, -⟩ | ⟨rfl, -⟩ | ⟨rfl, -⟩ | ⟨rfl | rfl, -⟩ <;> simp at hi
  | signerFirst q k =>
    rcases h with ⟨rfl, -⟩ | ⟨rfl, -⟩ | ⟨rfl, -⟩ | ⟨rfl, -⟩ | ⟨rfl, -⟩ <;> simp at hi
  | ceremonyFirst due =>
    rcases h with ⟨rfl, -⟩ | ⟨rows, -⟩
    · exact absurd hi not_mem_nil
    · rcases rows _ hi with ⟨d, -, he⟩ | ⟨d, -, -, he | ⟨k, -, he⟩⟩ <;> exact absurd he nofun

theorem next_eq {t : Holder Row Op} (h : t.next = some r) :
    ∃ w rest, t.ahead = w :: rest ∧ (w = .lock r ∨ w = .update r) := by
  rw [Holder.next] at h
  split at h
  · rename_i r' rest e
    exact ⟨_, rest, e, .inl (congrArg _ (Option.some.inj h))⟩
  · rename_i r' rest e
    exact ⟨_, rest, e, .inr (congrArg _ (Option.some.inj h))⟩
  · exact absurd h nofun

/-- A state in which no two calls under way clash, each row has one holder, and every transaction
is at a stage of its call. -/
structure Sound (s : Hall Row Op) : Prop where
  staged : s.Each Staged
  exclusive : s.Exclusive
  apart : s.Apart Op.clash

theorem Sound.jacket_goes_on (h : Sound s) {i j : Nat} {t u : Holder Row Op} (hij : i ≠ j)
    (ht : s.At i t) (hu : s.At j u) (hj : .jacket ∈ t.held)
    (hr : t.next = some r) : r ∉ u.held := by
  intro hru
  obtain ⟨w, rest, hw, hwr⟩ := next_eq hr
  have atT := h.staged i t ht
  have atU := h.staged j u hu
  have without : .jacket ∉ u.held := h.exclusive i j t u _ hij ht hu hj
  rw [Staged, hw] at atT
  cases ho : t.call.order with
  | jacketFirst packages =>
    rw [ho] at atT
    obtain ⟨r', hr', hin⟩ := atT.2.2 w mem_cons_self
    obtain rfl := row_eq hwr hr'
    have reached : ∀ p ∈ packages, ¬ u.call.order.reaches p := by
      intro p hp hreach
      refine h.apart i j t u hij ht hu (.inl ?_)
      rw [ho]
      exact ⟨p, hp, hreach⟩
    rcases hin with rfl | ⟨i, rfl⟩ | ⟨p, hp, rfl | rfl⟩
    · exact without hru
    · exact without (atU.item_held hru)
    · exact (atU.package_held hru).elim without (reached p hp)
    · rcases atU.ceremony_held hru with hc | ⟨k, hc⟩ | ⟨due, hc, hd⟩
      · exact without hc
      · exact reached p hp (by rw [hc]; exact rfl)
      · exact reached p hp (by rw [hc]; exact hd)
  | packageFirst p =>
    rw [ho] at atT
    rcases atT with ⟨he, -⟩ | ⟨he, -⟩ | ⟨-, he⟩
    · simp [he] at hj
    · simp [he] at hj
    · exact absurd he (cons_ne_nil _ _)
  | packageThenCeremony p =>
    rw [ho] at atT
    rcases atT with ⟨he, -⟩ | ⟨he, -⟩ | ⟨-, he⟩ | ⟨-, he⟩
    · simp [he] at hj
    · simp [he] at hj
    · obtain ⟨rfl, -⟩ := head_eq hwr (.inr rfl) he
      rcases atU.ceremony_held hru with hc | ⟨k, hc⟩ | ⟨due, hc, hd⟩
      · exact without hc
      · exact h.apart i j t u hij ht hu (.inl (by rw [ho, hc]; exact rfl))
      · exact h.apart i j t u hij ht hu (.inl (by rw [ho, hc]; exact hd))
    · exact absurd he (cons_ne_nil _ _)
  | signerFirst p k =>
    rw [ho] at atT
    rcases atT with ⟨he, -⟩ | ⟨he, -⟩ | ⟨he, -⟩ | ⟨he, -⟩ | ⟨-, he⟩
    · simp [he] at hj
    · simp [he] at hj
    · simp [he] at hj
    · simp [he] at hj
    · exact absurd he (cons_ne_nil _ _)
  | ceremonyFirst due =>
    rw [ho] at atT
    rcases atT with ⟨he, -⟩ | ⟨rows, -⟩
    · simp [he] at hj
    · rcases rows _ hj with ⟨d, -, he⟩ | ⟨d, -, -, he | ⟨k, -, he⟩⟩ <;> exact absurd he nofun

theorem Stage.awaits_package {q : Row} (h : Stage o held (w :: rest))
    (hw : w = .lock (.package p) ∨ w = .update (.package p)) (hq : q ∈ held)
    (hj : .jacket ∉ held) : .ceremony p ∈ held := by
  have filled : held ≠ [] := ne_nil_of_mem hq
  cases o with
  | jacketFirst packages => exact absurd (h.1.resolve_left hj).1 filled
  | packageFirst p' =>
    rcases h with ⟨he, -⟩ | ⟨-, he⟩ | ⟨-, he⟩
    · exact absurd he filled
    · exact absurd (head_eq hw (.inl rfl) he).1 nofun
    · exact absurd he (cons_ne_nil _ _)
  | packageThenCeremony p' =>
    rcases h with ⟨he, -⟩ | ⟨-, he⟩ | ⟨-, he⟩ | ⟨-, he⟩
    · exact absurd he filled
    · exact absurd (head_eq hw (.inl rfl) he).1 nofun
    · exact absurd (head_eq hw (.inr rfl) he).1 nofun
    · exact absurd he (cons_ne_nil _ _)
  | signerFirst p' k =>
    rcases h with ⟨he, -⟩ | ⟨-, he⟩ | ⟨hheld, he⟩ | ⟨-, he⟩ | ⟨-, he⟩
    · exact absurd he filled
    · exact absurd (head_eq hw (.inl rfl) he).1 nofun
    · obtain rfl := Row.package.inj (head_eq hw (.inl rfl) he).1
      rw [hheld]
      exact mem_cons_self
    · exact absurd (head_eq hw (.inl rfl) he).1 nofun
    · exact absurd he (cons_ne_nil _ _)
  | ceremonyFirst due =>
    rcases h with ⟨he, -⟩ | ⟨-, wishes⟩
    · exact absurd he filled
    · obtain ⟨r, hr, d, -, hc, hrow⟩ := wishes w mem_cons_self
      obtain rfl := row_eq hw (.inr hr)
      rcases hrow with he | ⟨k, -, he⟩
      · rw [Row.package.inj he]
        exact hc
      · exact absurd he nofun

theorem Sound.rises (h : Sound s) {i j k : Nat} {t u v : Holder Row Op} {q r' : Row} (hij : i ≠ j)
    (hjk : j ≠ k) (ht : s.At i t) (hu : s.At j u) (hv : s.At k v) (hq : q ∈ t.held)
    (hr : t.next = some r) (hru : r ∈ u.held) (hr' : u.next = some r')
    (hrv : r' ∈ v.held) : r.rank < r'.rank := by
  have without : .jacket ∉ u.held := fun hj => h.jacket_goes_on hjk hu hv hj hr' hrv
  obtain ⟨w, rest, hw, hwr⟩ := next_eq hr'
  have atU := h.staged j u hu
  rw [Staged, hw] at atU
  cases ho : u.call.order with
  | jacketFirst packages =>
    rw [ho] at atU
    exact absurd (atU.1.resolve_left without).1 (ne_nil_of_mem hru)
  | packageFirst p =>
    rw [ho] at atU
    rcases atU with ⟨he, -⟩ | ⟨hheld, he⟩ | ⟨-, he⟩
    · exact absurd he (ne_nil_of_mem hru)
    · obtain ⟨rfl, -⟩ := head_eq hwr (.inl rfl) he
      rw [hheld, mem_singleton] at hru
      rw [hru]
      exact Nat.lt_succ_self 2
    · exact absurd he (cons_ne_nil _ _)
  | packageThenCeremony p =>
    rw [ho] at atU
    rcases atU with ⟨he, -⟩ | ⟨hheld, he⟩ | ⟨hheld, -⟩ | ⟨-, he⟩
    · exact absurd he (ne_nil_of_mem hru)
    · obtain ⟨rfl, -⟩ := head_eq hwr (.inl rfl) he
      rw [hheld, mem_singleton] at hru
      rw [hru]
      exact Nat.lt_succ_self 2
    · exact absurd (by rw [hheld]; exact mem_cons_self) without
    · exact absurd he (cons_ne_nil _ _)
  | signerFirst p n =>
    rw [ho] at atU
    rcases atU with ⟨he, -⟩ | ⟨hheld, he⟩ | ⟨hheld, he⟩ | ⟨hheld, he⟩ | ⟨-, he⟩
    · exact absurd he (ne_nil_of_mem hru)
    · obtain ⟨rfl, -⟩ := head_eq hwr (.inl rfl) he
      rw [hheld, mem_singleton] at hru
      rw [hru]
      exact Nat.zero_lt_one
    · obtain ⟨rfl, -⟩ := head_eq hwr (.inl rfl) he
      simp only [hheld, mem_cons, not_mem_nil, or_false] at hru
      rcases hru with rfl | rfl <;> simp [Row.rank]
    · obtain ⟨rfl, -⟩ := head_eq hwr (.inl rfl) he
      simp only [hheld, mem_cons, not_mem_nil, or_false] at hru
      rcases hru with rfl | rfl | rfl <;> simp [Row.rank]
    · exact absurd he (cons_ne_nil _ _)
  | ceremonyFirst due =>
    rw [ho] at atU
    rcases atU with ⟨he, -⟩ | ⟨rows, wishes⟩
    · exact absurd he (ne_nil_of_mem hru)
    obtain ⟨r'', hr'', d, hd, hc, hrow⟩ := wishes w mem_cons_self
    obtain rfl := row_eq hwr (.inr hr'')
    rcases hrow with rfl | ⟨n, hn, rfl⟩
    · -- waiting for a package: a package in hand would be awaited by a second holder of its
      -- ceremony
      rcases rows _ hru with ⟨e, -, rfl⟩ | ⟨e, -, hce, rfl | ⟨n, -, rfl⟩⟩
      · exact Nat.lt_succ_self 1
      · exfalso
        obtain ⟨x, more, hx, hxr⟩ := next_eq hr
        have atT := h.staged i t ht
        rw [Staged, hx] at atT
        have away : .jacket ∉ t.held := fun hj => h.jacket_goes_on hij ht hu hj hr hru
        exact h.exclusive i j t u _ hij ht hu (atT.awaits_package hxr hq away) hce
      · exact Nat.zero_lt_two
    · -- the signers of a ceremony it holds are free to it
      exfalso
      rcases (h.staged k v hv).signer_held hrv with hs | hcv
      · refine h.apart j k u v hjk hu hv (.inr ?_)
        rw [ho, hs]
        exact ⟨d, hd, rfl, hn⟩
      · exact h.exclusive j k u v _ hjk hu hv hc hcv

theorem Sound.not_deadlocked (h : Sound s) : ¬ s.Deadlocked :=
  Hall.not_deadlocked Row.rank fun _ _ _ _ _ _ _ _ _ => h.rises

/-! ## Runs -/

theorem Sound.start : Sound [] where
  staged := fun _ _ ht => absurd ht nofun
  exclusive := fun _ _ _ _ _ _ ht => absurd ht nofun
  apart := fun _ _ _ _ _ ht => absurd ht nofun

theorem Sound.step (h : Sound s) {turn : HallTurn Op}
    (ho : s.Orderly Op.clash turn) : Sound (s.step Op.locks turn) where
  staged := h.staged.step staged_start staged_granted staged_passed turn
  exclusive := h.exclusive.step turn
  apart := h.apart.step Op.clash_symm ho

/-- Operations never wait for each other in a circle when none begins while one it clashes with is
under way: in every state such a run reaches, no transaction waits, through others, for itself. -/
theorem operations_never_deadlock (turns : List (HallTurn Op))
    (h : Along (Hall.step Op.locks) (Hall.Orderly Op.clash) [] turns) :
    ¬ (run (Hall.step Op.locks) [] turns).Deadlocked :=
  (Along.invariant (fun _ _ hs ho => Sound.step hs ho) h Sound.start).not_deadlocked

/-- Two signers, an expiry pass that skips their ceremony, and a hold placed in between. -/
theorem signers_expiry_and_hold_go_on :
    ¬ (run (Hall.step Op.locks) [] [.start (.signAsCustomer 1 1), .grant 0, .grant 0,
      .start (.openSignerSession 1 2), .grant 1, .start .placeLegalHold, .grant 2, .grant 1,
      .grant 0, .start (.expireDueCeremoniesForTenant [(2, [1])]), .grant 3, .grant 3,
      .finish 2, .grant 0, .grant 3]).Deadlocked :=
  operations_never_deadlock _ (by decide)

/-- A package is being marked review-ready while its jacket is assembled again: the assembly has
the jacket and asks for the package, the mark has the package and asks for the jacket. -/
theorem assembly_and_review_deadlock :
    (run (Hall.step Op.locks) [] [.start (.assemblePackage 1 [1]), .grant 0,
      .start (.markReviewReady 1), .grant 1]).Deadlocked := by
  refine ⟨0, .tail (.single (b := 1) ?_) ?_⟩
  · exact ⟨by decide, _, _, .package 1, rfl, rfl, rfl, by decide⟩
  · exact ⟨by decide, _, _, .jacket, rfl, rfl, rfl, by decide⟩

end Dealership.Jacket.Locks
