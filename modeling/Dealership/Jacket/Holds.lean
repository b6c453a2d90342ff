import Dealership.Jacket.Bound
import Dealership.Jacket.Envelope
import Mathlib.Data.List.Chain

/-!
# Legal holds

A hold is placed and lifted as two facts, and the flag on every document of the jacket is the
answer those facts add up to.  Two commands write it: a hold sets it on the documents there are,
and an assembly on those it adds.  Both hold the jacket's row from their first statement to their
commit, so a command is one step here.
-/

namespace Dealership.Jacket

open Library List

variable {db : HoldFile}

/-! ## The events -/

inductive HoldAction where
  | placed | lifted
deriving DecidableEq

def HoldAction.text : HoldAction → String
  | .placed => "placed"
  | .lifted => "lifted"

/-- A row of `legal_hold_events`. -/
structure HoldEvent extends LegalHoldEvent where
  reason : String
  reference : Option String
  acted_by_user_link_id : String

/-- The jacket's rows with the history of their holds, in the order it was committed. -/
structure HoldFile where
  cabinet : Cabinet
  legal_hold_events : List HoldEvent

def HoldFile.empty : HoldFile := ⟨Cabinet.empty, []⟩

/-- What a transaction reads: the events as they stand, and its own world otherwise. -/
def HoldFile.world (db : HoldFile) (w : JacketWorld) : JacketWorld :=
  { w with
    sources := { w.sources with
      legal_hold_events := db.legal_hold_events.map HoldEvent.toLegalHoldEvent } }

/-- The last event of a jacket, `ORDER BY occurred_at DESC, hold_event_id DESC`. -/
def currentlyHeld (db : HoldFile) (jacketId : String) : Bool :=
  ((((db.legal_hold_events.map HoldEvent.toLegalHoldEvent).filter
      fun e => e.jacket_id = jacketId).insertionSort
    fun a b => b.occurred_at < a.occurred_at ||
      (a.occurred_at = b.occurred_at && jsLe b.hold_event_id a.hold_event_id)).head?).any (·.placed)

/-! ## placeLegalHold and liftLegalHold -/

structure HoldInput where
  actingUserLinkId : String
  jacketId : String
  reason : String
  reference : Option String
  expectedVersion : Nat

inductive HoldOutcome where
  | recorded (jacket : DealJacket) (documentsAffected : Nat)
  | already_there (jacket : DealJacket)
  | version_conflict (currentVersion : Nat)
  | invalid (error : String)
  | not_found

/-- The row a hold appends. -/
def HoldInput.event (input : HoldInput) (w : JacketWorld) (newHoldEventId actor : String)
    (action : HoldAction) : HoldEvent where
  hold_event_id := newHoldEventId
  jacket_id := input.jacketId
  placed := action = .placed
  occurred_at := w.now
  reason := slice 500 input.reason
  reference := input.reference
  acted_by_user_link_id := actor

/-- `INSERT INTO legal_hold_events`, with its key and its `CHECK`s. -/
def insertHoldEvent (e : HoldEvent) (db : HoldFile) : Except Raise HoldFile := do
  ensure (db.legal_hold_events.all fun r => r.hold_event_id ≠ e.hold_event_id)
    "legal_hold_events_pkey"
  ensure (1 ≤ e.reason.length && e.reason.length ≤ 500 &&
    e.reference.all fun r => r.length ≤ 200) "legal_hold_events CHECK"
  pure { db with legal_hold_events := db.legal_hold_events ++ [e] }

/-- `p.package_id = d.package_id AND p.jacket_id = $2`. -/
def Cabinet.ofJacket (db : Cabinet) (jacketId : String) (d : PackageDocument) : Bool :=
  db.jacket_packages.any fun p => p.package_id = d.package_id && p.jacket_id = jacketId

/-- `UPDATE package_documents d SET legal_hold = $3 FROM jacket_packages p`: the documents of every
version of the jacket. -/
def Cabinet.flag (db : Cabinet) (jacketId : String) (held : Bool) : Cabinet :=
  { db with
    package_documents := updateWhere (fun d => db.ofJacket jacketId d = true)
      (fun d => { d with legal_hold := held }) db.package_documents }

def moveHold (w : JacketWorld) (newHoldEventId : String) (db : HoldFile) (input : HoldInput)
    (action : HoldAction) : Except Raise (HoldOutcome × HoldFile) := do
  let actor ← requireActor w.access input.actingUserLinkId
  match requireJacketWithin w db.cabinet actor input.jacketId with
  | none => pure (.not_found, db)
  | some jacket =>
    let held := currentlyHeld db jacket.jacket_id
    if decide (action = .placed) = held then pure (.already_there jacket, db)
    else if isBlank input.reason then
      pure (.invalid s!"a hold is {action.text} for a stated reason", db)
    else if jacket.authorization_version ≠ input.expectedVersion then
      pure (.version_conflict jacket.authorization_version, db)
    else do
      let db ← insertHoldEvent (input.event w newHoldEventId actor action) db
      let flagged := db.cabinet.package_documents.countP (db.cabinet.ofJacket jacket.jacket_id)
      let cabinet := db.cabinet.flag jacket.jacket_id (action = .placed)
      let hit := fun j : DealJacket =>
        j.jacket_id = jacket.jacket_id && j.authorization_version = input.expectedVersion
      let bump := fun j : DealJacket =>
        { j with authorization_version := j.authorization_version + 1 }
      if cabinet.deal_jackets.any hit then
        pure (.recorded (bump jacket) flagged, { db with
          cabinet := { cabinet with
            deal_jackets := updateWhere (fun j => hit j = true) bump cabinet.deal_jackets } })
      else
        pure (.version_conflict (jacket.authorization_version + 1), { db with cabinet })

def placeLegalHold (w : JacketWorld) (newHoldEventId : String) (db : HoldFile)
    (input : HoldInput) : Except Raise (HoldOutcome × HoldFile) :=
  moveHold w newHoldEventId db input .placed

def liftLegalHold (w : JacketWorld) (newHoldEventId : String) (db : HoldFile)
    (input : HoldInput) : Except Raise (HoldOutcome × HoldFile) :=
  moveHold w newHoldEventId db input .lifted

/-! ## Runs -/

/-- A committed call: a hold, or any command of the jacket. -/
inductive HoldCall where
  | placeLegalHold (w : JacketWorld) (newHoldEventId : String) (input : HoldInput)
  | liftLegalHold (w : JacketWorld) (newHoldEventId : String) (input : HoldInput)
  | jacket (call : Call)

namespace HoldFile

def step (db : HoldFile) : HoldCall → HoldFile
  | .placeLegalHold w id input => committed db (placeLegalHold w id db input)
  | .liftLegalHold w id input => committed db (liftLegalHold w id db input)
  | .jacket call => { db with cabinet := Jacket.step db.cabinet (call.inWorld db.world) }

def eventsOf (db : HoldFile) (jacketId : String) : List HoldEvent :=
  db.legal_hold_events.filter fun e => e.jacket_id = jacketId

/-- The events of a jacket occur in the order they are committed. -/
def Ordered (db : HoldFile) (jacketId : String) : Prop :=
  (db.eventsOf jacketId).Pairwise fun e e' => e.occurred_at < e'.occurred_at

def InOrder (db : HoldFile) : HoldCall → Prop
  | .placeLegalHold w id input => (db.step (.placeLegalHold w id input)).Ordered input.jacketId
  | .liftLegalHold w id input => (db.step (.liftLegalHold w id input)).Ordered input.jacketId
  | .jacket _ => True

instance (db : HoldFile) (jacketId : String) : Decidable (db.Ordered jacketId) :=
  inferInstanceAs (Decidable (List.Pairwise _ _))

instance (db : HoldFile) : ∀ call, Decidable (db.InOrder call)
  | .placeLegalHold _ _ _ => inferInstanceAs (Decidable (Ordered _ _))
  | .liftLegalHold _ _ _ => inferInstanceAs (Decidable (Ordered _ _))
  | .jacket _ => inferInstanceAs (Decidable True)

/-- The last fact about the holds of a jacket is that one was placed. -/
def heldBy (db : HoldFile) (jacketId : String) : Bool :=
  (db.eventsOf jacketId).getLast?.any (·.placed)

/-- The flag on every document of every version of a jacket is what its holds add up to, and the
holds of a jacket are placed and lifted in turn. -/
structure AddsUp (db : HoldFile) : Prop where
  filed : ∀ d ∈ db.cabinet.package_documents,
    ∃ p ∈ db.cabinet.jacket_packages, p.package_id = d.package_id
  flagged : ∀ d ∈ db.cabinet.package_documents, ∀ p ∈ db.cabinet.jacket_packages,
    p.package_id = d.package_id → d.legal_hold = db.heldBy p.jacket_id
  starts : ∀ jacketId, ∀ e ∈ (db.eventsOf jacketId).head?, e.placed = true
  alternates : ∀ jacketId, (db.eventsOf jacketId).IsChain fun e e' => e.placed ≠ e'.placed
  inOrder : ∀ jacketId, db.Ordered jacketId

end HoldFile

/-! ## The last event -/

/-- Where every event is later than the one before it, the one that is sorted first is the one
that was committed last. -/
theorem head?_sorted {events : List LegalHoldEvent} (e : LegalHoldEvent)
    (h : ∀ e' ∈ events, e'.occurred_at < e.occurred_at) :
    ((events ++ [e]).insertionSort fun a b => b.occurred_at < a.occurred_at ||
      (a.occurred_at = b.occurred_at && jsLe b.hold_event_id a.hold_event_id)).head? = some e := by
  induction events with
  | nil => rfl
  | cons x events ih =>
    have hx := h x mem_cons_self
    obtain ⟨rest, hrest⟩ := head?_eq_some_iff.mp (ih fun e' he' => h e' (mem_cons_of_mem _ he'))
    rw [cons_append, insertionSort_cons, hrest, List.orderedInsert, if_neg]
    · rfl
    · simp only [Bool.or_eq_true, Bool.and_eq_true, decide_eq_true_eq, not_or, not_and]
      omega

theorem head?_sorted_eq_getLast? {events : List LegalHoldEvent}
    (h : events.Pairwise fun e e' => e.occurred_at < e'.occurred_at) :
    (events.insertionSort fun a b => b.occurred_at < a.occurred_at ||
      (a.occurred_at = b.occurred_at && jsLe b.hold_event_id a.hold_event_id)).head? =
        events.getLast? := by
  rcases eq_nil_or_concat' events with rfl | ⟨before, e, rfl⟩
  · rfl
  · rw [head?_sorted e fun e' he' => ?_, getLast?_concat]
    rw [pairwise_append] at h
    exact h.2.2 e' he' e (mem_singleton_self e)

/-- The two commands and the assembly read the answer off the history. -/
theorem currentlyHeld_eq {jacketId : String} (h : db.Ordered jacketId) :
    currentlyHeld db jacketId = db.heldBy jacketId := by
  have hevents : (db.legal_hold_events.map HoldEvent.toLegalHoldEvent).filter
      (fun e => e.jacket_id = jacketId) =
        (db.eventsOf jacketId).map HoldEvent.toLegalHoldEvent := filter_map
  rw [currentlyHeld, hevents, head?_sorted_eq_getLast? (pairwise_map.mpr h),
    getLast?_map, HoldFile.heldBy]
  cases (db.eventsOf jacketId).getLast? <;> rfl

theorem jacketHeldWithin_eq {jacketId : String} (w : JacketWorld) (h : db.Ordered jacketId) :
    jacketHeldWithin (db.world w).sources jacketId = db.heldBy jacketId :=
  currentlyHeld_eq h

/-! ## Documents under the commands of the jacket -/

section Commands

variable {db db' : Cabinet} {w : JacketWorld}

theorem openJacketWithin_documents {actor caseId : String} {out : OpenJacketOutcome}
    (h : openJacketWithin w db actor caseId = .ok (out, db')) :
    db'.package_documents = db.package_documents := by
  rcases openJacketWithin_eq_ok h with ⟨rfl, -⟩ | ⟨_, _, _, -, -, -, -, hresolve⟩
  · rfl
  · obtain ⟨items, rfl, -⟩ := resolveChecklist_eq_ok hresolve
    rfl

theorem satisfyWithEvidence_documents {input : SatisfyInput} {out : ChecklistOutcome}
    (h : satisfyWithEvidence w db input = .ok (out, db')) :
    db'.package_documents = db.package_documents := by
  rcases satisfyWithEvidence_eq_ok h with rfl | ⟨_, -, -, rfl⟩ <;> rfl

theorem waiveRequirement_documents {input : WaiveInput} {out : ChecklistOutcome}
    (h : waiveRequirement w db input = .ok (out, db')) :
    db'.package_documents = db.package_documents := by
  rcases waiveRequirement_eq_ok h with rfl | ⟨_, _, -, -, rfl⟩ <;> rfl

theorem markReviewReady_documents {input : PackageInput} {out : MoveOutcome}
    (h : markReviewReady w db input = .ok (out, db')) :
    db'.package_documents = db.package_documents := by
  rcases markReviewReady_eq_ok h with rfl | ⟨_, -, _, -, -, rfl⟩ <;> rfl

/-- A document there was, or one of a package of a jacket that is held as `held` says. -/
def Filed (held : String → Bool) (before after : Cabinet) : Prop :=
  ∀ d ∈ after.package_documents, d ∈ before.package_documents ∨
    ∃ p ∈ after.jacket_packages, p.package_id = d.package_id ∧ d.legal_hold = held p.jacket_id

theorem Filed.of_documents {held : String → Bool} {before after : Cabinet}
    (h : after.package_documents = before.package_documents) : Filed held before after :=
  fun _ hd => .inl (h ▸ hd)

theorem writePackage_filed {actor : String} {jacket : DealJacket} {a : Assembly}
    {out : AssembleOutcome} (h : writePackage w actor jacket a db = .ok (out, db')) :
    Filed (jacketHeldWithin w.sources) db db' := by
  obtain ⟨_, -, ⟨-, -, rfl⟩ | ⟨-, _, _, rfl, hstored, -, rfl⟩⟩ := writePackage_eq_ok h
  · exact .of_documents rfl
  · obtain ⟨items, bl, rfl, -⟩ := storeDocuments_eq_ok hstored
    rw [map_snd_zip (by simp)]
    intro doc hdoc
    rcases mem_append.mp hdoc with hdoc | hdoc
    · exact .inl hdoc
    · obtain ⟨r, -, rfl⟩ := mem_map.mp hdoc
      exact .inr ⟨_, mem_append_right _ mem_cons_self, rfl, rfl⟩

theorem assemblePackage_filed {input : AssembleInput} {out : AssembleOutcome}
    (h : assemblePackage w db input = .ok (out, db')) :
    Filed (jacketHeldWithin w.sources) db db' := by
  rcases assemblePackage_eq_ok h with rfl | ⟨_, _, _, -, -, h⟩
  · exact .of_documents rfl
  · exact writePackage_filed h

end Commands

theorem step_filed {db : Cabinet} (hdb : Coherent db) {call : Call} {held : String → Bool}
    (hheld : ∀ w input, call = .assemblePackage w input → jacketHeldWithin w.sources = held) :
    Filed held db (step db call) := by
  have hcommitted : ∀ {α : Type} {r : Except Raise (α × Cabinet)},
      (∀ out db', r = .ok (out, db') → Filed held db db') → Filed held db (committed db r) :=
    fun h => committed_induction (P := Filed held db) (.of_documents rfl) h
  cases call with
  | openJacket w actor caseId =>
    exact hcommitted fun _ _ h => .of_documents (openJacketWithin_documents h)
  | satisfyWithEvidence w input =>
    exact hcommitted fun _ _ h => .of_documents (satisfyWithEvidence_documents h)
  | waiveRequirement w input =>
    exact hcommitted fun _ _ h => .of_documents (waiveRequirement_documents h)
  | assemblePackage w input =>
    rw [← hheld w input rfl]
    exact committed_induction (P := Filed _ db) (.of_documents rfl)
      fun _ _ h => assemblePackage_filed h
  | markReviewReady w input =>
    exact hcommitted fun _ _ h => .of_documents (markReviewReady_documents h)
  | reviewPackage w input =>
    exact hcommitted fun _ _ h => .of_documents (reviewPackage_quiet h).documents
  | sendPackage w input =>
    exact hcommitted fun _ _ h => .of_documents (sendPackage_quiet h).documents
  | openSignerSession w token now => exact .of_documents openSignerSession_quiet.documents
  | consentToElectronicRecords w token version now =>
    refine .of_documents (Moves.quiet hdb ?_).documents
    exact consentToElectronicRecords_moves fun _ _ _ => trivial
  | signAsCustomer w token input now =>
    refine hcommitted fun _ _ h => .of_documents (Moves.quiet hdb ?_).documents
    exact signAsCustomer_moves (fun _ _ _ _ _ => trivial) h
  | signAsDealerRepresentative w input =>
    refine hcommitted fun _ _ h => .of_documents (Moves.quiet hdb ?_).documents
    exact signAsDealerRepresentative_moves hdb (fun _ _ _ => trivial)
      (fun _ _ _ _ _ _ _ _ _ _ => trivial) h
  | declineAsCustomer w token reason now =>
    exact hcommitted fun _ _ h => .of_documents (declineAsCustomer_quiet h).documents
  | voidPackage w input =>
    exact hcommitted fun _ _ h => .of_documents (voidPackage_quiet h).documents
  | voidJacket w input =>
    exact hcommitted fun _ _ h => .of_documents (voidJacket_quiet h).documents
  | expireDueCeremoniesForTenant w now limit =>
    exact hcommitted fun _ _ h =>
      .of_documents (expireDueCeremoniesForTenant_quiet h).documents

/-- No command unbinds a jacket, or takes a package away or gives it to another jacket. -/
theorem step_bindings_subset {db : Cabinet} (call : Call) :
    db.bindings.jackets ⊆ (step db call).bindings.jackets ∧
      db.bindings.packages ⊆ (step db call).bindings.packages := by
  have hrefl : db.bindings.jackets ⊆ db.bindings.jackets ∧
      db.bindings.packages ⊆ db.bindings.packages := ⟨List.Subset.refl _, List.Subset.refl _⟩
  cases hbinds : call.binds with
  | false =>
    rw [step_bindings hbinds]
    exact hrefl
  | true =>
    cases call with
    | openJacket w actor caseId =>
      refine committed_induction (P := fun d : Cabinet => db.bindings.jackets ⊆
        d.bindings.jackets ∧ db.bindings.packages ⊆ d.bindings.packages) hrefl fun _ _ h => ?_
      rcases openJacketWithin_bindings h with hsame | ⟨_, _, -, hsame⟩ <;> rw [hsame]
      · exact hrefl
      · exact ⟨subset_append_left _ _, hrefl.2⟩
    | assemblePackage w input =>
      refine committed_induction (P := fun d : Cabinet => db.bindings.jackets ⊆
        d.bindings.jackets ∧ db.bindings.packages ⊆ d.bindings.packages) hrefl fun _ _ h => ?_
      rcases assemblePackage_bindings h with hsame | ⟨_, _, _, _, -, -, -, hsame⟩ <;>
        rw [hsame]
      · exact hrefl
      · exact ⟨hrefl.1, subset_append_left _ _⟩
    | _ => cases hbinds

/-! ## What a hold writes -/

/-- A hold writes nothing, or the fact that turns the answer over with the flag it comes to. -/
theorem moveHold_cases {w : JacketWorld} {newHoldEventId : String} {db' : HoldFile}
    {input : HoldInput} {action : HoldAction} {out : HoldOutcome}
    (h : moveHold w newHoldEventId db input action = .ok (out, db')) :
    db' = db ∨ ∃ actor jackets,
      jackets.map DealJacket.binding = db.cabinet.deal_jackets.map DealJacket.binding ∧
      decide (action = .placed) ≠ currentlyHeld db input.jacketId ∧
      db' = ⟨{ db.cabinet.flag input.jacketId (action = .placed) with deal_jackets := jackets },
        db.legal_hold_events ++ [input.event w newHoldEventId actor action]⟩ := by
  obtain ⟨actor, -, h⟩ := bind_eq_ok.mp h
  split at h
  · cases h
    exact .inl rfl
  rename_i jacket hjacket
  obtain ⟨hmem, hid⟩ := of_requireJacketWithin hjacket
  dsimp only at h
  split at h
  · cases h
    exact .inl rfl
  rename_i hturn
  split at h
  · cases h
    exact .inl rfl
  split at h
  · cases h
    exact .inl rfl
  obtain ⟨inserted, hinsert, h⟩ := bind_eq_ok.mp h
  obtain ⟨_, _, hinsert⟩ := bind_eq_ok.mp hinsert
  obtain ⟨_, _, hinsert⟩ := bind_eq_ok.mp hinsert
  cases hinsert
  rw [hid] at hturn h
  split at h
  · cases h
    refine .inr ⟨actor, updateWhere _ _ db.cabinet.deal_jackets, ?_, hturn, rfl⟩
    exact map_updateWhere fun _ _ => rfl
  · cases h
    exact .inr ⟨actor, _, rfl, hturn, rfl⟩

namespace HoldFile

variable {db : HoldFile}

theorem eventsOf_append (cabinet : Cabinet) (e : HoldEvent) (jacketId : String) :
    eventsOf ⟨cabinet, db.legal_hold_events ++ [e]⟩ jacketId =
      if e.jacket_id = jacketId then db.eventsOf jacketId ++ [e] else db.eventsOf jacketId := by
  rw [eventsOf, filter_append]
  split
  · rename_i he
    simp [eventsOf, he]
  · rename_i he
    simp [eventsOf, he]

theorem heldBy_append (cabinet : Cabinet) (e : HoldEvent) (jacketId : String) :
    heldBy ⟨cabinet, db.legal_hold_events ++ [e]⟩ jacketId =
      if e.jacket_id = jacketId then e.placed else db.heldBy jacketId := by
  rw [heldBy, eventsOf_append]
  split
  · rw [getLast?_concat]
    rfl
  · rfl

/-- An event that turns the answer over starts a history as a placed one, and alternates with the
last one of a history there is. -/
theorem placed_of_ne {e : HoldEvent} {jacketId : String}
    (hturn : e.placed ≠ db.heldBy jacketId) :
    (db.eventsOf jacketId = [] → e.placed = true) ∧
      ∀ last ∈ (db.eventsOf jacketId).getLast?, last.placed ≠ e.placed := by
  rw [heldBy] at hturn
  constructor
  · intro hnone
    rw [hnone] at hturn
    exact Bool.eq_true_of_not_eq_false hturn
  · intro last hlast heq
    rw [Option.mem_def.mp hlast] at hturn
    exact hturn heq.symm

namespace AddsUp

theorem empty : AddsUp HoldFile.empty where
  filed := fun _ hd => absurd hd not_mem_nil
  flagged := fun _ hd => absurd hd not_mem_nil
  starts := fun _ _ he => absurd he (Option.not_mem_none _)
  alternates := fun _ => .nil
  inOrder := fun _ => .nil

/-- The fact that turns the answer over, with the flag it comes to, keeps the sum. -/
theorem held (hdb : Coherent db.cabinet) (h : db.AddsUp) {jackets : List DealJacket}
    {e : HoldEvent} (hturn : e.placed ≠ db.heldBy e.jacket_id)
    (horder : Ordered ⟨{ db.cabinet.flag e.jacket_id e.placed with deal_jackets := jackets },
      db.legal_hold_events ++ [e]⟩ e.jacket_id) :
    AddsUp ⟨{ db.cabinet.flag e.jacket_id e.placed with deal_jackets := jackets },
      db.legal_hold_events ++ [e]⟩ := by
  obtain ⟨hfirst, hlast⟩ := placed_of_ne hturn
  constructor
  case filed =>
    intro d hd
    rcases updateWhere_cases hd with ⟨hd, -⟩ | ⟨r, hr, -, rfl⟩
    · exact h.filed d hd
    · exact h.filed r hr
  case flagged =>
    intro d hd p hp hid
    rw [heldBy_append]
    rcases updateWhere_cases hd with ⟨hd, hmiss⟩ | ⟨r, -, hhit, rfl⟩
    · -- a document the update missed is of another jacket
      rw [if_neg]
      · exact h.flagged d hd p hp hid
      · intro hj
        refine hmiss (any_eq_true.mpr ⟨p, hp, ?_⟩)
        rw [Bool.and_eq_true, decide_eq_true_iff, decide_eq_true_iff]
        exact ⟨hid, hj.symm⟩
    · -- the package that made it a hit is the package it is filed under
      obtain ⟨q, hq, hboth⟩ := any_eq_true.mp hhit
      rw [Bool.and_eq_true, decide_eq_true_iff, decide_eq_true_iff] at hboth
      obtain rfl := hdb.keyed.package_unique hp hq (hid.trans hboth.1.symm)
      rw [if_pos hboth.2.symm]
  case starts =>
    intro jacketId first hmem
    rw [eventsOf_append] at hmem
    split at hmem
    · rename_i hj
      subst hj
      rw [head?_append, Option.mem_def, Option.or_eq_some_iff] at hmem
      rcases hmem with hmem | ⟨hnone, hmem⟩
      · exact h.starts _ first hmem
      · cases hmem
        exact hfirst (head?_eq_none_iff.mp hnone)
    · exact h.starts jacketId first hmem
  case alternates =>
    intro jacketId
    rw [eventsOf_append]
    split
    · rename_i hj
      subst hj
      refine isChain_append.mpr ⟨h.alternates _, .singleton e, fun last hl next hn => ?_⟩
      cases hn
      exact hlast last hl
    · exact h.alternates jacketId
  case inOrder =>
    intro jacketId
    by_cases hj : e.jacket_id = jacketId
    · exact hj ▸ horder
    · rw [Ordered, eventsOf_append, if_neg hj]
      exact h.inOrder jacketId

/-- A command of the jacket keeps the sum: it reads the answer, and no document changes hands. -/
theorem jacket (hdb : Coherent db.cabinet) (h : db.AddsUp) (call : Call) :
    (db.step (.jacket call)).AddsUp := by
  have hafter := step_coherent hdb (call.inWorld db.world)
  have hfiled : Filed db.heldBy db.cabinet (Jacket.step db.cabinet (call.inWorld db.world)) := by
    refine step_filed hdb fun w input hcall => ?_
    cases call with
    | assemblePackage w' input' =>
      cases hcall
      exact funext fun jacketId => jacketHeldWithin_eq w' (h.inOrder jacketId)
    | _ => cases hcall
  -- the package an old document is filed under, in the rows after the command
  have hkept : ∀ d ∈ db.cabinet.package_documents, ∃ p ∈ db.cabinet.jacket_packages,
      ∃ q ∈ (Jacket.step db.cabinet (call.inWorld db.world)).jacket_packages,
        p.package_id = d.package_id ∧ q.ids = p.ids := by
    intro d hd
    obtain ⟨p, hp, hid⟩ := h.filed d hd
    obtain ⟨q, hq, hids⟩ := mem_map.mp
      ((step_bindings_subset (call.inWorld db.world)).2 (mem_map_of_mem hp))
    exact ⟨p, hp, q, hq, hid, hids⟩
  constructor
  case filed =>
    intro d hd
    rcases hfiled d hd with hd | ⟨p, hp, hid, -⟩
    · obtain ⟨p, -, q, hq, hid, hids⟩ := hkept d hd
      exact ⟨q, hq, (congrArg Prod.fst hids).trans hid⟩
    · exact ⟨p, hp, hid⟩
  case flagged =>
    intro d hd p' hp' hid'
    rcases hfiled d hd with hd | ⟨p, hp, hid, hheld⟩
    · obtain ⟨p, hp, q, hq, hid, hids⟩ := hkept d hd
      obtain rfl := hafter.keyed.package_unique hp' hq
        (hid'.trans (hid.symm.trans (congrArg Prod.fst hids).symm))
      have hj : p'.jacket_id = p.jacket_id := congrArg Prod.snd hids
      rw [hj]
      exact h.flagged d hd p hp hid
    · obtain rfl := hafter.keyed.package_unique hp' hp (hid'.trans hid.symm)
      exact hheld
  case starts => exact h.starts
  case alternates => exact h.alternates
  case inOrder => exact h.inOrder

end AddsUp

theorem coherent_flagged {cabinet : Cabinet} (h : Coherent cabinet) {jackets : List DealJacket}
    (hbound : jackets.map DealJacket.binding = cabinet.deal_jackets.map DealJacket.binding)
    (jacketId : String) (held : Bool) :
    Coherent { cabinet.flag jacketId held with deal_jackets := jackets } := by
  have hids := congrArg (List.map DealJacket.jacket_id) hbound
  rw [map_map, map_map] at hids
  exact { h with keyed := h.keyed.of_columns hids rfl rfl rfl }

theorem moveHold_addsUp (hdb : Coherent db.cabinet) (h : db.AddsUp) {w : JacketWorld}
    {newHoldEventId : String} {input : HoldInput} {action : HoldAction}
    (horder : (committed db (moveHold w newHoldEventId db input action)).Ordered input.jacketId) :
    Coherent (committed db (moveHold w newHoldEventId db input action)).cabinet ∧
      (committed db (moveHold w newHoldEventId db input action)).AddsUp := by
  cases hmove : moveHold w newHoldEventId db input action with
  | error _ => exact ⟨hdb, h⟩
  | ok r =>
    rw [hmove] at horder
    rcases moveHold_cases hmove with hsame | ⟨actor, jackets, hids, hturn, hnew⟩
    · rw [committed, hsame]
      exact ⟨hdb, h⟩
    · rw [currentlyHeld_eq (h.inOrder _)] at hturn
      rw [committed, hnew] at horder ⊢
      refine ⟨coherent_flagged hdb hids _ _, ?_⟩
      exact h.held hdb (e := input.event w newHoldEventId actor action) hturn horder

theorem step_addsUp {call : HoldCall} (hdb : Coherent db.cabinet) (h : db.AddsUp)
    (horder : db.InOrder call) : Coherent (db.step call).cabinet ∧ (db.step call).AddsUp := by
  cases call with
  | placeLegalHold w id input => exact moveHold_addsUp hdb h horder
  | liftLegalHold w id input => exact moveHold_addsUp hdb h horder
  | jacket call => exact ⟨step_coherent hdb _, h.jacket hdb call⟩

end HoldFile

/-- After every run whose holds occur in the order they are committed, a document of a jacket is
under the hold that the last fact placed or lifted, and the holds of a jacket are placed and lifted
in turn. -/
theorem holds_add_up (calls : List HoldCall)
    (h : Along HoldFile.step HoldFile.InOrder HoldFile.empty calls) :
    (run HoldFile.step HoldFile.empty calls).AddsUp := by
  refine (Along.invariant (I := fun db : HoldFile => Coherent db.cabinet ∧ db.AddsUp) ?_ h
    ⟨Coherent.empty, .empty⟩).2
  intro db call hdb horder
  exact HoldFile.step_addsUp hdb.1 hdb.2 horder

namespace CashDeal

/-- The world of a transaction that draws other ids. -/
def redrawn (now : Int) : JacketWorld :=
  { world now with
    newPackageId := "6a000000-0000-4000-8000-000000000012"
    newDocumentId := fun n => "6a000000-0000-4000-8012-00000000000" ++ decimal n }

/-- A hold is placed after a version that is voided, and lifted after the next. -/
def holding : List HoldCall :=
  [ .jacket (.openJacket (world midnight) manager scenario.desking_case_id),
    .jacket (.assemblePackage (world midnight) ⟨manager, jacketId, 1⟩),
    .placeLegalHold (world (midnight + 1)) "6a000000-0000-4000-8020-000000000001"
      ⟨manager, jacketId, "a claim was made", some "2026-117", 2⟩,
    .jacket (.voidPackage (world (midnight + 2)) ⟨⟨manager, packageId, 2⟩, "assembled again"⟩),
    .jacket (.assemblePackage (redrawn (midnight + 3)) ⟨manager, jacketId, 3⟩),
    .liftLegalHold (world (midnight + 4)) "6a000000-0000-4000-8020-000000000002"
      ⟨manager, jacketId, "the claim was settled", none, 4⟩ ]

end CashDeal

theorem holds_add_up_holding :
    (run HoldFile.step HoldFile.empty CashDeal.holding).AddsUp ∧
    ((run HoldFile.step HoldFile.empty (CashDeal.holding.take 5)).cabinet.package_documents.map
      fun d => (d.package_id, d.legal_hold)) =
        [(CashDeal.packageId, true), ("6a000000-0000-4000-8000-000000000012", true)] ∧
    ((run HoldFile.step HoldFile.empty CashDeal.holding).eventsOf CashDeal.jacketId).map (·.placed) =
      [true, false] :=
  ⟨holds_add_up CashDeal.holding (by decide +kernel), by decide +kernel⟩

end Dealership.Jacket
