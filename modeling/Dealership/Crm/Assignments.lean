import Dealership.Crm.Lifecycle

/-!
# Assignments and ownership

What counts as a move is decided twice: by the service, on the pair of owner and queue, and by a
`CHECK` of the assignment table, on the owner alone.  A call that keeps the owner and moves the
queue passes the first and fails the second.
-/

namespace Dealership.Crm

open Library WalkIn List

variable {start db : Pipeline} {l : Lead} {x : String}

/-! ## The history of a lead -/

/-- The assignments of a lead, in the order they were made. -/
def assignmentsOf (db : Pipeline) (leadId : String) : List LeadAssignment :=
  db.lead_assignments.filter fun a => a.lead_id = leadId

/-- Leads and queues have unique ids; the assignments of a lead since the rows `start` lead from
the owner it had there from one owner to the next and to the owner it has, and the last of all
names the queue it waits in. -/
structure Explained (start db : Pipeline) : Prop where
  ids : (db.leads.map (·.lead_id)).Nodup
  queues : (db.lead_queues.map (·.queue_id)).Nodup
  owner : ∀ l ∈ db.leads, ∃ l₀ ∈ start.leads, l₀.lead_id = l.lead_id ∧ ∃ since,
    assignmentsOf db l.lead_id = assignmentsOf start l.lead_id ++ since ∧
      Trail LeadAssignment.from_user_link_id LeadAssignment.to_user_link_id l₀.owner_user_link_id
        since l.owner_user_link_id
  latest : ∀ l ∈ db.leads, ∀ a, (assignmentsOf db l.lead_id).getLast? = some a →
    a.to_user_link_id = l.owner_user_link_id ∧ a.queue_id = l.queue_id

/-! ## Calls -/

structure AssignCall where
  world : CrmWorld
  input : AssignInput

variable {c : AssignCall}

def AssignCall.step (db : Pipeline) (c : AssignCall) : Pipeline :=
  committed db ((assignLead c.world c.input).run db)

/-- The call commits and answers `assigned`. -/
def AssignCall.Assigned (db : Pipeline) (c : AssignCall) : Prop :=
  ∃ lead db', (assignLead c.world c.input).run db = .ok (.assigned lead, db')

/-- A known actor names the open lead at its current version, a person who works at its rooftop, an
active queue of it or both, and not where the lead is. -/
structure AssignCall.AsksMove (db : Pipeline) (c : AssignCall) (l : Lead) : Prop where
  actor : c.world.access.knows c.input.actingUserLinkId = true
  lead : l ∈ db.leads ∧ l.lead_id = c.input.leadId
  unfinished : l.lifecycle_state.finished = false
  version : l.authorization_version = c.input.expectedVersion
  named : ¬ (c.input.toUserLinkId = none ∧ c.input.queueId = none)
  person : ∀ user, c.input.toUserLinkId = some user →
    c.world.access.userLinkExists user = true ∧ c.world.access.reaches user l.rooftop_id = true
  queue : ∀ queueId, c.input.queueId = some queueId → ∃ q ∈ db.lead_queues,
    q.queue_id = queueId ∧ q.active = true ∧ q.rooftop_id = l.rooftop_id
  moves : ¬ (l.owner_user_link_id = c.input.toUserLinkId ∧ l.queue_id = c.input.queueId)

/-- The lead has no owner or gets another one, and the note is one its column holds. -/
def AssignInput.ChangesHands (input : AssignInput) (l : Lead) : Prop :=
  (l.owner_user_link_id = none ∨ l.owner_user_link_id ≠ input.toUserLinkId) ∧
    ∀ note, input.note = some note → note.length ≤ 500 ∧ carried note = true

theorem AssignCall.AsksMove.admitted (h : c.AsksMove db l)
    (hqueues : (db.lead_queues.map (·.queue_id)).Nodup) :
    assignmentRefusal c.world c.input l db = none := by
  have hperson : ¬ (c.input.toUserLinkId.any fun user =>
      ¬ c.world.access.reaches user l.rooftop_id) = true := by
    rw [Option.any_eq_true]
    rintro ⟨user, huser, hnot⟩
    simp [(h.person user huser).2] at hnot
  rw [assignmentRefusal, if_neg hperson]
  cases hqueue : c.input.queueId with
  | none => rfl
  | some queueId =>
    obtain ⟨q, hq, hid, hactive, hrooftop⟩ := h.queue queueId hqueue
    have hfound : (db.lead_queues.find? fun q => q.queue_id = queueId && q.active) = some q := by
      obtain ⟨q', hq'⟩ := Option.isSome_iff_exists.mp (find?_isSome
        (p := fun q : LeadQueue => q.queue_id = queueId && q.active) |>.mpr
          ⟨q, hq, by simp [hid, hactive]⟩)
      have hboth := find?_some hq'
      simp only [Bool.and_eq_true, decide_eq_true_eq] at hboth
      rw [hq', eq_of_key hqueues (mem_of_find?_eq_some hq') hq (hboth.1.trans hid.symm)]
    rw [Option.bind_some, hfound]
    exact if_pos hrooftop

theorem AssignCall.AsksMove.current (h : c.AsksMove db l)
    (hids : (db.leads.map (·.lead_id)).Nodup) : readLead c.input.leadId db = some l := by
  rw [readLead, ← h.lead.2]
  exact find?_eq_some_of_key hids h.lead.1

theorem Placeable.asksMove (h : Placeable c.world c.input db l) : c.AsksMove db l := by
  have hadmitted := h.admitted
  rw [assignmentRefusal] at hadmitted
  split at hadmitted
  · cases hadmitted
  rename_i hreaches
  have haccepted := h.accepted
  rw [LeadAssignment.accepted, Bool.and_eq_true, Option.all_eq_true] at haccepted
  refine ⟨h.actor, readLead_eq_some h.current, h.unfinished, h.version, h.named, ?_, ?_, h.moves⟩
  · intro user huser
    refine ⟨haccepted.2 user huser, ?_⟩
    rw [huser, Option.any_some] at hreaches
    simpa using hreaches
  · intro queueId hqueue
    rw [hqueue, Option.bind_some] at hadmitted
    split at hadmitted
    · cases hadmitted
    rename_i q hq
    split at hadmitted
    · rename_i hrooftop
      have hboth := find?_some hq
      simp only [Bool.and_eq_true, decide_eq_true_eq] at hboth
      exact ⟨q, mem_of_find?_eq_some hq, hboth.1, hboth.2, hrooftop⟩
    · cases hadmitted

theorem Placeable.run {w : CrmWorld} {input : AssignInput} (h : Placeable w input db l)
    (hids : (db.leads.map (·.lead_id)).Nodup) :
    (assignLead w input).run db =
      .ok (.assigned (Lead.assign input.toUserLinkId input.queueId l), input.placed l db) := by
  have hwho : (actorWithin w input.actingUserLinkId).run db = .ok (input.actingUserLinkId, db) := by
    rw [actorWithin, requireActor_of_knows h.actor]
    rfl
  have hunfinished : ¬ l.lifecycle_state.finished = true := by
    rw [h.unfinished]
    nofun
  rw [assignLead, if_neg h.named]
  refine run_bind_eq_ok.mpr ⟨_, _, hwho, ?_⟩
  refine run_bind_eq_ok.mpr ⟨_, _, run_selectLocking _ _ _, ?_⟩
  rw [h.current]
  dsimp only
  rw [if_neg hunfinished, if_neg (not_not.mpr h.version), if_neg h.moves]
  refine run_bind_eq_ok.mpr ⟨_, _, run_select _ _, ?_⟩
  rw [h.admitted]
  refine run_bind_eq_ok.mpr ⟨_, _, run_updateLead hids h.current h.version _, ?_⟩
  refine run_bind_eq_ok.mpr ⟨_, _, run_recordWorking input _, ?_⟩
  exact run_bind_eq_ok.mpr ⟨_, _, run_execute_eq_ok.mpr ⟨h.accepted, rfl, rfl⟩, rfl⟩

/-! ## One call -/

theorem accepted_iff (h : c.AsksMove db l) :
    (c.input.row l).accepted c.world = true ↔ c.input.ChangesHands l := by
  have hperson : (c.input.toUserLinkId.all c.world.access.userLinkExists) = true := by
    rw [Option.all_eq_true]
    exact fun user huser => (h.person user huser).1
  rw [LeadAssignment.accepted, show (c.input.row l).to_user_link_id = c.input.toUserLinkId from rfl,
    hperson, Bool.and_true, Bool.and_eq_true, decide_eq_true_eq, Option.all_eq_true]
  simp only [Bool.and_eq_true, decide_eq_true_eq]
  rfl

/-- A call that asks for a move is answered `assigned` exactly when the lead changes hands. -/
theorem assigned_iff (hdb : Explained start db) (h : c.AsksMove db l) :
    c.Assigned db ↔ c.input.ChangesHands l := by
  rw [← accepted_iff h]
  constructor
  · rintro ⟨lead, db', hrun⟩
    rcases assignLead_cases hdb.ids hrun with ⟨-, hnot⟩ | ⟨cur, hplaceable, -⟩
    · exact absurd rfl (hnot lead)
    · have hcur := hplaceable.current
      rw [h.current hdb.ids, Option.some.injEq] at hcur
      exact hcur ▸ hplaceable.accepted
  · intro haccepted
    have hplaceable : Placeable c.world c.input db l := ⟨h.named, h.actor, h.current hdb.ids,
      h.unfinished, h.version, h.moves, h.admitted hdb.queues, haccepted⟩
    exact ⟨_, _, hplaceable.run hdb.ids⟩

theorem AssignCall.Assigned.asksMove (hdb : Explained start db) (h : c.Assigned db) :
    ∃ l, c.AsksMove db l := by
  obtain ⟨lead, db', hrun⟩ := h
  rcases assignLead_cases hdb.ids hrun with ⟨-, hnot⟩ | ⟨cur, hplaceable, -⟩
  · exact absurd rfl (hnot lead)
  · exact ⟨cur, hplaceable.asksMove⟩

/-- A call that is not answered `assigned` changes nothing. -/
theorem step_of_not_assigned (hdb : Explained start db) (h : ¬ c.Assigned db) : c.step db = db := by
  rw [AssignCall.step]
  cases hrun : (assignLead c.world c.input).run db with
  | error e => rfl
  | ok p =>
    obtain ⟨out, db'⟩ := p
    rcases assignLead_cases hdb.ids hrun with ⟨hsame, -⟩ | ⟨cur, -, -, rfl⟩
    · exact hsame
    · exact absurd ⟨_, db', hrun⟩ h

theorem assignmentsOf_placed (input : AssignInput) (cur : Lead) :
    assignmentsOf (input.placed cur db) x =
      assignmentsOf db x ++ if input.leadId = x then [input.row cur] else [] := by
  rw [assignmentsOf, AssignInput.placed, filter_append, assignmentsOf]
  by_cases h : input.leadId = x
  · simp [AssignInput.row, h]
  · simp [AssignInput.row, h]

theorem Placeable.explained {w : CrmWorld} {input : AssignInput} {cur : Lead}
    (h : Placeable w input db cur) (hdb : Explained start db) :
    Explained start (input.placed cur db) := by
  obtain ⟨hmem, hid⟩ := readLead_eq_some h.current
  constructor
  · rw [AssignInput.placed, edited_ids rfl]
    exact hdb.ids
  · exact hdb.queues
  · intro l hl
    rw [assignmentsOf_placed]
    rcases edited_cases hdb.ids hmem hl with rfl | ⟨hl, hne⟩
    · obtain ⟨l₀, hl₀, hsame, since, hrows, htrail⟩ := hdb.owner cur hmem
      refine ⟨l₀, hl₀, hsame, since ++ [input.row cur], ?_, htrail.concat rfl⟩
      rw [hid] at hrows
      rw [show (Lead.assign input.toUserLinkId input.queueId cur).lead_id = input.leadId from hid,
        if_pos rfl, hrows, append_assoc]
    · rw [if_neg fun heq => hne (heq.symm.trans hid.symm), append_nil]
      exact hdb.owner l hl
  · intro l hl a ha
    rw [assignmentsOf_placed] at ha
    rcases edited_cases hdb.ids hmem hl with rfl | ⟨hl, hne⟩
    · rw [show (Lead.assign input.toUserLinkId input.queueId cur).lead_id = input.leadId from hid,
        if_pos rfl, getLast?_concat, Option.some.injEq] at ha
      exact ha ▸ ⟨rfl, rfl⟩
    · rw [if_neg fun heq => hne (heq.symm.trans hid.symm), append_nil] at ha
      exact hdb.latest l hl a ha

theorem Explained.step (hdb : Explained start db) (c : AssignCall) :
    Explained start (c.step db) := by
  refine committed_induction hdb fun out after hrun => ?_
  rcases assignLead_cases hdb.ids hrun with ⟨rfl, -⟩ | ⟨cur, hplaceable, rfl, -⟩
  · exact hdb
  · exact hplaceable.explained hdb

/-! ## Runs -/

/-- Along every run of assignments the rows written since explain, from the owner a lead had at
first, who owns it, and the last one where it waits.  A call that is not answered `assigned`
changes nothing, only one that asks for a move is answered so, and it is exactly when the lead
changes hands. -/
theorem assignments_explain_ownership (hdb : Explained db db) (calls : List AssignCall)
    (c : AssignCall) :
    Explained db (run AssignCall.step db calls) ∧
      (¬ c.Assigned (run AssignCall.step db calls) →
        c.step (run AssignCall.step db calls) = run AssignCall.step db calls) ∧
      (c.Assigned (run AssignCall.step db calls) →
        ∃ l, c.AsksMove (run AssignCall.step db calls) l) ∧
      ∀ l, c.AsksMove (run AssignCall.step db calls) l →
        (c.Assigned (run AssignCall.step db calls) ↔ c.input.ChangesHands l) := by
  have hrun : Explained db (run AssignCall.step db calls) :=
    run_invariant (fun d c hd => hd.step c) hdb calls
  exact ⟨hrun, step_of_not_assigned hrun, fun h => h.asksMove hrun,
    fun l hl => assigned_iff hrun hl⟩

def clerksLead : Lead :=
  ⟨"lead", "main street", ada.party_id, none, none, .working, none, some clerk, none, "walk_in",
    none, none, none, none, none, none, 1⟩

def owned : Pipeline :=
  { Pipeline.quiet [] [] [⟨"showroom", "main street", true⟩] [] with leads := [clerksLead] }

/-- The lead goes to the showroom's queue, with an owner or without. -/
def intoQueue (toUserLinkId : Option String) : AssignCall :=
  ⟨world, ⟨clerk, "lead", 1, toUserLinkId, some "showroom", .manual_assignment, none⟩⟩

theorem owned_explained : Explained owned owned where
  ids := by decide
  queues := by decide
  owner := forall_mem_singleton.mpr ⟨clerksLead, mem_singleton_self _, rfl, [], rfl, rfl⟩
  latest := forall_mem_singleton.mpr nofun

theorem intoQueue_asksMove : (intoQueue (some clerk)).AsksMove owned clerksLead where
  actor := by decide +kernel
  lead := ⟨mem_singleton_self _, rfl⟩
  unfinished := rfl
  version := rfl
  named := by decide
  person := fun user h => by
    cases h
    decide
  queue := fun queueId h => by
    cases h
    exact ⟨_, mem_singleton_self _, rfl, rfl, rfl⟩
  moves := by decide

def outOfQueue : AssignCall :=
  ⟨world, ⟨clerk, "lead", 2, some clerk, none, .reassignment, some "asked for me"⟩⟩

theorem outOfQueue_asksMove : outOfQueue.AsksMove (run AssignCall.step owned [intoQueue none])
    { clerksLead with
      owner_user_link_id := none
      queue_id := some "showroom"
      authorization_version := 2 } where
  actor := by decide +kernel
  lead := ⟨by decide +kernel, rfl⟩
  unfinished := rfl
  version := rfl
  named := by decide
  person := fun user h => by
    cases h
    decide
  queue := fun queueId h => by cases h
  moves := by decide

/-- The clerk's lead goes to the queue and back to the clerk: both moves are answered, and
their rows lead from the clerk to nobody and from nobody to the clerk. -/
theorem assignments_explain_ownership_owned :
    Explained owned (run AssignCall.step owned [intoQueue none, outOfQueue]) ∧
      (assignmentsOf (run AssignCall.step owned [intoQueue none, outOfQueue]) "lead").map
        (fun a => (a.from_user_link_id, a.to_user_link_id, a.queue_id)) =
          [(some clerk, none, some "showroom"), (none, some clerk, none)] ∧
      outOfQueue.Assigned (run AssignCall.step owned [intoQueue none]) :=
  ⟨(assignments_explain_ownership owned_explained _ outOfQueue).1, by decide +kernel,
    ((assignments_explain_ownership owned_explained _ outOfQueue).2.2.2 _ outOfQueue_asksMove).mpr
      ⟨.inl rfl, fun note h => by cases h; decide⟩⟩

/-- The clerk keeps the lead and puts it into a queue: the table refuses the row. -/
theorem queue_move_raises : (intoQueue (some clerk)).AsksMove owned clerksLead ∧
    ¬ (intoQueue (some clerk)).Assigned owned := by
  refine ⟨intoQueue_asksMove, fun h => ?_⟩
  rcases ((assigned_iff owned_explained intoQueue_asksMove).mp h).1 with hnone | hne
  · cases hnone
  · exact hne rfl

end Dealership.Crm
