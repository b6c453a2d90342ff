import Dealership.Crm.Leads

/-!
# Routing, ownership and the clock

An assignment is a move, recorded; a lead still new that gets an owner is being
worked.  The escalation sweep raises one alarm a lead and moves no lifecycle.
-/

namespace Dealership.Crm

open Library

/-! ## Assignment -/

structure AssignInput where
  actingUserLinkId : String
  leadId : String
  expectedVersion : Nat
  toUserLinkId : Option String
  queueId : Option String
  reason : AssignmentReason
  note : Option String

inductive AssignOutcome where
  | assigned (lead : Lead)
  | version_conflict (currentVersion : Nat)
  | not_found
  | invalid (error : String)

/-- The columns an assignment writes. -/
def Lead.assign (toUser queueId : Option String) (l : Lead) : Lead :=
  { l with
    owner_user_link_id := toUser
    queue_id := queueId
    lifecycle_state := if l.lifecycle_state = .new ∧ toUser ≠ none then .working
      else l.lifecycle_state
    authorization_version := l.authorization_version + 1 }

/-- The `CHECK`s and foreign keys of `lead_assignments`, and a note the column can hold. -/
def LeadAssignment.accepted (w : CrmWorld) (a : LeadAssignment) : Bool :=
  decide (a.from_user_link_id = none ∨ a.from_user_link_id ≠ a.to_user_link_id) &&
    a.note.all (fun n => n.length ≤ 500 && carried n) && a.to_user_link_id.all w.access.userLinkExists

/-- `INSERT INTO lead_assignments`. -/
def insertAssignment (w : CrmWorld) (a : LeadAssignment) : Work Unit :=
  Script.execute (fun _ => [.lead a.lead_id .keyShare]) (fun _ => a.accepted w)
    (.database "lead_assignments")
    (fun _ db => { db with lead_assignments := db.lead_assignments ++ [a] }) fun _ => ()

/-- What stands in the way of an assignment, given the queue it names. -/
def assignmentRefusal (w : CrmWorld) (input : AssignInput) (current : Lead) (db : Pipeline) :
    Option AssignOutcome :=
  if input.toUserLinkId.any fun user => ¬ w.access.reaches user current.rooftop_id then
    some (.invalid "that employee does not work the rooftop this lead belongs to")
  else
    input.queueId.bind fun queueId =>
      match db.lead_queues.find? fun q => q.queue_id = queueId && q.active with
      | none => some .not_found
      | some queue =>
        if queue.rooftop_id = current.rooftop_id then none
        else some (.invalid "that queue belongs to a different rooftop")

/-- The status event of a new lead that an assignment put to work. -/
def recordWorking (actor : String) (current lead : Lead) : Work Unit :=
  if current.lifecycle_state = .new ∧ lead.lifecycle_state = .working then
    insertStatusEvent
      { lead_id := current.lead_id
        from_state := .new
        to_state := .working
        disposition := none
        note := none
        changed_by_user_link_id := actor }
  else pure ()

/-- Puts the lead in somebody's hands, or back in a queue. -/
def assignLead (w : CrmWorld) (input : AssignInput) : Work AssignOutcome :=
  if input.toUserLinkId = none ∧ input.queueId = none then
    pure (.invalid "an assignment names a person or a queue")
  else do
    let actor ← actorWithin w input.actingUserLinkId
    match ← Script.selectLocking (fun _ => [.lead input.leadId .forUpdate])
        (readLead input.leadId) with
    | none => pure .not_found
    | some current =>
      if current.lifecycle_state.finished then
        pure (.invalid ("a " ++ current.lifecycle_state.text ++
          " lead is no longer the CRM's to assign"))
      else if current.authorization_version ≠ input.expectedVersion then
        pure (.version_conflict current.authorization_version)
      else if current.owner_user_link_id = input.toUserLinkId ∧
          current.queue_id = input.queueId then
        pure (.invalid "that is already where the lead is")
      else
        match ← Script.select (assignmentRefusal w input current) with
        | some refusal => pure refusal
        | none =>
          match ← updateLead input.leadId input.expectedVersion
              (Lead.assign input.toUserLinkId input.queueId) with
          | none => pure (.version_conflict current.authorization_version)
          | some lead =>
            recordWorking actor current lead
            insertAssignment w
              { lead_id := input.leadId
                from_user_link_id := current.owner_user_link_id
                to_user_link_id := input.toUserLinkId
                queue_id := input.queueId
                reason := input.reason
                note := input.note
                assigned_by_user_link_id := actor }
            pure (.assigned lead)

/-! ## The clock -/

structure EscalationSweepResult where
  examined : Nat
  escalated : Nat
  alreadyEscalated : Nat

/-- A lead whose escalation clock has run out. -/
def Lead.overdue (w : CrmWorld) (l : Lead) : Bool :=
  l.first_response_at.isNone && l.escalated_at.isNone && l.escalate_at.any (fun t => t ≤ w.now) &&
    ¬ l.lifecycle_state.finished

/-- `INSERT INTO lead_escalations … ON CONFLICT DO NOTHING`, and the stamp on the
lead when a row was written. -/
def escalate (w : CrmWorld) (db : Pipeline) (l : Lead) : Pipeline :=
  if db.lead_escalations.any fun e => e.lead_id = l.lead_id && e.level = .first_response then db
  else
    { db with
      lead_escalations := db.lead_escalations ++
        [⟨l.lead_id, .first_response, l.escalate_at.getD w.now, w.now⟩]
      leads := updateWhere (fun k : Lead => k.lead_id = l.lead_id ∧ k.escalated_at = none)
        (fun k => { k with escalated_at := some w.now }) db.leads }

/-- The leads one sweep claims: the overdue ones that nobody holds, the longest
overdue first. -/
def claimOverdue (w : CrmWorld) (heldByOthers : List String) (limit : Nat) (db : Pipeline) :
    List Lead :=
  ((db.leads.filter fun l => l.overdue w && l.lead_id ∉ heldByOthers).insertionSort
    fun k l => k.escalate_at.getD 0 ≤ l.escalate_at.getD 0).take (min (max limit 1) 500)

/-- The sweep: one escalation a lead, and no move of its lifecycle. -/
def runEscalationSweep (w : CrmWorld) (heldByOthers : List String) (limit : Nat) (db : Pipeline) :
    EscalationSweepResult × Pipeline :=
  let due := claimOverdue w heldByOthers limit db
  let after := due.foldl (escalate w) db
  let escalated := after.lead_escalations.length - db.lead_escalations.length
  (⟨due.length, escalated, due.length - escalated⟩, after)

end Dealership.Crm
