import Dealership.Service.Schema

/-!
# Inspections

A technician records what they found of each item of an inspection, and submits it; what needs
attention becomes a recommendation to the customer.  Only the technician whose inspection it is
works on it, or somebody who supervises.
-/

namespace Dealership.Service

open Library
open Inventory (LotLock)

def MpiSessionStatus.text : MpiSessionStatus → String
  | started => "started"
  | in_progress => "in_progress"
  | submitted => "submitted"
  | reviewed => "reviewed"
  | closed => "closed"

def MpiResultStatus.text : MpiResultStatus → String
  | pass => "pass"
  | attention => "attention"
  | fail => "fail"

/-- `assertOwnMPISession` with `FOR UPDATE`. -/
def assertOwnMPISession (w : ServiceWorld) (mpiSessionId : String) : ServiceWork MpiSession := do
  requireUuid mpiSessionId "mpi_session_id"
  let found ← Script.selectLocking (fun _ => [.row "mpi_sessions" mpiSessionId .forUpdate])
    fun d => d.mpi_sessions.find? fun s => s.mpi_session_id = mpiSessionId
  match found with
  | none => .raise ⟨.notFound, "not_found", "MPI session not found"⟩
  | some session => do
    insist (w.supervises || session.tech_user_id = w.userId) ⟨.forbidden, "not_inspection_owner",
      "This inspection belongs to another technician"⟩
    pure session

/-- The inspection is still worked on. -/
def MpiSession.isOpen (s : MpiSession) : Bool := s.status = .started || s.status = .in_progress

def Shop.setSession (d : Shop) (mpiSessionId : String) (f : MpiSession → MpiSession) : Shop :=
  { d with
    mpi_sessions := updateWhere (fun s => s.mpi_session_id = mpiSessionId) f d.mpi_sessions }

/-! ## A finding -/

/-- A severity as a request brings it. -/
inductive SeverityInput where
  | absent
  | empty
  | unknown
  | given (severity : MpiSeverity)
deriving DecidableEq

structure ResultInput where
  item_key : String
  /-- `none` where it is not one of the three. -/
  status : Option MpiResultStatus
  severity : SeverityInput
  notes : Option String
  /-- `none` where it is not an array of strings. -/
  evidence_artifact_refs : Option (Option (List String))

def requireSeverity : SeverityInput → ServiceWork MpiSeverity
  | .absent => pure .info
  | .empty => pure .info
  | .unknown => .raise ⟨.validation, "validation_error",
      "severity must be one of: info, maintenance, safety"⟩
  | .given severity => pure severity

def requireStringArray : Option (Option (List String)) → ServiceWork (List String)
  | none => pure []
  | some none => .raise ⟨.validation, "validation_error",
      "evidence_artifact_refs must be an array of strings"⟩
  | some (some refs) => pure refs

/-- The row of `uq_mpir_session_item`. -/
def sameItem (r s : MpiResult) : Bool :=
  s.mpi_session_id = r.mpi_session_id && s.item_key = r.item_key

/-- `INSERT … ON CONFLICT (mpi_session_id, item_key) DO UPDATE`. -/
def Shop.putResult (v d : Shop) (r : MpiResult) : Shop :=
  { d with
    mpi_results :=
      if v.mpi_results.any (sameItem r) then
        updateWhere (fun s => sameItem r s)
          (fun s => { r with result_id := s.result_id }) d.mpi_results
      else d.mpi_results ++ [r] }

def recordMPIResult (w : ServiceWorld) (mpiSessionId : String) (input : ResultInput) :
    ServiceWork MpiResult := do
  requireUuid mpiSessionId "mpi_session_id"
  match input.status with
  | none => .raise ⟨.validation, "validation_error",
      "status must be one of: pass, attention, fail"⟩
  | some status => do
    insist (!isBlank input.item_key) ⟨.validation, "validation_error", "item_key is required"⟩
    insist (status = .pass || input.severity ≠ .absent) ⟨.validation, "severity_required",
      "severity is required when status is '" ++ status.text ++ "'"⟩
    let severity ← requireSeverity input.severity
    let evidence ← requireStringArray input.evidence_artifact_refs
    let session ← assertOwnMPISession w mpiSessionId
    insist session.isOpen ⟨.conflict, "invalid_session_status",
      "Results cannot be recorded on a '" ++ session.status.text ++ "' session"⟩
    store (fun _ => rowLocks "mpi_sessions" [mpiSessionId]) fun _ d =>
      d.setSession mpiSessionId fun s =>
        if s.status = .started then { s with status := .in_progress } else s
    let result : MpiResult := {
      result_id := w.newId
      mpi_session_id := mpiSessionId
      item_key := input.item_key
      status := status
      severity := severity
      notes := input.notes
      evidence_artifact_refs := evidence }
    Script.execute (fun _ => [.index "uq_mpir_session_item" (mpiSessionId ++ ":" ++ input.item_key),
        .index "mpi_results_pkey" w.newId])
      (fun d => d.mpi_results.all fun s => s.result_id ≠ w.newId) (refusal "mpi_results_pkey")
      (fun v d => Shop.putResult v d result)
      fun d => ((d.mpi_results.find? (sameItem result)).map fun s =>
        { result with result_id := s.result_id }).getD result

/-! ## Submitting -/

/-- The findings that become recommendations. -/
def findings (mpiSessionId : String) (d : Shop) : List MpiResult :=
  d.mpi_results.filter fun r =>
    r.mpi_session_id = mpiSessionId && (r.status = .attention || r.status = .fail)

def MpiSeverity.priority : MpiSeverity → Priority
  | safety => .p0
  | maintenance => .p1
  | info => .p2

def recommendationOf (id roId : String) (r : MpiResult) : Recommendation where
  recommendation_id := id
  ro_id := roId
  title_i18n := ⟨"MPI: " ++ r.item_key ++ " (" ++ r.status.text ++ ")",
    "IPM: " ++ r.item_key ++ " (" ++ r.status.text ++ ")"⟩
  description_i18n := ⟨"Inspection item " ++ r.item_key ++ " needs " ++
      (if r.status = .fail then "immediate " else "") ++ "attention",
    "El artículo " ++ r.item_key ++ " necesita atención" ++
      if r.status = .fail then " inmediata" else ""⟩
  priority := r.severity.priority

/-- One `INSERT` a finding, with the ids drawn for them in turn. -/
def insertRecommendations (draw : Nat → String) (roId : String) :
    List MpiResult → ServiceWork Unit
  | [] => pure ()
  | r :: rs => do
    Script.execute (fun _ => [.row "repair_orders" roId .keyShare,
        .index "service_recommendations_pkey" (draw rs.length)])
      (fun d => d.service_recommendations.all fun s => s.recommendation_id ≠ draw rs.length)
      (refusal "service_recommendations_pkey")
      (fun _ d => { d with
        service_recommendations :=
          d.service_recommendations ++ [recommendationOf (draw rs.length) roId r] })
      fun _ => ()
    insertRecommendations draw roId rs

def submitMPISession (w : ServiceWorld) (draw : Nat → String) (mpiSessionId : String) :
    ServiceWork MpiSession := do
  requireUuid mpiSessionId "mpi_session_id"
  let session ← assertOwnMPISession w mpiSessionId
  insist session.isOpen ⟨.conflict, "invalid_session_status",
    "Session is already '" ++ session.status.text ++ "'"⟩
  store (fun _ => rowLocks "mpi_sessions" [mpiSessionId]) fun _ d =>
    d.setSession mpiSessionId fun s => { s with status := .submitted }
  let results ← Script.select (findings mpiSessionId)
  insertRecommendations draw session.ro_id results
  recordROEvent w session.ro_id (.mpi_submitted mpiSessionId results.length)
  pure { session with status := .submitted }

end Dealership.Service
