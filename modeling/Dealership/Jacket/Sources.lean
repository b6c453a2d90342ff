import Dealership.Desking.Scenarios
import Dealership.Jacket.Configuration

/-!
# What the jacket is built from

The rows the jacket reads and does not own: the desk's approved version, handed
over through the seam, the parties to the deal, the car and the trade.  Every
field of a document is read from the row that owns it; a money field is the
scenario's own cents with its own currency.
-/

namespace Dealership.Jacket

open Library

/-! ## Rows -/

/-- The columns of `desking_cases` that a jacket binds. -/
structure DeskFile where
  desking_case_id : String
  rooftop_id : String
  opportunity_id : String
  party_id : String
  stock_item_id : Option String

/-- A row of `scenario_approvals`, with its instant. -/
structure DatedApproval extends Desking.Approval where
  decided_at : Int

/-- A row of `appraisals`. -/
structure Appraisal where
  appraisal_id : String
  desking_case_id : String
  current_version_no : Int
  vin : String
  model_year : Int
  make : String
  model : String
  trim_level : Option String

/-- A row of `appraisal_versions`. -/
structure AppraisalVersion where
  appraisal_id : String
  version_no : Int
  odometer_miles : Int
  odometer_status : String
  condition_grade : String
  ownership : String

structure Party where
  party_id : String
  display_name : String
  email : Option String
  phone : Option String
  address_line1 : Option String
  address_city : Option String
  address_region : Option String
  address_postal_code : Option String
  address_country : Option String
  authorization_version : Nat

structure LegalEntity where
  legal_entity_id : String
  name : String
  authorization_version : Nat

structure Rooftop where
  rooftop_id : String
  legal_entity_id : String
  name : String
  authorization_version : Nat

structure StockItem where
  stock_item_id : String
  vehicle_id : String
  stock_number : String
  odometer : Option Int
  odometer_unit : String
  authorization_version : Nat

structure Vehicle where
  vehicle_id : String
  vin : String
  model_year : Option Int
  make : Option String
  model : Option String
  trim_level : Option String
  authorization_version : Nat

structure LegalHoldEvent where
  hold_event_id : String
  jacket_id : String
  placed : Bool
  occurred_at : Int

/-- The rows of one tenant outside the jacket's own tables. -/
structure Sources where
  desking_cases : List DeskFile
  desking_scenarios : List Desking.Scenario
  scenario_approvals : List DatedApproval
  scenario_rule_applications : List (String × Desking.RuleApplication)
  appraisals : List Appraisal
  appraisal_versions : List AppraisalVersion
  parties : List Party
  legal_entities : List LegalEntity
  rooftops : List Rooftop
  stock_items : List StockItem
  vehicles : List Vehicle
  /-- `display_name` of a user link. -/
  userLinkName : String → Option String
  legal_hold_events : List LegalHoldEvent

/-- What a command finds around it: who may do what, the rows it only reads, the
clocks, the casts of texts to instants and the identifiers, tokens and locks of
its transaction. -/
structure JacketWorld where
  tenantId : String
  access : Access
  isEligibleManager : String → String → Bool
  sources : Sources
  configuration : Configuration
  /-- `new Date().toISOString()`. -/
  clock : String
  /-- `NOW()`: the instant the transaction started. -/
  now : Int
  /-- `$1::timestamptz`. -/
  timestamptz : String → Option Int
  /-- `Date.parse`, in milliseconds. -/
  dateParse : String → Option Int
  newJacketId : String
  newItemId : Nat → String
  newPackageId : String
  newDocumentId : Nat → String
  newCeremonyId : String
  newSignerId : SignerRole → String
  /-- `randomToken()`. -/
  randomToken : String
  /-- The ceremonies whose rows another transaction holds. -/
  lockedElsewhere : String → Bool

/-- The cast of a text to `timestamptz`. -/
def JacketWorld.cast (w : JacketWorld) (text : String) : Except Raise Int :=
  (w.timestamptz text).elim (throw (.database "invalid input syntax for timestamptz")) pure

/-- `new Date(Date.parse(text) + ms).toISOString()` as the instant it denotes. -/
def JacketWorld.isoAfter (w : JacketWorld) (text : String) (ms : Int) : Except Raise Int :=
  match w.dateParse text with
  | none => throw (.rangeError "Invalid time value")
  | some t =>
    if (t + ms).natAbs ≤ 8640000000000000 then pure ((t + ms) * 1000)
    else throw (.rangeError "Invalid time value")

/-! ## The seam -/

structure TradeFact where
  appraisal : Appraisal
  version : AppraisalVersion

/-- The fact the desk hands on: one approved version and everything it rests on. -/
structure ApprovedDeskingVersion where
  deskingCase : DeskFile
  scenario : Desking.Scenario
  approval : DatedApproval
  trade : Option TradeFact
  ruleApplications : List Desking.RuleApplication

/-- The scenario of a case in state `approved`. -/
def Sources.approvedScenario (s : Sources) (deskingCaseId : String) : Option Desking.Scenario :=
  s.desking_scenarios.find? fun r => r.desking_case_id = deskingCaseId ∧ r.state = .approved

def Sources.trade (s : Sources) (deskingCaseId : String) : Option TradeFact := do
  let appraisal ← s.appraisals.find? fun a => a.desking_case_id = deskingCaseId &&
    s.appraisal_versions.any fun v =>
      v.appraisal_id = a.appraisal_id && v.version_no = a.current_version_no
  let version ← s.appraisal_versions.find? fun v =>
    v.appraisal_id = appraisal.appraisal_id && v.version_no = appraisal.current_version_no
  pure ⟨appraisal, version⟩

/-- The rules a version was priced under, `ORDER BY rule_kind, rule_code`. -/
def Sources.ruleApplications (s : Sources) (scenarioId : String) : List Desking.RuleApplication :=
  ((s.scenario_rule_applications.filter fun r => r.1 = scenarioId).map (·.2)).insertionSort
    fun a b => jsLt a.ruleKind.text b.ruleKind.text ||
      (a.ruleKind = b.ruleKind && jsLe a.ruleCode b.ruleCode)

/-- The approved version of one desk file, or `none` when the file does not exist
or nothing on it is approved. -/
def getApprovedDeskingVersionWithin (s : Sources) (deskingCaseId : String) :
    Option ApprovedDeskingVersion := do
  let deskingCase ← s.desking_cases.find? fun c => c.desking_case_id = deskingCaseId
  let scenario ← s.approvedScenario deskingCaseId
  let approval ← s.scenario_approvals.find? fun a =>
    a.scenario_id = scenario.scenario_id ∧ a.decision = .approved
  pure
    { deskingCase
      scenario
      approval
      trade := s.trade deskingCaseId
      ruleApplications := s.ruleApplications scenario.scenario_id }

/-- Which version, if any, the desk currently stands behind for a file: its id,
its number and its output fingerprint. -/
def currentApprovedFingerprintWithin (s : Sources) (deskingCaseId : String) :
    Option (String × Nat × String) :=
  (s.approvedScenario deskingCaseId).map fun r =>
    (r.scenario_id, r.version_no, r.computed.outputFingerprint)

/-! ## The fields -/

structure FieldSource where
  kind : String
  id : Option String
  version : String

def textField (code : String) (value : Option String) (source : FieldSource) :
    List AssembledField :=
  match value with
  | none => []
  | some v =>
    if v.isEmpty then []
    else [⟨code, .text, some v, none, none, none, source.kind, source.id, source.version⟩]

def moneyField (code : String) (cents : Int) (currency : String) (source : FieldSource) :
    List AssembledField :=
  [⟨code, .money, none, some cents, none, some currency, source.kind, source.id, source.version⟩]

def integerField (code : String) (value : Int) (kind : FieldValueKind) (source : FieldSource) :
    List AssembledField :=
  [⟨code, kind, none, none, some value, none, source.kind, source.id, source.version⟩]

def decimal (n : Int) : String := String.ofList (intText n)

/-- The figures of the approved version, with its currency. -/
def figureFields (jacket : DealJacket) (fact : ApprovedDeskingVersion) : List AssembledField :=
  let s := fact.scenario
  let currency := s.inputs.currency
  let source : FieldSource := ⟨"desking_scenario", some s.scenario_id, decimal s.version_no⟩
  let money := fun (code : String) (cents : Int) => moneyField code cents currency source
  money "deal.vehicle_price" s.inputs.vehiclePriceCents ++
  money "deal.trade_allowance" s.inputs.tradeAllowanceCents ++
  money "deal.trade_payoff" s.inputs.tradePayoffCents ++
  money "deal.trade_equity" s.computed.tradeEquityCents ++
  money "deal.cash_down" s.inputs.cashDownCents ++
  money "deal.taxable_amount" s.computed.taxableAmountCents ++
  money "deal.tax_total" s.computed.taxTotalCents ++
  money "deal.fee_total" s.computed.feeTotalCents ++
  money "deal.incentive_total" s.computed.incentiveTotalCents ++
  money "deal.amount_financed" s.computed.amountFinancedCents ++
  s.computed.monthlyPaymentCents.elim [] (money "deal.monthly_payment") ++
  s.inputs.termMonths.elim [] (integerField "deal.term_months" · .integer source) ++
  s.inputs.aprPpm.elim [] (integerField "deal.apr" · .rate_ppm source) ++
  textField "deal.currency" (some currency) source ++
  textField "deal.jurisdiction" (some s.inputs.jurisdiction) source ++
  textField "deal.transaction_type" (some jacket.transaction_type.text) source ++
  textField "deal.desking_version" (some ("v" ++ decimal s.version_no)) source ++
  textField "deal.output_fingerprint" (some s.computed.outputFingerprint) source ++
  textField "deal.approved_at" (some (isoOfDate fact.approval.decided_at))
    ⟨"scenario_approval", some fact.approval.approval_id, isoOfDate fact.approval.decided_at⟩

def customerFields (jacket : DealJacket) (p : Party) : List AssembledField :=
  let source : FieldSource := ⟨"party", some jacket.party_id, decimal p.authorization_version⟩
  let address := [p.address_line1, p.address_city, p.address_region, p.address_postal_code,
    p.address_country].filterMap fun x => x.filter fun line => !line.isEmpty
  textField "customer.name" (some p.display_name) source ++
  textField "customer.email" p.email source ++
  textField "customer.phone" p.phone source ++
  textField "customer.address" (some (", ".intercalate address)) source

def dealerFields (jacket : DealJacket) (r : Rooftop) (le : LegalEntity) : List AssembledField :=
  textField "dealer.legal_entity" (some le.name)
    ⟨"legal_entity", some jacket.legal_entity_id, decimal le.authorization_version⟩ ++
  textField "dealer.rooftop" (some r.name)
    ⟨"rooftop", some jacket.rooftop_id, decimal r.authorization_version⟩

def vehicleFields (si : StockItem) (v : Vehicle) : List AssembledField :=
  let stock : FieldSource := ⟨"stock_item", some si.stock_item_id, decimal si.authorization_version⟩
  let vehicle : FieldSource := ⟨"vehicle", some v.vehicle_id, decimal v.authorization_version⟩
  textField "vehicle.stock_number" (some si.stock_number) stock ++
  textField "vehicle.vin" (some v.vin) vehicle ++
  textField "vehicle.year" (v.model_year.map decimal) vehicle ++
  textField "vehicle.make" v.make vehicle ++
  textField "vehicle.model" v.model vehicle ++
  textField "vehicle.trim" v.trim_level vehicle ++
  textField "vehicle.odometer" (si.odometer.map fun n => decimal n ++ " " ++ si.odometer_unit) stock

def tradeFields (t : TradeFact) : List AssembledField :=
  let source : FieldSource :=
    ⟨"appraisal_version", some t.appraisal.appraisal_id, decimal t.appraisal.current_version_no⟩
  textField "trade.vin" (some t.appraisal.vin) source ++
  textField "trade.year" (some (decimal t.appraisal.model_year)) source ++
  textField "trade.make" (some t.appraisal.make) source ++
  textField "trade.model" (some t.appraisal.model) source ++
  textField "trade.trim" t.appraisal.trim_level source ++
  integerField "trade.odometer_miles" t.version.odometer_miles .integer source ++
  textField "trade.odometer_status" (some t.version.odometer_status) source ++
  textField "trade.condition_grade" (some t.version.condition_grade) source ++
  textField "trade.ownership" (some t.version.ownership) source

/-- A rule the version was priced under, as its own lines. -/
def ruleFields (currency : String) (rule : Desking.RuleApplication) : List AssembledField :=
  let source : FieldSource := ⟨"desking_rule", some rule.ruleId, decimal rule.ruleVersion⟩
  let code := "rule." ++ rule.ruleKind.text ++ "." ++ rule.ruleCode
  moneyField code rule.resolvedAmountCents currency source ++
  textField (code ++ ".source") (some (rule.source ++ " (v" ++ decimal rule.ruleVersion ++ ")"))
    source

def Sources.rooftopEntity (s : Sources) (rooftopId : String) : Option (Rooftop × LegalEntity) := do
  let r ← s.rooftops.find? fun r => r.rooftop_id = rooftopId
  let le ← s.legal_entities.find? fun le => le.legal_entity_id = r.legal_entity_id
  pure (r, le)

def Sources.stockVehicle (s : Sources) (stockItemId : Option String) :
    Option (StockItem × Vehicle) := do
  let id ← stockItemId
  let si ← s.stock_items.find? fun si => si.stock_item_id = id
  let v ← s.vehicles.find? fun v => v.vehicle_id = si.vehicle_id
  pure (si, v)

/-- Reading a member of `rows[0]` when there is no row. -/
def firstRow {α : Type} (row : Option α) : Except Raise α :=
  row.elim (throw (.typeError "Cannot read properties of undefined")) pure

/-- Every field a document may name, read from the rows that own them, sorted by code. -/
def assembleFieldsWithin (s : Sources) (jacket : DealJacket) (fact : ApprovedDeskingVersion) :
    Except Raise (List AssembledField) := do
  let party ← firstRow (s.parties.find? fun p => p.party_id = jacket.party_id)
  let dealer ← firstRow (s.rooftopEntity jacket.rooftop_id)
  let fields := figureFields jacket fact ++ customerFields jacket party ++
    dealerFields jacket dealer.1 dealer.2 ++
    (s.stockVehicle jacket.stock_item_id).elim [] (fun car => vehicleFields car.1 car.2) ++
    fact.trade.elim [] tradeFields ++
    fact.ruleApplications.flatMap (ruleFields fact.scenario.inputs.currency)
  pure (fields.insertionSort fun a b => localeLe a.fieldCode b.fieldCode)

/-- The digest of the fields, in canonical form. -/
def fieldsDigest (fields : List AssembledField) : Digest :=
  digestOf (.array (fields.map fun f => .object
    [ ("code", some (.string f.fieldCode)),
      ("kind", some (.string f.valueKind.name)),
      ("text", some (f.valueText.elim .null .string)),
      ("cents", some (f.valueCents.elim .null .bigint)),
      ("integer", some (f.valueInteger.elim .null .bigint)),
      ("currency", some (f.currency.elim .null .string)),
      ("source", some (.string
        (f.sourceKind ++ ":" ++ f.sourceId.getD "" ++ ":" ++ f.sourceVersion))) ]))

end Dealership.Jacket
