import Dealership.Desking.Appraisal
import Dealership.Desking.Figures
import Dealership.Jacket.Bindings

/-!
# Documents and what the jacket bound

The desk, the appraisals and the jacket move in any order.  An assembly compares the
version the desk stands behind with the one the jacket bound, so the figures and the
rules on its documents are the bound ones.  It does not compare the trade: the seam
hands over the evidence that is current, whatever version the jacket bound.
-/

namespace Dealership.Jacket

open Library List

variable {fields : List AssembledField} {f : AssembledField} {fact : ApprovedDeskingVersion}
  {j : DealJacket} {source : FieldSource} {s : Sources} {j' : DealJacket} {g : String}

/-! ## The desk, the appraisals and the jacket -/

structure Deal where
  desk : Desking.Desk
  trades : Desking.Appraisals
  cabinet : Cabinet
  /-- `decided_at` of an approval, by its id. -/
  decidedAt : String → Int

/-- The columns of an appraisal that the seam reads. -/
def appraisalRow (a : Desking.Appraisal) : Appraisal where
  appraisal_id := a.appraisal_id
  desking_case_id := a.desking_case_id
  current_version_no := a.current_version_no
  vin := a.vin
  model_year := a.model_year
  make := a.make
  model := a.model
  trim_level := a.trim_level

/-- The columns of a version that the seam reads. -/
def versionRow (v : Desking.AppraisalVersion) : AppraisalVersion where
  appraisal_id := v.appraisal_id
  version_no := v.version_no
  odometer_miles := v.odometer_miles
  odometer_status := v.odometer_status.text
  condition_grade := v.condition_grade.text
  ownership := v.ownership.text

/-- What a transaction of the jacket reads: the desk and the appraisals as they stand,
and whatever rows its world has otherwise. -/
def Deal.sources (d : Deal) (s : Sources) : Sources :=
  { s with
    desking_scenarios := d.desk.desking_scenarios
    scenario_approvals := d.desk.scenario_approvals.map fun a => ⟨a, d.decidedAt a.approval_id⟩
    scenario_rule_applications := d.desk.scenario_rule_applications
    appraisals := d.trades.appraisals.map appraisalRow
    appraisal_versions := d.trades.appraisal_versions.map versionRow }

def Deal.world (d : Deal) (w : JacketWorld) : JacketWorld :=
  { w with sources := d.sources w.sources }

def Call.inWorld (f : JacketWorld → JacketWorld) : Call → Call
  | .openJacket w actor caseId => .openJacket (f w) actor caseId
  | .satisfyWithEvidence w input => .satisfyWithEvidence (f w) input
  | .waiveRequirement w input => .waiveRequirement (f w) input
  | .assemblePackage w input => .assemblePackage (f w) input
  | .markReviewReady w input => .markReviewReady (f w) input
  | .reviewPackage w input => .reviewPackage (f w) input
  | .sendPackage w input => .sendPackage (f w) input
  | .openSignerSession w token now => .openSignerSession (f w) token now
  | .consentToElectronicRecords w token version now =>
    .consentToElectronicRecords (f w) token version now
  | .signAsCustomer w token input now => .signAsCustomer (f w) token input now
  | .signAsDealerRepresentative w input => .signAsDealerRepresentative (f w) input
  | .declineAsCustomer w token reason now => .declineAsCustomer (f w) token reason now
  | .voidPackage w input => .voidPackage (f w) input
  | .voidJacket w input => .voidJacket (f w) input
  | .expireDueCeremoniesForTenant w now limit => .expireDueCeremoniesForTenant (f w) now limit

inductive DealCall where
  | desk (call : Desking.Call)
  | recordAppraisal (w : Desking.AppraisalWorld) (input : Desking.RecordAppraisalInput)
  | reviseAppraisal (w : Desking.AppraisalWorld) (input : Desking.ReviseAppraisalInput)
  | jacket (call : Call)

def Deal.step (d : Deal) : DealCall → Deal
  | .desk call => { d with desk := Desking.step d.desk call }
  | .recordAppraisal w input =>
    { d with trades := committed d.trades (Desking.recordAppraisalWithin w d.desk input d.trades) }
  | .reviseAppraisal w input =>
    { d with trades := committed d.trades (Desking.reviseAppraisal w d.desk input d.trades) }
  | .jacket call => { d with cabinet := Jacket.step d.cabinet (call.inWorld d.world) }

def Deal.start (cases : Desking.OpenCases) (decidedAt : String → Int) : Deal :=
  ⟨cases.desk, ⟨[], []⟩, Cabinet.empty, decidedAt⟩

/-- The trade of the file, if it has one, is what the jacket bound when the jacket is
assembled. -/
def DealCall.TradeStands (d : Deal) : DealCall → Prop
  | .jacket (.assemblePackage w input) => ∀ j ∈ d.cabinet.deal_jackets,
      j.jacket_id = input.jacketId → ∀ t, (d.sources w.sources).trade j.desking_case_id = some t →
        j.appraisal_id = some t.appraisal.appraisal_id ∧
          j.appraisal_version_no = some t.appraisal.current_version_no
  | _ => True

/-! ## Where a field comes from -/

/-- What a code says before its first full stop. -/
def group (code : String) : List Char := code.toList.takeWhile (· ≠ '.')

/-- A scenario is the approved version a jacket bound, with the figures that its output
fingerprint digests. -/
structure OfVersion (j : DealJacket) (s : Desking.Scenario) : Prop where
  id : s.scenario_id = j.approved_scenario_id
  version : s.version_no = j.scenario_version_no
  fingerprint : s.computed.outputFingerprint = j.approved_output_fingerprint
  digested : s.computed.Digested

/-- A `deal.*` field is a figure of the bound version or of its approval, and a `rule.*`
field a rule it was priced under. -/
structure FigureSourced (d : Deal) (j : DealJacket) (f : AssembledField) : Prop where
  deal : group f.fieldCode = "deal".toList → ∃ fact : ApprovedDeskingVersion,
    fact.scenario ∈ d.desk.desking_scenarios ∧ OfVersion j fact.scenario ∧
    fact.approval.toApproval ∈ d.desk.scenario_approvals ∧
    fact.approval.approval_id = j.approval_id ∧ f ∈ figureFields j fact
  rule : group f.fieldCode = "rule".toList → ∃ s ∈ d.desk.desking_scenarios, OfVersion j s ∧
    ∃ r, (s.scenario_id, r) ∈ d.desk.scenario_rule_applications ∧ f ∈ ruleFields s.inputs.currency r

/-- A `trade.*` field is read from the evidence version the jacket bound. -/
def TradeSourced (d : Deal) (j : DealJacket) (f : AssembledField) : Prop :=
  group f.fieldCode = "trade".toList → ∃ a ∈ d.trades.appraisals, ∃ v ∈ d.trades.appraisal_versions,
    j.appraisal_id = some a.appraisal_id ∧ j.appraisal_version_no = some v.version_no ∧
    v.appraisal_id = a.appraisal_id ∧
    f ∈ tradeFields ⟨{ appraisalRow a with current_version_no := v.version_no }, versionRow v⟩

/-! ## The groups of the assembled fields -/

def InGroup (g : String) (fields : List AssembledField) : Prop :=
  ∀ f ∈ fields, group f.fieldCode = g.toList

theorem InGroup.append {as bs : List AssembledField} (ha : InGroup g as)
    (hb : InGroup g bs) : InGroup g (as ++ bs) := by
  intro f hf
  rcases mem_append.mp hf with hf | hf
  · exact ha f hf
  · exact hb f hf

theorem InGroup.nil (g : String) : InGroup g [] := fun _ hf => absurd hf not_mem_nil

theorem InGroup.text {code : String} {value : Option String}
    (h : group code = g.toList) : InGroup g (textField code value source) := by
  unfold textField
  split
  · exact InGroup.nil g
  split
  · exact InGroup.nil g
  intro f hf
  rw [mem_singleton.mp hf]
  exact h

theorem InGroup.money {code currency : String} {cents : Int}
    (h : group code = g.toList) : InGroup g (moneyField code cents currency source) := by
  intro f hf
  rw [mem_singleton.mp hf]
  exact h

theorem InGroup.integer {code : String} {value : Int} {kind : FieldValueKind}
    (h : group code = g.toList) :
    InGroup g (integerField code value kind source) := by
  intro f hf
  rw [mem_singleton.mp hf]
  exact h

theorem InGroup.elim {α : Type} {x : Option α} {k : α → List AssembledField}
    (h : ∀ a, InGroup g (k a)) : InGroup g (x.elim [] k) := by
  cases x with
  | none => exact InGroup.nil g
  | some a => exact h a

variable (jacket : DealJacket)

theorem figureFields_inGroup (fact : ApprovedDeskingVersion) :
    InGroup "deal" (figureFields jacket fact) := by
  dsimp only [figureFields]
  repeat' with_reducible apply InGroup.append
  all_goals with_reducible first
    | exact InGroup.money (by decide)
    | exact InGroup.text (by decide)
    | exact InGroup.elim fun _ => InGroup.money (by decide)
    | exact InGroup.elim fun _ => InGroup.integer (by decide)

theorem customerFields_inGroup (p : Party) :
    InGroup "customer" (customerFields jacket p) := by
  unfold customerFields
  repeat' with_reducible apply InGroup.append
  all_goals exact InGroup.text (by decide)

theorem dealerFields_inGroup (r : Rooftop) (le : LegalEntity) :
    InGroup "dealer" (dealerFields jacket r le) := by
  unfold dealerFields
  repeat' with_reducible apply InGroup.append
  all_goals exact InGroup.text (by decide)

theorem vehicleFields_inGroup (si : StockItem) (v : Vehicle) :
    InGroup "vehicle" (vehicleFields si v) := by
  unfold vehicleFields
  repeat' with_reducible apply InGroup.append
  all_goals exact InGroup.text (by decide)

theorem tradeFields_inGroup (t : TradeFact) : InGroup "trade" (tradeFields t) := by
  unfold tradeFields
  repeat' with_reducible apply InGroup.append
  all_goals first | exact InGroup.text (by decide) | exact InGroup.integer (by decide)

theorem ruleFields_inGroup (currency : String) (rule : Desking.RuleApplication) :
    InGroup "rule" (ruleFields currency rule) := by
  have hgroup : ∀ rest : String, group ("rule." ++ rest) = "rule".toList := by
    intro rest
    rw [group, String.toList_append]
    rfl
  unfold ruleFields
  refine InGroup.append (InGroup.money ?_) (InGroup.text ?_)
  · rw [String.append_assoc, String.append_assoc]
    exact hgroup _
  · rw [String.append_assoc, String.append_assoc, String.append_assoc]
    exact hgroup _

theorem InGroup.elsewhere (h : InGroup g fields) (hf : f ∈ fields) {g' : String}
    (hg' : group f.fieldCode = g'.toList) (hne : g ≠ g') {P : Prop} : P :=
  absurd (String.toList_injective ((h f hf).symm.trans hg')) hne

theorem mem_groups {figures customer dealer vehicle trade rules : List AssembledField}
    (hfigures : InGroup "deal" figures) (hcustomer : InGroup "customer" customer)
    (hdealer : InGroup "dealer" dealer) (hvehicle : InGroup "vehicle" vehicle)
    (htrade : InGroup "trade" trade) (hrules : InGroup "rule" rules)
    (hf : f ∈ figures ++ customer ++ dealer ++ vehicle ++ trade ++ rules) :
    (group f.fieldCode = "deal".toList → f ∈ figures) ∧
    (group f.fieldCode = "rule".toList → f ∈ rules) ∧
    (group f.fieldCode = "trade".toList → f ∈ trade) := by
  simp only [mem_append] at hf
  rcases hf with ((((hf | hf) | hf) | hf) | hf) | hf
  · exact ⟨fun _ => hf, fun hg => hfigures.elsewhere hf hg (by decide),
      fun hg => hfigures.elsewhere hf hg (by decide)⟩
  · exact ⟨fun hg => hcustomer.elsewhere hf hg (by decide),
      fun hg => hcustomer.elsewhere hf hg (by decide),
      fun hg => hcustomer.elsewhere hf hg (by decide)⟩
  · exact ⟨fun hg => hdealer.elsewhere hf hg (by decide),
      fun hg => hdealer.elsewhere hf hg (by decide), fun hg => hdealer.elsewhere hf hg (by decide)⟩
  · exact ⟨fun hg => hvehicle.elsewhere hf hg (by decide),
      fun hg => hvehicle.elsewhere hf hg (by decide),
      fun hg => hvehicle.elsewhere hf hg (by decide)⟩
  · exact ⟨fun hg => htrade.elsewhere hf hg (by decide),
      fun hg => htrade.elsewhere hf hg (by decide), fun _ => hf⟩
  · exact ⟨fun hg => hrules.elsewhere hf hg (by decide), fun _ => hf,
      fun hg => hrules.elsewhere hf hg (by decide)⟩

theorem mem_assembleFieldsWithin {jacket : DealJacket}
    (h : assembleFieldsWithin s jacket fact = .ok fields) (hf : f ∈ fields) :
    (group f.fieldCode = "deal".toList → f ∈ figureFields jacket fact) ∧
    (group f.fieldCode = "rule".toList →
      f ∈ fact.ruleApplications.flatMap (ruleFields fact.scenario.inputs.currency)) ∧
    (group f.fieldCode = "trade".toList → f ∈ fact.trade.elim [] tradeFields) := by
  obtain ⟨party, -, h⟩ := bind_eq_ok.mp h
  obtain ⟨dealer, -, h⟩ := bind_eq_ok.mp h
  have hfields := Except.ok.inj h
  rw [← hfields, mem_insertionSort] at hf
  refine mem_groups (figureFields_inGroup jacket fact) (customerFields_inGroup jacket party)
    (dealerFields_inGroup jacket dealer.1 dealer.2) (InGroup.elim fun car => ?_)
    (InGroup.elim tradeFields_inGroup) ?_ hf
  · exact vehicleFields_inGroup car.1 car.2
  · intro r hr
    obtain ⟨rule, -, hr⟩ := mem_flatMap.mp hr
    exact ruleFields_inGroup _ rule r hr

/-! ## The seam -/

theorem of_getApprovedDeskingVersionWithin {caseId : String}
    (h : getApprovedDeskingVersionWithin s caseId = some fact) :
    s.approvedScenario caseId = some fact.scenario ∧
      (fact.approval ∈ s.scenario_approvals ∧
        fact.approval.scenario_id = fact.scenario.scenario_id) ∧
      fact.trade = s.trade caseId ∧
      fact.ruleApplications = s.ruleApplications fact.scenario.scenario_id := by
  obtain ⟨file, -, h⟩ := Option.bind_eq_some_iff.mp h
  obtain ⟨scenario, hscenario, h⟩ := Option.bind_eq_some_iff.mp h
  obtain ⟨approval, happroval, h⟩ := Option.bind_eq_some_iff.mp h
  cases h
  obtain ⟨hmem, hid, -⟩ := of_find?_eq_some happroval
  exact ⟨hscenario, ⟨hmem, hid⟩, rfl, rfl⟩

theorem of_fact_eq_ok {input : AssembleInput} {jacket : DealJacket}
    (h : input.fact s jacket = .ok fact) :
    getApprovedDeskingVersionWithin s jacket.desking_case_id = some fact ∧
      fact.scenario.scenario_id = jacket.approved_scenario_id ∧
      fact.scenario.computed.outputFingerprint = jacket.approved_output_fingerprint := by
  rw [AssembleInput.fact] at h
  split at h
  · cases h
  split at h
  · cases h
  rename_i scenarioId versionNo fingerprint hcurrent
  split at h
  · cases h
  rename_i hsame
  split at h
  · cases h
  rename_i found hfound
  split at h
  · cases h
  cases h
  obtain ⟨hscenario, -⟩ := of_getApprovedDeskingVersionWithin hfound
  rw [currentApprovedFingerprintWithin, hscenario] at hcurrent
  cases hcurrent
  rw [not_or, not_not, not_not] at hsame
  exact ⟨hfound, hsame⟩

theorem of_trade {caseId : String} {t : TradeFact} (h : s.trade caseId = some t) :
    t.appraisal ∈ s.appraisals ∧ t.version ∈ s.appraisal_versions ∧
      t.version.appraisal_id = t.appraisal.appraisal_id ∧
      t.version.version_no = t.appraisal.current_version_no := by
  obtain ⟨a, ha, h⟩ := Option.bind_eq_some_iff.mp h
  obtain ⟨v, hv, h⟩ := Option.bind_eq_some_iff.mp h
  cases h
  have hfound := find?_some hv
  rw [Bool.and_eq_true, decide_eq_true_iff, decide_eq_true_iff] at hfound
  exact ⟨mem_of_find?_eq_some ha, mem_of_find?_eq_some hv, hfound⟩

/-! ## What persists -/

structure Deal.Persist (d d' : Deal) : Prop where
  desk : Desking.Persists d.desk d'.desk
  trades : Desking.AppraisalsPersist d.trades d'.trades

/-- Scenarios that agree but for their state agree on what a jacket binds. -/
theorem of_frozen_eq {s s' : Desking.Scenario} (h : s'.frozen = s.frozen) :
    s'.scenario_id = s.scenario_id ∧ s'.version_no = s.version_no ∧ s'.inputs = s.inputs ∧
      s'.computed = s.computed := by
  have hid := congrArg Desking.Scenario.scenario_id h
  have hversion := congrArg Desking.Scenario.version_no h
  have hinputs := congrArg Desking.Scenario.inputs h
  have hcomputed := congrArg Desking.Scenario.computed h
  exact ⟨hid, hversion, hinputs, hcomputed⟩

theorem of_binding_eq (h : j'.binding = j.binding) :
    (j'.approved_scenario_id = j.approved_scenario_id ∧
      j'.scenario_version_no = j.scenario_version_no ∧
      j'.approved_output_fingerprint = j.approved_output_fingerprint ∧
      j'.approval_id = j.approval_id) ∧
    j'.appraisal_id = j.appraisal_id ∧ j'.appraisal_version_no = j.appraisal_version_no := by
  have hscenario := congrArg DealJacket.approved_scenario_id h
  have hversion := congrArg DealJacket.scenario_version_no h
  have hfingerprint := congrArg DealJacket.approved_output_fingerprint h
  have happroval := congrArg DealJacket.approval_id h
  have happraisal := congrArg DealJacket.appraisal_id h
  have hevidence := congrArg DealJacket.appraisal_version_no h
  exact ⟨⟨hscenario, hversion, hfingerprint, happroval⟩, happraisal, hevidence⟩

theorem OfVersion.persist {s s' : Desking.Scenario} (h : OfVersion j s)
    (hj : j'.binding = j.binding) (hs : s'.frozen = s.frozen) : OfVersion j' s' := by
  obtain ⟨hid, hversion, -, hcomputed⟩ := of_frozen_eq hs
  obtain ⟨⟨hscenario, hno, hfingerprint, -⟩, -⟩ := of_binding_eq hj
  refine ⟨?_, ?_, ?_, ?_⟩
  · rw [hid, hscenario]
    exact h.id
  · rw [hversion, hno]
    exact h.version
  · rw [hcomputed, hfingerprint]
    exact h.fingerprint
  · rw [hcomputed]
    exact h.digested

theorem FigureSourced.persist {d d' : Deal} (hd : d.Persist d') (hj : j'.binding = j.binding)
    (h : FigureSourced d j f) : FigureSourced d' j' f where
  deal := by
    intro hg
    obtain ⟨fact, hs, hversion, ha, hid, hf⟩ := h.deal hg
    obtain ⟨s', hs', hfrozen⟩ := hd.desk.scenarios _ hs
    refine ⟨{ fact with scenario := s' }, hs', hversion.persist hj hfrozen,
      hd.desk.approvals.subset ha, ?_, ?_⟩
    · exact hid.trans (of_binding_eq hj).1.2.2.2.symm
    · -- the figures are read from columns that no command moves
      have hfigures : ∀ k s, figureFields k { fact with scenario := s } =
          figureFields k.binding { fact with scenario := s.frozen } := fun _ _ => rfl
      rw [hfigures j' s', hj, hfrozen]
      exact hf
  rule := by
    intro hg
    obtain ⟨s, hs, hversion, r, hr, hf⟩ := h.rule hg
    obtain ⟨s', hs', hfrozen⟩ := hd.desk.scenarios s hs
    obtain ⟨hid, -, hinputs, -⟩ := of_frozen_eq hfrozen
    refine ⟨s', hs', hversion.persist hj hfrozen, r, ?_, ?_⟩
    · rw [hid]
      exact hd.desk.applications.subset hr
    · rw [hinputs]
      exact hf

theorem TradeSourced.persist {d d' : Deal} (hd : d.Persist d') (hj : j'.binding = j.binding)
    (h : TradeSourced d j f) : TradeSourced d' j' f := by
  intro hg
  obtain ⟨a, ha, v, hv, hid, hversion, hof, hf⟩ := h hg
  obtain ⟨b, hb, hcar⟩ := hd.trades.appraisals a ha
  have hbid := congrArg Desking.Appraisal.appraisal_id hcar
  obtain ⟨-, hbound, hevidence⟩ := of_binding_eq hj
  have hrow : ∀ c : Desking.Appraisal, { appraisalRow c with current_version_no := v.version_no } =
      { appraisalRow c.car with current_version_no := v.version_no } := fun _ => rfl
  refine ⟨b, hb, v, hd.trades.versions v hv, ?_, ?_, ?_, ?_⟩
  · exact (hbound.trans hid).trans (congrArg some hbid.symm)
  · exact hevidence.trans hversion
  · exact hof.trans hbid.symm
  · rw [hrow b, hcar, ← hrow a]
    exact hf

/-! ## Every step -/

/-- A jacket is bound to an approved version and the approval it rests on. -/
def Deal.Binds (d : Deal) (j : DealJacket) : Prop :=
  ∃ s ∈ d.desk.desking_scenarios, OfVersion j s ∧
    ∃ a ∈ d.desk.scenario_approvals, a.approval_id = j.approval_id ∧ a.scenario_id = s.scenario_id

theorem Deal.Binds.persist {d d' : Deal} (hd : d.Persist d') (hj : j'.binding = j.binding)
    (h : d.Binds j) : d'.Binds j' := by
  obtain ⟨s, hs, hversion, a, ha, hid, hof⟩ := h
  obtain ⟨s', hs', hfrozen⟩ := hd.desk.scenarios s hs
  refine ⟨s', hs', hversion.persist hj hfrozen, a, hd.desk.approvals.subset ha, ?_, ?_⟩
  · exact hid.trans (of_binding_eq hj).1.2.2.2.symm
  · exact hof.trans (of_frozen_eq hfrozen).1.symm

/-- What every step keeps; `T` is what is supposed of the assemblies so far. -/
structure Deal.Kept (T : Prop) (d : Deal) : Prop where
  desk : Desking.Coherent d.desk
  digested : d.desk.AllDigested
  cabinet : Coherent d.cabinet
  bound : ∀ j ∈ d.cabinet.bindings.jackets, d.Binds j
  fields : ∀ row ∈ d.cabinet.bindings.fields, ∃ j ∈ d.cabinet.bindings.jackets,
    (row.1, j.jacket_id) ∈ d.cabinet.bindings.packages ∧ FigureSourced d j row.2 ∧
      (T → TradeSourced d j row.2)

section Steps

variable {T : Prop} {d : Deal}

theorem Deal.Kept.persist (h : d.Kept T) {d' : Deal} (hd : d.Persist d')
    (hdesk : Desking.Coherent d'.desk) (hdigested : d'.desk.AllDigested)
    (hcabinet : Coherent d'.cabinet) (hbindings : d'.cabinet.bindings = d.cabinet.bindings) :
    d'.Kept T where
  desk := hdesk
  digested := hdigested
  cabinet := hcabinet
  bound := by
    rw [hbindings]
    exact fun j hj => (h.bound j hj).persist hd rfl
  fields := by
    rw [hbindings]
    intro row hrow
    obtain ⟨j, hj, hpackage, hfigure, htrade⟩ := h.fields row hrow
    exact ⟨j, hj, hpackage, hfigure.persist hd rfl, fun ht => (htrade ht).persist hd rfl⟩

theorem Deal.persist_jacket (c : Cabinet) : d.Persist { d with cabinet := c } :=
  ⟨.refl _, .refl _⟩

theorem Deal.Kept.opened (h : d.Kept T) {c : Cabinet} (hc : Coherent c) {s : Sources}
    {w : JacketWorld} {caseId actor legalEntityId : String}
    (hfact : getApprovedDeskingVersionWithin (d.sources s) caseId = some fact)
    (hbindings : c.bindings = { d.cabinet.bindings with
      jackets := d.cabinet.bindings.jackets ++ [(jacketOf w actor legalEntityId fact).binding] }) :
    Deal.Kept T { d with cabinet := c } where
  desk := h.desk
  digested := h.digested
  cabinet := hc
  bound := by
    show ∀ j ∈ c.bindings.jackets, _
    rw [hbindings]
    intro j hj
    rcases mem_append.mp hj with hj | hj
    · exact (h.bound j hj).persist (d.persist_jacket c) rfl
    · obtain ⟨hscenario, ⟨happroval, hof⟩, -⟩ := of_getApprovedDeskingVersionWithin hfact
      obtain ⟨hmem, -⟩ := of_find?_eq_some hscenario
      obtain ⟨a, ha, heq⟩ := mem_map.mp happroval
      rw [mem_singleton.mp hj]
      refine ⟨fact.scenario, hmem, ⟨rfl, rfl, rfl, ?_⟩, a, ha, ?_, ?_⟩
      · exact h.digested _ (mem_map_of_mem hmem)
      · show a.approval_id = fact.approval.approval_id
        rw [← heq]
      · rw [← hof, ← heq]
  fields := by
    show ∀ row ∈ c.bindings.fields, ∃ j ∈ c.bindings.jackets, (row.1, j.jacket_id) ∈
      c.bindings.packages ∧ _
    rw [hbindings]
    intro row hrow
    obtain ⟨j, hj, hpackage, hfigure, htrade⟩ := h.fields row hrow
    exact ⟨j, mem_append_left _ hj, hpackage, hfigure.persist (d.persist_jacket c) rfl,
      fun ht => (htrade ht).persist (d.persist_jacket c) rfl⟩

theorem Deal.Kept.sourced (h : d.Kept T) {w : JacketWorld} {input : AssembleInput}
    {jacket : DealJacket} (hjacket : jacket ∈ d.cabinet.deal_jackets)
    (hid : jacket.jacket_id = input.jacketId)
    (hfact : input.fact (d.sources w.sources) jacket = .ok fact)
    (hfields : assembleFieldsWithin (d.sources w.sources) jacket fact = .ok fields)
    (hstands : T → (DealCall.jacket (.assemblePackage w input)).TradeStands d) :
    ∀ f ∈ fields, FigureSourced d jacket.binding f ∧ (T → TradeSourced d jacket.binding f) := by
  obtain ⟨hfound, hscenarioId, hfingerprint⟩ := of_fact_eq_ok hfact
  obtain ⟨hscenario, ⟨happroval, hof⟩, htrade, hrules⟩ := of_getApprovedDeskingVersionWithin hfound
  obtain ⟨hmem, -⟩ := of_find?_eq_some hscenario
  obtain ⟨a, ha, happroved⟩ := mem_map.mp happroval
  have happroved : fact.approval.toApproval = a := by rw [← happroved]
  obtain ⟨s, hs, hversion, b, hb, hbid, hbof⟩ := h.bound jacket.binding (mem_map_of_mem hjacket)
  -- the scenario the desk stands behind is the one that was bound
  have hids := h.desk.ids.2
  obtain rfl : s = fact.scenario := eq_of_key hids hs hmem (hversion.id.trans hscenarioId.symm)
  have hab : a = b := by
    refine eq_of_key h.desk.one_decision ha hb ?_
    rw [hbof, ← hof, ← happroved]
  intro f hf
  obtain ⟨hdeal, hrule, htradeFields⟩ := mem_assembleFieldsWithin hfields hf
  refine ⟨⟨fun hg => ?_, fun hg => ?_⟩, fun ht hg => ?_⟩
  · refine ⟨fact, hmem, hversion, ?_, ?_, hdeal hg⟩
    · rw [happroved]
      exact ha
    · rw [happroved, hab]
      exact hbid
  · obtain ⟨r, hr, hfr⟩ := mem_flatMap.mp (hrule hg)
    rw [hrules, Sources.ruleApplications, mem_insertionSort, mem_map] at hr
    obtain ⟨row, hrow, rfl⟩ := hr
    rw [mem_filter, decide_eq_true_iff] at hrow
    refine ⟨fact.scenario, hmem, hversion, row.2, ?_, hfr⟩
    rw [← hrow.2]
    exact hrow.1
  · have hmemTrade := htradeFields hg
    cases hcase : fact.trade with
    | none =>
      rw [hcase] at hmemTrade
      exact absurd hmemTrade not_mem_nil
    | some t =>
      rw [hcase] at hmemTrade
      rw [hcase] at htrade
      obtain ⟨hta, htv, htof, htno⟩ := of_trade htrade.symm
      obtain ⟨x, hx, hxt⟩ := mem_map.mp hta
      obtain ⟨v, hv, hvt⟩ := mem_map.mp htv
      obtain ⟨hboundId, hboundNo⟩ := hstands ht jacket hjacket hid t htrade.symm
      have hno : v.version_no = x.current_version_no := by
        calc v.version_no = t.version.version_no := by rw [← hvt]; rfl
          _ = t.appraisal.current_version_no := htno
          _ = x.current_version_no := by rw [← hxt]; rfl
      refine ⟨x, hx, v, hv, ?_, ?_, ?_, ?_⟩
      · exact hboundId.trans (by rw [← hxt]; rfl)
      · exact hboundNo.trans (by rw [hno, ← hxt]; rfl)
      · calc v.appraisal_id = t.version.appraisal_id := by rw [← hvt]; rfl
          _ = t.appraisal.appraisal_id := htof
          _ = x.appraisal_id := by rw [← hxt]; rfl
      · rw [hno, hvt]
        show f ∈ tradeFields ⟨appraisalRow x, t.version⟩
        rw [hxt]
        exact hmemTrade

theorem Deal.Kept.assembled (h : d.Kept T) {c : Cabinet} (hc : Coherent c) {jacket : DealJacket}
    (hjacket : jacket ∈ d.cabinet.deal_jackets) {packageId : String}
    (hfields : ∀ f ∈ fields, FigureSourced d jacket.binding f ∧
      (T → TradeSourced d jacket.binding f))
    (hbindings : c.bindings = { d.cabinet.bindings with
      packages := d.cabinet.bindings.packages ++ [(packageId, jacket.jacket_id)]
      fields := d.cabinet.bindings.fields ++ fields.map (packageId, ·) }) :
    Deal.Kept T { d with cabinet := c } where
  desk := h.desk
  digested := h.digested
  cabinet := hc
  bound := by
    show ∀ j ∈ c.bindings.jackets, _
    rw [hbindings]
    exact fun j hj => (h.bound j hj).persist (d.persist_jacket c) rfl
  fields := by
    show ∀ row ∈ c.bindings.fields, ∃ j ∈ c.bindings.jackets, (row.1, j.jacket_id) ∈
      c.bindings.packages ∧ _
    rw [hbindings]
    intro row hrow
    rcases mem_append.mp hrow with hrow | hrow
    · obtain ⟨j, hj, hpackage, hfigure, htrade⟩ := h.fields row hrow
      exact ⟨j, hj, mem_append_left _ hpackage, hfigure.persist (d.persist_jacket c) rfl,
        fun ht => (htrade ht).persist (d.persist_jacket c) rfl⟩
    · obtain ⟨f, hf, rfl⟩ := mem_map.mp hrow
      obtain ⟨hfigure, htrade⟩ := hfields f hf
      exact ⟨jacket.binding, mem_map_of_mem hjacket,
        mem_append_right _ (mem_singleton_self _),
        hfigure.persist (d.persist_jacket c) rfl,
        fun ht => (htrade ht).persist (d.persist_jacket c) rfl⟩

theorem binds_inWorld (f : JacketWorld → JacketWorld) (call : Call) :
    (call.inWorld f).binds = call.binds := by
  cases call <;> rfl

theorem Deal.Kept.step (h : d.Kept T) {call : DealCall} (hstands : T → call.TradeStands d) :
    (d.step call).Kept T := by
  cases call with
  | desk call =>
    exact h.persist ⟨(Desking.step_effect h.desk.ids call).persists, .refl _⟩ (h.desk.step call)
      (Desking.step_digested h.desk.ids h.digested call) h.cabinet rfl
  | recordAppraisal w input =>
    refine h.persist ⟨.refl _, ?_⟩ h.desk h.digested h.cabinet rfl
    exact committed_induction (.refl _) fun _ _ hrun => Desking.recordAppraisalWithin_persist hrun
  | reviseAppraisal w input =>
    refine h.persist ⟨.refl _, ?_⟩ h.desk h.digested h.cabinet rfl
    exact committed_induction (.refl _) fun _ _ hrun => Desking.reviseAppraisal_persist hrun
  | jacket call =>
    have hc := step_coherent h.cabinet (call.inWorld d.world)
    have hsame : ∀ c : Cabinet, Coherent c → c.bindings = d.cabinet.bindings →
        Deal.Kept T { d with cabinet := c } := fun c hc hbindings =>
      h.persist (d.persist_jacket c) h.desk h.digested hc hbindings
    by_cases hbinds : call.binds = false
    · exact hsame _ hc (step_bindings ((binds_inWorld d.world call).trans hbinds))
    · cases call with
      | openJacket w actor caseId =>
        refine committed_induction (P := fun c => Coherent c → Deal.Kept T { d with cabinet := c })
          (fun _ => h) (fun out c hrun hc => ?_) hc
        rcases openJacketWithin_bindings hrun with hbindings | ⟨fact, _, hfact, hbindings⟩
        · exact hsame c hc hbindings
        · exact h.opened hc hfact hbindings
      | assemblePackage w input =>
        refine committed_induction (P := fun c => Coherent c → Deal.Kept T { d with cabinet := c })
          (fun _ => h) (fun out c hrun hc => ?_) hc
        rcases assemblePackage_bindings hrun with
          hbindings | ⟨actor, jacket, fact, fields, hjacket, hfact, hfields, hbindings⟩
        · exact hsame c hc hbindings
        · obtain ⟨hmem, hid⟩ := of_requireJacketWithin hjacket
          exact h.assembled hc hmem (h.sourced hmem hid hfact hfields hstands) hbindings
      | satisfyWithEvidence | waiveRequirement | markReviewReady | reviewPackage | sendPackage
      | openSignerSession | consentToElectronicRecords | signAsCustomer
      | signAsDealerRepresentative | declineAsCustomer | voidPackage | voidJacket
      | expireDueCeremoniesForTenant => exact absurd rfl hbinds

end Steps

theorem Deal.start_kept (T : Prop) (cases : Desking.OpenCases) (decidedAt : String → Int) :
    (Deal.start cases decidedAt).Kept T where
  desk := cases.coherent
  digested := fun _ hc => absurd hc not_mem_nil
  cabinet := Coherent.empty
  bound := fun _ hj => absurd hj not_mem_nil
  fields := fun _ hrow => absurd hrow not_mem_nil

theorem Deal.Kept.of_package {T : Prop} {d : Deal} (h : d.Kept T) {p : Package}
    (hp : p ∈ d.cabinet.jacket_packages) (hj : j ∈ d.cabinet.deal_jackets)
    (hid : j.jacket_id = p.jacket_id) (hf : (p.package_id, f) ∈ d.cabinet.package_fields) :
    FigureSourced d j f ∧ (T → TradeSourced d j f) := by
  obtain ⟨b, hb, hpackage, hfigure, htrade⟩ := h.fields _ hf
  obtain ⟨k, hk, rfl⟩ := mem_map.mp hb
  obtain ⟨q, hq, hids⟩ := mem_map.mp hpackage
  have hqp : q = p := h.cabinet.keyed.package_unique hq hp (congrArg Prod.fst hids)
  have hqj : q.jacket_id = k.jacket_id := congrArg Prod.snd hids
  have hkj : k = j := h.cabinet.keyed.jacket_unique hk hj (by rw [hid, ← hqp, hqj])
  obtain rfl := hkj
  have hrefl : d.Persist d := ⟨.refl _, .refl _⟩
  have hbound : k.binding = k.binding.binding := rfl
  exact ⟨hfigure.persist hrefl hbound, fun ht => (htrade ht).persist hrefl hbound⟩

/-- In every state that a run of the desk, the appraisals and the jacket reaches, the
`deal.*` and `rule.*` fields of every package are those of the version its jacket bound;
and so are the `trade.*` fields, if the trade stood as bound at every assembly. -/
theorem built_from_bound (cases : Desking.OpenCases) (decidedAt : String → Int)
    (calls : List DealCall) :
    let d := run Deal.step (Deal.start cases decidedAt) calls
    ∀ p ∈ d.cabinet.jacket_packages, ∀ j ∈ d.cabinet.deal_jackets, j.jacket_id = p.jacket_id →
      ∀ f, (p.package_id, f) ∈ d.cabinet.package_fields →
        FigureSourced d j f ∧
        (Along Deal.step (fun d call => call.TradeStands d) (Deal.start cases decidedAt) calls →
          TradeSourced d j f) := by
  intro d p hp j hj hid f hf
  have hfigures : d.Kept False := run_invariant (I := Deal.Kept False)
    (fun _ _ h => h.step False.elim) (Deal.start_kept _ cases decidedAt) calls
  refine ⟨(hfigures.of_package hp hj hid hf).1, fun halong => ?_⟩
  have htrade : d.Kept True := Along.invariant (I := Deal.Kept True)
    (fun _ _ h hc => h.step fun _ => hc) halong (Deal.start_kept _ cases decidedAt)
  exact (htrade.of_package hp hj hid hf).2 trivial

/-! ## A deal with a trade

The cash deal again, from the desk on: a scenario is priced, submitted and approved, the
trade is appraised, the jacket is opened and assembled. -/

namespace TradeDeal

open CashDeal

/-- A rule book with one tax in the jurisdiction of the deal. -/
def taxBook : Desking.RuleTable where
  rows := [{ Desking.tenantTax with jurisdiction := "US-CO" }]
  rule_id := by decide
  kind_code_version := by decide
  checks := by decide
  no_overlap := by decide

def cases : Desking.OpenCases where
  cases := [⟨scenario.desking_case_id, scenario.rooftop_id, .open, none, 1⟩]
  ids := by decide
  allOpen := by decide

def deskWorld : Desking.DeskWorld where
  access := ⟨fun _ => true, fun _ _ => true⟩
  isEligibleManager := fun _ _ => true
  rules := taxBook
  clock
  now := midnight
  timestamptz := fun text =>
    if text = clock then some midnight
    else if text = "2026-01-01T00:00:00.000Z" then some 1767225600000000 else none
  newScenarioId := scenario.scenario_id
  newApprovalId := approval.approval_id

def request : Desking.BuildScenarioInput where
  actingUserLinkId := manager
  deskingCaseId := scenario.desking_case_id
  label := "cash"
  jurisdiction := "US-CO"
  vehiclePriceCents := 2000000
  tradeAllowanceCents := some 500000
  tradePayoffCents := none
  cashDownCents := none
  termMonths := none
  aprPpm := none
  pricedAt := none
  expiresAt := none
  supersedesScenarioId := none

def submitted : List Desking.Call :=
  [.build deskWorld request, .submit deskWorld ⟨manager, scenario.scenario_id, 1, none⟩]

/-- The fingerprint the manager looks at. -/
def reviewed : String :=
  ((run Desking.step cases.desk submitted).computations.head?.map (·.outputFingerprint)).getD ""

def approved : List DealCall :=
  submitted.map .desk ++
    [ .desk (.decide deskWorld
        ⟨manager, scenario.scenario_id, .approved, reviewed, 2, none, none, none⟩) ]

def appraisalWorld : Desking.AppraisalWorld where
  toDeskWorld := deskWorld
  toUpperCase := id
  newAppraisalId := "6a000000-0000-4000-8007-000000000001"

def evidence (odometerMiles : Int) : Desking.AppraisalEvidence where
  ownership := .owned_outright
  relationship := .customer_owned
  odometerMiles := some odometerMiles
  odometerStatus := .actual
  conditionGrade := .clean
  provenance := .walk_around
  inspectionNotes := none
  changeReason := none
  damage := []
  equipment := []
  observations := []

def bound : List DealCall :=
  approved ++
    [ .recordAppraisal appraisalWorld
        ⟨manager, scenario.desking_case_id, "1HGCM82633A004352", 2019, "Honda", "Accord", none,
          evidence 41000⟩,
      .jacket (.openJacket (CashDeal.world midnight) manager scenario.desking_case_id) ]

def assembly : DealCall := .jacket (.assemblePackage (CashDeal.world midnight) ⟨manager, jacketId, 1⟩)

/-- A second look at the odometer. -/
def revision : DealCall :=
  .reviseAppraisal appraisalWorld ⟨manager, appraisalWorld.newAppraisalId, 1, evidence 48000⟩

/-- The approval was decided at midnight. -/
def start : Deal := Deal.start cases fun _ => midnight

/-- Some package of a jacket that bound evidence version 1 shows the odometer of a version. -/
def showsOdometer (versionNo : String) (d : Deal) : Bool :=
  d.cabinet.jacket_packages.any fun p => d.cabinet.deal_jackets.any fun j =>
    d.cabinet.package_fields.any fun row =>
      j.jacket_id = p.jacket_id && j.appraisal_version_no = some 1 && row.1 = p.package_id &&
        row.2.fieldCode = "trade.odometer_miles" && row.2.sourceVersion = versionNo

theorem of_showsOdometer {versionNo : String} {d : Deal} (h : showsOdometer versionNo d = true) :
    ∃ p ∈ d.cabinet.jacket_packages, ∃ j ∈ d.cabinet.deal_jackets, j.jacket_id = p.jacket_id ∧
      j.appraisal_version_no = some 1 ∧ ∃ f, (p.package_id, f) ∈ d.cabinet.package_fields ∧
        f.fieldCode = "trade.odometer_miles" ∧ f.sourceVersion = versionNo := by
  obtain ⟨p, hp, h⟩ := any_eq_true.mp h
  obtain ⟨j, hj, h⟩ := any_eq_true.mp h
  obtain ⟨⟨id, f⟩, hrow, h⟩ := any_eq_true.mp h
  simp only [Bool.and_eq_true, decide_eq_true_iff] at h
  obtain ⟨⟨⟨⟨hid, hversion⟩, rfl⟩, hcode⟩, hsource⟩ := h
  exact ⟨p, hp, j, hj, hid, hversion, f, hrow, hcode, hsource⟩

def tradesStand (d : Deal) : Bool :=
  d.cabinet.deal_jackets.all fun j => ((d.sources sources).trade j.desking_case_id).all fun t =>
    j.appraisal_id = some t.appraisal.appraisal_id &&
      j.appraisal_version_no = some t.appraisal.current_version_no

/-- The jacket binds the trade as it stands.  Assembled at once, the package shows the
odometer of version 1, and after the revision that of version 2. -/
theorem runs_show : (tradesStand (run Deal.step start bound) &&
    showsOdometer "1" (run Deal.step start (bound ++ [assembly])) &&
    showsOdometer "2" (run Deal.step start (bound ++ [revision, assembly]))) = true := by
  rw [run_append, run_append]
  decide +kernel

end TradeDeal

theorem sourceVersion_of_mem_tradeFields {t : TradeFact} (h : f ∈ tradeFields t) :
    f.sourceVersion = decimal t.appraisal.current_version_no := by
  unfold tradeFields at h
  simp only [mem_append] at h
  have htext : ∀ {code : String} {value : Option String} {source : FieldSource},
      f ∈ textField code value source → f.sourceVersion = source.version := by
    intro code value source hf
    unfold textField at hf
    split at hf
    · exact absurd hf not_mem_nil
    split at hf
    · exact absurd hf not_mem_nil
    · rw [mem_singleton.mp hf]
  rcases h with (((((((h | h) | h) | h) | h) | h) | h) | h) | h <;>
    first | exact htext h | rw [mem_singleton.mp h]

/-- The trade is revised after the jacket bound it, and the documents show the revision. -/
theorem not_tradeSourced_revision :
    ¬ ∀ p ∈ (run Deal.step TradeDeal.start (TradeDeal.bound ++
        [TradeDeal.revision, TradeDeal.assembly])).cabinet.jacket_packages,
      ∀ j ∈ (run Deal.step TradeDeal.start (TradeDeal.bound ++
        [TradeDeal.revision, TradeDeal.assembly])).cabinet.deal_jackets,
      j.jacket_id = p.jacket_id → ∀ f, (p.package_id, f) ∈ (run Deal.step TradeDeal.start
        (TradeDeal.bound ++ [TradeDeal.revision, TradeDeal.assembly])).cabinet.package_fields →
      TradeSourced (run Deal.step TradeDeal.start
        (TradeDeal.bound ++ [TradeDeal.revision, TradeDeal.assembly])) j f := by
  intro h
  have hshows := (Bool.and_eq_true_iff.mp TradeDeal.runs_show).2
  obtain ⟨p, hp, j, hj, hid, hversion, f, hf, hcode, hsource⟩ := TradeDeal.of_showsOdometer hshows
  have hgroup : group f.fieldCode = "trade".toList := by
    rw [hcode]
    decide
  obtain ⟨a, -, v, -, -, hno, -, hmem⟩ := h p hp j hj hid f hf hgroup
  have hone : (1 : Int) = v.version_no := Option.some.inj (hversion.symm.trans hno)
  have hread : f.sourceVersion = decimal v.version_no := sourceVersion_of_mem_tradeFields hmem
  rw [hsource, ← hone] at hread
  exact absurd hread (by decide)

/-- Assembled before the revision, the documents show what was bound. -/
theorem built_from_bound_standing :
    ∃ p ∈ (run Deal.step TradeDeal.start
        (TradeDeal.bound ++ [TradeDeal.assembly])).cabinet.jacket_packages,
      ∃ j, ∃ f, (p.package_id, f) ∈ (run Deal.step TradeDeal.start
        (TradeDeal.bound ++ [TradeDeal.assembly])).cabinet.package_fields ∧
      f.fieldCode = "trade.odometer_miles" ∧
      FigureSourced (run Deal.step TradeDeal.start (TradeDeal.bound ++ [TradeDeal.assembly])) j f ∧
      TradeSourced (run Deal.step TradeDeal.start
        (TradeDeal.bound ++ [TradeDeal.assembly])) j f := by
  obtain ⟨hbound, -⟩ := Bool.and_eq_true_iff.mp TradeDeal.runs_show
  obtain ⟨hstands, hshows⟩ := Bool.and_eq_true_iff.mp hbound
  have hopened : Along Deal.step (fun d call => call.TradeStands d) TradeDeal.start
      TradeDeal.bound := ⟨trivial, trivial, trivial, trivial, trivial, trivial⟩
  obtain ⟨p, hp, j, hj, hid, -, f, hf, hcode, -⟩ := TradeDeal.of_showsOdometer hshows
  have hsourced := built_from_bound TradeDeal.cases (fun _ => CashDeal.midnight)
    (TradeDeal.bound ++ [TradeDeal.assembly]) p hp j hj hid f hf
  refine ⟨p, hp, j, f, hf, hcode, hsourced.1, hsourced.2 ?_⟩
  refine along_append.mpr ⟨hopened, fun k hk _ t ht => ?_, trivial⟩
  have hall := all_eq_true.mp hstands k hk
  have htrade : ((run Deal.step TradeDeal.start TradeDeal.bound).sources CashDeal.sources).trade
      k.desking_case_id = some t := ht
  rw [htrade, Option.all_some, Bool.and_eq_true, decide_eq_true_iff, decide_eq_true_iff] at hall
  exact hall

end Dealership.Jacket
