import Dealership.Jacket.Lockstep

/-!
# What the fields of a package are stored as

Every field is named by a code, and the codes of a package are a key.  Those of the deal, the
customer, the dealer, the car and the trade are fixed; those of a rule are put together from its
kind and its own code.  A rule code has up to forty characters and a field code up to sixty, and
of the five kinds two are too long for both of the codes made of them to fit.
-/

namespace Dealership.Jacket

open Library List
open Desking (RuleKind isRuleCode isRuleCodeChar)

variable {code : String} {fields : List AssembledField} {c : String}

/-! ## What is asked of the fields -/

/-- The fields of a package are distinct, well named, can be named in a template and are shaped
as their kinds say. -/
structure Papers (fields : List AssembledField) : Prop where
  distinct : (fields.map (·.fieldCode)).Nodup
  code : ∀ f ∈ fields, isFieldCode f.fieldCode = true
  placeholder : ∀ f ∈ fields, ∀ rest : List Char,
    placeholderAt ('{' :: '{' :: (f.fieldCode.toList ++ '}' :: '}' :: rest)) =
      some (f.fieldCode, rest)
  shape : ∀ f ∈ fields, f.shape = true

theorem jsWhitespace_of_isCodeChar {c : Char} (h : isCodeChar c = true) : jsWhitespace c = false := by
  simp only [isCodeChar, Char.isDigit, Bool.or_eq_true, Bool.and_eq_true, decide_eq_true_eq,
    Char.le_def, UInt32.le_iff_toNat_le] at h
  have hrange : 33 ≤ c.toNat ∧ c.toNat ≤ 122 := by
    rcases h with ((h | h) | rfl) | rfl
    · exact ⟨le_trans (by decide) h.1, h.2⟩
    · exact ⟨le_trans (by decide) h.1, le_trans h.2 (by decide)⟩
    · decide
    · decide
  rw [jsWhitespace]
  simp
  omega

/-- Between two braces on either side a field code is read as it is. -/
theorem placeholderAt_of_isFieldCode (h : isFieldCode code = true) (rest : List Char) :
    placeholderAt ('{' :: '{' :: (code.toList ++ '}' :: '}' :: rest)) = some (code, rest) := by
  simp only [isFieldCode, Bool.and_eq_true, decide_eq_true_eq, all_eq_true] at h
  obtain ⟨⟨hlo, hhi⟩, hchars⟩ := h
  rw [← String.length_toList] at hlo hhi
  have hbrace : isCodeChar '}' = false := by decide
  have hstart : (code.toList ++ '}' :: '}' :: rest).dropWhile jsWhitespace =
      code.toList ++ '}' :: '}' :: rest := by
    cases hcode : code.toList with
    | nil => rw [hcode] at hlo; exact absurd hlo (by decide)
    | cons c cs =>
      rw [hcode] at hchars
      rw [cons_append, dropWhile_cons_of_neg]
      rw [jsWhitespace_of_isCodeChar (hchars c mem_cons_self)]
      exact Bool.false_ne_true
  have htake : (code.toList ++ '}' :: '}' :: rest).takeWhile isCodeChar = code.toList := by
    rw [takeWhile_append_of_pos hchars, takeWhile_cons_of_neg (by rw [hbrace]; decide), append_nil]
  have hdrop : (code.toList ++ '}' :: '}' :: rest).dropWhile isCodeChar = '}' :: '}' :: rest := by
    rw [dropWhile_append_of_pos hchars, dropWhile_cons_of_neg (by rw [hbrace]; decide)]
  rw [placeholderAt]
  simp only [hstart, htake, hdrop, hlo, hhi, decide_true, Bool.and_self, if_true,
    String.ofList_toList]
  rfl

/-! ## The fixed codes -/

/-- The fields of a list have codes of another, in its order and each at most once, and are
shaped as their kinds say. -/
structure Among (codes : List String) (fields : List AssembledField) : Prop where
  codes : (fields.map (·.fieldCode)).Sublist codes
  shape : ∀ f ∈ fields, f.shape = true

namespace Among

variable {cs ds : List String} {as bs : List AssembledField} {source : FieldSource}

theorem append (ha : Among cs as) (hb : Among ds bs) : Among (cs ++ ds) (as ++ bs) where
  codes := by
    rw [map_append]
    exact ha.codes.append hb.codes
  shape := fun f hf => (mem_append.mp hf).elim (ha.shape f) (hb.shape f)

theorem nil (cs : List String) : Among cs [] := ⟨nil_sublist cs, fun _ hf => nomatch hf⟩

theorem single {f : AssembledField} (hcode : f.fieldCode = code) (hshape : f.shape = true) :
    Among [code] [f] where
  codes := by rw [map_singleton, hcode]
  shape := fun _ hf => mem_singleton.mp hf ▸ hshape

theorem text {value : Option String} : Among [code] (textField code value source) := by
  unfold textField
  split
  · exact nil _
  split
  · exact nil _
  · exact single rfl rfl

theorem money {currency : String} {cents : Int} :
    Among [code] (moneyField code cents currency source) := single rfl rfl

theorem integer {value : Int} :
    Among [code] (integerField code value .integer source) := single rfl rfl

theorem rate {value : Int} :
    Among [code] (integerField code value .rate_ppm source) := single rfl rfl

theorem elim {α : Type} {x : Option α} {k : α → List AssembledField}
    (h : ∀ a, Among cs (k a)) : Among cs (x.elim [] k) := by
  cases x with
  | none => exact nil cs
  | some a => exact h a

end Among

def figureCodes : List String :=
  ["deal.vehicle_price"] ++ ["deal.trade_allowance"] ++ ["deal.trade_payoff"] ++
  ["deal.trade_equity"] ++ ["deal.cash_down"] ++ ["deal.taxable_amount"] ++ ["deal.tax_total"] ++
  ["deal.fee_total"] ++ ["deal.incentive_total"] ++ ["deal.amount_financed"] ++
  ["deal.monthly_payment"] ++ ["deal.term_months"] ++ ["deal.apr"] ++ ["deal.currency"] ++
  ["deal.jurisdiction"] ++ ["deal.transaction_type"] ++ ["deal.desking_version"] ++
  ["deal.output_fingerprint"] ++ ["deal.approved_at"]

def customerCodes : List String :=
  ["customer.name"] ++ ["customer.email"] ++ ["customer.phone"] ++ ["customer.address"]

def dealerCodes : List String := ["dealer.legal_entity"] ++ ["dealer.rooftop"]

def vehicleCodes : List String :=
  ["vehicle.stock_number"] ++ ["vehicle.vin"] ++ ["vehicle.year"] ++ ["vehicle.make"] ++
  ["vehicle.model"] ++ ["vehicle.trim"] ++ ["vehicle.odometer"]

def tradeCodes : List String :=
  ["trade.vin"] ++ ["trade.year"] ++ ["trade.make"] ++ ["trade.model"] ++ ["trade.trim"] ++
  ["trade.odometer_miles"] ++ ["trade.odometer_status"] ++ ["trade.condition_grade"] ++
  ["trade.ownership"]

def fixedCodes : List String :=
  figureCodes ++ customerCodes ++ dealerCodes ++ vehicleCodes ++ tradeCodes

variable (jacket : DealJacket)

theorem figureFields_among (fact : ApprovedDeskingVersion) :
    Among figureCodes (figureFields jacket fact) := by
  dsimp only [figureFields, figureCodes]
  repeat' with_reducible apply Among.append
  all_goals with_reducible first
    | exact Among.money
    | exact Among.text
    | exact Among.elim fun _ => Among.money
    | exact Among.elim fun _ => Among.integer
    | exact Among.elim fun _ => Among.rate

theorem customerFields_among (p : Party) :
    Among customerCodes (customerFields jacket p) := by
  unfold customerFields customerCodes
  repeat' with_reducible apply Among.append
  all_goals exact Among.text

theorem dealerFields_among (r : Rooftop) (le : LegalEntity) :
    Among dealerCodes (dealerFields jacket r le) := by
  unfold dealerFields dealerCodes
  exact Among.text.append Among.text

theorem vehicleFields_among (si : StockItem) (v : Vehicle) :
    Among vehicleCodes (vehicleFields si v) := by
  unfold vehicleFields vehicleCodes
  repeat' with_reducible apply Among.append
  all_goals exact Among.text

theorem tradeFields_among (t : TradeFact) : Among tradeCodes (tradeFields t) := by
  unfold tradeFields tradeCodes
  repeat' with_reducible apply Among.append
  all_goals first | exact Among.text | exact Among.integer

theorem fixedCodes_nodup : fixedCodes.Nodup := by decide +kernel

theorem isFieldCode_fixedCodes : ∀ code ∈ fixedCodes, isFieldCode code = true := by decide +kernel

theorem fixedCodes_not_rule :
    ∀ code ∈ fixedCodes, code.toList.take 5 ≠ "rule.".toList := by decide +kernel

/-! ## The codes of a rule -/

/-- What both codes of a rule start with. -/
def ruleFieldCode (kind : RuleKind) (ruleCode : String) : String :=
  "rule." ++ kind.text ++ "." ++ ruleCode

theorem ruleFields_codes (currency : String) (rule : Desking.RuleApplication) :
    (ruleFields currency rule).map (·.fieldCode) =
      [ruleFieldCode rule.ruleKind rule.ruleCode,
        ruleFieldCode rule.ruleKind rule.ruleCode ++ ".source"] := by
  have hwords : (rule.source ++ " (v" ++ decimal rule.ruleVersion ++ ")").isEmpty = false := by
    rw [String.isEmpty_eq_false_iff]
    intro h
    have hlength := congrArg String.length h
    simp at hlength
  unfold ruleFields
  dsimp only
  rw [textField]
  simp only [hwords, Bool.false_eq_true, if_false]
  rfl

theorem ruleFields_shape (currency : String) (rule : Desking.RuleApplication) :
    ∀ f ∈ ruleFields currency rule, f.shape = true :=
  (Among.money.append Among.text).shape

theorem ruleFieldCode_inj {k k' : RuleKind} {c' : String}
    (h : ruleFieldCode k c = ruleFieldCode k' c') : k = k' ∧ c = c' := by
  have hl := congrArg String.toList h
  simp only [ruleFieldCode, String.toList_append] at hl
  revert hl
  cases k <;> cases k' <;> simp [RuleKind.text, String.toList_inj]

variable (k : RuleKind)

theorem ruleFieldCode_source (c : String) :
    ruleFieldCode k c ++ ".source" = ruleFieldCode k (c ++ ".source") := by
  simp only [ruleFieldCode, String.append_assoc]

theorem ne_source_of_isRuleCode (h : isRuleCode c = true) (c' : String) :
    c ≠ c' ++ ".source" := by
  rintro rfl
  simp only [isRuleCode, Bool.and_eq_true, all_eq_true] at h
  have hstop := h.2 '.' (by rw [String.toList_append]; exact mem_append_right _ (by decide))
  exact absurd hstop (by decide)

theorem isCodeChar_of_isRuleCodeChar {c : Char} (h : isRuleCodeChar c = true) :
    isCodeChar c = true := by
  rw [isRuleCodeChar] at h
  rw [isCodeChar, h, Bool.true_or]

theorem chars_ruleFieldCode (h : isRuleCode c = true) :
    ∀ x ∈ (ruleFieldCode k c).toList, isCodeChar x = true := by
  have hkind : k.text.toList.all isCodeChar = true := by cases k <;> decide
  simp only [isRuleCode, Bool.and_eq_true, all_eq_true] at h
  intro x hx
  simp only [ruleFieldCode, String.toList_append, mem_append] at hx
  rcases hx with ((hx | hx) | hx) | hx
  · exact all_eq_true.mp (by decide : "rule.".toList.all isCodeChar = true) x hx
  · exact all_eq_true.mp hkind x hx
  · exact all_eq_true.mp (by decide : ".".toList.all isCodeChar = true) x hx
  · exact isCodeChar_of_isRuleCodeChar (h.2 x hx)

theorem length_ruleFieldCode (c : String) :
    (ruleFieldCode k c).length = 6 + k.text.length + c.length := by
  simp only [ruleFieldCode, String.length_append]
  have hrule : "rule.".length = 5 := rfl
  have hstop : ".".length = 1 := rfl
  omega

/-- The kinds whose names leave the code too little room. -/
def LongKind (k : RuleKind) : Prop := k = .incentive ∨ k = .valuation

instance (k : RuleKind) : Decidable (LongKind k) := inferInstanceAs (Decidable (_ ∨ _))

/-- The first code of a rule always fits; the second does when a code of a long kind has at most
38 characters. -/
theorem isFieldCode_rule_iff (h : isRuleCode c = true) :
    isFieldCode (ruleFieldCode k c) = true ∧
      (isFieldCode (ruleFieldCode k c ++ ".source") = true ↔ (LongKind k → c.length ≤ 38)) := by
  have hchars := chars_ruleFieldCode k h
  have hsource : ∀ x ∈ (ruleFieldCode k c ++ ".source").toList, isCodeChar x = true := by
    intro x hx
    rw [String.toList_append, mem_append] at hx
    rcases hx with hx | hx
    · exact hchars x hx
    · exact all_eq_true.mp (by decide : ".source".toList.all isCodeChar = true) x hx
  have hlength := length_ruleFieldCode k c
  have hend : ".source".length = 7 := rfl
  have hkind : 3 ≤ k.text.length ∧ k.text.length ≤ 9 ∧ (LongKind k → k.text.length = 9) ∧
      (¬ LongKind k → k.text.length ≤ 6) := by cases k <;> decide
  simp only [isRuleCode, Bool.and_eq_true, decide_eq_true_eq] at h
  simp only [isFieldCode, Bool.and_eq_true, decide_eq_true_eq, all_eq_true,
    String.length_append, hlength, hend]
  refine ⟨⟨⟨by omega, by omega⟩, hchars⟩, ?_⟩
  constructor
  · intro hfits hlong
    have hnine := hkind.2.2.1 hlong
    omega
  · intro hshort
    refine ⟨⟨by omega, ?_⟩, hsource⟩
    by_cases hlong : LongKind k
    · have hcode := hshort hlong
      omega
    · have hsix := hkind.2.2.2 hlong
      omega

/-! ## The fields of a deal -/

section Deal

variable {currency : String} {rules : List Desking.RuleApplication}

theorem ruleFields_nodup (hcodes : ∀ r ∈ rules, isRuleCode r.ruleCode = true)
    (hkeys : (rules.map fun r => (r.ruleKind, r.ruleCode)).Nodup) :
    ((rules.flatMap (ruleFields currency)).map (·.fieldCode)).Nodup := by
  rw [map_flatMap]
  simp only [ruleFields_codes]
  rw [nodup_flatMap]
  constructor
  · intro r hr
    rw [nodup_cons, mem_singleton, ruleFieldCode_source]
    exact ⟨fun h => ne_source_of_isRuleCode (hcodes r hr) _ (ruleFieldCode_inj h).2,
      nodup_singleton _⟩
  · rw [List.Nodup, pairwise_map] at hkeys
    refine hkeys.imp_of_mem fun {r r'} hr hr' hne => ?_
    have hapart : ∀ {c c' : String}, ruleFieldCode r.ruleKind c = ruleFieldCode r'.ruleKind c' →
        c = r.ruleCode ∨ c = r.ruleCode ++ ".source" →
        c' = r'.ruleCode ∨ c' = r'.ruleCode ++ ".source" → False := by
      intro c c' h hc hc'
      obtain ⟨hkind, rfl⟩ := ruleFieldCode_inj h
      have hcode := hcodes r hr
      have hcode' := hcodes r' hr'
      rcases hc with rfl | rfl
      · rcases hc' with hc' | hc'
        · exact hne (Prod.ext hkind hc')
        · exact ne_source_of_isRuleCode hcode _ hc'
      · rcases hc' with hc' | hc'
        · exact ne_source_of_isRuleCode hcode' _ hc'.symm
        · exact hne (Prod.ext hkind (String.append_left_inj _ |>.mp hc'))
    simp only [Function.onFun, disjoint_left, mem_cons, not_mem_nil, or_false, ruleFieldCode_source]
    rintro code (rfl | rfl) (h | h)
    · exact hapart h (.inl rfl) (.inl rfl)
    · exact hapart h (.inl rfl) (.inr rfl)
    · exact hapart h (.inr rfl) (.inl rfl)
    · exact hapart h (.inr rfl) (.inr rfl)

end Deal

theorem assembled_perm {s : Sources} {jacket : DealJacket} {fact : ApprovedDeskingVersion}
    (h : assembleFieldsWithin s jacket fact = .ok fields) :
    ∃ fixed, Among fixedCodes fixed ∧ fields.Perm
      (fixed ++ fact.ruleApplications.flatMap (ruleFields fact.scenario.inputs.currency)) := by
  obtain ⟨party, -, h⟩ := bind_eq_ok.mp h
  obtain ⟨dealer, -, h⟩ := bind_eq_ok.mp h
  have hfields := Except.ok.inj h
  have hcar : Among vehicleCodes ((s.stockVehicle jacket.stock_item_id).elim []
      fun car => vehicleFields car.1 car.2) := Among.elim fun car => vehicleFields_among _ _
  have htrade : Among tradeCodes (fact.trade.elim [] tradeFields) := Among.elim tradeFields_among
  refine ⟨_, ?_, hfields ▸ perm_insertionSort _ _⟩
  exact ((((figureFields_among jacket fact).append (customerFields_among jacket party)).append
    (dealerFields_among jacket dealer.1 dealer.2)).append hcar).append htrade

theorem exists_source {s : Sources} {jacket : DealJacket} {fact : ApprovedDeskingVersion}
    (h : assembleFieldsWithin s jacket fact = .ok fields) {r : Desking.RuleApplication}
    (hr : r ∈ fact.ruleApplications) :
    ∃ f ∈ fields, f.fieldCode = ruleFieldCode r.ruleKind r.ruleCode ++ ".source" := by
  obtain ⟨fixed, -, hperm⟩ := assembled_perm h
  have hsource : ruleFieldCode r.ruleKind r.ruleCode ++ ".source" ∈
      (ruleFields fact.scenario.inputs.currency r).map (·.fieldCode) := by
    rw [ruleFields_codes]
    exact mem_cons_of_mem _ mem_cons_self
  obtain ⟨f, hf, hcode⟩ := mem_map.mp hsource
  exact ⟨f, hperm.mem_iff.mpr (mem_append_right _ (mem_flatMap.mpr ⟨r, hr, hf⟩)), hcode⟩

/-- **Every approved deal can be papered, but for long codes.**  The fields of an approved deal
can be stored and named exactly when no incentive or valuation it was priced under has a code of
more than 38 characters. -/
theorem papers_iff {s : Sources} {jacket : DealJacket} {fact : ApprovedDeskingVersion}
    {fields : List AssembledField}
    (hcodes : ∀ r ∈ fact.ruleApplications, isRuleCode r.ruleCode = true)
    (hkeys : (fact.ruleApplications.map fun r => (r.ruleKind, r.ruleCode)).Nodup)
    (h : assembleFieldsWithin s jacket fact = .ok fields) :
    Papers fields ↔ ∀ r ∈ fact.ruleApplications, LongKind r.ruleKind → r.ruleCode.length ≤ 38 := by
  obtain ⟨fixed, hfixed, hperm⟩ := assembled_perm h
  constructor
  · intro hpapers r hr
    obtain ⟨f, hf, hcode⟩ := exists_source h hr
    exact (isFieldCode_rule_iff r.ruleKind (hcodes r hr)).2.mp (hcode ▸ hpapers.code f hf)
  · intro hshort
    have hcode : ∀ f ∈ fields, isFieldCode f.fieldCode = true := by
      intro f hf
      rcases mem_append.mp (hperm.mem_iff.mp hf) with hf | hf
      · exact isFieldCode_fixedCodes _ (hfixed.codes.subset (mem_map_of_mem hf))
      · obtain ⟨r, hr, hf⟩ := mem_flatMap.mp hf
        have hboth := isFieldCode_rule_iff r.ruleKind (hcodes r hr)
        have hmem := mem_map_of_mem (f := (·.fieldCode)) hf
        rw [ruleFields_codes] at hmem
        rcases mem_cons.mp hmem with hfirst | hsecond
        · exact hfirst ▸ hboth.1
        · exact mem_singleton.mp hsecond ▸ hboth.2.mpr (hshort r hr)
    refine ⟨?_, hcode, fun f hf => placeholderAt_of_isFieldCode (hcode f hf), fun f hf => ?_⟩
    · rw [(hperm.map _).nodup_iff, map_append]
      refine (fixedCodes_nodup.sublist hfixed.codes).append (ruleFields_nodup hcodes hkeys) ?_
      intro code hfix hrule
      have hnot := fixedCodes_not_rule code (hfixed.codes.subset hfix)
      refine hnot ?_
      obtain ⟨f, hf, rfl⟩ := mem_map.mp hrule
      obtain ⟨r, -, hf⟩ := mem_flatMap.mp hf
      have hmem := mem_map_of_mem (f := (·.fieldCode)) hf
      rw [ruleFields_codes] at hmem
      rcases mem_cons.mp hmem with hfirst | hsecond
      · rw [hfirst]
        simp [ruleFieldCode, String.toList_append]
      · rw [mem_singleton.mp hsecond]
        simp [ruleFieldCode, String.toList_append]
    · rcases mem_append.mp (hperm.mem_iff.mp hf) with hf | hf
      · exact hfixed.shape f hf
      · obtain ⟨r, -, hf⟩ := mem_flatMap.mp hf
        exact ruleFields_shape _ r f hf

/-! ## Two rebates -/

namespace CashDeal

def rebate (ruleCode : String) : Desking.RuleApplication where
  ruleId := "6a000000-0000-4000-8006-000000000001"
  ruleKind := .incentive
  ruleCode
  ruleVersion := 1
  source := "Bulletin 26-04"
  jurisdiction := "US-CO"
  rooftopScoped := false
  effectiveFrom := "2026-01-01T00:00:00.000Z"
  effectiveTo := none
  resolvedAmountCents := 50000

/-- The cash deal, priced with the rebate. -/
def rebated (ruleCode : String) : Sources :=
  { sources with scenario_rule_applications := [(scenario.scenario_id, rebate ruleCode)] }

def rebatedFact (ruleCode : String) : ApprovedDeskingVersion where
  deskingCase := ⟨scenario.desking_case_id, scenario.rooftop_id,
    "6a000000-0000-4000-8000-000000000006", "6a000000-0000-4000-8000-000000000007", none⟩
  scenario
  approval
  trade := none
  ruleApplications := [rebate ruleCode]

end CashDeal

theorem insertFields_refused {packageId : String} (db : Cabinet) {f : AssembledField}
    (hf : f ∈ fields) (h : isFieldCode f.fieldCode = false) :
    insertFields packageId fields db = .error (.database "package_fields CHECK") := by
  have hall : fields.all AssembledField.checks = false := by
    rw [all_eq_false]
    refine ⟨f, hf, ?_⟩
    rw [AssembledField.checks, h]
    exact Bool.false_ne_true
  rw [insertFields, hall]
  rfl

/-- A rebate whose code has forty characters: the deal is approved, its fields are assembled, and
the database refuses them. -/
theorem rebate_not_papered :
    isRuleCode "manufacturer_loyalty_rebate_2026_summer1" = true ∧
    getApprovedDeskingVersionWithin
        (CashDeal.rebated "manufacturer_loyalty_rebate_2026_summer1")
        CashDeal.scenario.desking_case_id =
      some (CashDeal.rebatedFact "manufacturer_loyalty_rebate_2026_summer1") ∧
    ∃ fields, assembleFieldsWithin (CashDeal.rebated "manufacturer_loyalty_rebate_2026_summer1")
        (CashDeal.jacket .open 1)
        (CashDeal.rebatedFact "manufacturer_loyalty_rebate_2026_summer1") = .ok fields ∧
      ¬ Papers fields ∧
      ∀ db, insertFields CashDeal.packageId fields db =
        .error (.database "package_fields CHECK") := by
  have hassembled : ∃ fields, assembleFieldsWithin
      (CashDeal.rebated "manufacturer_loyalty_rebate_2026_summer1") (CashDeal.jacket .open 1)
      (CashDeal.rebatedFact "manufacturer_loyalty_rebate_2026_summer1") = .ok fields := ⟨_, rfl⟩
  obtain ⟨fields, hfields⟩ := hassembled
  obtain ⟨f, hf, hcode⟩ := exists_source hfields mem_cons_self
  have hlong : isFieldCode f.fieldCode = false := by
    rw [hcode]
    decide +kernel
  exact ⟨by decide +kernel, rfl, fields, hfields,
    fun h => Bool.false_ne_true (hlong.symm.trans (h.code f hf)),
    fun db => insertFields_refused db hf hlong⟩

/-- With two characters fewer the deal is papered. -/
theorem shorter_rebate_papered :
    ∃ fields, assembleFieldsWithin (CashDeal.rebated "manufacturer_loyalty_rebate_2026_summe")
        (CashDeal.jacket .open 1)
        (CashDeal.rebatedFact "manufacturer_loyalty_rebate_2026_summe") = .ok fields ∧
      Papers fields := by
  have hassembled : ∃ fields, assembleFieldsWithin
      (CashDeal.rebated "manufacturer_loyalty_rebate_2026_summe") (CashDeal.jacket .open 1)
      (CashDeal.rebatedFact "manufacturer_loyalty_rebate_2026_summe") = .ok fields := ⟨_, rfl⟩
  obtain ⟨fields, hfields⟩ := hassembled
  exact ⟨fields, hfields,
    (papers_iff (by decide +kernel) (by decide +kernel) hfields).mpr (by decide +kernel)⟩

end Dealership.Jacket
