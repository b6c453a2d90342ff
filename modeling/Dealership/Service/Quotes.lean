import Dealership.Service.Commits

/-!
# What the customer is asked, and what they answer

The lines, the estimates that put them to the customer and the decisions, and for each call
what a commit of it does to the three.  Whoever holds an order is alone with its estimates and
with what its lines stand for; the lines themselves may still be moved and repriced, each under
its own lock, where nobody has frozen them.
-/

namespace Dealership.Service

open Library List
open Inventory (LotLock)
open Sales (Locked)

variable {d : Shop}

/-! ## Quotes in order -/

/-- Two states with the same lines, estimates and authorizations. -/
structure SameQuotes (d d' : Shop) : Prop where
  lines : d'.ro_line_items = d.ro_line_items
  estimates : d'.ro_estimates = d.ro_estimates
  authorizations : d'.ro_authorizations = d.ro_authorizations

theorem SameQuotes.refl (d : Shop) : SameQuotes d d := ⟨rfl, rfl, rfl⟩

theorem SameQuotes.trans {a b c : Shop} (hab : SameQuotes a b) (hbc : SameQuotes b c) :
    SameQuotes a c :=
  ⟨hbc.lines.trans hab.lines, hbc.estimates.trans hab.estimates,
    hbc.authorizations.trans hab.authorizations⟩

theorem SameQuotes.linesOf {d' : Shop} (h : SameQuotes d d') (roId : String) :
    d'.linesOf roId = d.linesOf roId := by
  rw [Shop.linesOf, h.lines, Shop.linesOf]

theorem SameQuotes.estimatesOf {d' : Shop} (h : SameQuotes d d') (roId : String) :
    d'.estimatesOf roId = d.estimatesOf roId := by
  rw [Shop.estimatesOf, h.estimates, Shop.estimatesOf]

theorem SameQuotes.setLines {d' : Shop} (h : SameQuotes d d') (ids : List String)
    (f : LineItem → LineItem) : SameQuotes (d.setLines ids f) (d'.setLines ids f) where
  lines := by rw [Shop.setLines, h.lines, Shop.setLines]
  estimates := h.estimates
  authorizations := h.authorizations

theorem SameQuotes.setEstimates {d' : Shop} (h : SameQuotes d d') (ids : List String)
    (status : EstimateStatus) :
    SameQuotes (d.setEstimates ids status) (d'.setEstimates ids status) where
  lines := h.lines
  estimates := by rw [Shop.setEstimates, h.estimates, Shop.setEstimates]
  authorizations := h.authorizations

structure QuotesSound (d : Shop) : Prop where
  lines : (d.ro_line_items.map LineItem.line_item_id).Nodup
  estimates : (d.ro_estimates.map Estimate.estimate_id).Nodup
  authorizations : (d.ro_authorizations.map ROAuthorization.authorization_id).Nodup
  asked : ∀ l ∈ d.ro_line_items, ∀ id, l.estimate_id = some id →
    ∃ e ∈ d.ro_estimates, e.estimate_id = id ∧ e.ro_id = l.ro_id
  answered : ∀ a ∈ d.ro_authorizations,
    ∃ e ∈ d.ro_estimates, e.estimate_id = a.estimate_id ∧ e.ro_id = a.ro_id

theorem QuotesSound.of_same {d' : Shop} (hd : QuotesSound d) (h : SameQuotes d d') :
    QuotesSound d' := by
  refine ⟨?_, ?_, ?_, ?_, ?_⟩
  · rw [h.lines]
    exact hd.lines
  · rw [h.estimates]
    exact hd.estimates
  · rw [h.authorizations]
    exact hd.authorizations
  · rw [h.lines, h.estimates]
    exact hd.asked
  · rw [h.authorizations, h.estimates]
    exact hd.answered

section Writes

variable {d : Shop}

/-- Lines are rewritten under their keys, and asked about under an estimate of their order. -/
theorem QuotesSound.setLines (hd : QuotesSound d) (ids : List String) {f : LineItem → LineItem}
    (hf : ∀ l, (f l).line_item_id = l.line_item_id)
    (hasked : ∀ l ∈ d.ro_line_items, l.line_item_id ∈ ids → ∀ id, (f l).estimate_id = some id →
      ∃ e ∈ d.ro_estimates, e.estimate_id = id ∧ e.ro_id = (f l).ro_id) :
    QuotesSound (d.setLines ids f) := by
  refine ⟨?_, hd.estimates, hd.authorizations, ?_, hd.answered⟩
  · exact nodup_map_updateWhere hd.lines fun l _ => hf l
  · intro l hl id hid
    rcases updateWhere_cases hl with ⟨hl, -⟩ | ⟨m, hm, hin, rfl⟩
    · exact hd.asked l hl id hid
    · exact hasked m hm hin id hid

theorem QuotesSound.setLines_asked (hd : QuotesSound d) (ids : List String)
    {f : LineItem → LineItem}
    (hf : ∀ l, (f l).line_item_id = l.line_item_id ∧ (f l).ro_id = l.ro_id ∧
      (f l).estimate_id = l.estimate_id) : QuotesSound (d.setLines ids f) := by
  refine hd.setLines ids (fun l => (hf l).1) fun l hl _ id hid => ?_
  rw [(hf l).2.1]
  exact hd.asked l hl id ((hf l).2.2 ▸ hid)

theorem exists_setEstimates (ids : List String) (status : EstimateStatus) {id roId : String}
    (h : ∃ e ∈ d.ro_estimates, e.estimate_id = id ∧ e.ro_id = roId) :
    ∃ e ∈ (d.setEstimates ids status).ro_estimates, e.estimate_id = id ∧ e.ro_id = roId :=
  (exists_mem_updateWhere (f := fun e : Estimate => { e with status := status })
    fun _ _ _ => Iff.rfl).mpr h

theorem QuotesSound.setEstimates (hd : QuotesSound d) (ids : List String)
    (status : EstimateStatus) : QuotesSound (d.setEstimates ids status) := by
  refine ⟨hd.lines, ?_, hd.authorizations, ?_, ?_⟩
  · exact nodup_map_updateWhere hd.estimates fun _ _ => rfl
  · exact fun l hl id hid => exists_setEstimates ids status (hd.asked l hl id hid)
  · exact fun a ha => exists_setEstimates ids status (hd.answered a ha)

theorem QuotesSound.addEstimate (hd : QuotesSound d) {e : Estimate}
    (hfresh : ∀ f ∈ d.ro_estimates, f.estimate_id ≠ e.estimate_id) :
    QuotesSound { d with ro_estimates := d.ro_estimates ++ [e] } := by
  have hstays : ∀ {id roId : String},
      (∃ f ∈ d.ro_estimates, f.estimate_id = id ∧ f.ro_id = roId) →
        ∃ f ∈ d.ro_estimates ++ [e], f.estimate_id = id ∧ f.ro_id = roId :=
    fun ⟨f, hf, h⟩ => ⟨f, mem_append_left _ hf, h⟩
  exact ⟨hd.lines, nodup_key_insert hd.estimates hfresh, hd.authorizations,
    fun l hl id hid => hstays (hd.asked l hl id hid), fun a ha => hstays (hd.answered a ha)⟩

theorem QuotesSound.addAuthorization (hd : QuotesSound d) {a : ROAuthorization}
    (hfresh : ∀ b ∈ d.ro_authorizations, b.authorization_id ≠ a.authorization_id)
    (hanswers : ∃ e ∈ d.ro_estimates, e.estimate_id = a.estimate_id ∧ e.ro_id = a.ro_id) :
    QuotesSound { d with ro_authorizations := d.ro_authorizations ++ [a] } := by
  refine ⟨hd.lines, hd.estimates, nodup_key_insert hd.authorizations hfresh, hd.asked, ?_⟩
  intro b hb
  rcases mem_inserted hb with hb | rfl
  · exact hd.answered b hb
  · exact hanswers

end Writes

/-! ## Moves -/

/-- The lines an estimate has put to the customer. -/
def linesAsked (estimateId : String) (d : Shop) : List LineItem :=
  d.ro_line_items.filter fun l => l.estimate_id = some estimateId

/-- What an estimate says in front of the customer. -/
def EstimateTotals.figures (t : EstimateTotals) : Nat × Option Rat × Option String × Nat :=
  (t.line_count, t.amount_cents, t.currency, t.unpriced_line_count)

/-- The lines of an estimate that have been decided in one way. -/
def decidedOn (estimateId : String) (status : LineAuthorization) (d : Shop) : Nat :=
  d.ro_line_items.countP fun l =>
    l.estimate_id = some estimateId && l.authorization_status = status

def openOn (estimateId : String) (d : Shop) : Nat :=
  d.ro_line_items.countP fun l =>
    l.estimate_id = some estimateId && l.authorization_status = .pending && l.status ≠ .canceled

/-- What the lines of an estimate make of it. -/
def statusOf (estimateId : String) (d : Shop) : EstimateStatus :=
  deriveEstimateStatus (decidedOn estimateId .approved d) (decidedOn estimateId .declined d)
    (openOn estimateId d)

/-- Lines are put to the customer under a new estimate. -/
def Shop.quoted (d : Shop) (e : Estimate) (ids : List String) : Shop :=
  Shop.setLines { d with ro_estimates := d.ro_estimates ++ [e] } ids (quotedAs e.estimate_id)

/-- A decision is recorded, its lines are decided and the estimate it answers is too. -/
def Shop.decided (d : Shop) (a : ROAuthorization) (status : EstimateStatus) : Shop :=
  ((Shop.setLines { d with ro_authorizations := d.ro_authorizations ++ [a] } a.approved_items
    (markApproved a.authorization_id)).setLines a.declined_items
      (markDeclined a.authorization_id)).setEstimates [a.estimate_id] status

def Shop.withdrawn (d : Shop) (roId : String) : Shop :=
  (d.setEstimates (openEstimates roId d) .expired).setLines (pendingLines roId d) unasked

/-- What a decision that is about to be recorded has found: the estimate it answers is the
latest and out with the customer, and the lines it names are pending. -/
structure Answers (held : List LotLock) (e : Estimate) (a : ROAuthorization) (d : Shop) :
    Prop where
  lock : orderLock e.ro_id ∈ held
  estimate : e ∈ d.ro_estimates
  answerable : e.status = .sent ∨ e.status = .partially_approved
  latest : latestEstimate e.ro_id d = some e
  order : a.ro_id = e.ro_id
  names : a.estimate_id = e.estimate_id
  locked : ∀ id ∈ a.approved_items ++ a.declined_items, Locked held "ro_line_items" id
  pending : ∀ id ∈ a.approved_items ++ a.declined_items, ∃ l ∈ d.ro_line_items,
    l.line_item_id = id ∧ l.ro_id = e.ro_id ∧ l.authorization_status = .pending
  apart : ∀ id ∈ a.approved_items, id ∉ a.declined_items

/-- The snapshot of an authorization keeps the terms of the lines it approves, so far as they are
among these. -/
def ROAuthorization.KeepsTerms (a : ROAuthorization) (ids : List String) (d : Shop) : Prop :=
  ∀ l ∈ d.ro_line_items, l.line_item_id ∈ a.approved_items → l.line_item_id ∈ ids →
    (a.approved_snapshot.find? fun t => t.line_item_id = l.line_item_id) = some l.terms

/-- What a commit that held `held` did to what the customer is asked; `put` are the estimates
whose lines nobody has touched while they were quoted, and `counted` says that none was canceled
while an answer was counted. -/
inductive QuoteMoves (put : List String) (counted : Prop) (held : List LotLock) :
    ServiceCall → Shop → Shop → Prop where
  | stays {c : ServiceCall} {d d' : Shop} (same : SameQuotes d d') :
      QuoteMoves put counted held c d d'
  | adds {c : ServiceCall} {l : LineItem} {d d' : Shop}
      (order : .row "repair_orders" l.ro_id .keyShare ∈ held)
      (key : .index "ro_line_items_pkey" l.line_item_id ∈ held)
      (fresh : ∀ m ∈ d.ro_line_items, m.line_item_id ≠ l.line_item_id)
      (unasked : l.authorization_status = .not_required) (unquoted : l.estimate_id = none)
      (same : SameQuotes { d with ro_line_items := d.ro_line_items ++ [l] } d') :
      QuoteMoves put counted held c d d'
  | edits {w : ServiceWorld} {l : LineItem} {updates : LineUpdates} {d d' : Shop}
      (lock : .row "ro_line_items" l.line_item_id .noKeyUpdate ∈ held)
      (found : l ∈ d.ro_line_items)
      (refused : l.authorization_status = .declined →
        ∀ s, updates.status = some (some s) → s = .declined)
      (frozen : l.authorization_status = .pending ∨ l.authorization_status = .approved →
        updates.commercial = false)
      (same : SameQuotes (d.setLines [l.line_item_id] (updates.apply w.supervises)) d') :
      QuoteMoves put counted held (.updateLineItem w l.ro_id l.line_item_id updates) d d'
  | dispatches {c : ServiceCall} {lineItemId techUserId : String} {d d' : Shop}
      (lock : .row "ro_line_items" lineItemId .noKeyUpdate ∈ held)
      (same : SameQuotes (d.setLines [lineItemId] (assignedTo techUserId)) d') :
      QuoteMoves put counted held c d d'
  | quotes {c : ServiceCall} {e : Estimate} {ids : List String} {d d' : Shop}
      (lock : orderLock e.ro_id ∈ held)
      (key : .index "ro_estimates_pkey" e.estimate_id ∈ held)
      (fresh : ∀ f ∈ d.ro_estimates, f.estimate_id ≠ e.estimate_id) (draft : e.status = .draft)
      (locked : ∀ id ∈ ids, .row "ro_line_items" id .noKeyUpdate ∈ held)
      (lines : ∀ l ∈ d.ro_line_items, l.line_item_id ∈ ids → l ∈ unquotedLines e.ro_id d)
      (exact : e.estimate_id ∈ put → ids = (unquotedLines e.ro_id d).map (·.line_item_id) ∧
        e.totals_ref.figures = (totalsOf (unquotedLines e.ro_id d)).figures ∧
          oneCurrency (unquotedLines e.ro_id d) = true)
      (same : SameQuotes (d.quoted e ids) d') :
      QuoteMoves put counted held c d d'
  | sends {w : ServiceWorld} {e : Estimate} {d d' : Shop}
      (lock : orderLock e.ro_id ∈ held) (estimate : e ∈ d.ro_estimates)
      (draft : e.status = .draft) (same : SameQuotes (d.setEstimates [e.estimate_id] .sent) d') :
      QuoteMoves put counted held (.sendEstimate w e.ro_id e.estimate_id) d d'
  | decides {w : ServiceWorld} {e : Estimate} {a : ROAuthorization} {input : AuthorizationInput}
      {status : EstimateStatus} {d d' : Shop} (answers : Answers held e a d)
      (key : .index "ro_authorizations_pkey" a.authorization_id ∈ held)
      (fresh : ∀ b ∈ d.ro_authorizations, b.authorization_id ≠ a.authorization_id)
      (drawn : a.authorization_id = w.newId) (answered : e.estimate_id = input.estimate_id)
      (approved : a.approved_items = input.approved_items.named)
      (declined : a.declined_items = input.declined_items.named)
      (terms : a.KeepsTerms input.approved_items.ids d)
      (derived : ∃ n m k, status = deriveEstimateStatus n m k)
      (exact : counted → status = statusOf e.estimate_id (d.decided a status))
      (same : SameQuotes (d.decided a status) d') :
      QuoteMoves put counted held (.recordAuthorization w e.ro_id input) d d'
  | requotes {w : ServiceWorld} {roId : String} {input : TransitionInput} {d d' : Shop}
      (lock : orderLock roId ∈ held)
      (moved : .row "repair_orders" roId .noKeyUpdate ∈ held)
      (locked : ∀ id ∈ pendingLines roId d, .row "ro_line_items" id .noKeyUpdate ∈ held)
      (same : SameQuotes (d.withdrawn roId) d') :
      QuoteMoves put counted held (.transitionRO w roId .estimate_pending input) d d'

/-! ## Every move keeps quotes in order -/

theorem mem_linesOf {roId : String} {l : LineItem} :
    l ∈ d.linesOf roId ↔ l ∈ d.ro_line_items ∧ l.ro_id = roId := by
  rw [Shop.linesOf, mem_filter, decide_eq_true_eq]

theorem QuotesSound.order_of_asked (hd : QuotesSound d) {e : Estimate} {l : LineItem}
    (he : e ∈ d.ro_estimates) (hl : l ∈ d.ro_line_items)
    (hasked : l.estimate_id = some e.estimate_id) : l.ro_id = e.ro_id := by
  obtain ⟨f, hf, hid, hro⟩ := hd.asked l hl _ hasked
  rw [← hro, eq_of_key hd.estimates hf he hid]

section Decided

variable {d : Shop} {a : ROAuthorization} {status : EstimateStatus} {l : LineItem}

theorem decided_cases (hapart : ∀ id ∈ a.approved_items, id ∉ a.declined_items)
    (hl : l ∈ (d.decided a status).ro_line_items) :
    (l ∈ d.ro_line_items ∧ l.line_item_id ∉ a.approved_items ∧
        l.line_item_id ∉ a.declined_items) ∨
      (∃ m ∈ d.ro_line_items, m.line_item_id ∈ a.approved_items ∧
        l = markApproved a.authorization_id m) ∨
      ∃ m ∈ d.ro_line_items, m.line_item_id ∈ a.declined_items ∧
        l = markDeclined a.authorization_id m := by
  rcases updateWhere_cases hl with ⟨hl, hnot⟩ | ⟨m, hm, hin, rfl⟩
  · rcases updateWhere_cases hl with ⟨hl, hnot'⟩ | ⟨m, hm, hin, rfl⟩
    · exact .inl ⟨hl, hnot', hnot⟩
    · exact .inr (.inl ⟨m, hm, hin, rfl⟩)
  · rcases updateWhere_cases hm with ⟨hm, -⟩ | ⟨x, hx, hin', rfl⟩
    · exact .inr (.inr ⟨m, hm, hin, rfl⟩)
    · exact absurd hin (hapart _ hin')

theorem mem_decided_of_not (hl : l ∈ d.ro_line_items)
    (hnot : l.line_item_id ∉ a.approved_items ++ a.declined_items) :
    l ∈ (d.decided a status).ro_line_items := by
  rw [mem_append, not_or] at hnot
  exact mem_updateWhere_of_neg (mem_updateWhere_of_neg hl hnot.1) hnot.2

theorem mem_decided_approved (hapart : ∀ id ∈ a.approved_items, id ∉ a.declined_items)
    (hl : l ∈ d.ro_line_items) (hin : l.line_item_id ∈ a.approved_items) :
    markApproved a.authorization_id l ∈ (d.decided a status).ro_line_items :=
  mem_updateWhere_of_neg (mem_updateWhere_of_pos hl hin) (hapart _ hin)

theorem mem_decided_declined (hapart : ∀ id ∈ a.approved_items, id ∉ a.declined_items)
    (hl : l ∈ d.ro_line_items) (hin : l.line_item_id ∈ a.declined_items) :
    markDeclined a.authorization_id l ∈ (d.decided a status).ro_line_items := by
  refine mem_updateWhere_of_pos (mem_updateWhere_of_neg hl fun hin' => ?_) hin
  exact hapart _ hin' hin

end Decided

theorem LineUpdates.apply_leaves (u : LineUpdates) (supervises : Bool) (l : LineItem) :
    (u.apply supervises l).line_item_id = l.line_item_id ∧
      (u.apply supervises l).ro_id = l.ro_id ∧
      (u.apply supervises l).estimate_id = l.estimate_id :=
  ⟨rfl, rfl, rfl⟩

theorem QuoteMoves.sound {put : List String} {counted : Prop} {held : List LotLock}
    {c : ServiceCall} {d' : Shop} (hm : QuoteMoves put counted held c d d')
    (hd : QuotesSound d) : QuotesSound d' := by
  cases hm with
  | stays same => exact hd.of_same same
  | @adds c l _ _ order key fresh unasked unquoted same =>
    refine QuotesSound.of_same ?_ same
    refine ⟨nodup_key_insert hd.lines fresh, hd.estimates, hd.authorizations, ?_, hd.answered⟩
    intro m hm id hid
    rcases mem_inserted hm with hm | rfl
    · exact hd.asked m hm id hid
    · rw [unquoted] at hid
      cases hid
  | @edits w l updates _ _ _ _ _ _ same =>
    exact (hd.setLines_asked _ fun m => updates.apply_leaves w.supervises m).of_same same
  | @dispatches c lineItemId techUserId _ _ _ same =>
    exact (hd.setLines_asked [lineItemId] (f := assignedTo techUserId)
      fun _ => ⟨rfl, rfl, rfl⟩).of_same same
  | @quotes c e ids _ _ _ _ fresh _ _ lines _ same =>
    refine QuotesSound.of_same ?_ same
    refine (hd.addEstimate fresh).setLines ids (fun _ => rfl) fun l hl hin id hid => ?_
    refine ⟨e, mem_append_right _ (mem_singleton.mpr rfl), Option.some.inj hid, ?_⟩
    exact (mem_linesOf.mp (mem_filter.mp (lines l hl hin)).1).2.symm
  | sends _ _ _ same => exact (hd.setEstimates _ _).of_same same
  | @decides w e a input status _ _ answers _ fresh _ _ _ _ _ _ _ same =>
    have hadded := hd.addAuthorization fresh
      ⟨e, answers.estimate, answers.names.symm, answers.order.symm⟩
    have happroved := hadded.setLines_asked a.approved_items
      (f := markApproved a.authorization_id) fun _ => ⟨rfl, rfl, rfl⟩
    have hdeclined := happroved.setLines_asked a.declined_items
      (f := markDeclined a.authorization_id) fun _ => ⟨rfl, rfl, rfl⟩
    exact (hdeclined.setEstimates _ _).of_same same
  | @requotes w roId input _ _ _ _ _ same =>
    have hwithdrawn := (hd.setEstimates (openEstimates roId d) .expired).setLines_asked
      (pendingLines roId d) (f := unasked) fun _ => ⟨rfl, rfl, rfl⟩
    exact hwithdrawn.of_same same

/-! ## What is relied on -/

/-- What a line stands for: the decision on it, and the estimate that has asked for one. -/
def LineItem.standing (l : LineItem) : String × LineAuthorization × Option String :=
  (l.line_item_id, l.authorization_status, l.estimate_id)

/-- What an estimate puts to the customer of a line. -/
def LineItem.priced (l : LineItem) : String × Option Rat × Option String :=
  (l.line_item_id, l.amount, l.currency)

section Priced

variable {xs ys : List LineItem} (h : xs.map LineItem.priced = ys.map LineItem.priced)

include h

theorem ids_of_priced : xs.map (·.line_item_id) = ys.map (·.line_item_id) := by
  have hids := congrArg (List.map fun p => p.1) h
  rwa [map_map, map_map] at hids

theorem currencies_of_priced : xs.filterMap LineItem.currency = ys.filterMap LineItem.currency := by
  have hmap := congrArg (List.filterMap fun p => p.2.2) h
  rwa [filterMap_map, filterMap_map] at hmap

/-- What an estimate says depends on its lines and their prices alone. -/
theorem figures_of_priced : (totalsOf xs).figures = (totalsOf ys).figures := by
  have hlength : xs.length = ys.length := by
    rw [← length_map LineItem.priced, h, length_map]
  have hamounts : xs.filterMap LineItem.amount = ys.filterMap LineItem.amount := by
    have hmap := congrArg (List.filterMap fun p => p.2.1) h
    rwa [filterMap_map, filterMap_map] at hmap
  rw [EstimateTotals.figures, totalsOf, totalsOf, EstimateTotals.figures, hlength, hamounts,
    currencies_of_priced h]

theorem oneCurrency_of_priced : oneCurrency xs = oneCurrency ys := by
  rw [oneCurrency, currencies_of_priced h, oneCurrency]

end Priced

/-- A line as an estimate would find it: not at all, or at its price. -/
def LineItem.toQuote (l : LineItem) : Option (Option Rat × Option String) :=
  if l.unquoted then some (l.amount, l.currency) else none

/-- A line as the count of the answers to an estimate finds it. -/
def LineItem.toCount (estimateId : String) (l : LineItem) :
    String × LineAuthorization × Option String × Bool :=
  (l.line_item_id, l.authorization_status, l.estimate_id,
    l.estimate_id = some estimateId && l.authorization_status = .pending && l.status = .canceled)

/-- What a transaction finds again: the lines it has locked, what the lines of an order it holds
stand for and the estimates of that order, what it has read of these lines to quote them or to
count the answers to them, and the keys it is about to enter still free. -/
structure QuotesKept (put : List String) (counted : Prop) (held : List LotLock) (d d' : Shop) :
    Prop where
  lines : ∀ l ∈ d.ro_line_items, Locked held "ro_line_items" l.line_item_id → l ∈ d'.ro_line_items
  standing : ∀ roId, orderLock roId ∈ held →
    (d'.linesOf roId).map LineItem.standing = (d.linesOf roId).map LineItem.standing
  files : ∀ roId, orderLock roId ∈ held → d'.estimatesOf roId = d.estimatesOf roId
  quoted : ∀ roId, orderLock roId ∈ held → (∃ id ∈ put, quoteMark id ∈ held) →
    (unquotedLines roId d').map LineItem.priced = (unquotedLines roId d).map LineItem.priced
  answers : counted → ∀ roId, orderLock roId ∈ held → ∀ id, tallyMark id ∈ held →
    (d'.linesOf roId).map (LineItem.toCount id) = (d.linesOf roId).map (LineItem.toCount id)
  lineKeys : ∀ id, .index "ro_line_items_pkey" id ∈ held →
    (∀ l ∈ d.ro_line_items, l.line_item_id ≠ id) → ∀ l ∈ d'.ro_line_items, l.line_item_id ≠ id
  estimateKeys : ∀ id, .index "ro_estimates_pkey" id ∈ held →
    (∀ e ∈ d.ro_estimates, e.estimate_id ≠ id) → ∀ e ∈ d'.ro_estimates, e.estimate_id ≠ id
  authorizationKeys : ∀ id, .index "ro_authorizations_pkey" id ∈ held →
    (∀ a ∈ d.ro_authorizations, a.authorization_id ≠ id) →
      ∀ a ∈ d'.ro_authorizations, a.authorization_id ≠ id

section Kept

variable {put : List String} {counted : Prop} {held more : List LotLock} {d d' : Shop}

theorem QuotesKept.refl (held : List LotLock) (d : Shop) : QuotesKept put counted held d d where
  lines := fun _ hl _ => hl
  standing := fun _ _ => rfl
  files := fun _ _ => rfl
  quoted := fun _ _ _ => rfl
  answers := fun _ _ _ _ _ => rfl
  lineKeys := fun _ _ h => h
  estimateKeys := fun _ _ h => h
  authorizationKeys := fun _ _ h => h

theorem QuotesKept.trans {a b e : Shop} (hab : QuotesKept put counted held a b)
    (hbe : QuotesKept put counted held b e) : QuotesKept put counted held a e where
  lines := fun l hl hk => hbe.lines l (hab.lines l hl hk) hk
  standing := fun roId hk => (hbe.standing roId hk).trans (hab.standing roId hk)
  files := fun roId hk => (hbe.files roId hk).trans (hab.files roId hk)
  quoted := fun roId hk hm => (hbe.quoted roId hk hm).trans (hab.quoted roId hk hm)
  answers := fun hc roId hk id hm =>
    (hbe.answers hc roId hk id hm).trans (hab.answers hc roId hk id hm)
  lineKeys := fun id hk h => hbe.lineKeys id hk (hab.lineKeys id hk h)
  estimateKeys := fun id hk h => hbe.estimateKeys id hk (hab.estimateKeys id hk h)
  authorizationKeys := fun id hk h => hbe.authorizationKeys id hk (hab.authorizationKeys id hk h)

theorem QuotesKept.mono (hsub : ∀ k ∈ held, k ∈ more) {a b : Shop}
    (h : QuotesKept put counted more a b) : QuotesKept put counted held a b where
  lines := fun l hl hk => h.lines l hl (hk.mono hsub)
  standing := fun roId hk => h.standing roId (hsub _ hk)
  files := fun roId hk => h.files roId (hsub _ hk)
  quoted := fun roId hk ⟨id, hid, hm⟩ => h.quoted roId (hsub _ hk) ⟨id, hid, hsub _ hm⟩
  answers := fun hc roId hk id hm => h.answers hc roId (hsub _ hk) id (hsub _ hm)
  lineKeys := fun id hk => h.lineKeys id (hsub _ hk)
  estimateKeys := fun id hk => h.estimateKeys id (hsub _ hk)
  authorizationKeys := fun id hk => h.authorizationKeys id (hsub _ hk)

theorem unquotedLines_congr {roId : String} (h : d'.linesOf roId = d.linesOf roId) :
    unquotedLines roId d' = unquotedLines roId d := by
  rw [unquotedLines, h, unquotedLines]

theorem QuotesKept.of_same {e : Shop} (h : QuotesKept put counted held d d')
    (hs : SameQuotes d' e) : QuotesKept put counted held d e where
  lines := fun l hl hk => hs.lines ▸ h.lines l hl hk
  standing := fun roId hk => hs.linesOf roId ▸ h.standing roId hk
  files := fun roId hk => hs.estimatesOf roId ▸ h.files roId hk
  quoted := fun roId hk hm => unquotedLines_congr (hs.linesOf roId) ▸ h.quoted roId hk hm
  answers := fun hc roId hk id hm => hs.linesOf roId ▸ h.answers hc roId hk id hm
  lineKeys := fun id hk hfree => hs.lines ▸ h.lineKeys id hk hfree
  estimateKeys := fun id hk hfree => hs.estimates ▸ h.estimateKeys id hk hfree
  authorizationKeys := fun id hk hfree => hs.authorizations ▸ h.authorizationKeys id hk hfree

theorem QuotesKept.of_apart
    (hlines : ∀ l ∈ d.ro_line_items, Locked held "ro_line_items" l.line_item_id →
      l ∈ d'.ro_line_items)
    (hof : ∀ roId, orderLock roId ∈ held → d'.linesOf roId = d.linesOf roId ∧
      d'.estimatesOf roId = d.estimatesOf roId)
    (hlineKeys : ∀ id, .index "ro_line_items_pkey" id ∈ held →
      ∀ l ∈ d'.ro_line_items, l.line_item_id = id → ∃ m ∈ d.ro_line_items, m.line_item_id = id)
    (hestimateKeys : ∀ id, .index "ro_estimates_pkey" id ∈ held →
      ∀ e ∈ d'.ro_estimates, e.estimate_id = id → ∃ f ∈ d.ro_estimates, f.estimate_id = id)
    (hauthorizationKeys : ∀ id, .index "ro_authorizations_pkey" id ∈ held →
      ∀ a ∈ d'.ro_authorizations, a.authorization_id = id →
        ∃ b ∈ d.ro_authorizations, b.authorization_id = id) :
    QuotesKept put counted held d d' where
  lines := hlines
  standing := fun roId hk => by rw [(hof roId hk).1]
  files := fun roId hk => (hof roId hk).2
  quoted := fun roId hk _ => by rw [unquotedLines_congr (hof roId hk).1]
  answers := fun _ roId hk _ _ => by rw [(hof roId hk).1]
  lineKeys := by
    intro id hk hfree l hl hid
    obtain ⟨m, hm, hid⟩ := hlineKeys id hk l hl hid
    exact hfree m hm hid
  estimateKeys := by
    intro id hk hfree e he hid
    obtain ⟨f, hf, hid⟩ := hestimateKeys id hk e he hid
    exact hfree f hf hid
  authorizationKeys := by
    intro id hk hfree a ha hid
    obtain ⟨b, hb, hid⟩ := hauthorizationKeys id hk a ha hid
    exact hfree b hb hid

/-! ### What others do -/

variable (hclear : ∀ k ∈ held, ∀ l ∈ more, k.conflicts l = false)

include hclear

theorem kept_setLines (ids : List String) {f : LineItem → LineItem}
    (hf : ∀ l, (f l).line_item_id = l.line_item_id ∧ (f l).ro_id = l.ro_id)
    (hlocked : ∀ id ∈ ids, Locked held "ro_line_items" id)
    (horder : ∀ l ∈ d.ro_line_items, l.line_item_id ∈ ids → orderLock l.ro_id ∈ held) :
    QuotesKept put counted more d (d.setLines ids f) := by
  refine .of_apart ?_ ?_ ?_ (fun _ _ e he hid => ⟨e, he, hid⟩) fun _ _ a ha hid => ⟨a, ha, hid⟩
  · intro l hl hk
    refine mem_updateWhere_of_neg hl fun hin => ?_
    exact Locked.not_both hclear (hlocked _ hin) hk
  · refine fun roId hk => ⟨filter_key_updateWhere (fun l hl hin => ?_) fun l => (hf l).2, rfl⟩
    rintro rfl
    exact not_both_orders hclear (horder l hl hin) hk
  · intro id _ l hl hid
    rcases updateWhere_cases hl with ⟨hl, -⟩ | ⟨m, hm, -, rfl⟩
    · exact ⟨l, hl, hid⟩
    · exact ⟨m, hm, (hf m).1.symm.trans hid⟩

theorem kept_setEstimates (ids : List String) (status : EstimateStatus)
    (horder : ∀ e ∈ d.ro_estimates, e.estimate_id ∈ ids → orderLock e.ro_id ∈ held) :
    QuotesKept put counted more d (d.setEstimates ids status) := by
  refine .of_apart (fun _ hl _ => hl) ?_ (fun _ _ l hl hid => ⟨l, hl, hid⟩) ?_
    fun _ _ a ha hid => ⟨a, ha, hid⟩
  · refine fun roId hk => ⟨rfl, filter_key_updateWhere fun e he hin => ?_⟩
    rintro rfl
    exact not_both_orders hclear (horder e he hin) hk
  · intro id _ e he hid
    rcases updateWhere_cases he with ⟨he, -⟩ | ⟨f, hf, -, rfl⟩
    · exact ⟨e, he, hid⟩
    · exact ⟨f, hf, hid⟩

theorem kept_addLine {l : LineItem} (horder : .row "repair_orders" l.ro_id .keyShare ∈ held)
    (hkey : .index "ro_line_items_pkey" l.line_item_id ∈ held) :
    QuotesKept put counted more d { d with ro_line_items := d.ro_line_items ++ [l] } := by
  refine .of_apart (fun _ hm _ => mem_append_left _ hm) ?_ ?_
    (fun _ _ e he hid => ⟨e, he, hid⟩) fun _ _ a ha hid => ⟨a, ha, hid⟩
  · refine fun roId hk => ⟨?_, rfl⟩
    have hne : l.ro_id ≠ roId := by
      rintro rfl
      have hconflict := LotLock.order_conflicts l.ro_id .keyShare (by decide)
      rw [hclear _ horder _ hk] at hconflict
      cases hconflict
    simp [Shop.linesOf, hne]
  · intro id hk m hm hid
    rcases mem_inserted hm with hm | rfl
    · exact ⟨m, hm, hid⟩
    · rw [← hid] at hk
      exact absurd hk (index_not_both hclear hkey)

theorem kept_addEstimate {e : Estimate} (horder : orderLock e.ro_id ∈ held)
    (hkey : .index "ro_estimates_pkey" e.estimate_id ∈ held) :
    QuotesKept put counted more d { d with ro_estimates := d.ro_estimates ++ [e] } := by
  refine .of_apart (fun _ hl _ => hl) ?_ (fun _ _ l hl hid => ⟨l, hl, hid⟩) ?_
    fun _ _ a ha hid => ⟨a, ha, hid⟩
  · refine fun roId hk => ⟨rfl, ?_⟩
    have hne : e.ro_id ≠ roId := by
      rintro rfl
      exact not_both_orders hclear horder hk
    simp [Shop.estimatesOf, hne]
  · intro id hk f hf hid
    rcases mem_inserted hf with hf | rfl
    · exact ⟨f, hf, hid⟩
    · rw [← hid] at hk
      exact absurd hk (index_not_both hclear hkey)

theorem kept_addAuthorization {a : ROAuthorization}
    (hkey : .index "ro_authorizations_pkey" a.authorization_id ∈ held) :
    QuotesKept put counted more d { d with ro_authorizations := d.ro_authorizations ++ [a] } := by
  refine .of_apart (fun _ hl _ => hl) (fun _ _ => ⟨rfl, rfl⟩) (fun _ _ l hl hid => ⟨l, hl, hid⟩)
    (fun _ _ e he hid => ⟨e, he, hid⟩) ?_
  intro id hk b hb hid
  rcases mem_inserted hb with hb | rfl
  · exact ⟨b, hb, hid⟩
  · rw [← hid] at hk
    exact absurd hk (index_not_both hclear hkey)

theorem kept_setLine {id : String} {f : LineItem → LineItem}
    (hf : ∀ l, (f l).standing = l.standing ∧ (f l).ro_id = l.ro_id)
    (hlock : .row "ro_line_items" id .noKeyUpdate ∈ held)
    (hquote : ∀ l ∈ d.ro_line_items, l.line_item_id = id → orderLock l.ro_id ∈ more →
      (∃ id ∈ put, quoteMark id ∈ more) → (f l).toQuote = l.toQuote)
    (hcount : counted → ∀ l ∈ d.ro_line_items, l.line_item_id = id →
      l.authorization_status = .pending → ∀ estimateId ∈ l.estimate_id,
        tallyMark estimateId ∈ more → ((f l).status = .canceled ↔ l.status = .canceled)) :
    QuotesKept put counted more d (d.setLines [id] f) := by
  have hid : ∀ l, (f l).line_item_id = l.line_item_id := fun l => congrArg (·.1) (hf l).1
  have hstatus : ∀ l, (f l).authorization_status = l.authorization_status :=
    fun l => congrArg (·.2.1) (hf l).1
  have hasked : ∀ l, (f l).estimate_id = l.estimate_id := fun l => congrArg (·.2.2) (hf l).1
  constructor
  · intro l hl hk
    refine mem_updateWhere_of_neg hl fun hin => ?_
    rw [mem_singleton.mp hin] at hk
    exact Locked.not_both hclear (.inr hlock) hk
  · intro roId _
    refine map_filter_updateWhere fun l _ _ => ⟨?_, fun _ => (hf l).1⟩
    rw [(hf l).2]
  · exact fun _ _ => rfl
  · intro roId hk hmark
    rw [unquotedLines, unquotedLines, Shop.linesOf, Shop.linesOf, filter_filter, filter_filter]
    refine map_filter_updateWhere fun l hl hin => ?_
    rw [(hf l).2]
    by_cases hro : l.ro_id = roId
    · have hsame := hquote l hl (mem_singleton.mp hin) (hro ▸ hk) hmark
      unfold LineItem.toQuote at hsame
      cases hunquoted : l.unquoted with
      | true =>
        cases hunquoted' : (f l).unquoted with
        | true =>
          rw [hunquoted, hunquoted', if_pos rfl, if_pos rfl, Option.some.injEq,
            Prod.mk.injEq] at hsame
          refine ⟨rfl, fun _ => ?_⟩
          rw [LineItem.priced, hid, hsame.1, hsame.2, LineItem.priced]
        | false =>
          rw [hunquoted, hunquoted', if_pos rfl, if_neg Bool.false_ne_true] at hsame
          cases hsame
      | false =>
        cases hunquoted' : (f l).unquoted with
        | true =>
          rw [hunquoted, hunquoted', if_pos rfl, if_neg Bool.false_ne_true] at hsame
          cases hsame
        | false =>
          refine ⟨rfl, fun h => ?_⟩
          rw [Bool.false_and] at h
          cases h
    · simp [hro]
  · intro hc roId _ estimateId hmark
    refine map_filter_updateWhere fun l hl hin => ?_
    rw [(hf l).2]
    refine ⟨rfl, fun _ => ?_⟩
    rw [LineItem.toCount, hid, hstatus, hasked, LineItem.toCount]
    by_cases hpending : l.estimate_id = some estimateId ∧ l.authorization_status = .pending
    · have hsame := hcount hc l hl (mem_singleton.mp hin) hpending.2 estimateId
        (Option.mem_def.mpr hpending.1) hmark
      simp [hsame]
    · have hfalse : (decide (l.estimate_id = some estimateId) &&
          decide (l.authorization_status = .pending)) = false := by
        simpa [Bool.and_eq_false_iff] using hpending
      rw [hfalse, Bool.false_and, Bool.false_and]
  · intro id' _ hfree l hl
    rcases updateWhere_cases hl with ⟨hl, -⟩ | ⟨m, hm, -, rfl⟩
    · exact hfree l hl
    · rw [hid]
      exact hfree m hm
  · exact fun _ _ h => h
  · exact fun _ _ h => h

end Kept

/-- An update does not change what an estimate that is to be put to the customer has read of the
line, while the estimate is made. -/
def ServiceCall.LeavesQuotes (put : List String) (c : ServiceCall) (held : List LotLock)
    (d : Shop) (theirs : List LotLock) : Prop :=
  match c with
  | .updateLineItem w _ lineItemId updates =>
    .row "ro_line_items" lineItemId .noKeyUpdate ∈ held →
      ∀ l ∈ d.ro_line_items, l.line_item_id = lineItemId → orderLock l.ro_id ∈ theirs →
        (∃ id ∈ put, quoteMark id ∈ theirs) → (updates.apply w.supervises l).toQuote = l.toQuote
  | _ => True

/-- An update does not cancel a line that is an open question, nor take it back, while the
answers to its estimate are counted. -/
def ServiceCall.LeavesAnswers (c : ServiceCall) (held : List LotLock) (d : Shop)
    (theirs : List LotLock) : Prop :=
  match c with
  | .updateLineItem w _ lineItemId updates =>
    .row "ro_line_items" lineItemId .noKeyUpdate ∈ held →
      ∀ l ∈ d.ro_line_items, l.line_item_id = lineItemId → l.authorization_status = .pending →
        ∀ estimateId ∈ l.estimate_id, tallyMark estimateId ∈ theirs →
          ((updates.apply w.supervises l).status = .canceled ↔ l.status = .canceled)
  | _ => True

instance (put : List String) (held : List LotLock) (d : Shop) (theirs : List LotLock) :
    ∀ c : ServiceCall, Decidable (c.LeavesQuotes put held d theirs)
  | .updateLineItem w _ lineItemId updates => inferInstanceAs (Decidable
      (.row "ro_line_items" lineItemId .noKeyUpdate ∈ held →
        ∀ l ∈ d.ro_line_items, l.line_item_id = lineItemId → orderLock l.ro_id ∈ theirs →
          (∃ id ∈ put, quoteMark id ∈ theirs) → (updates.apply w.supervises l).toQuote = l.toQuote))
  | .createRO .. | .checkIn .. | .addLineItem .. | .dispatchTech .. | .startMPISession ..
  | .generateEstimate .. | .sendEstimate .. | .recordAuthorization .. | .transitionRO ..
  | .createComebackCase .. => .isTrue trivial

/-- **What one transaction commits leaves what another has found.** -/
theorem QuoteMoves.kept {put : List String} {counted : Prop} {held more : List LotLock}
    {c : ServiceCall} {d' : Shop} (hm : QuoteMoves put counted held c d d') (hd : QuotesSound d)
    (hclear : ∀ k ∈ held, ∀ l ∈ more, k.conflicts l = false)
    (hquotes : c.LeavesQuotes put held d more)
    (hanswers : counted → c.LeavesAnswers held d more) : QuotesKept put counted more d d' := by
  cases hm with
  | stays same => exact (QuotesKept.refl more d).of_same same
  | adds order key _ _ _ same => exact (kept_addLine hclear order key).of_same same
  | @edits w l updates _ _ lock _ _ _ same =>
    exact (kept_setLine hclear (f := updates.apply w.supervises) (fun _ => ⟨rfl, rfl⟩) lock
      (hquotes lock) fun hc => hanswers hc lock).of_same same
  | @dispatches c lineItemId techUserId _ _ lock same =>
    exact (kept_setLine hclear (f := assignedTo techUserId) (fun _ => ⟨rfl, rfl⟩) lock
      (fun _ _ _ _ _ => rfl) fun _ _ _ _ _ _ _ _ => Iff.rfl).of_same same
  | @quotes c e ids _ _ lock key _ _ locked lines _ same =>
    refine ((kept_addEstimate hclear lock key).trans ?_).of_same same
    refine kept_setLines hclear ids (fun _ => ⟨rfl, rfl⟩) (fun id hin => .inr (locked id hin))
      fun l hl hin => ?_
    rw [(mem_linesOf.mp (mem_filter.mp (lines l hl hin)).1).2]
    exact lock
  | @sends w e _ _ lock estimate _ same =>
    refine (kept_setEstimates hclear _ _ fun f hf hin => ?_).of_same same
    rw [eq_of_key hd.estimates hf estimate (mem_singleton.mp hin)]
    exact lock
  | @decides w e a input status _ _ answers key _ _ _ _ _ _ _ _ same =>
    have horder : ∀ l ∈ d.ro_line_items,
        l.line_item_id ∈ a.approved_items ++ a.declined_items → orderLock l.ro_id ∈ held := by
      intro l hl hin
      obtain ⟨m, hm, hid, hro, -⟩ := answers.pending _ hin
      rw [eq_of_key hd.lines hl hm hid.symm, hro]
      exact answers.lock
    have hadded : QuotesKept put counted more d _ := kept_addAuthorization hclear key
    have happroved := hadded.trans (kept_setLines hclear a.approved_items
      (f := markApproved a.authorization_id) (fun _ => ⟨rfl, rfl⟩)
      (fun id hin => answers.locked id (mem_append_left _ hin))
      fun l hl hin => horder l hl (mem_append_left _ hin))
    have hdeclined := happroved.trans (kept_setLines hclear a.declined_items
      (f := markDeclined a.authorization_id) (fun _ => ⟨rfl, rfl⟩)
      (fun id hin => answers.locked id (mem_append_right _ hin)) fun l hl hin => by
        rcases updateWhere_cases hl with ⟨hl, -⟩ | ⟨m, hm, -, rfl⟩
        · exact horder l hl (mem_append_right _ hin)
        · exact horder m hm (mem_append_right _ hin))
    refine (hdeclined.trans (kept_setEstimates hclear [a.estimate_id] status ?_)).of_same same
    intro f hf hin
    rw [eq_of_key hd.estimates hf answers.estimate ((mem_singleton.mp hin).trans answers.names)]
    exact answers.lock
  | @requotes w roId input _ _ lock _ locked same =>
    have hexpired : QuotesKept put counted more d
        (d.setEstimates (openEstimates roId d) .expired) := by
      refine kept_setEstimates hclear _ _ fun e he hin => ?_
      obtain ⟨f, hf, hid, hro⟩ := mem_openEstimates _ hin
      rw [eq_of_key hd.estimates he hf hid.symm, hro]
      exact lock
    refine (hexpired.trans (kept_setLines hclear (pendingLines roId d) (f := unasked)
      (fun _ => ⟨rfl, rfl⟩) (fun id hin => .inr (locked id hin)) fun l hl hin => ?_)).of_same same
    obtain ⟨m, hm, hid, hro⟩ := mem_pendingLines _ hin
    rw [eq_of_key hd.lines hl hm hid.symm, hro]
    exact lock

end Dealership.Service
