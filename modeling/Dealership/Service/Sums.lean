import Dealership.Service.Decisions

/-!
# What an estimate says, and what its lines come to

The figure of an estimate is worked out once, from lines that are read before they are put to
the customer, and the lines go on changing.  It stays the sum of its lines as long as nobody
touches those that are being quoted, withdraws the lines of a draft that is sent afterwards, or
reprices what has been declined.
-/

namespace Dealership.Service

open Library List
open Inventory (LotLock)
open Sales (Locked)

/-! ## Sums -/

/-- The figure of an estimate is that of its lines, and none of them has been taken back. -/
structure AddsUp (e : Estimate) (d : Shop) : Prop where
  figures : e.totals_ref.figures = (totalsOf (linesAsked e.estimate_id d)).figures
  currency : oneCurrency (linesAsked e.estimate_id d) = true
  asked : ∀ l ∈ linesAsked e.estimate_id d, l.authorization_status ≠ .not_required

/-- An estimate that the customer has in front of them, or a draft that is to be put there. -/
def Estimate.shown (put : List String) (e : Estimate) : Prop :=
  e.status = .sent ∨ e.status = .partially_approved ∨ e.status = .draft ∧ e.estimate_id ∈ put

instance (put : List String) (e : Estimate) : Decidable (e.shown put) :=
  inferInstanceAs (Decidable (e.status = .sent ∨ e.status = .partially_approved ∨
    e.status = .draft ∧ e.estimate_id ∈ put))

theorem mem_linesAsked {estimateId : String} {d : Shop} {l : LineItem} :
    l ∈ linesAsked estimateId d ↔ l ∈ d.ro_line_items ∧ l.estimate_id = some estimateId := by
  rw [linesAsked, mem_filter, decide_eq_true_eq]

section AddsUp

variable {d d' : Shop} {e e' : Estimate}

theorem AddsUp.of_estimate (h : AddsUp e d) (hid : e'.estimate_id = e.estimate_id)
    (htotals : e'.totals_ref = e.totals_ref) : AddsUp e' d := by
  refine ⟨?_, ?_, ?_⟩
  · rw [htotals, hid]
    exact h.figures
  · rw [hid]
    exact h.currency
  · rw [hid]
    exact h.asked

theorem AddsUp.of_lines (h : AddsUp e d) (hlines : d'.ro_line_items = d.ro_line_items) :
    AddsUp e d' := by
  refine ⟨?_, ?_, ?_⟩
  · rw [linesAsked, hlines]
    exact h.figures
  · rw [linesAsked, hlines]
    exact h.currency
  · rw [linesAsked, hlines]
    exact h.asked

theorem AddsUp.setLines (h : AddsUp e d) (ids : List String) {f : LineItem → LineItem}
    (hasked : ∀ l ∈ d.ro_line_items, l.line_item_id ∈ ids →
      ((f l).estimate_id = some e.estimate_id ↔ l.estimate_id = some e.estimate_id))
    (hf : ∀ l ∈ d.ro_line_items, l.line_item_id ∈ ids → l.estimate_id = some e.estimate_id →
      (f l).priced = l.priced ∧ (f l).authorization_status ≠ .not_required) :
    AddsUp e (d.setLines ids f) := by
  have hpriced : (linesAsked e.estimate_id (d.setLines ids f)).map LineItem.priced =
      (linesAsked e.estimate_id d).map LineItem.priced := by
    refine map_filter_updateWhere fun l hl hin => ⟨decide_eq_decide.mpr (hasked l hl hin), ?_⟩
    exact fun hl' => (hf l hl hin (of_decide_eq_true hl')).1
  refine ⟨h.figures.trans (figures_of_priced hpriced).symm,
    (oneCurrency_of_priced hpriced).trans h.currency, fun l hl => ?_⟩
  obtain ⟨hl, hl'⟩ := mem_linesAsked.mp hl
  rcases updateWhere_cases hl with ⟨hl, -⟩ | ⟨m, hm, hin, rfl⟩
  · exact h.asked l (mem_linesAsked.mpr ⟨hl, hl'⟩)
  · exact (hf m hm hin ((hasked m hm hin).mp hl')).2

end AddsUp

/-! ## What keeps them -/

/-- A call sends only what is to be put to the customer, reprices nothing that was declined on
it, and takes nothing back from a draft of it. -/
def ServiceCall.KeepsSums (put : List String) (c : ServiceCall) (held : List LotLock)
    (d : Shop) : Prop :=
  match c with
  | .sendEstimate _ _ estimateId => estimateId ∈ put
  | .updateLineItem w _ lineItemId updates =>
    .row "ro_line_items" lineItemId .noKeyUpdate ∈ held → ∀ l ∈ d.ro_line_items,
      l.line_item_id = lineItemId → l.authorization_status = .declined →
        ∀ e ∈ d.ro_estimates, l.estimate_id = some e.estimate_id → e.shown put →
          (updates.apply w.supervises l).priced = l.priced
  | .transitionRO _ roId target _ =>
    target = .estimate_pending → .row "repair_orders" roId .noKeyUpdate ∈ held →
      ∀ l ∈ d.linesOf roId, l.authorization_status = .pending → ∀ e ∈ d.ro_estimates,
        l.estimate_id = some e.estimate_id → e.status = .draft → e.estimate_id ∉ put
  | _ => True

instance (put : List String) (held : List LotLock) (d : Shop) :
    ∀ c : ServiceCall, Decidable (c.KeepsSums put held d)
  | .sendEstimate _ _ estimateId => inferInstanceAs (Decidable (estimateId ∈ put))
  | .updateLineItem w _ lineItemId updates => inferInstanceAs (Decidable
      (.row "ro_line_items" lineItemId .noKeyUpdate ∈ held → ∀ l ∈ d.ro_line_items,
        l.line_item_id = lineItemId → l.authorization_status = .declined →
          ∀ e ∈ d.ro_estimates, l.estimate_id = some e.estimate_id → e.shown put →
            (updates.apply w.supervises l).priced = l.priced))
  | .transitionRO _ roId target _ => inferInstanceAs (Decidable
      (target = .estimate_pending → .row "repair_orders" roId .noKeyUpdate ∈ held →
        ∀ l ∈ d.linesOf roId, l.authorization_status = .pending → ∀ e ∈ d.ro_estimates,
          l.estimate_id = some e.estimate_id → e.status = .draft → e.estimate_id ∉ put))
  | .createRO .. | .checkIn .. | .addLineItem .. | .dispatchTech .. | .startMPISession ..
  | .generateEstimate .. | .recordAuthorization .. | .createComebackCase .. => .isTrue trivial

/-- What is sent was quoted without anybody touching its lines, and they are let be. -/
def KeepSums (put : List String) (S : ServiceServer) : Event ServiceCall → Prop
  | .turn i => ∀ s ∈ S.session i, s.call.KeepsSums put s.held S.committed ∧
      ∀ j < S.sessions.length, j ≠ i → ∀ t ∈ S.session j,
        s.call.LeavesQuotes put s.held S.committed t.held
  | .arrive _ | .abort _ => True

instance (put : List String) (S : ServiceServer) : ∀ e, Decidable (KeepSums put S e)
  | .turn i => inferInstanceAs (Decidable (∀ s ∈ S.session i,
      s.call.KeepsSums put s.held S.committed ∧ ∀ j < S.sessions.length, j ≠ i →
        ∀ t ∈ S.session j, s.call.LeavesQuotes put s.held S.committed t.held))
  | .arrive _ | .abort _ => .isTrue trivial

/-! ## Moves and sums -/

theorem LineUpdates.priced_apply {u : LineUpdates} {l : LineItem} (supervises : Bool)
    (hfrozen : u.commercial = false) : (u.apply supervises l).priced = l.priced := by
  rw [LineUpdates.commercial, Bool.or_eq_false_iff, Option.isSome_eq_false_iff,
    Option.isSome_eq_false_iff, Option.isNone_iff_eq_none, Option.isNone_iff_eq_none] at hfrozen
  have hprice : (u.apply supervises l).price_ref = l.price_ref := by
    unfold LineUpdates.apply
    simp only [hfrozen.2, Option.map_none, Option.getD_none, ite_self]
  unfold LineItem.priced LineItem.amount LineItem.currency
  rw [hprice]
  rfl

section Moves

variable {put : List String} {held : List LotLock} {c : ServiceCall} {d : Shop} {e : Estimate}

theorem AddsUp.not_asked (h : AddsUp e d) {l : LineItem} (hl : l ∈ d.ro_line_items)
    (hstatus : l.authorization_status = .not_required) :
    l.estimate_id ≠ some e.estimate_id :=
  fun hasked => h.asked l (mem_linesAsked.mpr ⟨hl, hasked⟩) hstatus

theorem mem_unquotedLines_status {roId : String} {l : LineItem} (hl : l ∈ unquotedLines roId d) :
    l.authorization_status = .not_required := by
  have hunquoted := (mem_filter.mp hl).2
  unfold LineItem.unquoted at hunquoted
  simp only [Bool.and_eq_true, decide_eq_true_eq] at hunquoted
  exact hunquoted.1.1

/-- The lines that are put to the customer under a new estimate are those it is about. -/
theorem linesAsked_quoted (hd : QuotesSound d)
    (hfresh : ∀ f ∈ d.ro_estimates, f.estimate_id ≠ e.estimate_id) :
    linesAsked e.estimate_id (d.quoted e ((unquotedLines e.ro_id d).map (·.line_item_id))) =
      (unquotedLines e.ro_id d).map (quotedAs e.estimate_id) := by
  have hids : ∀ l ∈ d.ro_line_items,
      (l.line_item_id ∈ (unquotedLines e.ro_id d).map (·.line_item_id) ↔
        (decide (l.ro_id = e.ro_id) && l.unquoted) = true) := by
    intro l hl
    rw [Bool.and_eq_true, decide_eq_true_eq]
    constructor
    · intro hin
      obtain ⟨m, hm, hid⟩ := mem_map.mp hin
      obtain ⟨hof, hunquoted⟩ := mem_filter.mp hm
      obtain ⟨hmem, hro⟩ := mem_linesOf.mp hof
      rw [eq_of_key hd.lines hl hmem hid.symm]
      exact ⟨hro, hunquoted⟩
    · rintro ⟨hro, hunquoted⟩
      exact mem_map_of_mem (mem_filter.mpr ⟨mem_linesOf.mpr ⟨hl, hro⟩, hunquoted⟩)
  have htouched := filter_updateWhere_touched (t := d.ro_line_items)
    (p := fun l => l.line_item_id ∈ (unquotedLines e.ro_id d).map (·.line_item_id))
    (f := quotedAs e.estimate_id) (q := fun l => l.estimate_id = some e.estimate_id)
    fun l hl => by
      refine ⟨fun _ => decide_eq_true rfl, fun _ => decide_eq_false fun hasked => ?_⟩
      obtain ⟨f, hf, hid, -⟩ := hd.asked l hl _ hasked
      exact hfresh f hf hid
  refine htouched.trans (congrArg _ ?_)
  have hof : unquotedLines e.ro_id d =
      d.ro_line_items.filter fun l => l.unquoted && decide (l.ro_id = e.ro_id) :=
    filter_filter
  refine Eq.trans (filter_congr fun l hl => ?_) hof.symm
  rw [Bool.eq_iff_iff, decide_eq_true_eq, Bool.and_comm]
  exact hids l hl

theorem addsUp_quoted (hd : QuotesSound d)
    (hfresh : ∀ f ∈ d.ro_estimates, f.estimate_id ≠ e.estimate_id)
    (hfigures : e.totals_ref.figures = (totalsOf (unquotedLines e.ro_id d)).figures)
    (hcurrency : oneCurrency (unquotedLines e.ro_id d) = true) :
    AddsUp e (d.quoted e ((unquotedLines e.ro_id d).map (·.line_item_id))) := by
  have hlines := linesAsked_quoted hd hfresh
  have hpriced : (linesAsked e.estimate_id
      (d.quoted e ((unquotedLines e.ro_id d).map (·.line_item_id)))).map LineItem.priced =
        (unquotedLines e.ro_id d).map LineItem.priced := by
    rw [hlines, map_map]
    rfl
  refine ⟨hfigures.trans (figures_of_priced hpriced).symm,
    (oneCurrency_of_priced hpriced).trans hcurrency, fun l hl => ?_⟩
  rw [hlines] at hl
  obtain ⟨m, -, rfl⟩ := mem_map.mp hl
  nofun

/-- Every estimate that is shown says what its lines come to. -/
def ShownAddsUp (put : List String) (d : Shop) : Prop :=
  ∀ e ∈ d.ro_estimates, e.shown put → AddsUp e d

variable {d' : Shop}

/-- **A call that leaves the lines of what is shown leaves the sums.** -/
theorem QuoteMoves.addsUp (hm : QuoteMoves put False held c d d') (hd : QuotesSound d)
    (hkeeps : c.KeepsSums put held d) (h : ShownAddsUp put d) : ShownAddsUp put d' := by
  intro e he hshown
  cases hm with
  | stays same =>
    rw [same.estimates] at he
    exact (h e he hshown).of_lines same.lines
  | @adds c l _ _ _ _ _ unasked unquoted same =>
    rw [same.estimates] at he
    have hsame : linesAsked e.estimate_id d' = linesAsked e.estimate_id d := by
      rw [linesAsked, same.lines, filter_append, linesAsked]
      simp [unquoted]
    obtain ⟨hfigures, hcurrency, hasked⟩ := h e he hshown
    rw [← hsame] at hfigures hcurrency hasked
    exact ⟨hfigures, hcurrency, hasked⟩
  | @edits w l updates _ _ lock found _ frozen same =>
    rw [same.estimates] at he
    refine ((h e he hshown).setLines [l.line_item_id] (f := updates.apply w.supervises)
      (fun _ _ _ => Iff.rfl) ?_).of_lines same.lines
    intro m hm hin hasked
    obtain rfl := eq_of_key hd.lines hm found (mem_singleton.mp hin)
    have hstatus := (h e he hshown).asked m (mem_linesAsked.mpr ⟨hm, hasked⟩)
    refine ⟨?_, hstatus⟩
    cases hdecided : m.authorization_status with
    | not_required => exact absurd hdecided hstatus
    | pending => exact LineUpdates.priced_apply _ (frozen (.inl hdecided))
    | approved => exact LineUpdates.priced_apply _ (frozen (.inr hdecided))
    | declined => exact hkeeps lock m hm rfl hdecided e he hasked hshown
  | @dispatches c lineItemId techUserId _ _ _ same =>
    rw [same.estimates] at he
    refine ((h e he hshown).setLines [lineItemId] (f := assignedTo techUserId)
      (fun _ _ _ => Iff.rfl) fun l hl _ hasked => ⟨rfl, ?_⟩).of_lines same.lines
    exact (h e he hshown).asked l (mem_linesAsked.mpr ⟨hl, hasked⟩)
  | @quotes c f ids _ _ _ _ fresh draft _ lines exact' same =>
    rw [same.estimates] at he
    rcases mem_append.mp he with he | he
    · have hne : f.estimate_id ≠ e.estimate_id := (fresh e he).symm
      have hadded : AddsUp e { d with ro_estimates := d.ro_estimates ++ [f] } :=
        (h e he hshown).of_lines rfl
      have hno : ∀ l ∈ d.ro_line_items, l.line_item_id ∈ ids →
          l.estimate_id ≠ some e.estimate_id := fun l hl hin =>
        (h e he hshown).not_asked hl (mem_unquotedLines_status (lines l hl hin))
      refine (hadded.setLines ids (f := quotedAs f.estimate_id) ?_ ?_).of_lines same.lines
      · intro l hl hin
        exact iff_of_false (fun hasked => hne (Option.some.inj hasked)) (hno l hl hin)
      · exact fun l hl hin hasked => absurd hasked (hno l hl hin)
    · obtain rfl := mem_singleton.mp he
      have hput : e.estimate_id ∈ put := by
        rcases hshown with hstatus | hstatus | ⟨-, hput⟩
        · rw [draft] at hstatus
          cases hstatus
        · rw [draft] at hstatus
          cases hstatus
        · exact hput
      obtain ⟨rfl, hfigures, hcurrency⟩ := exact' hput
      exact (addsUp_quoted hd fresh hfigures hcurrency).of_lines same.lines
  | @sends w f _ _ _ estimate draft same =>
    rw [same.estimates] at he
    rcases updateWhere_cases he with ⟨he, -⟩ | ⟨g, hg, hin, rfl⟩
    · exact (h e he hshown).of_lines same.lines
    · obtain rfl := eq_of_key hd.estimates hg estimate (mem_singleton.mp hin)
      have hsum := h g hg (.inr (.inr ⟨draft, hkeeps⟩))
      exact (hsum.of_lines same.lines).of_estimate rfl rfl
  | @decides w f a input status _ _ answers _ _ _ _ _ _ _ _ _ same =>
    rw [same.estimates] at he
    have hlines : ∀ {g : Estimate}, AddsUp g d → AddsUp g d' := by
      intro g hg
      have hadded : AddsUp g { d with ro_authorizations := d.ro_authorizations ++ [a] } :=
        hg.of_lines rfl
      have happroved := hadded.setLines a.approved_items
        (f := markApproved a.authorization_id) (fun _ _ _ => Iff.rfl) fun _ _ _ _ =>
          ⟨rfl, nofun⟩
      have hdeclined := happroved.setLines a.declined_items
        (f := markDeclined a.authorization_id) (fun _ _ _ => Iff.rfl) fun _ _ _ _ =>
          ⟨rfl, nofun⟩
      exact hdeclined.of_lines same.lines
    rcases updateWhere_cases he with ⟨he, -⟩ | ⟨g, hg, hin, rfl⟩
    · exact hlines (h e he hshown)
    · obtain rfl := eq_of_key hd.estimates hg answers.estimate
        ((mem_singleton.mp hin).trans answers.names)
      have hbefore : g.shown put := answers.answerable.imp_right .inl
      exact (hlines (h g hg hbefore)).of_estimate rfl rfl
  | @requotes w roId input _ _ lock moved _ same =>
    rw [same.estimates] at he
    rcases updateWhere_cases he with ⟨he, hnot⟩ | ⟨g, hg, hin, rfl⟩
    · have hexpired : AddsUp e (d.setEstimates (openEstimates roId d) .expired) :=
        (h e he hshown).of_lines rfl
      refine (hexpired.setLines (pendingLines roId d) (f := unasked) (fun _ _ _ => Iff.rfl)
        ?_).of_lines same.lines
      intro l hl hin hasked
      -- the line is pending on the order, so its estimate is withdrawn or was a draft
      obtain ⟨m, hm, hid⟩ := mem_map.mp hin
      obtain ⟨hof, hpending⟩ := mem_filter.mp hm
      obtain rfl := eq_of_key hd.lines hl (mem_linesOf.mp hof).1 hid.symm
      have hro : e.ro_id = roId := by
        rw [← hd.order_of_asked he hl hasked, (mem_linesOf.mp hof).2]
      have hopen : ∀ hstatus : e.status = .sent ∨ e.status = .partially_approved, False := by
        intro hstatus
        refine hnot (mem_map.mpr ⟨e, mem_filter.mpr ⟨?_, ?_⟩, rfl⟩)
        · exact mem_filter.mpr ⟨he, decide_eq_true hro⟩
        · simpa using hstatus
      rcases hshown with hstatus | hstatus | ⟨hstatus, hput⟩
      · exact (hopen (.inl hstatus)).elim
      · exact (hopen (.inr hstatus)).elim
      · exact absurd hput (hkeeps rfl moved l hof (of_decide_eq_true hpending) e he hasked hstatus)
    · rcases hshown with hstatus | hstatus | ⟨hstatus, -⟩ <;> cases hstatus

end Moves

/-! ## In every interleaving -/

/-- What every estimate in front of the customer says is what its lines come to. -/
def SumsHold (d : Shop) : Prop :=
  ∀ e ∈ d.ro_estimates, e.status = .sent ∨ e.status = .partially_approved → AddsUp e d

/-- **The figure in front of the customer is the sum of the lines it asks about.**  From books in
order, in every interleaving that lets what it sends be. -/
theorem sums_hold (put : List String) {d : Shop} (hd : QuotesSound d) (hsums : ShownAddsUp put d)
    {events : List (Event ServiceCall)}
    (h : Along (Server.step LotLock.conflicts ServiceCall.program) (KeepSums put) (.fresh d)
      events) :
    SumsHold (run (Server.step LotLock.conflicts ServiceCall.program) (.fresh d)
      events).committed := by
  have hc : (quoting Unit (ServiceCall.KeepsSums put) put False).Cooperates LotLock.conflicts
      ServiceCall.program (fun _ _ => True) (KeepSums put) :=
    quoting_cooperates False.elim (fun _ _ s ha hs => (ha s hs).1)
      fun S i s j t ha hij hs ht =>
        ⟨(ha s hs).2 j (lt_of_session ht) (Ne.symm hij) t ht, False.elim⟩
  have hcommitted := (hc.preserves (J := fun d => QuotesSound d ∧ ShownAddsUp put d)
    (fun _ _ _ _ _ _ hens hJ => ⟨hens.1.sound hJ.1, hens.1.addsUp hJ.1 hens.2 hJ.2⟩) hd
    ⟨hd, hsums⟩ h).2
  intro e he hstatus
  exact hcommitted e he (hstatus.imp_right .inl)

/-! ## A price in between -/

namespace Lounge

/-- The brakes are read at one price, repriced, and then put to the customer and sent. -/
def raced : List (Event ServiceCall) :=
  .arrive (quote "4") :: List.replicate 3 (.turn 0) ++ oneByOne 12 [reprice brakes 900] 1 ++
    List.replicate 9 (.turn 0) ++ oneByOne 12 [send first "7"] 2

end Lounge

open Lounge in
/-- The two lines add up to what the customer was shown, decided as they are. -/
theorem visit_sums_hold :
    (serve visit).committed.ro_estimates.map
        (fun e => (e.status, e.totals_ref.line_count, e.totals_ref.amount_cents)) =
      [(.partially_approved, 2, some 100)] ∧ SumsHold (serve visit).committed :=
  ⟨by decide +kernel, sums_hold [first] shop_sound
    (fun _ he => absurd he not_mem_nil) (by decide +kernel)⟩

open Lounge in
/-- The customer is shown 100 for a line of 900. -/
theorem raced_misstates :
    (serve raced).committed.ro_estimates.map (fun e => (e.status, e.totals_ref.amount_cents)) =
        [(.sent, some 100)] ∧
      (serve raced).committed.ro_line_items.map (fun l => (l.estimate_id, l.amount)) =
        [(some first, some 900)] ∧ ¬ SumsHold (serve raced).committed := by
  refine ⟨by decide +kernel, by decide +kernel, fun h => ?_⟩
  have hshown : ∃ e ∈ (serve raced).committed.ro_estimates, e.status = .sent ∧
      e.totals_ref.figures ≠
        (totalsOf (linesAsked e.estimate_id (serve raced).committed)).figures := by
    decide +kernel
  obtain ⟨e, he, hsent, hne⟩ := hshown
  exact hne (h e he (.inl hsent)).figures

end Dealership.Service
