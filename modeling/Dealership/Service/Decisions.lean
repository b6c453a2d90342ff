import Dealership.Service.QuoteRuns
import Dealership.Library.Chronicle

/-!
# What the customer has decided

A decision names pending lines of its order, and from then on they are as it says, approved or
declined, for good.  That is so in every interleaving, since whoever writes lines has seen under
a lock what has been decided of them.  Two things are up to whoever records the decision: that
the lines are those of the estimate which is answered, since the lines of every estimate of the
order are accepted, and that the approved ones are spelled as the database spells them, since
the snapshot is made of those alone.
-/

namespace Dealership.Service

open Library List
open Inventory (LotLock)
open Sales (Locked)

variable {a : ROAuthorization} {l : LineItem}

/-! ## Decisions and their lines -/

structure ApprovedBy (a : ROAuthorization) (l : LineItem) : Prop where
  status : l.authorization_status = .approved
  ref : l.authorization_ref = some a.authorization_id

structure DeclinedBy (a : ROAuthorization) (l : LineItem) : Prop where
  status : l.authorization_status = .declined
  ref : l.authorization_ref = some a.authorization_id
  work : l.status = .declined

/-- The lines and the authorizations tell the same decisions. -/
structure Decided (d : Shop) : Prop where
  approved : ∀ a ∈ d.ro_authorizations, ∀ id ∈ a.approved_items,
    ∃ l ∈ d.ro_line_items, l.line_item_id = id ∧ ApprovedBy a l
  declined : ∀ a ∈ d.ro_authorizations, ∀ id ∈ a.declined_items,
    ∃ l ∈ d.ro_line_items, l.line_item_id = id ∧ DeclinedBy a l
  agreed : ∀ l ∈ d.ro_line_items, l.authorization_status = .approved →
    ∃ a ∈ d.ro_authorizations, l.authorization_ref = some a.authorization_id ∧
      l.line_item_id ∈ a.approved_items
  refused : ∀ l ∈ d.ro_line_items, l.authorization_status = .declined →
    ∃ a ∈ d.ro_authorizations, l.authorization_ref = some a.authorization_id ∧
      l.line_item_id ∈ a.declined_items

structure StaysDecided (l l' : LineItem) : Prop where
  key : l'.line_item_id = l.line_item_id
  status : l'.authorization_status = l.authorization_status
  ref : l'.authorization_ref = l.authorization_ref
  terms : l.authorization_status = .approved → l'.terms = l.terms
  work : l.authorization_status = .declined → l.status = .declined → l'.status = .declined

theorem StaysDecided.refl (l : LineItem) : StaysDecided l l :=
  ⟨rfl, rfl, rfl, fun _ => rfl, fun _ h => h⟩

theorem ApprovedBy.stays {l' : LineItem} (h : ApprovedBy a l) (hs : StaysDecided l l') :
    ApprovedBy a l' :=
  ⟨hs.status.trans h.status, hs.ref.trans h.ref⟩

theorem DeclinedBy.stays {l' : LineItem} (h : DeclinedBy a l) (hs : StaysDecided l l') :
    DeclinedBy a l' :=
  ⟨hs.status.trans h.status, hs.ref.trans h.ref, hs.work h.status h.work⟩

def LineItem.isDecided (l : LineItem) : Prop :=
  l.authorization_status = .approved ∨ l.authorization_status = .declined

theorem not_isDecided_of_unquoted (h : l.unquoted = true) : ¬ l.isDecided := by
  unfold LineItem.unquoted at h
  simp only [Bool.and_eq_true, decide_eq_true_eq] at h
  rintro (hstatus | hstatus)
  · rw [h.1.1] at hstatus
    cases hstatus
  · rw [h.1.1] at hstatus
    cases hstatus

theorem not_isDecided_of_pending (h : l.authorization_status = .pending) : ¬ l.isDecided := by
  rintro (hstatus | hstatus)
  · rw [h] at hstatus
    cases hstatus
  · rw [h] at hstatus
    cases hstatus

theorem LineUpdates.stays_decided {u : LineUpdates} (supervises : Bool)
    (hrefused : l.authorization_status = .declined → ∀ s, u.status = some (some s) → s = .declined)
    (hfrozen : l.authorization_status = .pending ∨ l.authorization_status = .approved →
      u.commercial = false) : StaysDecided l (u.apply supervises l) := by
  refine ⟨rfl, rfl, rfl, fun happroved => ?_, fun hdeclined hwork => ?_⟩
  · have hcommercial := hfrozen (.inr happroved)
    rw [LineUpdates.commercial, Bool.or_eq_false_iff, Option.isSome_eq_false_iff,
      Option.isSome_eq_false_iff, Option.isNone_iff_eq_none, Option.isNone_iff_eq_none]
      at hcommercial
    unfold LineItem.terms LineUpdates.apply
    simp only [hcommercial.1, hcommercial.2, Option.getD_none, Option.map_none, ite_self]
  · unfold LineUpdates.apply
    dsimp only
    match hstatus : u.status with
    | none => exact hwork
    | some none => exact hwork
    | some (some s) => exact hrefused hdeclined s hstatus

/-! ## What a move makes of decisions -/

/-- An authorization names a line, in the way the line is decided. -/
def Names (a : ROAuthorization) (l : LineItem) : Prop :=
  l.authorization_ref = some a.authorization_id ∧
    (l.authorization_status = .approved ∧ l.line_item_id ∈ a.approved_items ∨
      l.authorization_status = .declined ∧ l.line_item_id ∈ a.declined_items)

/-- What has been recorded, as it was answered and as it is told. -/
structure Recorded (held : List LotLock) (c : ServiceCall) (a : ROAuthorization) (d d' : Shop) :
    Prop where
  answers : ∃ e, Answers held e a d
  call : ∃ w input roId, c = .recordAuthorization w roId input ∧
    .index "ro_authorizations_pkey" w.newId ∈ held ∧ a.estimate_id = input.estimate_id ∧
      a.approved_items = input.approved_items.named ∧
        a.declined_items = input.declined_items.named ∧ a.KeepsTerms input.approved_items.ids d'
  approved : ∀ id ∈ a.approved_items, ∃ l ∈ d'.ro_line_items, l.line_item_id = id ∧ ApprovedBy a l
  declined : ∀ id ∈ a.declined_items, ∃ l ∈ d'.ro_line_items, l.line_item_id = id ∧ DeclinedBy a l

theorem ROAuthorization.KeepsTerms.decided {ids : List String} {d d' : Shop}
    {status : EstimateStatus} (h : a.KeepsTerms ids d)
    (hapart : ∀ id ∈ a.approved_items, id ∉ a.declined_items)
    (hlines : ∀ l ∈ d'.ro_line_items, l ∈ (d.decided a status).ro_line_items) :
    a.KeepsTerms ids d' := by
  intro l hl hin hspelled
  rcases decided_cases hapart (hlines l hl) with ⟨-, hnot, -⟩ | ⟨m, hm, -, rfl⟩ | ⟨m, -, hin', rfl⟩
  · exact absurd hin hnot
  · exact h m hm hin hspelled
  · exact absurd hin' (hapart _ hin)

section Moves

variable {put : List String} {counted : Prop} {held : List LotLock} {c : ServiceCall}
  {d d' : Shop}

theorem stays_decided_setLines (ids : List String) {f : LineItem → LineItem}
    (hf : ∀ l ∈ d.ro_line_items, l.line_item_id ∈ ids → l.isDecided → StaysDecided l (f l)) :
    ∀ l ∈ d.ro_line_items, l.isDecided →
      ∃ l' ∈ (d.setLines ids f).ro_line_items, StaysDecided l l' := by
  intro l hl hdecided
  by_cases hin : l.line_item_id ∈ ids
  · exact ⟨f l, mem_updateWhere_of_pos hl hin, hf l hl hin hdecided⟩
  · exact ⟨l, mem_updateWhere_of_neg hl hin, .refl l⟩

/-- **What was decided of a line stays decided.** -/
theorem QuoteMoves.stays_decided (hm : QuoteMoves put counted held c d d') (hd : QuotesSound d) :
    ∀ l ∈ d.ro_line_items, l.isDecided → ∃ l' ∈ d'.ro_line_items, StaysDecided l l' := by
  cases hm with
  | stays same => exact fun l hl _ => ⟨l, same.lines ▸ hl, .refl l⟩
  | adds _ _ _ _ _ same =>
    exact fun l hl _ => ⟨l, same.lines ▸ mem_append_left _ hl, .refl l⟩
  | @edits w l updates _ _ _ found refused frozen same =>
    rw [same.lines]
    refine stays_decided_setLines _ fun m hm hin _ => ?_
    obtain rfl := eq_of_key hd.lines hm found (mem_singleton.mp hin)
    exact updates.stays_decided w.supervises refused frozen
  | dispatches _ same =>
    rw [same.lines]
    exact stays_decided_setLines _ fun _ _ _ _ => ⟨rfl, rfl, rfl, fun _ => rfl, fun _ h => h⟩
  | @quotes c e ids _ _ _ _ _ _ _ lines _ same =>
    rw [same.lines]
    refine stays_decided_setLines (d := { d with ro_estimates := d.ro_estimates ++ [e] }) ids ?_
    intro l hl hin hdecided
    exact absurd hdecided (not_isDecided_of_unquoted (mem_filter.mp (lines l hl hin)).2)
  | sends _ _ _ same => exact fun l hl _ => ⟨l, same.lines ▸ hl, .refl l⟩
  | @decides w e a input status _ _ answers _ _ _ _ _ _ _ _ _ same =>
    intro l hl hdecided
    rw [same.lines]
    refine ⟨l, mem_decided_of_not hl fun hin => ?_, .refl l⟩
    obtain ⟨m, hm, hid, -, hpending⟩ := answers.pending _ hin
    rw [eq_of_key hd.lines hl hm hid.symm] at hdecided
    exact not_isDecided_of_pending hpending hdecided
  | @requotes w roId input _ _ _ _ _ same =>
    rw [same.lines]
    refine stays_decided_setLines (d := d.setEstimates (openEstimates roId d) .expired) _ ?_
    intro l hl hin hdecided
    obtain ⟨m, hm, hid⟩ := mem_map.mp hin
    obtain ⟨hof, hpending⟩ := mem_filter.mp hm
    rw [eq_of_key hd.lines hl (mem_linesOf.mp hof).1 hid.symm] at hdecided
    exact absurd hdecided (not_isDecided_of_pending (of_decide_eq_true hpending))

theorem QuoteMoves.was_decided (hm : QuoteMoves put counted held c d d') :
    ∀ l' ∈ d'.ro_line_items, l'.isDecided →
      (∃ l ∈ d.ro_line_items, l.line_item_id = l'.line_item_id ∧
        l.authorization_status = l'.authorization_status ∧
          l.authorization_ref = l'.authorization_ref) ∨
        ∃ a ∈ d'.ro_authorizations, Names a l' := by
  intro l' hl' hdecided
  cases hm with
  | stays same => exact .inl ⟨l', same.lines ▸ hl', rfl, rfl, rfl⟩
  | @adds c l _ _ _ _ _ unasked _ same =>
    rw [same.lines] at hl'
    rcases mem_inserted hl' with hl' | rfl
    · exact .inl ⟨l', hl', rfl, rfl, rfl⟩
    · rw [LineItem.isDecided, unasked] at hdecided
      rcases hdecided with h | h <;> cases h
  | edits _ _ _ _ same | dispatches _ same =>
    rw [same.lines] at hl'
    rcases updateWhere_cases hl' with ⟨hl', -⟩ | ⟨l, hl, -, rfl⟩
    · exact .inl ⟨l', hl', rfl, rfl, rfl⟩
    · exact .inl ⟨l, hl, rfl, rfl, rfl⟩
  | quotes _ _ _ _ _ _ _ same | requotes _ _ _ same =>
    rw [same.lines] at hl'
    rcases updateWhere_cases hl' with ⟨hl', -⟩ | ⟨l, hl, -, rfl⟩
    · exact .inl ⟨l', hl', rfl, rfl, rfl⟩
    · rcases hdecided with h | h <;> cases h
  | sends _ _ _ same => exact .inl ⟨l', same.lines ▸ hl', rfl, rfl, rfl⟩
  | @decides w e a input status _ _ answers _ _ _ _ _ _ _ _ _ same =>
    rw [same.lines] at hl'
    have ha : a ∈ d'.ro_authorizations :=
      same.authorizations ▸ mem_append_right _ (mem_singleton.mpr rfl)
    rcases decided_cases answers.apart hl' with ⟨hl', -⟩ | ⟨m, -, hin, rfl⟩ | ⟨m, -, hin, rfl⟩
    · exact .inl ⟨l', hl', rfl, rfl, rfl⟩
    · exact .inr ⟨a, ha, rfl, .inl ⟨rfl, hin⟩⟩
    · exact .inr ⟨a, ha, rfl, .inr ⟨rfl, hin⟩⟩

theorem QuoteMoves.authorizations (hm : QuoteMoves put counted held c d d') :
    ∀ a ∈ d.ro_authorizations, a ∈ d'.ro_authorizations := by
  intro a ha
  cases hm with
  | stays same | adds _ _ _ _ _ same | edits _ _ _ _ same | dispatches _ same
  | quotes _ _ _ _ _ _ _ same | sends _ _ _ same | requotes _ _ _ same =>
    exact same.authorizations ▸ ha
  | decides _ _ _ _ _ _ _ _ _ _ same => exact same.authorizations ▸ mem_append_left _ ha

theorem QuoteMoves.recorded (hm : QuoteMoves put counted held c d d') :
    ∀ a ∈ d'.ro_authorizations, a ∈ d.ro_authorizations ∨ Recorded held c a d d' := by
  intro a ha
  cases hm with
  | stays same | adds _ _ _ _ _ same | edits _ _ _ _ same | dispatches _ same
  | quotes _ _ _ _ _ _ _ same | sends _ _ _ same | requotes _ _ _ same =>
    exact .inl (same.authorizations ▸ ha)
  | @decides w e b input status _ _ answers key _ drawn answered approved declined terms _ _
      same =>
    rw [same.authorizations] at ha
    rcases mem_inserted ha with ha | rfl
    · exact .inl ha
    · refine .inr ⟨⟨e, answers⟩, ⟨w, input, e.ro_id, rfl, drawn ▸ key,
        answers.names.trans answered, approved, declined, ?_⟩, fun id hid => ?_, fun id hid => ?_⟩
      · exact terms.decided answers.apart fun l hl => same.lines ▸ hl
      · obtain ⟨l, hl, rfl, -⟩ := answers.pending id (mem_append_left _ hid)
        rw [same.lines]
        exact ⟨_, mem_decided_approved answers.apart hl hid, rfl, rfl, rfl⟩
      · obtain ⟨l, hl, rfl, -⟩ := answers.pending id (mem_append_right _ hid)
        rw [same.lines]
        exact ⟨_, mem_decided_declined answers.apart hl hid, rfl, rfl, rfl, rfl⟩

theorem QuoteMoves.decided (hm : QuoteMoves put counted held c d d') (hd : QuotesSound d)
    (h : Decided d) : Decided d' := by
  refine ⟨?_, ?_, ?_, ?_⟩
  · intro a ha id hid
    rcases hm.recorded a ha with ha | hnew
    · obtain ⟨l, hl, hlid, hby⟩ := h.approved a ha id hid
      obtain ⟨l', hl', hs⟩ := hm.stays_decided hd l hl (.inl hby.status)
      exact ⟨l', hl', hs.key.trans hlid, hby.stays hs⟩
    · exact hnew.approved id hid
  · intro a ha id hid
    rcases hm.recorded a ha with ha | hnew
    · obtain ⟨l, hl, hlid, hby⟩ := h.declined a ha id hid
      obtain ⟨l', hl', hs⟩ := hm.stays_decided hd l hl (.inr hby.status)
      exact ⟨l', hl', hs.key.trans hlid, hby.stays hs⟩
    · exact hnew.declined id hid
  · intro l' hl' hstatus
    rcases hm.was_decided l' hl' (.inl hstatus) with ⟨l, hl, hid, hsame, href⟩ | ⟨a, ha, hnames⟩
    · obtain ⟨a, ha, href', hin⟩ := h.agreed l hl (hsame.trans hstatus)
      exact ⟨a, hm.authorizations a ha, href ▸ href', hid ▸ hin⟩
    · rcases hnames with ⟨href, ⟨-, hin⟩ | ⟨hdeclined, -⟩⟩
      · exact ⟨a, ha, href, hin⟩
      · rw [hstatus] at hdeclined
        cases hdeclined
  · intro l' hl' hstatus
    rcases hm.was_decided l' hl' (.inr hstatus) with ⟨l, hl, hid, hsame, href⟩ | ⟨a, ha, hnames⟩
    · obtain ⟨a, ha, href', hin⟩ := h.refused l hl (hsame.trans hstatus)
      exact ⟨a, hm.authorizations a ha, href ▸ href', hid ▸ hin⟩
    · rcases hnames with ⟨href, ⟨happroved, -⟩ | ⟨-, hin⟩⟩
      · rw [hstatus] at happroved
        cases happroved
      · exact ⟨a, ha, href, hin⟩

end Moves

/-! ## Lines are decided once, and as they were asked -/

/-- An authorization answers the latest estimate of its order, which is out with the customer. -/
def AnswersLatest (a : ROAuthorization) (d : Shop) : Prop :=
  ∃ e, latestEstimate a.ro_id d = some e ∧ e.estimate_id = a.estimate_id ∧
    (e.status = .sent ∨ e.status = .partially_approved)

/-- It names pending lines of its order, which its estimate has put to the customer. -/
def DecidesAsked (a : ROAuthorization) (d : Shop) : Prop :=
  ∀ id ∈ a.approved_items ++ a.declined_items, ∃ l ∈ d.ro_line_items, l.line_item_id = id ∧
    l.ro_id = a.ro_id ∧ l.authorization_status = .pending ∧ l.estimate_id = some a.estimate_id

/-- What a commit records, it has found asked and undecided. -/
def RecordsDuly : ServiceEnding → Prop
  | .committed _ _ before after => ∀ a ∈ after.ro_authorizations, a ∉ before.ro_authorizations →
      AnswersLatest a before ∧ DecidesAsked a before
  | _ => True

/-- Every line is decided at most once, by what was asked, and is as it was decided. -/
structure DecidesOnce (d : Shop) (S : ServiceServer) : Prop where
  duly : ∀ e ∈ S.history, RecordsDuly e
  once : ∀ a ∈ S.committed.ro_authorizations, ∀ b ∈ S.committed.ro_authorizations,
    ∀ id ∈ a.approved_items ++ a.declined_items, id ∈ b.approved_items ++ b.declined_items → a = b
  oneWay : ∀ a ∈ S.committed.ro_authorizations, ∀ id ∈ a.approved_items, id ∉ a.declined_items
  approved : ∀ l ∈ S.committed.ro_line_items, l.authorization_status = .approved ↔
    ∃ a ∈ S.committed.ro_authorizations, l.authorization_ref = some a.authorization_id ∧
      l.line_item_id ∈ a.approved_items
  declined : ∀ l ∈ S.committed.ro_line_items, l.authorization_status = .declined ↔
    ∃ a ∈ S.committed.ro_authorizations, l.authorization_ref = some a.authorization_id ∧
      l.line_item_id ∈ a.declined_items
  linked : Linked d S.history S.committed

/-- Decisions keep to the lines of the estimates they answer. -/
def KeepToEstimates (S : ServiceServer) : Event ServiceCall → Prop
  | .turn i => ∀ s ∈ S.session i, s.call.KeepsToEstimate s.held S.committed
  | .arrive _ | .abort _ => True

instance (S : ServiceServer) : ∀ e, Decidable (KeepToEstimates S e)
  | .turn i => inferInstanceAs (Decidable (∀ s ∈ S.session i,
      s.call.KeepsToEstimate s.held S.committed))
  | .arrive _ | .abort _ => .isTrue trivial

theorem leavesQuotes_nil (c : ServiceCall) (held : List LotLock) (d : Shop)
    (theirs : List LotLock) : c.LeavesQuotes [] held d theirs := by
  cases c with
  | updateLineItem w roId lineItemId updates =>
    rintro _ _ _ _ _ ⟨id, hid, -⟩
    cases hid
  | _ => trivial

section Deciding

variable {d : Shop} {id : String}

theorem Decided.line_of_named (h : Decided d) (ha : a ∈ d.ro_authorizations)
    (hid : id ∈ a.approved_items ++ a.declined_items) : ∃ l ∈ d.ro_line_items, l.line_item_id = id ∧
      l.authorization_ref = some a.authorization_id := by
  rcases mem_append.mp hid with hin | hin
  · obtain ⟨l, hl, hlid, hby⟩ := h.approved a ha id hin
    exact ⟨l, hl, hlid, hby.ref⟩
  · obtain ⟨l, hl, hlid, hby⟩ := h.declined a ha id hin
    exact ⟨l, hl, hlid, hby.ref⟩

theorem Decided.once (h : Decided d) (hd : QuotesSound d) {b : ROAuthorization}
    (ha : a ∈ d.ro_authorizations) (hb : b ∈ d.ro_authorizations)
    (hida : id ∈ a.approved_items ++ a.declined_items)
    (hidb : id ∈ b.approved_items ++ b.declined_items) : a = b := by
  obtain ⟨l, hl, hlid, hrefa⟩ := h.line_of_named ha hida
  obtain ⟨m, hm, hmid, hrefb⟩ := h.line_of_named hb hidb
  obtain rfl := eq_of_key hd.lines hl hm (hlid.trans hmid.symm)
  exact eq_of_key hd.authorizations ha hb (Option.some.inj (hrefa.symm.trans hrefb))

theorem Decided.oneWay (h : Decided d) (hd : QuotesSound d) (ha : a ∈ d.ro_authorizations)
    (happroved : id ∈ a.approved_items) : id ∉ a.declined_items := by
  intro hdeclined
  obtain ⟨l, hl, hlid, hby⟩ := h.approved a ha id happroved
  obtain ⟨m, hm, hmid, hby'⟩ := h.declined a ha id hdeclined
  obtain rfl := eq_of_key hd.lines hl hm (hlid.trans hmid.symm)
  have hstatus := hby.status.symm.trans hby'.status
  cases hstatus

theorem Decided.approved_iff (h : Decided d) (hd : QuotesSound d) (hl : l ∈ d.ro_line_items) :
    l.authorization_status = .approved ↔
      ∃ a ∈ d.ro_authorizations, l.authorization_ref = some a.authorization_id ∧
        l.line_item_id ∈ a.approved_items := by
  constructor
  · exact h.agreed l hl
  · rintro ⟨a, ha, -, hin⟩
    obtain ⟨m, hm, hmid, hby⟩ := h.approved a ha _ hin
    rw [eq_of_key hd.lines hl hm hmid.symm]
    exact hby.status

theorem Decided.declined_iff (h : Decided d) (hd : QuotesSound d) (hl : l ∈ d.ro_line_items) :
    l.authorization_status = .declined ↔
      ∃ a ∈ d.ro_authorizations, l.authorization_ref = some a.authorization_id ∧
        l.line_item_id ∈ a.declined_items := by
  constructor
  · exact h.refused l hl
  · rintro ⟨a, ha, -, hin⟩
    obtain ⟨m, hm, hmid, hby⟩ := h.declined a ha _ hin
    rw [eq_of_key hd.lines hl hm hmid.symm]
    exact hby.status

theorem QuoteMoves.recordsDuly {put : List String} {counted : Prop} {held : List LotLock}
    {c : ServiceCall} {d' : Shop} {answer : Unit} (hm : QuoteMoves put counted held c d d')
    (hkeeps : c.KeepsToEstimate held d) : RecordsDuly (.committed c answer d d') := by
  intro a ha hnew
  have hrecorded := (hm.recorded a ha).resolve_left hnew
  obtain ⟨e, answers⟩ := hrecorded.answers
  obtain ⟨w, input, roId, rfl, hkey, hanswered, happroved, hdeclined, -⟩ := hrecorded.call
  refine ⟨⟨e, answers.order ▸ answers.latest, answers.names.symm, answers.answerable⟩, ?_⟩
  intro id hid
  obtain ⟨l, hl, rfl, hro, hpending⟩ := answers.pending id hid
  refine ⟨l, hl, rfl, hro.trans answers.order.symm, hpending, ?_⟩
  rw [happroved, hdeclined] at hid
  rw [hanswered]
  exact hkeeps hkey l hl hid

end Deciding

/-- **A customer decides what was put to them, once.**  From books in order, in every
interleaving in which decisions keep to the lines of the estimates they answer. -/
theorem decides_once {d : Shop} (hd : QuotesSound d) (hdecided : Decided d)
    {events : List (Event ServiceCall)}
    (h : Along (Server.step LotLock.conflicts ServiceCall.program) KeepToEstimates (.fresh d)
      events) :
    DecidesOnce d (run (Server.step LotLock.conflicts ServiceCall.program) (.fresh d) events) := by
  have hc : (quoting Unit ServiceCall.KeepsToEstimate [] False).Cooperates LotLock.conflicts
      ServiceCall.program (fun _ _ => True) KeepToEstimates :=
    quoting_cooperates False.elim (fun _ _ s ha hs => ha s hs)
      fun _ _ _ _ _ _ _ _ _ => ⟨leavesQuotes_nil _ _ _ _, False.elim⟩
  have hg := hc.guarded hd h
  have hsound : QuotesSound (run (Server.step LotLock.conflicts ServiceCall.program) (.fresh d)
    events).committed := hg.inv
  have hall : QuotesSound d ∧ Decided d := ⟨hd, hdecided⟩
  have hcommitted := (hc.preserves (J := fun d => QuotesSound d ∧ Decided d)
    (fun _ _ _ _ _ _ hens hJ => ⟨hens.1.sound hJ.1, hens.1.decided hJ.1 hJ.2⟩) hd hall h).2
  refine ⟨?_, ?_, ?_, ?_, ?_, linked_run _ _ d events⟩
  · intro e he
    exact (hg.history e he).cases (fun _ _ _ _ _ _ hens => hens.1.recordsDuly hens.2)
      (fun _ _ _ => trivial) fun _ => trivial
  · exact fun a ha b hb id hida hidb => hcommitted.once hsound ha hb hida hidb
  · exact fun a ha id hid => hcommitted.oneWay hsound ha hid
  · exact fun l hl => hcommitted.approved_iff hsound hl
  · exact fun l hl => hcommitted.declined_iff hsound hl

/-! ## Agreed terms stay -/

/-- The snapshots keep the terms of all the lines that have been approved. -/
def Agreed (d : Shop) : Prop :=
  ∀ a ∈ d.ro_authorizations, a.KeepsTerms a.approved_items d

/-- A decision spells the lines it approves as the database does. -/
def ServiceCall.SpelledAsStored (c : ServiceCall) (held : List LotLock) : Prop :=
  match c with
  | .recordAuthorization w _ input =>
    .index "ro_authorizations_pkey" w.newId ∈ held →
      ∀ id ∈ input.approved_items.ids, canonicalUuid id = id
  | _ => True

instance (held : List LotLock) : ∀ c : ServiceCall, Decidable (c.SpelledAsStored held)
  | .recordAuthorization w _ input => inferInstanceAs (Decidable
      (.index "ro_authorizations_pkey" w.newId ∈ held →
        ∀ id ∈ input.approved_items.ids, canonicalUuid id = id))
  | .createRO .. | .checkIn .. | .addLineItem .. | .updateLineItem .. | .dispatchTech ..
  | .startMPISession .. | .generateEstimate .. | .sendEstimate .. | .transitionRO ..
  | .createComebackCase .. => .isTrue trivial

/-- Decisions spell the lines they approve as the database does. -/
def SpellAsStored (S : ServiceServer) : Event ServiceCall → Prop
  | .turn i => ∀ s ∈ S.session i, s.call.SpelledAsStored s.held
  | .arrive _ | .abort _ => True

instance (S : ServiceServer) : ∀ e, Decidable (SpellAsStored S e)
  | .turn i => inferInstanceAs (Decidable (∀ s ∈ S.session i, s.call.SpelledAsStored s.held))
  | .arrive _ | .abort _ => .isTrue trivial

/-- **A move leaves the terms that were agreed.** -/
theorem QuoteMoves.agreed {put : List String} {counted : Prop} {held : List LotLock}
    {c : ServiceCall} {d d' : Shop} (hm : QuoteMoves put counted held c d d') (hd : QuotesSound d)
    (hdecided : Decided d) (h : Agreed d) (hspelled : c.SpelledAsStored held) : Agreed d' := by
  intro a ha
  rcases hm.recorded a ha with ha | hnew
  · intro l' hl' hin _
    obtain ⟨l, hl, hid, hby⟩ := hdecided.approved a ha _ hin
    obtain ⟨m, hmem, hs⟩ := hm.stays_decided hd l hl (.inl hby.status)
    obtain rfl := eq_of_key (hm.sound hd).lines hl' hmem (hid.symm.trans hs.key.symm)
    rw [hs.key, hs.terms hby.status]
    exact h a ha l hl (hid ▸ hin) (hid ▸ hin)
  · obtain ⟨w, input, roId, rfl, hkey, -, happroved, -, hterms⟩ := hnew.call
    intro l hl hin _
    refine hterms l hl hin ?_
    rw [happroved] at hin
    obtain ⟨id, hid, hsame⟩ := mem_map.mp hin
    rw [← hsame, hspelled hkey id hid]
    exact hid

structure AgreedTo (a : ROAuthorization) (d : Shop) : Prop where
  approved : ∀ id ∈ a.approved_items, (∃ l ∈ d.ro_line_items, l.line_item_id = id) ∧
    ∀ l ∈ d.ro_line_items, l.line_item_id = id → l.authorization_status = .approved ∧
      (a.approved_snapshot.find? fun t => t.line_item_id = id) = some l.terms
  declined : ∀ id ∈ a.declined_items, (∃ l ∈ d.ro_line_items, l.line_item_id = id) ∧
    ∀ l ∈ d.ro_line_items, l.line_item_id = id → l.authorization_status = .declined ∧
      l.status = .declined

theorem Decided.agreedTo {d : Shop} (h : Decided d) (hd : QuotesSound d) (hagreed : Agreed d)
    (ha : a ∈ d.ro_authorizations) : AgreedTo a d := by
  refine ⟨fun id hid => ?_, fun id hid => ?_⟩
  · obtain ⟨l, hl, rfl, hby⟩ := h.approved a ha id hid
    refine ⟨⟨l, hl, rfl⟩, fun m hm hmid => ?_⟩
    rw [eq_of_key hd.lines hm hl hmid]
    exact ⟨hby.status, hagreed a ha l hl hid hid⟩
  · obtain ⟨l, hl, rfl, hby⟩ := h.declined a ha id hid
    refine ⟨⟨l, hl, rfl⟩, fun m hm hmid => ?_⟩
    rw [eq_of_key hd.lines hm hl hmid]
    exact ⟨hby.status, hby.work⟩

/-- **Agreed terms never move.**  From books in order, in every interleaving in which decisions
spell the lines they approve as the database does, what an authorization that is committed at any
point says of its lines is so then, and at every later point. -/
theorem agreed_terms_stay {d : Shop} (hd : QuotesSound d) (hdecided : Decided d)
    (hagreed : Agreed d) {events more : List (Event ServiceCall)}
    (h : Along (Server.step LotLock.conflicts ServiceCall.program) SpellAsStored (.fresh d)
      (events ++ more)) :
    ∀ a ∈ (run (Server.step LotLock.conflicts ServiceCall.program) (.fresh d)
        events).committed.ro_authorizations,
      AgreedTo a (run (Server.step LotLock.conflicts ServiceCall.program) (.fresh d)
        events).committed ∧
      a ∈ (run (Server.step LotLock.conflicts ServiceCall.program) (.fresh d)
        (events ++ more)).committed.ro_authorizations ∧
      AgreedTo a (run (Server.step LotLock.conflicts ServiceCall.program) (.fresh d)
        (events ++ more)).committed := by
  have hc : (quoting Unit (fun c held _ => c.SpelledAsStored held) [] False).Cooperates
      LotLock.conflicts ServiceCall.program (fun _ _ => True) SpellAsStored :=
    quoting_cooperates False.elim (fun _ _ s ha hs => ha s hs)
      fun _ _ _ _ _ _ _ _ _ => ⟨leavesQuotes_nil _ _ _ _, False.elim⟩
  have hall : QuotesSound d ∧ Decided d ∧ Agreed d := ⟨hd, hdecided, hagreed⟩
  have hcommitted : ∀ {es}, Along (Server.step LotLock.conflicts ServiceCall.program)
      SpellAsStored (.fresh d) es → _ := fun hes =>
    hc.preserves (J := fun d => QuotesSound d ∧ Decided d ∧ Agreed d)
      (fun _ _ _ _ _ _ hens hJ => ⟨hens.1.sound hJ.1, hens.1.decided hJ.1 hJ.2.1,
        hens.1.agreed hJ.1 hJ.2.1 hJ.2.2 hens.2⟩) hd hall hes
  have hgrow := hc.related (R := fun a b => ∀ x ∈ a.ro_authorizations, x ∈ b.ro_authorizations)
    (fun _ _ hx => hx) (fun _ _ _ hab hbd x hx => hbd x (hab x hx))
    (fun _ _ _ _ _ _ hens => hens.1.authorizations) hd h
  intro a ha
  obtain ⟨hsound, hdecided', hagreed'⟩ := hcommitted (along_append.mp h).1
  obtain ⟨hsound'', hdecided'', hagreed''⟩ := hcommitted h
  have ha' := hgrow a ha
  exact ⟨hdecided'.agreedTo hsound hagreed' ha, ha',
    hdecided''.agreedTo hsound'' hagreed'' ha'⟩

/-! ## A lounge -/

namespace Lounge

def order : String := uuid "1"

def brakes : String := uuid "2"

def tyres : String := uuid "3"

def first : String := uuid "4"

def second : String := uuid "5"

def priced (cents : Rat) : PriceRef := ⟨.number cents, .absent⟩

/-- A car with worn brakes, which nobody has been asked about. -/
def shop : Shop :=
  { Shop.opening "t" [] [] [] [] with
    repair_orders := [⟨order, uuid "6", none, "c", "v", .estimate_pending, none⟩]
    ro_line_items := [⟨brakes, order, .labor, none, "brakes", .proposed, .not_required, none, none,
      none, none, none, none, some (priced 100)⟩] }

theorem shop_sound : QuotesSound shop := by
  refine ⟨by decide, by decide, by decide, fun l hl id hid => ?_, fun a ha => ?_⟩
  · rw [mem_singleton.mp hl] at hid
    cases hid
  · cases ha

theorem shop_decided : Decided shop := by
  refine ⟨fun a ha => ?_, fun a ha => ?_, fun l hl hstatus => ?_, fun l hl hstatus => ?_⟩
  · cases ha
  · cases ha
  · rw [mem_singleton.mp hl] at hstatus
    cases hstatus
  · rw [mem_singleton.mp hl] at hstatus
    cases hstatus

theorem shop_agreed : Agreed shop := by
  intro a ha
  cases ha

/-- The advisor, with the ids drawn for a call. -/
def advisor (id next : String) : ServiceWorld :=
  ⟨"advisor", [.service_advisor], 0, uuid id, uuid next, fun s => s⟩

def add (id : String) : ServiceCall :=
  .addLineItem (advisor id "") order ⟨some .labor, none, "tyres", none, none, false⟩

def quote (id : String) : ServiceCall := .generateEstimate (advisor id "") order none

def send (estimateId next : String) : ServiceCall :=
  .sendEstimate (advisor "" next) order estimateId

def answer (id estimateId : String) (approved declined : List String) : ServiceCall :=
  .recordAuthorization (advisor id "") order
    ⟨estimateId, "portal", .items approved, .items declined, true, none, none⟩

def reprice (lineItemId : String) (cents : Rat) : ServiceCall :=
  .updateLineItem (advisor "" "") order lineItemId
    ⟨false, false, none, none, some (.object (priced cents))⟩

def work (lineItemId : String) (status : LineStatus) : ServiceCall :=
  .updateLineItem (advisor "" "") order lineItemId ⟨false, false, some (some status), none, none⟩

def requote (next : String) : ServiceCall :=
  .transitionRO (advisor "" next) order .estimate_pending ⟨none, none⟩

abbrev serve : List (Event ServiceCall) → ServiceServer :=
  served LotLock.conflicts ServiceCall.program shop

/-- Brakes and tyres are asked about together; the brakes are approved, the tyres are not. -/
def visit : List (Event ServiceCall) :=
  oneByOne 12 [add "3", quote "4", send first "7", answer "8" first [brakes] [tyres]] 0

/-- Afterwards somebody reprices the brakes, opens the tyres and quotes everything again. -/
def afterwards : List (Event ServiceCall) :=
  oneByOne 12 [reprice brakes 900, work tyres .proposed, requote "9", quote "5"] 4

/-- The brakes are approved by somebody who writes uuids in capitals. -/
def inCapitals : List (Event ServiceCall) :=
  oneByOne 12 [quote "4", send first "7", answer "8" first
    ["A0000000-0000-4000-8000-000000000002"] []] 0

/-- The brakes are quoted, and the tyres later, on an estimate of their own; only that one is
sent, and both are approved on it. -/
def mixed : List (Event ServiceCall) :=
  oneByOne 12 [quote "4", add "3", quote "5", send second "7",
    answer "8" second [brakes, tyres] []] 0

/-- A line has been decided that the answered estimate has not put to the customer. -/
def mixes : ServiceEnding → Bool
  | .committed _ _ before after => after.ro_authorizations.any fun a =>
    a ∉ before.ro_authorizations && (a.approved_items ++ a.declined_items).any fun id =>
      before.ro_line_items.all fun l => l.line_item_id ≠ id || l.estimate_id ≠ some a.estimate_id
  | _ => false

theorem not_mixes {e : ServiceEnding} (h : RecordsDuly e) : mixes e = false := by
  rcases e with ⟨c, answer, before, after⟩ | _ | _
  · refine any_eq_false.mpr fun a ha hmixed => ?_
    rw [Bool.and_eq_true, decide_eq_true_eq] at hmixed
    obtain ⟨id, hid, hall⟩ := any_eq_true.mp hmixed.2
    obtain ⟨l, hl, hlid, -, -, hasked⟩ := (h a ha hmixed.1).2 id hid
    have hnone := all_eq_true.mp hall l hl
    rw [Bool.or_eq_true, decide_eq_true_eq, decide_eq_true_eq] at hnone
    exact hnone.elim (fun hne => hne hlid) fun hne => hne hasked
  · rfl
  · rfl

end Lounge

open Lounge in
/-- One decision on both lines. -/
theorem visit_decides_once :
    (serve visit).committed.ro_line_items.map
        (fun l => (l.line_item_id, l.authorization_status)) =
      [(brakes, .approved), (tyres, .declined)] ∧ DecidesOnce shop (serve visit) :=
  ⟨by decide +kernel, decides_once shop_sound shop_decided (by decide +kernel)⟩

open Lounge in
/-- The brakes are approved on an estimate that does not name them, and theirs was never sent. -/
theorem mixed_decides_unasked :
    (serve mixed).committed.ro_line_items.map (fun l => (l.authorization_status, l.estimate_id)) =
        [(.approved, some first), (.approved, some second)] ∧
      ¬ DecidesOnce shop (serve mixed) := by
  refine ⟨by decide +kernel, fun h => ?_⟩
  have hkept : ∀ e ∈ (serve mixed).history, mixes e = false := fun e he => not_mixes (h.duly e he)
  exact absurd hkept (by decide +kernel)

set_option maxRecDepth 4000 in
open Lounge in
/-- Nothing that was tried afterwards has moved the decision. -/
theorem visit_terms_stay :
    (serve (visit ++ afterwards)).committed.ro_line_items.map
        (fun l => (l.line_item_id, l.authorization_status, l.status)) =
      [(brakes, .approved, .proposed), (tyres, .declined, .declined)] ∧
      ∀ a ∈ (serve visit).committed.ro_authorizations, AgreedTo a (serve visit).committed ∧
        a ∈ (serve (visit ++ afterwards)).committed.ro_authorizations ∧
          AgreedTo a (serve (visit ++ afterwards)).committed :=
  ⟨by decide +kernel, agreed_terms_stay shop_sound shop_decided shop_agreed (by decide +kernel)⟩

open Lounge in
/-- The brakes are approved, on no terms. -/
theorem capitals_agree_to_nothing :
    (serve inCapitals).committed.ro_authorizations.map
        (fun a => (a.approved_items, a.approved_snapshot)) = [([brakes], [])] ∧
      (serve inCapitals).committed.ro_line_items.map (·.authorization_status) = [.approved] ∧
        ¬ ∀ a ∈ (serve inCapitals).committed.ro_authorizations,
          AgreedTo a (serve inCapitals).committed := by
  refine ⟨by decide +kernel, by decide +kernel, fun h => ?_⟩
  have hkept : ∀ a ∈ (serve inCapitals).committed.ro_authorizations, ∀ id ∈ a.approved_items,
      ∃ t ∈ a.approved_snapshot, t.line_item_id = id := by
    intro a ha id hid
    obtain ⟨⟨l, hl, hlid⟩, hall⟩ := (h a ha).approved id hid
    have hfound := (hall l hl hlid).2
    exact ⟨l.terms, mem_of_find?_eq_some hfound, hlid⟩
  exact absurd hkept (by decide +kernel)

end Dealership.Service
