import Dealership.Service.Quotes
import Dealership.Service.Writes
import Mathlib.Data.List.MinMax
import Mathlib.Order.Nat

/-!
# Each call keeps quotes in order

The scripts, one by one, against whatever others commit between their statements.  A call that
quotes, answers or withdraws has locked the order first, so at its end the estimates and what
the lines stand for are as it read them; what it has read of the prices of the lines, or of
their work, lasts only where nobody else has touched it.
-/

namespace Dealership.Service

open Library List
open Inventory (LotLock)
open Sales (Locked)

variable {roId : String}

/-- A decision names lines that the estimate it answers has put to the customer. -/
def ServiceCall.KeepsToEstimate (c : ServiceCall) (held : List LotLock) (d : Shop) : Prop :=
  match c with
  | .recordAuthorization w _ input =>
    .index "ro_authorizations_pkey" w.newId ∈ held → ∀ l ∈ d.ro_line_items,
      l.line_item_id ∈ input.approved_items.named ++ input.declined_items.named →
        l.estimate_id = some input.estimate_id
  | _ => True

instance (held : List LotLock) (d : Shop) :
    ∀ c : ServiceCall, Decidable (c.KeepsToEstimate held d)
  | .recordAuthorization w _ input => inferInstanceAs (Decidable
      (.index "ro_authorizations_pkey" w.newId ∈ held → ∀ l ∈ d.ro_line_items,
        l.line_item_id ∈ input.approved_items.named ++ input.declined_items.named →
          l.estimate_id = some input.estimate_id))
  | .createRO .. | .checkIn .. | .addLineItem .. | .updateLineItem .. | .dispatchTech ..
  | .startMPISession .. | .generateEstimate .. | .sendEstimate .. | .transitionRO ..
  | .createComebackCase .. => .isTrue trivial

/-- The contract of a call, or of a part of one that answers a `B`, where every turn finds what
`F` says of it. -/
def quoting (B : Type) (F : ServiceCall → List LotLock → Shop → Prop) (put : List String)
    (counted : Prop) : Contract ServiceCall Shop LotLock ServiceError B where
  inv := QuotesSound
  rely := fun _ => QuotesKept put counted
  finds := F
  ensures := fun c held _ d d' => QuoteMoves put counted held c d d' ∧ F c held d
  mayRaise := fun _ _ => True

section Sound

variable {F : ServiceCall → List LotLock → Shop → Prop} {put : List String} {counted : Prop}
  {A B : Type} {c : ServiceCall} {held : List LotLock} {pending : Shop → Shop} {d : Shop}
  {d' : Shop} {e : Estimate}

instance : (quoting B F put counted).Tolerant c := ⟨fun _ => trivial⟩

theorem quoting_regular (c : ServiceCall) : (quoting B F put counted).Regular c :=
  ⟨fun _ _ => .refl _ _, fun _ _ _ _ => .trans, fun _ _ _ _ hsub => .mono hsub⟩

/-! ### Parts of calls -/

/-- A part of a call that leaves what is asked and answered is passed over. -/
theorem quoting_aside {s : ServiceWork A} (hs : s.Writes SameQuotes) {k : A → ServiceWork B}
    (h : ∀ a pending' d' more, (∀ k ∈ held, k ∈ more) → QuotesKept put counted held d d' →
      (∀ x, SameQuotes (pending x) (pending' x)) →
        (quoting B F put counted).Sound c (k a) more pending' d') :
    (quoting B F put counted).Sound c (s >>= k) held pending d := by
  refine Contract.Sound.past_writes (Q := fun x y => SameQuotes (pending x) y)
    (fun _ _ _ => .trans) (quoting_regular c) (fun _ => trivial) hs
    (fun x => .refl (pending x)) ?_
  exact fun a held' pending' d' hsub hp hr => h a pending' d' held' hsub hr hp

theorem quoting_commits {b : B}
    (h : ∀ d', QuotesKept put counted held d d' → QuotesSound d' →
      QuoteMoves put counted held c d' (pending d')) :
    (quoting B F put counted).Sound c (pure b) held pending d := by
  intro d' hr hi hf
  have hmoves := h d' hr hi
  exact ⟨hmoves.sound hi, hmoves, hf⟩

/-- The end of a call that has done with what is asked and answered. -/
theorem quoting_ends {s : ServiceWork B} (hs : s.Writes SameQuotes)
    (h : ∀ more d', (∀ k ∈ held, k ∈ more) → QuotesKept put counted held d d' → QuotesSound d' →
      ∀ after, SameQuotes (pending d') after → QuoteMoves put counted more c d' after) :
    (quoting B F put counted).Sound c s held pending d := by
  refine Contract.Sound.of_writes (Q := fun x y => SameQuotes (pending x) y)
    (fun _ _ _ => .trans) (quoting_regular c) (fun _ => trivial) hs
    (fun x => .refl (pending x)) ?_
  intro a held' pending' d' hsub hp hr
  exact quoting_commits fun d'' hr' hi =>
    h held' d'' hsub (hr.trans (hr'.mono hsub)) hi _ (hp d'')

theorem quoting_leaves {s : ServiceWork B} (hs : s.Writes SameQuotes) :
    (quoting B F put counted).Sound c s held (fun x => x) d :=
  quoting_ends hs fun _ _ _ _ _ _ hafter => .stays hafter

/-! ### What is no part of a quote -/

variable (w : ServiceWorld)

theorem syncQueueForRO_aside (ro : RepairOrder) :
    (syncQueueForRO w ro).Writes SameQuotes :=
  syncQueueForRO_writes .refl (fun _ _ => ⟨rfl, rfl, rfl⟩) w ro

theorem recordROEvent_aside (roId : String) (event : ROEventType) :
    (recordROEvent w roId event).Writes SameQuotes :=
  recordROEvent_writes (fun _ _ => ⟨rfl, rfl, rfl⟩) w roId event

theorem moveRO_aside (roId : String) (sources : List ROStatus) (target : ROStatus) :
    (moveRO roId sources target).Writes SameQuotes :=
  moveRO_writes (fun _ _ => ⟨rfl, rfl, rfl⟩) .refl roId sources target

theorem told_aside (ro : RepairOrder) (roId : String) (sources : List ROStatus) (target : ROStatus)
    (event : ROEventType) (b : B) :
    (moveRO roId sources target >>= fun moved =>
      (if moved = true then syncQueueForRO w ro else pure ()) >>= fun _ =>
        recordROEvent w roId event >>= fun _ => pure b).Writes SameQuotes := by
  refine (moveRO_aside _ _ _).bind fun _ => (where_writes (syncQueueForRO_aside _ _)).bind ?_
  exact fun _ => (recordROEvent_aside _ _ _).bind fun _ => writes_pure b

theorem createRO_aside (input : ROInput) :
    (createRO w input).Writes SameQuotes := by
  unfold createRO
  refine (insist_writes _ _).bind fun _ => (insist_writes _ _).bind fun _ => ?_
  refine (insist_writes _ _).bind fun _ => (insist_writes _ _).bind fun _ => ?_
  refine (insist_writes _ _).bind fun _ => ?_
  refine (requireFreeAppointment_writes .refl _).bind fun _ => ?_
  refine (insertRO_writes (fun _ _ => ⟨rfl, rfl, rfl⟩) _).bind fun _ => ?_
  exact (recordROEvent_aside _ _ _).bind fun _ => writes_pure _

theorem checkIn_aside (appointmentId : String) (odometer : Option Rat) :
    (checkIn w appointmentId odometer).Writes SameQuotes := by
  unfold checkIn
  refine (insist_writes _ _).bind fun _ => (insist_writes _ _).bind fun _ => ?_
  refine (lockAppointment_writes .refl _).bind fun appt => ?_
  refine (writes_select .refl _).bind fun existing => ?_
  cases existing with
  | some ro => exact writes_pure _
  | none =>
    refine (insist_writes _ _).bind fun _ => ?_
    refine (insertRO_writes (fun _ _ => ⟨rfl, rfl, rfl⟩) _).bind fun _ => ?_
    refine (writes_execute (fun _ _ => ⟨rfl, rfl, rfl⟩) _ _ _ _).bind fun _ => ?_
    refine (recordROEvent_aside _ _ _).bind fun _ => (syncQueueForRO_aside _ _).bind fun _ => ?_
    refine (writes_execute (fun _ _ => ⟨rfl, rfl, rfl⟩) _ _ _ _).bind fun _ => ?_
    exact writes_pure _

theorem startMPISession_aside (roId templateId techUserId : String) :
    (startMPISession w roId templateId techUserId).Writes SameQuotes := by
  unfold startMPISession
  refine (insist_writes _ _).bind fun _ => (insist_writes _ _).bind fun _ => ?_
  refine (assertRO_writes .refl _ _).bind fun ro => (insist_writes _ _).bind fun _ => ?_
  refine (writes_select .refl _).bind fun _ => (insist_writes _ _).bind fun _ => ?_
  refine (writes_execute (fun _ _ => ⟨rfl, rfl, rfl⟩) _ _ _ _).bind fun _ => ?_
  exact told_aside w _ roId _ _ _ _

theorem createComebackCase_aside (input : ComebackInput) :
    (createComebackCase w input).Writes SameQuotes := by
  unfold createComebackCase
  refine (insist_writes _ _).bind fun _ => (insist_writes _ _).bind fun _ => ?_
  refine (insist_writes _ _).bind fun _ => ?_
  generalize jsLe input.original_ro_id input.new_ro_id = sorted
  dsimp only
  refine (assertRO_writes .refl _ _).bind fun _ => (assertRO_writes .refl _ _).bind fun _ => ?_
  refine (assertRO_writes .refl _ _).bind fun _ => (insist_writes _ _).bind fun _ => ?_
  refine (writes_execute (fun _ _ => ⟨rfl, rfl, rfl⟩) _ _ _ _).bind fun _ => ?_
  refine (moveRO_aside _ _ _).bind fun _ => (where_writes (syncQueueForRO_aside _ _)).bind ?_
  refine fun _ => (recordROEvent_aside _ _ _).bind fun _ => (recordROEvent_aside _ _ _).bind ?_
  exact fun _ => writes_pure _

/-! ### Lines -/

theorem addLineItem_quoting (roId : String) (input : LineInput) :
    (quoting LineItem F put counted).Sound (.addLineItem w roId input)
      (addLineItem w roId input) [] (fun x => x) d := by
  unfold addLineItem
  refine insist_sound fun _ => ?_
  cases input.line_type with
  | none => exact trivial
  | some lineType =>
    refine insist_sound fun _ => insist_sound fun _ => ?_
    refine assertRO_sound fun r d₁ held₁ _ _ _ _ _ _ => ?_
    refine insertLine_sound fun d₂ held₂ _ horder hkey hfree => ?_
    refine quoting_commits fun d₃ hr₃ _ => ?_
    exact .adds horder hkey (hr₃.lineKeys _ hkey hfree) rfl rfl (.refl _)

theorem updateLineItem_quoting (roId lineItemId : String) (updates : LineUpdates) :
    (quoting LineItem F put counted).Sound (.updateLineItem w roId lineItemId updates)
      (updateLineItem w roId lineItemId updates) [] (fun x => x) d := by
  unfold updateLineItem
  refine validateUpdates_sound ?_
  refine assertRO_sound fun r d₁ held₁ _ _ _ _ _ _ => ?_
  refine assertLineItem_sound fun l d₂ held₂ hid hro _ hlock _ _ hl => ?_
  subst hid hro
  unfold requireUnfrozen
  simp only [Script.bind_assoc]
  refine insist_sound fun _ => ?_
  refine insist_sound fun hrefused => ?_
  refine insist_sound fun hpending => ?_
  refine insist_sound fun happroved => insist_sound fun _ => ?_
  unfold writeLine
  refine sound_execute_bind fun d₃ held₃ hsub₃ hlocks₃ hr₃ _ _ _ => ?_
  refine insist_sound fun hhit => ?_
  rw [if_pos hhit] at hlocks₃
  have hrow : .row "ro_line_items" l.line_item_id .noKeyUpdate ∈ held₃ := hlocks₃ _ mem_cons_self
  simp only [if_pos hhit]
  refine quoting_commits fun d₄ hr₄ _ => ?_
  refine .edits hrow ((hr₃.trans (hr₄.mono hsub₃)).lines l hl hlock) ?_ ?_ (.refl _)
  · intro hdeclined s hs
    rw [Bool.or_eq_true, decide_eq_true_eq] at hrefused
    have hall := hrefused.resolve_left fun hne => hne hdeclined
    rw [hs] at hall
    exact of_decide_eq_true hall
  · intro hstatus
    rw [Bool.or_eq_true, decide_eq_true_eq, Bool.not_eq_true'] at hpending happroved
    rcases hstatus with hstatus | hstatus
    · exact hpending.resolve_left fun hne => hne hstatus
    · exact happroved.resolve_left fun hne => hne hstatus

theorem dispatchTech_quoting (input : DispatchInput) :
    (quoting WorkTicket F put counted).Sound (.dispatchTech w input) (dispatchTech w input) []
      (fun x => x) d := by
  unfold dispatchTech
  refine requireUuid_sound ?_
  refine assertRO_sound fun r d₁ held₁ _ _ _ _ _ _ => ?_
  refine assertLineItem_sound fun l d₂ held₂ _ _ _ _ _ _ _ => ?_
  refine sound_select_bind fun d₃ _ _ _ => insist_sound fun _ => ?_
  refine store_sound fun d₄ held₄ _ _ _ _ _ => ?_
  refine sound_execute_bind fun d₅ held₅ _ _ _ _ _ _ => ?_
  refine store_sound fun d₆ held₆ _ hlocks₆ _ _ _ => ?_
  exact quoting_commits fun d₇ _ _ => .dispatches (hlocks₆ _ mem_cons_self) ⟨rfl, rfl, rfl⟩

/-! ### Estimates -/

theorem QuotesKept.estimate (hr : QuotesKept put counted held d d')
    (hlock : orderLock e.ro_id ∈ held) (he : e ∈ d.ro_estimates) : e ∈ d'.ro_estimates := by
  have hof : e ∈ d'.estimatesOf e.ro_id := by
    rw [hr.files _ hlock]
    exact mem_filter.mpr ⟨he, decide_eq_true rfl⟩
  exact (mem_filter.mp hof).1

theorem QuotesKept.unquoted (hr : QuotesKept put counted held d d') (hd' : QuotesSound d')
    (hlocked : ∀ id ∈ (unquotedLines roId d).map (·.line_item_id),
      .row "ro_line_items" id .noKeyUpdate ∈ held) :
    ∀ l ∈ d'.ro_line_items, l.line_item_id ∈ (unquotedLines roId d).map (·.line_item_id) →
      l ∈ unquotedLines roId d' := by
  intro l hl hin
  obtain ⟨m, hm, hid⟩ := mem_map.mp hin
  obtain ⟨hof, hunquoted⟩ := mem_filter.mp hm
  obtain ⟨hmem, hro⟩ := mem_linesOf.mp hof
  have hm' := hr.lines m hmem (.inr (hlocked _ (mem_map_of_mem hm)))
  obtain rfl := eq_of_key hd'.lines hl hm' hid.symm
  exact mem_filter.mpr ⟨mem_linesOf.mpr ⟨hm', hro⟩, hunquoted⟩

theorem generateEstimate_quoting (roId : String) (languageMode : Option String) :
    (quoting Estimate F put counted).Sound (.generateEstimate w roId languageMode)
      (generateEstimate w roId languageMode) [] (fun x => x) d := by
  unfold generateEstimate
  refine insist_sound fun _ => ?_
  refine assertRO_sound fun r d₁ held₁ hid _ hlock _ _ _ => ?_
  subst hid
  refine insist_sound fun _ => ?_
  refine sound_selectLocking_bind fun d₂ held₂ hsub₂ hlocks₂ _ _ _ => ?_
  have hmark : quoteMark w.newId ∈ held₂ := hlocks₂ _ mem_cons_self
  refine insist_sound fun _ => ?_
  refine sound_select_bind fun d₃ hr₃ _ _ => ?_
  refine insist_sound fun hcurrency => ?_
  refine insertEstimate_sound fun d₄ held₄ hsub₄ hr₄ hkey hfresh => ?_
  refine store_sound fun d₅ held₅ hsub₅ hlocks₅ hr₅ _ _ => ?_
  have hlocked := mem_rowLocks hlocks₅
  refine quoting_ends (told_aside w _ r.ro_id _ _ _ _) ?_
  intro held₆ d₆ hsub₆ hr₆ hi₆ after hafter
  have hr₂₅ := (hr₃.trans hr₄).trans (hr₅.mono hsub₄)
  have hr₂₆ := hr₂₅.trans (hr₆.mono fun k hk => hsub₅ _ (hsub₄ _ hk))
  have hup : ∀ k ∈ held₂, k ∈ held₆ := fun k hk => hsub₆ _ (hsub₅ _ (hsub₄ _ hk))
  have hlock₂ : orderLock r.ro_id ∈ held₂ := hsub₂ _ hlock
  refine .quotes ?_ ?_ ?_ ?_ ?_ ?_ ?_ hafter
  · exact hup _ hlock₂
  · exact hsub₆ _ (hsub₅ _ hkey)
  · exact (hr₅.trans (hr₆.mono hsub₅)).estimateKeys _ hkey hfresh
  · rfl
  · exact fun id hin => hsub₆ _ (hlocked id hin)
  · exact hr₆.unquoted hi₆ hlocked
  · intro hput
    have hread := hr₂₅.quoted _ hlock₂ ⟨_, hput, hmark⟩
    have hfound := hr₂₆.quoted _ hlock₂ ⟨_, hput, hmark⟩
    refine ⟨(ids_of_priced hread).trans (ids_of_priced hfound).symm,
      (figures_of_priced hfound).symm, ?_⟩
    rw [oneCurrency_of_priced hfound]
    exact hcurrency

theorem sendEstimate_quoting (roId estimateId : String) :
    (quoting Estimate F put counted).Sound (.sendEstimate w roId estimateId)
      (sendEstimate w roId estimateId) [] (fun x => x) d := by
  unfold sendEstimate setEstimate
  refine requireUuid_sound ?_
  refine assertRO_sound fun r d₁ held₁ hid _ hlock _ _ _ => ?_
  refine insist_sound fun _ => ?_
  refine lockEstimate_sound fun e d₂ held₂ heid hero hsub₂ _ he => ?_
  subst heid hero
  refine insist_sound fun hdraft => ?_
  refine store_sound fun d₃ held₃ hsub₃ _ hr₃ _ _ => ?_
  refine quoting_ends (told_aside w _ e.ro_id _ _ _ _) ?_
  intro held₄ d₄ hsub₄ hr₄ _ after hafter
  have hlock₂ : orderLock e.ro_id ∈ held₂ := hsub₂ _ hlock
  exact .sends (hsub₄ _ (hsub₃ _ hlock₂))
    ((hr₃.trans (hr₄.mono hsub₃)).estimate hlock₂ he) (of_decide_eq_true hdraft) hafter

/-! ### Decisions -/

theorem exists_latestEstimate (he : e ∈ d.estimatesOf roId) :
    ∃ f ∈ d.estimatesOf roId, latestEstimate roId d = some f := by
  have hne : (d.estimatesOf roId).map Estimate.version ≠ [] := ne_nil_of_mem (mem_map_of_mem he)
  have hmax : maxVersion roId d ∈ (d.estimatesOf roId).map Estimate.version :=
    maximum_mem (foldr_max_of_ne_nil hne).symm
  obtain ⟨g, hg, hversion⟩ := mem_map.mp hmax
  cases hlatest : latestEstimate roId d with
  | none => exact absurd (decide_eq_true hversion) (find?_eq_none.mp hlatest g hg)
  | some f => exact ⟨f, mem_of_find?_eq_some hlatest, rfl⟩

theorem latestEstimate_congr (h : d'.estimatesOf roId = d.estimatesOf roId) :
    latestEstimate roId d' = latestEstimate roId d := by
  rw [latestEstimate, maxVersion, h, latestEstimate, maxVersion]

theorem requireAnswerable_quoting {estimateId : String} {k : Estimate → ServiceWork B}
    (hp : ∀ x, SameQuotes x (pending x)) (hlock : orderLock roId ∈ held)
    (h : ∀ e d' more, e.estimate_id = estimateId → e.ro_id = roId → (∀ k ∈ held, k ∈ more) →
      e ∈ d'.ro_estimates → e.status = .sent ∨ e.status = .partially_approved →
        latestEstimate roId d' = some e → (quoting B F put counted).Sound c (k e) more pending d') :
    (quoting B F put counted).Sound c (requireAnswerable roId estimateId >>= k) held pending d := by
  unfold requireAnswerable
  rw [Script.bind_assoc]
  refine lockEstimate_sound fun e d₁ held₁ hid hro hsub₁ _ he => ?_
  replace he : e ∈ d₁.ro_estimates := (hp d₁).estimates ▸ he
  simp only [Script.bind_assoc]
  refine insist_sound fun hstatus => ?_
  refine sound_select_bind fun d₂ hr₂ hi₂ _ => insist_sound ?_
  intro hcurrent
  subst hro
  have he₂ : e ∈ d₂.ro_estimates := hr₂.estimate (hsub₁ _ hlock) he
  refine h e d₂ held₁ hid rfl hsub₁ he₂ ?_ ?_
  · rwa [Bool.or_eq_true, decide_eq_true_eq, decide_eq_true_eq] at hstatus
  · obtain ⟨f, hf, hlatest⟩ := exists_latestEstimate (mem_filter.mpr ⟨he₂, decide_eq_true rfl⟩)
    rw [latestEstimate_congr ((hp d₂).estimatesOf _), hlatest, Option.all_some,
      decide_eq_true_eq] at hcurrent
    rwa [eq_of_key hi₂.estimates (mem_filter.mp hf).1 he₂ hcurrent] at hlatest

/-- What has been asked for by its ids is found in full where as many lines are found, and each
has been asked for once. -/
theorem perm_of_length_eq {lines : List LineItem} {ids : List String}
    (hkeys : (lines.map LineItem.line_item_id).Nodup)
    (hsub : ∀ l ∈ lines, l.line_item_id ∈ ids) (hlength : lines.length = ids.length) :
    lines.map LineItem.line_item_id ~ ids := by
  have hsubset : lines.map LineItem.line_item_id ⊆ ids := by
    intro id hid
    obtain ⟨l, hl, rfl⟩ := mem_map.mp hid
    exact hsub l hl
  exact (subperm_of_subset hkeys hsubset).perm_of_length_le (by rw [length_map, hlength])

/-- The lines a decision names are those of the order, each named once, and locked. -/
theorem assertLineItemsOnRO_quoting {ids : List String} {k : List LineItem → ServiceWork B}
    (hp : ∀ x, SameQuotes x (pending x))
    (h : ∀ d' more, (∀ k ∈ held, k ∈ more) → QuotesKept put counted held d d' → QuotesSound d' →
      (ids.map canonicalUuid).Nodup →
      (∀ id ∈ ids.map canonicalUuid, Locked more "ro_line_items" id ∧
        ∃ l ∈ d'.ro_line_items, l.line_item_id = id ∧ l.ro_id = roId) →
      (quoting B F put counted).Sound c
        (k ((d'.linesOf roId).filter fun l => l.line_item_id ∈ ids.map canonicalUuid)) more
          pending d') :
    (quoting B F put counted).Sound c (assertLineItemsOnRO roId ids >>= k) held pending d := by
  unfold assertLineItemsOnRO
  simp only [Script.bind_assoc]
  refine insist_sound fun _ => ?_
  refine sound_selectLocking_bind fun d' more hsub hlocks hr hi _ => ?_
  rw [(hp d').linesOf] at hlocks ⊢
  refine insist_sound fun hlength => ?_
  have hkeys : (((d'.linesOf roId).filter fun l => l.line_item_id ∈ ids.map canonicalUuid).map
      LineItem.line_item_id).Nodup :=
    hi.lines.sublist ((filter_sublist.trans filter_sublist).map _)
  have hperm : map LineItem.line_item_id _ ~ ids.map canonicalUuid :=
    perm_of_length_eq hkeys (fun l hl => of_decide_eq_true (mem_filter.mp hl).2)
      ((of_decide_eq_true hlength).trans (length_map _).symm)
  refine h d' more hsub hr hi (hperm.nodup_iff.mp hkeys) fun id hid => ?_
  obtain ⟨l, hl, hlid⟩ := mem_map.mp (hperm.mem_iff.mpr hid)
  obtain ⟨hmem, hro⟩ := mem_linesOf.mp (mem_filter.mp hl).1
  refine ⟨.inl ?_, l, hmem, hlid, hro⟩
  rw [← hlid]
  exact hlocks _ (mem_map_of_mem hl)

/-- What a decision has found is found by whoever holds what it was found under. -/
theorem Answers.kept {a : ROAuthorization} {more : List LotLock} (h : Answers held e a d)
    (hsub : ∀ k ∈ held, k ∈ more) (hr : QuotesKept put counted held d d') :
    Answers more e a d' := by
  have hline : ∀ id ∈ a.approved_items ++ a.declined_items, ∃ l ∈ d.ro_line_items,
      l ∈ d'.ro_line_items ∧ l.line_item_id = id ∧ l.ro_id = e.ro_id ∧
        l.authorization_status = .pending := by
    intro id hid
    obtain ⟨l, hl, rfl, hrest⟩ := h.pending id hid
    exact ⟨l, hl, hr.lines l hl (h.locked _ hid), rfl, hrest⟩
  constructor
  · exact hsub _ h.lock
  · exact hr.estimate h.lock h.estimate
  · exact h.answerable
  · rw [latestEstimate_congr (hr.files _ h.lock), h.latest]
  · exact h.order
  · exact h.names
  · exact fun id hid => (h.locked id hid).mono hsub
  · intro id hid
    obtain ⟨l, -, hl', hrest⟩ := hline id hid
    exact ⟨l, hl', hrest⟩
  · exact h.apart

theorem Answers.terms_kept {a : ROAuthorization} {ids : List String} (h : Answers held e a d)
    (ht : a.KeepsTerms ids d) (hr : QuotesKept put counted held d d') (hd' : QuotesSound d') :
    a.KeepsTerms ids d' := by
  intro l hl hin hspelled
  obtain ⟨m, hm, hid, -⟩ := h.pending _ (mem_append_left _ hin)
  have hm' := hr.lines m hm (h.locked _ (mem_append_left _ (hid ▸ hin)))
  rw [eq_of_key hd'.lines hl hm' hid.symm]
  exact ht m hm (hid ▸ hin) (hid ▸ hspelled)

theorem find?_terms {lines : List LineItem} (hkeys : (lines.map LineItem.line_item_id).Nodup)
    {l : LineItem} (hl : l ∈ lines) :
    ((lines.map LineItem.terms).find? fun t => t.line_item_id = l.line_item_id) = some l.terms := by
  rw [find?_map]
  have hfind : lines.find? (fun m => m.line_item_id = l.line_item_id) = some l :=
    find?_eq_some_of_key hkeys hl
  exact congrArg (Option.map LineItem.terms) hfind

theorem validateDecision_sound {input : AuthorizationInput} {k : AuthorizationMethod → ServiceWork B}
    (h : ∀ method, input.approved_items.named ++ input.declined_items.named ≠ [] →
      (quoting B F put counted).Sound c (k method) held pending d) :
    (quoting B F put counted).Sound c (validateDecision input >>= k) held pending d := by
  unfold validateDecision
  rw [Script.bind_assoc]
  refine requireUuid_sound ?_
  cases AuthorizationMethod.parse input.method with
  | none => exact trivial
  | some method =>
    simp only [Script.bind_assoc]
    refine insist_sound fun _ => insist_sound fun _ => ?_
    refine insist_sound fun hsome => ?_
    refine insist_sound fun _ => ?_
    refine insist_sound fun _ => insist_sound fun _ => ?_
    refine h method fun hempty => ?_
    rw [append_eq_nil_iff, Items.named, Items.named, map_eq_nil_iff, map_eq_nil_iff] at hempty
    rw [hempty.1, hempty.2] at hsome
    cases hsome

/-! ### Counting -/

section Counting

variable {id : String} {x y : Shop}

theorem countP_linesOf (hx : ∀ l ∈ x.ro_line_items, l.estimate_id = some id → l.ro_id = roId)
    {p : LineItem → Bool} (hp : ∀ l, p l = true → l.estimate_id = some id) :
    (x.linesOf roId).countP p = x.ro_line_items.countP p := by
  rw [Shop.linesOf, countP_filter]
  refine countP_congr fun l hl => ?_
  rw [Bool.and_eq_true, decide_eq_true_eq]
  exact ⟨fun h => h.1, fun h => ⟨h, hx l hl (hp l h)⟩⟩

theorem tally_eq (hx : ∀ l ∈ x.ro_line_items, l.estimate_id = some id → l.ro_id = roId)
    (hsome : ∃ l ∈ x.ro_line_items, l.estimate_id = some id) :
    tally roId id x = (decidedOn id .approved x, decidedOn id .declined x, openOn id x) := by
  obtain ⟨l, hl, hasked⟩ := hsome
  have hpos : 0 < ((x.linesOf roId).filter fun l => l.estimate_id = some id).length :=
    length_pos_of_mem (mem_filter.mpr ⟨mem_linesOf.mpr ⟨hl, hx l hl hasked⟩, decide_eq_true hasked⟩)
  have hcount : ∀ p : LineItem → Bool, (((x.linesOf roId).filter fun l =>
      l.estimate_id = some id).filter p).length =
        x.ro_line_items.countP fun l => l.estimate_id = some id && p l := by
    intro p
    rw [← countP_eq_length_filter, countP_filter]
    rw [← countP_linesOf hx fun l h => of_decide_eq_true (Bool.and_eq_true_iff.mp h).1]
    refine countP_congr fun l _ => ?_
    rw [Bool.and_comm]
  unfold tally
  dsimp only
  rw [if_pos hpos, hcount, hcount, hcount, decidedOn, decidedOn, openOn]
  simp only [Bool.and_assoc]

theorem statusOf_congr (hx : ∀ l ∈ x.ro_line_items, l.estimate_id = some id → l.ro_id = roId)
    (hy : ∀ l ∈ y.ro_line_items, l.estimate_id = some id → l.ro_id = roId)
    (h : (x.linesOf roId).map (LineItem.toCount id) = (y.linesOf roId).map (LineItem.toCount id)) :
    (∀ status, decidedOn id status x = decidedOn id status y) ∧ openOn id x = openOn id y := by
  have hcount : ∀ {p : LineItem → Bool} (q : _ → Bool), (∀ l, p l = q (l.toCount id)) →
      (∀ l, p l = true → l.estimate_id = some id) →
        x.ro_line_items.countP p = y.ro_line_items.countP p := by
    intro p q hq hp
    have hcomp : p = q ∘ LineItem.toCount id := funext hq
    rw [← countP_linesOf hx hp, ← countP_linesOf hy hp, hcomp, ← countP_map, h, countP_map]
  constructor
  · intro status
    refine hcount (fun t => t.2.2.1 = some id && t.2.1 = status) (fun _ => rfl) fun l hl => ?_
    exact of_decide_eq_true (Bool.and_eq_true_iff.mp hl).1
  · refine hcount (fun t => t.2.2.1 = some id && t.2.1 = .pending && !t.2.2.2) (fun l => ?_) ?_
    · unfold LineItem.toCount
      dsimp only
      by_cases hasked : l.estimate_id = some id
      · by_cases hpending : l.authorization_status = .pending
        · simp [hasked, hpending]
        · simp [hpending]
      · simp [hasked]
    · intro l hl
      exact of_decide_eq_true (Bool.and_eq_true_iff.mp (Bool.and_eq_true_iff.mp hl).1).1

/-- Lines that a count finds alike are found alike when they are rewritten alike. -/
theorem map_toCount_setLines
    (h : (x.linesOf roId).map (LineItem.toCount id) = (y.linesOf roId).map (LineItem.toCount id))
    (ids : List String) {f : LineItem → LineItem}
    {g : String × LineAuthorization × Option String × Bool →
      String × LineAuthorization × Option String × Bool}
    (hf : ∀ l, (f l).ro_id = l.ro_id ∧ (f l).toCount id = g (l.toCount id)) :
    ((x.setLines ids f).linesOf roId).map (LineItem.toCount id) =
      ((y.setLines ids f).linesOf roId).map (LineItem.toCount id) := by
  have hmap : ∀ z : Shop, ((z.setLines ids f).linesOf roId).map (LineItem.toCount id) =
      ((z.linesOf roId).map (LineItem.toCount id)).map fun t => if t.1 ∈ ids then g t else t := by
    intro z
    have hcomm : (z.setLines ids f).linesOf roId =
        updateWhere (fun l => l.line_item_id ∈ ids) f (z.linesOf roId) :=
      filter_updateWhere_comm fun l => by rw [(hf l).1]
    rw [hcomm, updateWhere, map_map, map_map]
    refine map_congr_left fun l _ => ?_
    rw [Function.comp_apply, Function.comp_apply]
    by_cases hin : l.line_item_id ∈ ids
    · rw [if_pos hin, (hf l).2, if_pos (show (l.toCount id).1 ∈ ids from hin)]
    · rw [if_neg hin, if_neg (show (l.toCount id).1 ∉ ids from hin)]
  rw [hmap, h, hmap]

end Counting

section Deciding

variable {e : Estimate} {a : ROAuthorization} {d' : Shop}

theorem order_of_asked_decided (hd : QuotesSound d) (h : Answers held e a d)
    (status : EstimateStatus) : ∀ l ∈ (d.decided a status).ro_line_items,
      l.estimate_id = some e.estimate_id → l.ro_id = e.ro_id := by
  intro l hl hasked
  rcases decided_cases h.apart hl with ⟨hl, -⟩ | ⟨m, hm, -, rfl⟩ | ⟨m, hm, -, rfl⟩
  · exact hd.order_of_asked h.estimate hl hasked
  · exact hd.order_of_asked (l := m) h.estimate hm hasked
  · exact hd.order_of_asked (l := m) h.estimate hm hasked

theorem tally_decided (hd : QuotesSound d) (hd' : QuotesSound d') (h : Answers held e a d)
    (h' : Answers held e a d') (hsome : a.approved_items ++ a.declined_items ≠ [])
    (hkeeps : ∀ l ∈ d.ro_line_items, l.line_item_id ∈ a.approved_items ++ a.declined_items →
      l.estimate_id = some e.estimate_id)
    (hcount : (d'.linesOf e.ro_id).map (LineItem.toCount e.estimate_id) =
      (d.linesOf e.ro_id).map (LineItem.toCount e.estimate_id)) (status status' : EstimateStatus) :
    tally e.ro_id e.estimate_id (d.decided a status) =
      (decidedOn e.estimate_id .approved (d'.decided a status'),
        decidedOn e.estimate_id .declined (d'.decided a status'),
        openOn e.estimate_id (d'.decided a status')) := by
  have hmap : ((d'.decided a status').linesOf e.ro_id).map (LineItem.toCount e.estimate_id) =
      ((d.decided a status).linesOf e.ro_id).map (LineItem.toCount e.estimate_id) := by
    have happroved := map_toCount_setLines hcount a.approved_items
      (f := markApproved a.authorization_id) (g := fun t => (t.1, .approved, t.2.2.1, false))
      fun l => ⟨rfl, by simp [LineItem.toCount, markApproved]⟩
    exact map_toCount_setLines happroved a.declined_items
      (f := markDeclined a.authorization_id) (g := fun t => (t.1, .declined, t.2.2.1, false))
      fun l => ⟨rfl, by simp [LineItem.toCount, markDeclined]⟩
  obtain ⟨hdecided, hopen⟩ := statusOf_congr (order_of_asked_decided hd' h' status')
    (order_of_asked_decided hd h status) hmap
  rw [hdecided, hdecided, hopen]
  refine tally_eq (order_of_asked_decided hd h status) ?_
  obtain ⟨id, hid⟩ := exists_mem_of_ne_nil _ hsome
  obtain ⟨l, hl, rfl, -⟩ := h.pending id hid
  have hasked := hkeeps l hl hid
  rcases mem_append.mp hid with hin | hin
  · exact ⟨_, mem_decided_approved h.apart hl hin, hasked⟩
  · exact ⟨_, mem_decided_declined h.apart hl hin, hasked⟩

theorem SameQuotes.decided {d d' : Shop} (h : SameQuotes d d') (a : ROAuthorization)
    (status : EstimateStatus) : SameQuotes (d.decided a status) (d'.decided a status) := by
  have hadded : SameQuotes { d with ro_authorizations := d.ro_authorizations ++ [a] }
      { d' with ro_authorizations := d'.ro_authorizations ++ [a] } :=
    ⟨h.lines, h.estimates, congrArg (· ++ [a]) h.authorizations⟩
  exact ((hadded.setLines _ _).setLines _ _).setEstimates _ _

theorem decided_ends {w : ServiceWorld} {input : AuthorizationInput} {status : EstimateStatus}
    {event : ROEventType} (h : Answers held e a d)
    (hkey : .index "ro_authorizations_pkey" a.authorization_id ∈ held)
    (hfresh : ∀ b ∈ d.ro_authorizations, b.authorization_id ≠ a.authorization_id)
    (hdrawn : a.authorization_id = w.newId) (hanswered : e.estimate_id = input.estimate_id)
    (happroved : a.approved_items = input.approved_items.named)
    (hdeclined : a.declined_items = input.declined_items.named)
    (hterms : a.KeepsTerms input.approved_items.ids d)
    (hderived : ∃ n m k, status = deriveEstimateStatus n m k)
    (hexact : counted → ∀ d', QuotesKept put counted held d d' → QuotesSound d' →
      status = statusOf e.estimate_id (d'.decided a status))
    (hp : ∀ x, SameQuotes (x.decided a status) ((pending x).setEstimates [e.estimate_id] status)) :
    (quoting ROAuthorization F put counted).Sound (.recordAuthorization w e.ro_id input)
      (setEstimate e.estimate_id status >>= fun _ => recordROEvent w e.ro_id event >>= fun _ =>
        pure a) held pending d := by
  unfold setEstimate
  refine store_sound fun d₁ held₁ hsub₁ _ hr₁ _ _ => ?_
  refine quoting_ends ((recordROEvent_aside _ _ _).bind fun _ => writes_pure a) ?_
  intro held₂ d₂ hsub₂ hr₂ hi₂ after hafter
  have hr := hr₁.trans (hr₂.mono hsub₁)
  have hup : ∀ k ∈ held, k ∈ held₂ := fun k hk => hsub₂ _ (hsub₁ _ hk)
  exact .decides (h.kept hup hr) (hup _ hkey) (hr.authorizationKeys _ hkey hfresh) hdrawn
    hanswered happroved hdeclined (h.terms_kept hterms hr hi₂) hderived
    (fun hc => hexact hc d₂ hr hi₂)
    ((hp d₂).trans hafter)

end Deciding

theorem answers_of_found (input : AuthorizationInput) (method : AuthorizationMethod)
    (hlock : orderLock e.ro_id ∈ held) (he : e ∈ d.ro_estimates) (hid : e.estimate_id = input.estimate_id)
    (hstatus : e.status = .sent ∨ e.status = .partially_approved)
    (hlatest : latestEstimate e.ro_id d = some e)
    (hapart : ∀ id ∈ input.approved_items.named, id ∉ input.declined_items.named)
    (hfound : ∀ id ∈ input.approved_items.named ++ input.declined_items.named,
      Locked held "ro_line_items" id ∧
        ∃ l ∈ d.ro_line_items, l.line_item_id = id ∧ l.ro_id = e.ro_id)
    (hpending : ∀ l ∈ (d.linesOf e.ro_id).filter fun l =>
      l.line_item_id ∈ input.approved_items.named ++ input.declined_items.named,
        l.authorization_status = .pending) :
    Answers held e (decision w e.ro_id input method ((d.linesOf e.ro_id).filter fun l =>
      l.line_item_id ∈ input.approved_items.named ++ input.declined_items.named)) d := by
  constructor
  · exact hlock
  · exact he
  · exact hstatus
  · exact hlatest
  · rfl
  · exact hid.symm
  · exact fun id hin => (hfound id hin).1
  · intro id hin
    obtain ⟨-, l, hl, rfl, hro⟩ := hfound id hin
    refine ⟨l, hl, rfl, hro, hpending l ?_⟩
    exact mem_filter.mpr ⟨mem_linesOf.mpr ⟨hl, hro⟩, decide_eq_true hin⟩
  · exact hapart

theorem terms_of_found (input : AuthorizationInput) (method : AuthorizationMethod)
    (hd : QuotesSound d) (h : Answers held e (decision w e.ro_id input method
      ((d.linesOf e.ro_id).filter fun l =>
        l.line_item_id ∈ input.approved_items.named ++ input.declined_items.named)) d) :
    (decision w e.ro_id input method ((d.linesOf e.ro_id).filter fun l =>
      l.line_item_id ∈ input.approved_items.named ++ input.declined_items.named)).KeepsTerms
        input.approved_items.ids d := by
  intro l hl hin hspelled
  obtain ⟨m, hm, hmid, hro, -⟩ := h.pending _ (mem_append_left _ hin)
  obtain rfl := eq_of_key hd.lines hl hm hmid.symm
  refine find?_terms (hd.lines.sublist ?_) (mem_filter.mpr ⟨mem_filter.mpr
    ⟨mem_linesOf.mpr ⟨hl, hro⟩, decide_eq_true (mem_append_left _ hin)⟩, decide_eq_true hspelled⟩)
  exact (filter_sublist.trans (filter_sublist.trans filter_sublist)).map _

theorem recordAuthorization_quoting
    (hF : counted → ∀ c held d, F c held d → c.KeepsToEstimate held d) (w : ServiceWorld)
    (roId : String) (input : AuthorizationInput) :
    (quoting ROAuthorization F put counted).Sound (.recordAuthorization w roId input)
      (recordAuthorization w roId input) [] (fun x => x) d := by
  unfold recordAuthorization
  refine validateDecision_sound fun method hsome => ?_
  refine assertRO_sound fun r d₁ held₁ _ _ hlock _ _ _ => ?_
  refine quoting_aside (where_writes (consumeSensitiveActionGrant_writes (fun _ _ =>
    ⟨rfl, rfl, rfl⟩) _ _ _ _)) fun _ pay d₂ held₂ hsub₂ _ hpay => ?_
  refine requireAnswerable_quoting hpay (hsub₂ _ hlock) ?_
  intro e d₃ held₃ hid hro hsub₃ he hstatus hlatest
  subst hro
  have hlock₃ : orderLock e.ro_id ∈ held₃ := hsub₃ _ (hsub₂ _ hlock)
  refine assertLineItemsOnRO_quoting hpay fun d₄ held₄ hsub₄ hr₄ hi₄ hnodup hfound => ?_
  have hnamed : (input.approved_items.ids ++ input.declined_items.ids).map canonicalUuid =
      input.approved_items.named ++ input.declined_items.named := map_append
  rw [hnamed] at hnodup hfound ⊢
  refine insist_sound fun hpending => ?_
  rw [all_eq_true] at hpending
  have hanswers := answers_of_found w input method
    (hsub₄ _ hlock₃) (hr₄.estimate hlock₃ he) hid hstatus
    ((latestEstimate_congr (hr₄.files _ hlock₃)).trans hlatest) (disjoint_of_nodup_append hnodup)
    hfound fun l hl => of_decide_eq_true (hpending l hl)
  have hterms₄ := terms_of_found w input method hi₄ hanswers
  dsimp only
  generalize hauth : decision w e.ro_id input method _ = a at hanswers hterms₄ ⊢
  have hdrawn : a.authorization_id = w.newId := hauth ▸ rfl
  have happroved : a.approved_items = input.approved_items.named := hauth ▸ rfl
  have hdeclined : a.declined_items = input.declined_items.named := hauth ▸ rfl
  rw [← happroved, ← hdeclined] at hsome
  unfold insertAuthorization
  refine sound_execute_bind fun d₅ held₅ hsub₅ hlocks₅ hr₅ hi₅ _ hacc => ?_
  have hkey : .index "ro_authorizations_pkey" a.authorization_id ∈ held₅ := hlocks₅ _ mem_cons_self
  have hfresh : ∀ b ∈ d₅.ro_authorizations, b.authorization_id ≠ a.authorization_id := by
    intro b hb
    exact of_decide_eq_true (all_eq_true.mp hacc b ((hpay d₅).authorizations ▸ hb))
  refine store_sound fun d₆ held₆ hsub₆ _ hr₆ _ _ => ?_
  refine store_sound fun d₇ held₇ hsub₇ _ hr₇ _ _ => ?_
  refine sound_selectLocking_bind fun d₈ held₈ hsub₈ hlocks₈ hr₈ hi₈ hf₈ => ?_
  have hmark : tallyMark e.estimate_id ∈ held₈ := hlocks₈ _ mem_cons_self
  have hs : QuotesKept put counted held₅ d₅ d₈ :=
    hr₆.trans ((hr₇.trans (hr₈.mono hsub₇)).mono hsub₆)
  have hup : ∀ k ∈ held₅, k ∈ held₇ := fun k hk => hsub₇ _ (hsub₆ _ hk)
  have hanswers₅ := hanswers.kept hsub₅ hr₅
  have hanswers₈ : Answers held₈ e a d₈ := hanswers₅.kept (fun k hk => hsub₈ _ (hup k hk)) hs
  have hterms₈ : a.KeepsTerms input.approved_items.ids d₈ :=
    hanswers₅.terms_kept (hanswers.terms_kept hterms₄ hr₅ hi₅) hs hi₈
  have hpending₈ : ∀ (x : Shop) (status : EstimateStatus), SameQuotes (x.decided a status)
      (Shop.setEstimates (Shop.setLines (Shop.setLines { pay x with
        ro_authorizations := (pay x).ro_authorizations ++ [a] } input.approved_items.named
          (markApproved w.newId)) input.declined_items.named (markDeclined w.newId))
            [e.estimate_id] status) := by
    intro x status
    refine ((hpay x).decided a status).trans ?_
    rw [Shop.decided, happroved, hdeclined, hdrawn, hanswers₈.names]
    exact .refl _
  have hview : tally e.ro_id e.estimate_id (Shop.setLines (Shop.setLines { pay d₈ with
      ro_authorizations := (pay d₈).ro_authorizations ++ [a] } input.approved_items.named
        (markApproved w.newId)) input.declined_items.named (markDeclined w.newId)) =
      tally e.ro_id e.estimate_id (d₈.decided a .sent) := by
    unfold tally
    rw [← (hpending₈ d₈ .sent).linesOf]
    rfl
  rw [hview]
  have hcounted : counted → ∀ d', QuotesKept put counted held₈ d₈ d' → QuotesSound d' →
      ∀ status, tally e.ro_id e.estimate_id (d₈.decided a .sent) =
        (decidedOn e.estimate_id .approved (d'.decided a status),
          decidedOn e.estimate_id .declined (d'.decided a status),
          openOn e.estimate_id (d'.decided a status)) := by
    intro hc d' hr hi status
    refine tally_decided hi₈ hi hanswers₈ (hanswers₈.kept (fun _ hk => hk) hr) hsome ?_
      (hr.answers hc _ hanswers₈.lock _ hmark) .sent status
    have hkeeps := hF hc _ _ _ hf₈ (hdrawn ▸ hup _ hkey)
    rw [happroved, hdeclined, hid]
    exact hkeeps
  generalize tally e.ro_id e.estimate_id (d₈.decided a .sent) = t at hcounted ⊢
  obtain ⟨n, m, k⟩ := t
  refine decided_ends hanswers₈ (hsub₈ _ (hup _ hkey)) (hs.authorizationKeys _ hkey hfresh)
    hdrawn hid happroved hdeclined hterms₈ ⟨n, m, k, rfl⟩ ?_ fun x => hpending₈ x _
  intro hc d' hr hi
  have h := hcounted hc d' hr hi (deriveEstimateStatus n m k)
  simp only [Prod.mk.injEq] at h
  rw [statusOf, ← h.1, ← h.2.1, ← h.2.2]

/-! ### Transitions -/

theorem openEstimates_congr (h : d'.estimatesOf roId = d.estimatesOf roId) :
    openEstimates roId d' = openEstimates roId d := by
  rw [openEstimates, h, openEstimates]

theorem pendingLines_congr
    (h : (d'.linesOf roId).map LineItem.standing = (d.linesOf roId).map LineItem.standing) :
    pendingLines roId d' = pendingLines roId d := by
  have hstanding : ∀ x : Shop, pendingLines roId x =
      (((x.linesOf roId).map LineItem.standing).filter fun t => t.2.1 = .pending).map (·.1) := by
    intro x
    rw [filter_map, map_map]
    rfl
  rw [hstanding, h, hstanding]

theorem withdrawn_ends {w : ServiceWorld} {input : TransitionInput} {rest : ServiceWork B}
    (hlock : orderLock roId ∈ held) (hmoved : .row "repair_orders" roId .noKeyUpdate ∈ held)
    (hp : ∀ x, SameQuotes x (pending x)) (hrest : rest.Writes SameQuotes) :
    (quoting B F put counted).Sound (.transitionRO w roId .estimate_pending input)
      (withdrawEstimates roId >>= fun _ => rest) held pending d := by
  unfold withdrawEstimates
  rw [Script.bind_assoc]
  refine store_sound fun d₁ held₁ hsub₁ _ _ _ _ => ?_
  refine store_sound fun d₂ held₂ hsub₂ hlocks₂ hr₂ _ _ => ?_
  refine quoting_ends hrest fun held₃ d₃ hsub₃ hr₃ _ after hafter => ?_
  have hlock₁ := hsub₁ _ hlock
  have hlock₂ := hsub₂ _ hlock₁
  have hestimates : openEstimates roId (pending d₁) = openEstimates roId d₃ := by
    refine openEstimates_congr ?_
    rw [(hp d₁).estimatesOf, (hr₂.trans (hr₃.mono hsub₂)).files _ hlock₁]
  have hlines : pendingLines roId ((pending d₂).setEstimates (openEstimates roId (pending d₁))
      .expired) = pendingLines roId d₃ := by
    refine pendingLines_congr ?_
    rw [hr₃.standing _ hlock₂, ← (hp d₂).linesOf]
    rfl
  rw [hlines] at hlocks₂
  rw [hestimates] at hlines hafter
  refine .requotes (hsub₃ _ hlock₂) (hsub₃ _ (hsub₂ _ (hsub₁ _ hmoved)))
    (fun id hid => hsub₃ _ (mem_rowLocks hlocks₂ id hid)) ?_
  rw [hlines] at hafter
  exact (((hp d₃).setEstimates _ _).setLines _ _).trans hafter

theorem transitionRO_quoting (roId : String) (target : ROStatus) (input : TransitionInput) :
    (quoting RepairOrder F put counted).Sound (.transitionRO w roId target input)
      (transitionRO w roId target input) [] (fun x => x) d := by
  unfold transitionRO
  refine assertRO_sound fun r d₁ held₁ _ _ hlock _ _ _ => ?_
  refine insist_sound fun _ => ?_
  refine quoting_aside (transitionGates_writes (fun _ _ => ⟨rfl, rfl, rfl⟩) .refl _ _ _ _)
    fun _ pay d₂ held₂ hsub₂ _ hpay => ?_
  unfold moveRO
  refine sound_execute_bind fun d₃ held₃ hsub₃ hlocks₃ _ _ _ _ => ?_
  refine insist_sound fun hmoved => ?_
  rw [if_pos hmoved] at hlocks₃
  simp only [if_pos hmoved]
  have hset : ∀ x, SameQuotes x ((pay x).setStatus roId target) :=
    fun x => (hpay x).trans ⟨rfl, rfl, rfl⟩
  have hrest := (syncQueueForRO_aside w { r with status := target }).bind fun _ =>
    (recordROEvent_aside w roId (.status_changed r.status target input.reason)).bind fun _ =>
      writes_pure { r with status := target }
  by_cases htarget : target = .estimate_pending
  · subst htarget
    rw [if_pos rfl]
    exact withdrawn_ends (hsub₃ _ (hsub₂ _ hlock)) (hlocks₃ _ mem_cons_self) hset hrest
  · rw [if_neg htarget]
    exact quoting_ends hrest fun _ d₄ _ _ _ _ hafter => .stays ((hset d₄).trans hafter)

/-! ### All of them -/

theorem ServiceCall.program_quoting
    (hF : counted → ∀ c held d, F c held d → c.KeepsToEstimate held d) (c : ServiceCall) :
    (quoting Unit F put counted).Sound c c.program [] (fun x => x) d := by
  cases c with
  | createRO w input =>
    exact Contract.Sound.of_onAnswers (quoting_leaves (createRO_aside w input))
  | checkIn w appointmentId odometer =>
    exact Contract.Sound.of_onAnswers (quoting_leaves (checkIn_aside w appointmentId odometer))
  | addLineItem w roId input =>
    exact Contract.Sound.of_onAnswers (addLineItem_quoting w roId input)
  | updateLineItem w roId lineItemId updates =>
    exact Contract.Sound.of_onAnswers (updateLineItem_quoting w roId lineItemId updates)
  | dispatchTech w input => exact Contract.Sound.of_onAnswers (dispatchTech_quoting w input)
  | startMPISession w roId templateId techUserId =>
    exact Contract.Sound.of_onAnswers
      (quoting_leaves (startMPISession_aside w roId templateId techUserId))
  | generateEstimate w roId languageMode =>
    exact Contract.Sound.of_onAnswers (generateEstimate_quoting w roId languageMode)
  | sendEstimate w roId estimateId =>
    exact Contract.Sound.of_onAnswers (sendEstimate_quoting w roId estimateId)
  | recordAuthorization w roId input =>
    exact Contract.Sound.of_onAnswers (recordAuthorization_quoting hF w roId input)
  | transitionRO w roId target input =>
    exact Contract.Sound.of_onAnswers (transitionRO_quoting w roId target input)
  | createComebackCase w input =>
    exact Contract.Sound.of_onAnswers (quoting_leaves (createComebackCase_aside w input))

end Sound

theorem quoting_cooperates {F : ServiceCall → List LotLock → Shop → Prop} {put : List String}
    {counted : Prop} {admits : ServiceServer → Event ServiceCall → Prop}
    (hF : counted → ∀ c held d, F c held d → c.KeepsToEstimate held d)
    (hfinds : ∀ S i s, admits S (.turn i) → S.session i = some s → F s.call s.held S.committed)
    (hspares : ∀ S i s j t, admits S (.turn i) → i ≠ j → S.session i = some s →
      S.session j = some t → s.call.LeavesQuotes put s.held S.committed t.held ∧
        (counted → s.call.LeavesAnswers s.held S.committed t.held)) :
    (quoting Unit F put counted).Cooperates LotLock.conflicts ServiceCall.program
      (fun _ _ => True) admits where
  refl := fun _ => .refl
  trans := fun _ _ _ _ _ => .trans
  symm := LotLock.conflicts_symm
  begins := fun _ c _ _ => c.program_quoting hF
  sets_apart := fun _ _ _ _ _ _ => ⟨trivial, trivial⟩
  finds := hfinds
  respects := by
    intro S i j s t a ha hij hs ht _ hbeside hi hmoves
    obtain ⟨hquotes, hanswers⟩ := hspares S i s j t ha hij hs ht
    exact hmoves.1.kept hi hbeside.2 hquotes hanswers

end Dealership.Service
