import Dealership.Service.Statements
import Dealership.Service.Turns

/-!
# Parts of calls

What a call relies on while it is under way, the contract the calls keep, and the pieces
their scripts are made of, each checked once.  `tidy` stands for lines being looked after
while a gate has seen them, `fresh` for orders being authorized on estimates that stand: the
contract promises what follows from either where it is given.
-/

namespace Dealership.Service

open Library List
open Inventory (LotLock)
open Policy (ReauthenticationGrant)
open Sales (Locked)

variable {held : List LotLock} {roId : String} {more : List LotLock}

/-! ## What is relied on -/

/-- What a transaction finds again: the orders it has locked with what is filed under them,
the lines and grants it has locked, and the keys it is about to write still free. -/
structure Undisturbed (held : List LotLock) (d d' : Shop) : Prop where
  tenant : d'.tenant_id = d.tenant_id
  orders : ∀ r ∈ d.repair_orders, orderLock r.ro_id ∈ held → r ∈ d'.repair_orders
  files : ∀ r ∈ d.repair_orders, orderLock r.ro_id ∈ held →
    d'.estimatesOf r.ro_id = d.estimatesOf r.ro_id ∧
      d'.authorizationsOf r.ro_id = d.authorizationsOf r.ro_id
  lines : ∀ l ∈ d.ro_line_items, Locked held "ro_line_items" l.line_item_id → l ∈ d'.ro_line_items
  grants : ∀ g ∈ d.grants, Locked held "reauthentication_grants" g.grantId → g ∈ d'.grants
  orderKeys : ∀ id, .index "repair_orders_pkey" id ∈ held →
    (∀ s ∈ d.repair_orders, s.ro_id ≠ id) → ∀ s ∈ d'.repair_orders, s.ro_id ≠ id
  lineKeys : ∀ id, .index "ro_line_items_pkey" id ∈ held →
    (∀ s ∈ d.ro_line_items, s.line_item_id ≠ id) → ∀ s ∈ d'.ro_line_items, s.line_item_id ≠ id
  estimateKeys : ∀ id, .index "ro_estimates_pkey" id ∈ held →
    (∀ s ∈ d.ro_estimates, s.estimate_id ≠ id) → ∀ s ∈ d'.ro_estimates, s.estimate_id ≠ id
  authorizationKeys : ∀ id, .index "ro_authorizations_pkey" id ∈ held →
    (∀ s ∈ d.ro_authorizations, s.authorization_id ≠ id) →
      ∀ s ∈ d'.ro_authorizations, s.authorization_id ≠ id

/-- What a gate has seen of the lines of an order it holds lasts. -/
structure GatesKept (held : List LotLock) (d d' : Shop) : Prop where
  work : ∀ roId, orderLock roId ∈ held → openMark roId ∈ held →
    (∀ l ∈ d.ro_line_items, l.ro_id = roId → l.isOpen = false) →
      ∀ l ∈ d'.ro_line_items, l.ro_id = roId → l.isOpen = false
  decisions : ∀ roId, orderLock roId ∈ held → undecidedMark roId ∈ held →
    (∀ l ∈ d.ro_line_items, l.ro_id = roId → l.undecided = false) →
      ∀ l ∈ d'.ro_line_items, l.ro_id = roId → l.undecided = false

theorem Undisturbed.refl (held : List LotLock) (d : Shop) : Undisturbed held d d where
  tenant := rfl
  orders := fun _ h _ => h
  files := fun _ _ _ => ⟨rfl, rfl⟩
  lines := fun _ h _ => h
  grants := fun _ h _ => h
  orderKeys := fun _ _ h => h
  lineKeys := fun _ _ h => h
  estimateKeys := fun _ _ h => h
  authorizationKeys := fun _ _ h => h

theorem Undisturbed.trans {a b e : Shop} (hab : Undisturbed held a b) (hbe : Undisturbed held b e) :
    Undisturbed held a e where
  tenant := hbe.tenant.trans hab.tenant
  orders := fun r hr hl => hbe.orders r (hab.orders r hr hl) hl
  files := by
    intro r hr hl
    obtain ⟨h₁, h₂⟩ := hab.files r hr hl
    obtain ⟨h₃, h₄⟩ := hbe.files r (hab.orders r hr hl) hl
    exact ⟨h₃.trans h₁, h₄.trans h₂⟩
  lines := fun l hl hk => hbe.lines l (hab.lines l hl hk) hk
  grants := fun g hg hk => hbe.grants g (hab.grants g hg hk) hk
  orderKeys := fun id hk h => hbe.orderKeys id hk (hab.orderKeys id hk h)
  lineKeys := fun id hk h => hbe.lineKeys id hk (hab.lineKeys id hk h)
  estimateKeys := fun id hk h => hbe.estimateKeys id hk (hab.estimateKeys id hk h)
  authorizationKeys := fun id hk h => hbe.authorizationKeys id hk (hab.authorizationKeys id hk h)

theorem Undisturbed.mono (hsub : ∀ k ∈ held, k ∈ more) {a b : Shop}
    (h : Undisturbed more a b) : Undisturbed held a b where
  tenant := h.tenant
  orders := fun r hr hl => h.orders r hr (hsub _ hl)
  files := fun r hr hl => h.files r hr (hsub _ hl)
  lines := fun l hl hk => h.lines l hl (hk.mono hsub)
  grants := fun g hg hk => h.grants g hg (hk.mono hsub)
  orderKeys := fun id hk => h.orderKeys id (hsub _ hk)
  lineKeys := fun id hk => h.lineKeys id (hsub _ hk)
  estimateKeys := fun id hk => h.estimateKeys id (hsub _ hk)
  authorizationKeys := fun id hk => h.authorizationKeys id (hsub _ hk)

theorem GatesKept.refl (held : List LotLock) (d : Shop) : GatesKept held d d :=
  ⟨fun _ _ _ h => h, fun _ _ _ h => h⟩

theorem GatesKept.trans {a b e : Shop} (hab : GatesKept held a b) (hbe : GatesKept held b e) :
    GatesKept held a e where
  work := fun roId hl hm h => hbe.work roId hl hm (hab.work roId hl hm h)
  decisions := fun roId hl hm h => hbe.decisions roId hl hm (hab.decisions roId hl hm h)

theorem GatesKept.mono (hsub : ∀ k ∈ held, k ∈ more) {a b : Shop}
    (h : GatesKept more a b) : GatesKept held a b where
  work := fun roId hl hm => h.work roId (hsub _ hl) (hsub _ hm)
  decisions := fun roId hl hm => h.decisions roId (hsub _ hl) (hsub _ hm)

theorem LotLock.order_conflicts (roId : String) (mode : Crm.RowLock) (h : mode ≠ .read) :
    (LotLock.row "repair_orders" roId mode).conflicts (orderLock roId) = true := by
  cases mode <;> simp_all [LotLock.conflicts, orderLock, Crm.RowLock.conflicts]

section Beside

variable {more : List LotLock} (hclear : ∀ k ∈ held, ∀ l ∈ more, k.conflicts l = false)

include hclear

theorem not_both_orders (h : orderLock roId ∈ held) : orderLock roId ∉ more := by
  intro h'
  have hlocked : Locked held "repair_orders" roId := .inl h
  exact Locked.not_both hclear hlocked (.inl h')

theorem Touches.undisturbed {d d' : Shop} (h : Touches held d d') : Undisturbed more d d' where
  tenant := h.tenant
  orders := fun r hr hl => (h.orders r hr).resolve_right fun hk => not_both_orders hclear hk hl
  files := fun r hr hl => (h.files r hr).resolve_right fun hk => not_both_orders hclear hk hl
  lines := fun l hl hk => (h.lines l hl).resolve_right fun hk' =>
    Locked.not_both hclear (.inr hk') hk
  grants := fun g hg hk => (h.grants g hg).resolve_right fun hk' =>
    Locked.not_both hclear (.inr hk') hk
  orderKeys := by
    rintro id hk hfree s hs rfl
    rcases h.orderKeys s hs with ⟨r, hr, hid⟩ | hk'
    · exact hfree r hr hid
    · exact absurd (hclear _ hk' _ hk) (by simp [LotLock.conflicts])
  lineKeys := by
    rintro id hk hfree s hs rfl
    rcases h.lineKeys s hs with ⟨r, hr, hid⟩ | hk'
    · exact hfree r hr hid
    · exact absurd (hclear _ hk' _ hk) (by simp [LotLock.conflicts])
  estimateKeys := by
    rintro id hk hfree s hs rfl
    rcases h.estimateKeys s hs with ⟨r, hr, hid⟩ | hk'
    · exact hfree r hr hid
    · exact absurd (hclear _ hk' _ hk) (by simp [LotLock.conflicts])
  authorizationKeys := by
    rintro id hk hfree s hs rfl
    rcases h.authorizationKeys s hs with ⟨r, hr, hid⟩ | hk'
    · exact hfree r hr hid
    · exact absurd (hclear _ hk' _ hk) (by simp [LotLock.conflicts])

end Beside

/-- An update that opens a line, or leaves it undecided, is not committed while a gate that
has looked for such lines is under way. -/
def ServiceCall.Spares (c : ServiceCall) (held : List LotLock) (d : Shop)
    (theirs : List LotLock) : Prop :=
  match c with
  | .updateLineItem w _ lineItemId updates =>
    .row "ro_line_items" lineItemId .noKeyUpdate ∈ held →
      ∀ l ∈ d.ro_line_items, l.line_item_id = lineItemId →
        (l.isOpen = false → (updates.apply w.supervises l).isOpen = true →
          openMark l.ro_id ∉ theirs) ∧
        (l.undecided = false → (updates.apply w.supervises l).undecided = true →
          undecidedMark l.ro_id ∉ theirs)
  | _ => True

instance ServiceCall.decidableSpares : ∀ (c : ServiceCall) (held : List LotLock) (d : Shop)
    (theirs : List LotLock), Decidable (c.Spares held d theirs)
  | .updateLineItem .., _, d, _ =>
    inferInstanceAs (Decidable (_ → ∀ l ∈ d.ro_line_items, _ → (_ → _ → _) ∧ (_ → _ → _)))
  | .createRO .., _, _, _ | .checkIn .., _, _, _ | .addLineItem .., _, _, _
  | .dispatchTech .., _, _, _ | .startMPISession .., _, _, _ | .generateEstimate .., _, _, _
  | .sendEstimate .., _, _, _ | .recordAuthorization .., _, _, _ | .transitionRO .., _, _, _
  | .createComebackCase .., _, _, _ => .isTrue trivial

section GatesKept

variable {more : List LotLock} {d d' : Shop}

theorem GatesKept.of_lines (h : d'.ro_line_items = d.ro_line_items) : GatesKept more d d' := by
  constructor
  · intro roId _ _ hwork
    rw [h]
    exact hwork
  · intro roId _ _ hdecided
    rw [h]
    exact hdecided

theorem gatesKept_addLine {l : LineItem} (h : orderLock l.ro_id ∉ more) :
    GatesKept more d { d with ro_line_items := d.ro_line_items ++ [l] } := by
  have hold : ∀ roId, orderLock roId ∈ more → ∀ m ∈ d.ro_line_items ++ [l], m.ro_id = roId →
      m ∈ d.ro_line_items := by
    rintro roId hlock m hm rfl
    rcases mem_inserted hm with hm | rfl
    · exact hm
    · exact absurd hlock h
  constructor
  · intro roId hlock _ hwork m hm hid
    exact hwork m (hold roId hlock m hm hid) hid
  · intro roId hlock _ hdecided m hm hid
    exact hdecided m (hold roId hlock m hm hid) hid

/-- Lines are rewritten, and those of an order somebody else holds stay as finished and as
decided as they were seen to be. -/
theorem gatesKept_setLines {ids : List String} {f : LineItem → LineItem}
    (hro : ∀ l, (f l).ro_id = l.ro_id)
    (h : ∀ l ∈ d.ro_line_items, l.line_item_id ∈ ids → orderLock l.ro_id ∈ more →
      (l.isOpen = false → openMark l.ro_id ∈ more → (f l).isOpen = false) ∧
        (l.undecided = false → undecidedMark l.ro_id ∈ more → (f l).undecided = false)) :
    GatesKept more d (d.setLines ids f) := by
  constructor
  · intro roId hlock hmark hwork l hl hid
    rcases updateWhere_cases hl with ⟨hl, -⟩ | ⟨m, hm, hin, rfl⟩
    · exact hwork l hl hid
    · obtain rfl := (hro m).symm.trans hid
      exact (h m hm hin hlock).1 (hwork m hm rfl) hmark
  · intro roId hlock hmark hdecided l hl hid
    rcases updateWhere_cases hl with ⟨hl, -⟩ | ⟨m, hm, hin, rfl⟩
    · exact hdecided l hl hid
    · obtain rfl := (hro m).symm.trans hid
      exact (h m hm hin hlock).2 (hdecided m hm rfl) hmark

end GatesKept

/-- What a move does to the lines of an order somebody else holds: it leaves them, decides
one, or is an update that spares what a gate has seen. -/
theorem ServiceMoves.gatesKept {tidy : Prop} {c : ServiceCall} {d d' : Shop} (hf : Filed d)
    (hm : ServiceMoves tidy held c d d') (hclear : ∀ k ∈ held, ∀ l ∈ more, k.conflicts l = false)
    (hspares : c.Spares held d more) :
    GatesKept more d d' := by
  cases hm with
  | stays same | opens _ _ _ same | returns _ _ _ _ _ same => exact .of_lines same.lines
  | inspects _ _ _ same | sends _ _ _ _ _ same =>
    refine .of_lines (same.lines.trans ?_)
    change (Shop.moved _ _ _ _).ro_line_items = _
    unfold Shop.moved
    split <;> rfl
  | @adds w input l _ _ order _ _ same =>
    have hfree : orderLock l.ro_id ∉ more := fun hlock => by
      have hclash := hclear _ order _ hlock
      rw [LotLock.order_conflicts _ _ (by decide)] at hclash
      cases hclash
    exact (gatesKept_addLine hfree).trans (.of_lines same.lines)
  | @edits w l updates _ _ lock found same =>
    have hset : GatesKept more d (d.setLines [l.line_item_id] (updates.apply w.supervises)) := by
      refine gatesKept_setLines (fun _ => rfl) fun m hm hin _ => ?_
      obtain ⟨hopen, hundecided⟩ := hspares lock m hm (mem_singleton.mp hin)
      constructor
      · intro hfinished hmark
        exact Bool.eq_false_iff.mpr fun h => hopen hfinished h hmark
      · intro hdecided hmark
        exact Bool.eq_false_iff.mpr fun h => hundecided hdecided h hmark
    exact hset.trans (.of_lines same.lines)
  | @dispatches c lineItemId techUserId _ _ _ same =>
    have hset : GatesKept more d (d.setLines [lineItemId] (assignedTo techUserId)) :=
      gatesKept_setLines (fun _ => rfl) fun _ _ _ _ => ⟨fun h _ => h, fun h _ => h⟩
    exact hset.trans (.of_lines same.lines)
  | @quotes c r e ids userId _ _ lock _ _ _ _ _ _ _ lines same =>
    have hset : GatesKept more d (Shop.setLines
        { d with ro_estimates := d.ro_estimates ++ [e] } ids (quotedAs e.estimate_id)) := by
      refine GatesKept.trans (b := { d with ro_estimates := d.ro_estimates ++ [e] })
        (.of_lines rfl) (gatesKept_setLines (fun _ => rfl) ?_)
      intro l hl hin hlock
      rw [lines l hl hin] at hlock
      exact absurd hlock (not_both_orders hclear lock)
    refine hset.trans (.of_lines (same.lines.trans ?_))
    change (Shop.moved _ _ _ _).ro_line_items = _
    unfold Shop.moved
    split <;> rfl
  | @decides c r e a approved declined status n m userId _ paid _ _ _ payment _ _ _ _ _ _ _ _
      same =>
      have hpaid : GatesKept more d paid := by
        rcases payment with rfl | ⟨w, action, token, h⟩
        · exact .refl _ _
        · cases h
          exact .of_lines rfl
      have happroved : GatesKept more paid (Shop.setLines
          { paid with ro_authorizations := paid.ro_authorizations ++ [a] } approved
          (markApproved a.authorization_id)) := by
        refine GatesKept.trans (b := { paid with
          ro_authorizations := paid.ro_authorizations ++ [a] }) (.of_lines rfl)
          (gatesKept_setLines (fun _ => rfl) ?_)
        intro l _ _ _
        exact ⟨fun h _ => h, fun _ _ => by simp [LineItem.undecided, markApproved]⟩
      have hdeclined : GatesKept more _ (Shop.setLines (Shop.setLines
          { paid with ro_authorizations := paid.ro_authorizations ++ [a] } approved
          (markApproved a.authorization_id)) declined (markDeclined a.authorization_id)) :=
        gatesKept_setLines (fun _ => rfl) fun _ _ _ _ =>
          ⟨fun _ _ => markDeclined_finished.1, fun _ _ => markDeclined_finished.2⟩
      exact ((hpaid.trans happroved).trans hdeclined).trans (.of_lines same.lines)
  | @transitions w r target input quotes lines _ paid _ lock _ _ payment _ _ _ _ taken same =>
    have hpaid : paid.ro_line_items = d.ro_line_items := by
      split at payment
      · cases payment
        rfl
      · exact payment ▸ rfl
    have hset : GatesKept more d (d.setLines lines unasked) := by
      refine gatesKept_setLines (fun _ => rfl) ?_
      intro l hl hin hlock
      rw [(taken l hl hin).1] at hlock
      exact absurd hlock (not_both_orders hclear lock)
    refine hset.trans (.of_lines (same.lines.trans ?_))
    change updateWhere _ _ paid.ro_line_items = updateWhere _ _ d.ro_line_items
    rw [hpaid]

/-! ## The contract -/

/-- What others may have done since, to whoever holds `held`. -/
def Since (tidy : Prop) (held : List LotLock) (d d' : Shop) : Prop :=
  Undisturbed held d d' ∧ (tidy → GatesKept held d d')

/-- The contract of a call, or of a part of one that answers a `B`. -/
def services (B : Type) (tidy fresh : Prop) :
    Contract ServiceCall Shop LotLock ServiceError B where
  inv := fun d => Filed d ∧ (tidy → HandedBack d) ∧ (fresh → Approved d)
  rely := fun _ => Since tidy
  finds := fun c held d => (tidy → c.Tidy held d) ∧ (fresh → c.Fresh held d)
  ensures := fun c held _ d d' => ServiceMoves tidy held c d d' ∧ (fresh → c.Fresh held d)
  mayRaise := fun _ _ => True

instance {B : Type} {tidy fresh : Prop} {c : ServiceCall} : (services B tidy fresh).Tolerant c :=
  ⟨fun _ => trivial⟩

section Parts

variable {A B : Type} {tidy fresh : Prop} {c : ServiceCall} {d : Shop} {pending : Shop → Shop}
  {w : ServiceWorld} {k : Unit → ServiceWork B}

theorem Since.trans {a b e : Shop} (hab : Since tidy held a b) (hbe : Since tidy held b e) :
    Since tidy held a e :=
  ⟨hab.1.trans hbe.1, fun ht => (hab.2 ht).trans (hbe.2 ht)⟩

theorem Since.mono {more : List LotLock} (hsub : ∀ k ∈ held, k ∈ more) {a b : Shop}
    (h : Since tidy more a b) : Since tidy held a b :=
  ⟨h.1.mono hsub, fun ht => (h.2 ht).mono hsub⟩

theorem services_regular : (services B tidy fresh).Regular c where
  refl := fun h d => ⟨.refl h d, fun _ => .refl h d⟩
  trans := fun _ _ _ _ => Since.trans
  mono := fun _ _ _ _ hsub h => Since.mono hsub h

theorem sound_moves {b : B}
    (h : ∀ d', Since tidy held d d' → Filed d' → ServiceMoves tidy held c d' (pending d')) :
    (services B tidy fresh).Sound c (pure b) held pending d := by
  intro d' hr hi hf
  have hmoves := h d' hr hi.1
  refine ⟨⟨hi.1.moves hmoves, fun ht => ?_, fun hfr => ?_⟩, hmoves, hf.2⟩
  · exact (hi.2.1 ht).moves ht hi.1 (hf.1 ht) hmoves
  · exact (hi.2.2 hfr).moves hi.1 (hf.2 hfr) hmoves

theorem sound_recordROEvent {event : ROEventType}
    (h : ∀ d' more, (∀ k ∈ held, k ∈ more) → Since tidy held d d' →
      (services B tidy fresh).Sound c (k ()) more
        (fun x => (pending x).tell roId event w.userId) d') :
    (services B tidy fresh).Sound c (recordROEvent w roId event >>= k) held pending d :=
  store_sound fun d' more hsub _ hr _ _ => h d' more hsub hr

theorem sound_aside {s : ServiceWork A} (hs : s.Writes SameBooks) {k : A → ServiceWork B}
    (h : ∀ a pending' d' more, (∀ k ∈ held, k ∈ more) → Since tidy held d d' →
      (∀ x, SameBooks (pending x) (pending' x)) →
        (services B tidy fresh).Sound c (k a) more pending' d') :
    (services B tidy fresh).Sound c (s >>= k) held pending d := by
  refine Contract.Sound.past_writes (Q := fun x y => SameBooks (pending x) y)
    (fun _ _ _ => SameBooks.trans) services_regular (fun _ => trivial) hs
    (fun x => .refl (pending x)) ?_
  intro a more pending' d' hsub hsame hr
  exact h a pending' d' more hsub hr hsame

theorem sound_syncQueueForRO {ro : RepairOrder} {moved : Bool}
    (h : ∀ pending' d' more, (∀ k ∈ held, k ∈ more) → Since tidy held d d' →
      (∀ x, SameBooks (pending x) (pending' x)) →
        (services B tidy fresh).Sound c (k ()) more pending' d') :
    (services B tidy fresh).Sound c
      ((if moved then syncQueueForRO w ro else pure ()) >>= k) held pending d := by
  cases moved with
  | true => exact sound_aside (writes_syncQueueForRO w ro) fun _ => h
  | false =>
    exact h pending d held (fun _ hk => hk) ⟨.refl _ _, fun _ => .refl _ _⟩ fun _ => .refl _

theorem sound_moveRO {r : RepairOrder} {sources : List ROStatus} {target : ROStatus}
    {k : Bool → ServiceWork B}
    (hfound : ∀ d', Since tidy held d d' → Filed d' → findRO r.ro_id (pending d') = some r)
    (h : ∀ d' more, (∀ k ∈ held, k ∈ more) → Since tidy held d d' →
      (services B tidy fresh).Sound c (k (decide (r.status ∈ sources))) more
        (fun x => (pending x).moved r sources target) d') :
    (services B tidy fresh).Sound c (moveRO r.ro_id sources target >>= k) held pending d := by
  unfold moveRO
  refine sound_execute_bind fun d' more hsub _ hr hi _ _ => ?_
  rw [hfound d' hr hi.1]
  have hmoved := h d' more hsub hr
  unfold Shop.moved at hmoved
  simpa only [Option.any_some, decide_eq_true_eq] using hmoved

theorem sound_consumeSensitiveActionGrant {token : Option String} {action : String}
    (h : ∀ g d' more, (∀ k ∈ held, k ∈ more) →
      .row "reauthentication_grants" g.grantId .noKeyUpdate ∈ more → Since tidy held d d' →
        g ∈ d'.grants → grantPays w d'.tenant_id action roId (token.getD "") g = true →
          (services B tidy fresh).Sound c (k ()) more (fun x => x.spend g.grantId w.now) d') :
    (services B tidy fresh).Sound c (consumeSensitiveActionGrant w token action roId >>= k) held
      (fun x => x) d := by
  unfold consumeSensitiveActionGrant
  rw [Script.bind_assoc]
  refine insist_sound fun _ => ?_
  refine sound_execute_bind fun d' more hsub hlocks hr _ _ hacc => ?_
  obtain ⟨g, hg⟩ := Option.isSome_iff_exists.mp hacc
  have hspent := h g d' more hsub (hlocks _ (by rw [hg]; exact mem_cons_self)) hr
    (mem_of_find?_eq_some hg) (find?_some hg)
  rw [hg]
  simp only [Option.any_some, decide_eq_true_eq, @eq_comm _ g.grantId]
  exact hspent

end Parts

end Dealership.Service
