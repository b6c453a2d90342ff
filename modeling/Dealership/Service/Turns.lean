import Dealership.Service.Promises
import Dealership.Sales.Schema

/-!
# The department at work

Calls side by side.  A call that locks a repair order finds it, its estimates and its
authorizations at its end as they were when it read them.  The lines are the exception: an
update of one asks for no lock on the order, so what a gate has seen of them lasts only as
long as nobody opens or reprices one.
-/

namespace Dealership.Service

open Library List
open Inventory (LotLock)
open Policy (ReauthenticationGrant)
open Sales (Locked)

/-! ## What a commit touches -/

/-- What a commit that held `held` left as it was, and what it held where it did not. -/
structure Touches (held : List LotLock) (d d' : Shop) : Prop where
  tenant : d'.tenant_id = d.tenant_id
  orders : ∀ r ∈ d.repair_orders, r ∈ d'.repair_orders ∨ orderLock r.ro_id ∈ held
  files : ∀ r ∈ d.repair_orders, (d'.estimatesOf r.ro_id = d.estimatesOf r.ro_id ∧
    d'.authorizationsOf r.ro_id = d.authorizationsOf r.ro_id) ∨ orderLock r.ro_id ∈ held
  lines : ∀ l ∈ d.ro_line_items, l ∈ d'.ro_line_items ∨
    .row "ro_line_items" l.line_item_id .noKeyUpdate ∈ held
  grants : ∀ g ∈ d.grants, g ∈ d'.grants ∨
    .row "reauthentication_grants" g.grantId .noKeyUpdate ∈ held
  orderKeys : ∀ s ∈ d'.repair_orders, (∃ r ∈ d.repair_orders, r.ro_id = s.ro_id) ∨
    .index "repair_orders_pkey" s.ro_id ∈ held
  lineKeys : ∀ s ∈ d'.ro_line_items,
    (∃ r ∈ d.ro_line_items, r.line_item_id = s.line_item_id) ∨
      .index "ro_line_items_pkey" s.line_item_id ∈ held
  estimateKeys : ∀ s ∈ d'.ro_estimates, (∃ r ∈ d.ro_estimates, r.estimate_id = s.estimate_id) ∨
    .index "ro_estimates_pkey" s.estimate_id ∈ held
  authorizationKeys : ∀ s ∈ d'.ro_authorizations,
    (∃ r ∈ d.ro_authorizations, r.authorization_id = s.authorization_id) ∨
      .index "ro_authorizations_pkey" s.authorization_id ∈ held

theorem Touches.refl (held : List LotLock) (d : Shop) : Touches held d d where
  tenant := rfl
  orders := fun _ hr => .inl hr
  files := fun _ _ => .inl ⟨rfl, rfl⟩
  lines := fun _ hl => .inl hl
  grants := fun _ hg => .inl hg
  orderKeys := fun s hs => .inl ⟨s, hs, rfl⟩
  lineKeys := fun s hs => .inl ⟨s, hs, rfl⟩
  estimateKeys := fun s hs => .inl ⟨s, hs, rfl⟩
  authorizationKeys := fun s hs => .inl ⟨s, hs, rfl⟩

theorem Touches.trans {held : List LotLock} {a b e : Shop} (hab : Touches held a b)
    (hbe : Touches held b e) : Touches held a e where
  tenant := hbe.tenant.trans hab.tenant
  orders := by
    intro r hr
    rcases hab.orders r hr with h | h
    · exact hbe.orders r h
    · exact .inr h
  files := by
    intro r hr
    rcases hab.files r hr with ⟨h₁, h₂⟩ | h
    · rcases hab.orders r hr with hr' | h
      · rcases hbe.files r hr' with ⟨h₃, h₄⟩ | h
        · exact .inl ⟨h₃.trans h₁, h₄.trans h₂⟩
        · exact .inr h
      · exact .inr h
    · exact .inr h
  lines := by
    intro l hl
    rcases hab.lines l hl with h | h
    · exact hbe.lines l h
    · exact .inr h
  grants := by
    intro g hg
    rcases hab.grants g hg with h | h
    · exact hbe.grants g h
    · exact .inr h
  orderKeys := by
    intro s hs
    rcases hbe.orderKeys s hs with ⟨r, hr, hid⟩ | h
    · rw [← hid]
      exact hab.orderKeys r hr
    · exact .inr h
  lineKeys := by
    intro s hs
    rcases hbe.lineKeys s hs with ⟨r, hr, hid⟩ | h
    · rw [← hid]
      exact hab.lineKeys r hr
    · exact .inr h
  estimateKeys := by
    intro s hs
    rcases hbe.estimateKeys s hs with ⟨r, hr, hid⟩ | h
    · rw [← hid]
      exact hab.estimateKeys r hr
    · exact .inr h
  authorizationKeys := by
    intro s hs
    rcases hbe.authorizationKeys s hs with ⟨r, hr, hid⟩ | h
    · rw [← hid]
      exact hab.authorizationKeys r hr
    · exact .inr h

section Changes

variable {held : List LotLock} {d d' : Shop} {roId : String}

theorem Touches.of_sameBooks (h : SameBooks d d') : Touches held d d' := by
  have hrefl := Touches.refl held d
  constructor
  · exact h.tenant
  · rw [h.orders]
    exact hrefl.orders
  · unfold Shop.estimatesOf Shop.authorizationsOf
    rw [h.estimates, h.authorizations]
    exact hrefl.files
  · rw [h.lines]
    exact hrefl.lines
  · rw [h.grants]
    exact hrefl.grants
  · rw [h.orders]
    exact hrefl.orderKeys
  · rw [h.lines]
    exact hrefl.lineKeys
  · rw [h.estimates]
    exact hrefl.estimateKeys
  · rw [h.authorizations]
    exact hrefl.authorizationKeys

theorem touches_tell (roId userId : String) (event : ROEventType) :
    Touches held d (d.tell roId event userId) :=
  { Touches.refl held d with }

theorem touches_setStatus (status : ROStatus) (h : orderLock roId ∈ held) :
    Touches held d (d.setStatus roId status) :=
  { Touches.refl held d with
    orders := by
      intro r hr
      by_cases hid : r.ro_id = roId
      · exact .inr (hid ▸ h)
      · exact .inl (mem_updateWhere_of_neg hr hid)
    orderKeys := by
      intro s hs
      rcases updateWhere_cases hs with ⟨hs, -⟩ | ⟨r, hr, -, rfl⟩
      · exact .inl ⟨s, hs, rfl⟩
      · exact .inl ⟨r, hr, rfl⟩ }

theorem touches_moved {r : RepairOrder} (sources : List ROStatus) (target : ROStatus)
    (h : orderLock r.ro_id ∈ held) : Touches held d (d.moved r sources target) := by
  unfold Shop.moved
  split
  · exact touches_setStatus target h
  · exact Touches.refl held d

theorem touches_setLines (ids : List String) {f : LineItem → LineItem}
    (hf : ∀ l, (f l).line_item_id = l.line_item_id)
    (h : ∀ id ∈ ids, .row "ro_line_items" id .noKeyUpdate ∈ held) :
    Touches held d (d.setLines ids f) :=
  { Touches.refl held d with
    lines := by
      intro l hl
      by_cases hin : l.line_item_id ∈ ids
      · exact .inr (h _ hin)
      · exact .inl (mem_updateWhere_of_neg hl hin)
    lineKeys := by
      intro s hs
      rcases updateWhere_cases hs with ⟨hs, -⟩ | ⟨l, hl, -, rfl⟩
      · exact .inl ⟨s, hs, rfl⟩
      · exact .inl ⟨l, hl, (hf l).symm⟩ }

theorem touches_setEstimates (ids : List String) (status : EstimateStatus)
    (hids : ∀ e ∈ d.ro_estimates, e.estimate_id ∈ ids → e.ro_id = roId)
    (h : orderLock roId ∈ held) : Touches held d (d.setEstimates ids status) :=
  { Touches.refl held d with
    files := by
      intro r _
      by_cases hid : r.ro_id = roId
      · exact .inr (hid ▸ h)
      · refine .inl ⟨filter_key_updateWhere fun e he hin heq => ?_, rfl⟩
        exact hid (heq.symm.trans (hids e he hin))
    estimateKeys := by
      intro s hs
      rcases updateWhere_cases hs with ⟨hs, -⟩ | ⟨e, he, -, rfl⟩
      · exact .inl ⟨s, hs, rfl⟩
      · exact .inl ⟨e, he, rfl⟩ }

theorem touches_addOrder {r : RepairOrder} (h : .index "repair_orders_pkey" r.ro_id ∈ held) :
    Touches held d { d with repair_orders := d.repair_orders ++ [r] } :=
  { Touches.refl held d with
    orders := fun _ hr => .inl (mem_append_left _ hr)
    orderKeys := by
      intro s hs
      rcases mem_inserted hs with hs | rfl
      · exact .inl ⟨s, hs, rfl⟩
      · exact .inr h }

theorem touches_addLine {l : LineItem} (h : .index "ro_line_items_pkey" l.line_item_id ∈ held) :
    Touches held d { d with ro_line_items := d.ro_line_items ++ [l] } :=
  { Touches.refl held d with
    lines := fun _ hl => .inl (mem_append_left _ hl)
    lineKeys := by
      intro s hs
      rcases mem_inserted hs with hs | rfl
      · exact .inl ⟨s, hs, rfl⟩
      · exact .inr h }

theorem touches_addEstimate {e : Estimate} (h : .index "ro_estimates_pkey" e.estimate_id ∈ held)
    (horder : orderLock e.ro_id ∈ held) :
    Touches held d { d with ro_estimates := d.ro_estimates ++ [e] } :=
  { Touches.refl held d with
    files := by
      intro r _
      by_cases hid : e.ro_id = r.ro_id
      · exact .inr (hid ▸ horder)
      · refine .inl ⟨?_, rfl⟩
        unfold Shop.estimatesOf
        simp [hid]
    estimateKeys := by
      intro s hs
      rcases mem_inserted hs with hs | rfl
      · exact .inl ⟨s, hs, rfl⟩
      · exact .inr h }

theorem touches_addAuthorization {a : ROAuthorization}
    (h : .index "ro_authorizations_pkey" a.authorization_id ∈ held)
    (horder : orderLock a.ro_id ∈ held) :
    Touches held d { d with ro_authorizations := d.ro_authorizations ++ [a] } :=
  { Touches.refl held d with
    files := by
      intro r _
      by_cases hid : a.ro_id = r.ro_id
      · exact .inr (hid ▸ horder)
      · refine .inl ⟨rfl, ?_⟩
        unfold Shop.authorizationsOf
        simp [hid]
    authorizationKeys := by
      intro s hs
      rcases mem_inserted hs with hs | rfl
      · exact .inl ⟨s, hs, rfl⟩
      · exact .inr h }

theorem touches_pays {w : ServiceWorld} {action token : String}
    (h : Pays held w action roId token d d') : Touches held d d' := by
  cases h with
  | @spends g lock found pays =>
    refine { Touches.refl held d with grants := ?_ }
    intro f hf
    by_cases hid : f.grantId = g.grantId
    · exact .inr (hid ▸ lock)
    · exact .inl (mem_updateWhere_of_neg hf hid)

end Changes

/-- **What every commit touches, it holds.** -/
theorem ServiceMoves.touches {tidy : Prop} {held : List LotLock} {c : ServiceCall} {d d' : Shop}
    (hf : Filed d) (hm : ServiceMoves tidy held c d d') : Touches held d d' := by
  cases hm with
  | stays same => exact .of_sameBooks same
  | opens key _ _ same =>
    exact ((touches_addOrder key).trans (touches_tell _ _ _)).trans (.of_sameBooks same)
  | adds _ key _ same => exact (touches_addLine key).trans (.of_sameBooks same)
  | @edits w l updates _ _ lock _ same =>
    have h := touches_setLines (d := d) [l.line_item_id] (f := updates.apply w.supervises)
      (fun _ => rfl) fun id hid => mem_singleton.mp hid ▸ lock
    exact h.trans (.of_sameBooks same)
  | @dispatches c lineItemId techUserId _ _ lock same =>
    have h := touches_setLines (d := d) [lineItemId] (f := assignedTo techUserId)
      (fun _ => rfl) fun id hid => mem_singleton.mp hid ▸ lock
    exact h.trans (.of_sameBooks same)
  | inspects lock _ _ same =>
    exact ((touches_moved _ _ lock).trans (touches_tell _ _ _)).trans (.of_sameBooks same)
  | @quotes c r e ids userId _ _ lock _ _ key _ order _ locked _ same =>
    have hadd := touches_addEstimate (d := d) key (order.symm ▸ lock)
    have hlines := touches_setLines (d := { d with ro_estimates := d.ro_estimates ++ [e] }) ids
      (f := quotedAs e.estimate_id) (fun _ => rfl) locked
    exact (((hadd.trans hlines).trans (touches_moved _ _ lock)).trans
      (touches_tell _ _ _)).trans (.of_sameBooks same)
  | @sends c r e userId _ _ lock _ estimate order _ same =>
    have hset := touches_setEstimates (d := d) _ .sent (fun f hf' hin => by
      rw [eq_of_key hf.estimates hf' estimate (mem_singleton.mp hin)]
      exact order) lock
    exact ((hset.trans (touches_moved _ _ lock)).trans (touches_tell _ _ _)).trans
      (.of_sameBooks same)
  | @decides c r e a approved declined status n m userId _ paid _ lock _ payment estimate order _
      _ key _ answers locked same =>
      have hpaid : Touches held d paid ∧ paid.ro_estimates = d.ro_estimates := by
        rcases payment with rfl | ⟨w, action, token, h⟩
        · exact ⟨.refl held _, rfl⟩
        · exact ⟨touches_pays h, h.files.2.1⟩
      have hadd := touches_addAuthorization (d := paid) key (answers.1.symm ▸ lock)
      have happroved := touches_setLines
        (d := { paid with ro_authorizations := paid.ro_authorizations ++ [a] }) approved
        (f := markApproved a.authorization_id) (fun _ => rfl)
        fun id hid => locked id (mem_append_left declined hid)
      have hdeclined := touches_setLines
        (d := Shop.setLines { paid with ro_authorizations := paid.ro_authorizations ++ [a] }
          approved (markApproved a.authorization_id)) declined
        (f := markDeclined a.authorization_id) (fun _ => rfl)
        fun id hid => locked id (mem_append_right approved hid)
      have hset := touches_setEstimates (d := (Shop.setLines
        { paid with ro_authorizations := paid.ro_authorizations ++ [a] } approved
          (markApproved a.authorization_id)).setLines declined (markDeclined a.authorization_id))
        [e.estimate_id] status (fun f hf' hin => by
          rw [eq_of_key hf.estimates (hpaid.2 ▸ hf') estimate (mem_singleton.mp hin)]
          exact order) lock
      exact (((((hpaid.1.trans hadd).trans happroved).trans hdeclined).trans hset).trans
        (touches_tell _ _ _)).trans (.of_sameBooks same)
  | @transitions w r target input quotes lines _ paid _ lock _ _ payment _ _ withdrawn locked _
      same =>
      have hpaid : Touches held d paid ∧ paid.ro_estimates = d.ro_estimates := by
        split at payment
        · exact ⟨touches_pays payment, payment.files.2.1⟩
        · exact payment ▸ ⟨.refl held _, rfl⟩
      have hset := touches_setEstimates (d := paid.setStatus r.ro_id target) quotes .expired
        (fun e he hin => (withdrawn e (hpaid.2 ▸ he) hin).1) lock
      have hlines := touches_setLines
        (d := (paid.setStatus r.ro_id target).setEstimates quotes .expired) lines (f := unasked)
        (fun _ => rfl) locked
      exact ((((hpaid.1.trans (touches_setStatus target lock)).trans hset).trans hlines).trans
        (touches_tell _ _ _)).trans (.of_sameBooks same)
  | returns lock _ _ _ _ same =>
    exact (((touches_setStatus _ lock).trans (touches_tell _ _ _)).trans
      (touches_tell _ _ _)).trans (.of_sameBooks same)

end Dealership.Service
