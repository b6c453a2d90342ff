import Dealership.Inventory.Pricing

/-!
# The price history is a chain

The prices of one item and one type, in the order they were committed, are a chain:
each but the last is closed, points to the next, and ends at the instant the next
takes effect; the last stands.

A price is set under the lock of its item, so the commits are in the order in which
the calls get the lock.  What is stamped is the instant a call began.  The chain
grows exactly when the two orders agree: a call that began before the standing price
took effect closes that price before it began, which a `CHECK` refuses.
-/

namespace Dealership.Inventory

open Library List
open Crm (RowLock)

variable {db : Lot} {held : List LotLock} {ps : List StockPrice} {d : Lot}

/-! ## Chains of prices -/

/-- The second price succeeds the first. -/
structure Follows (p q : StockPrice) : Prop where
  closed : p.superseded_at = some q.effective_from
  points : p.superseded_by_price_id = some q.price_id
  ordered : p.effective_from ≤ q.effective_from

/-- Each price is followed by the next, and the last one stands. -/
def Chained : List StockPrice → Prop
  | [] => True
  | [p] => p.superseded_at = none ∧ p.superseded_by_price_id = none
  | p :: q :: ps => Follows p q ∧ Chained (q :: ps)

theorem Chained.one_stands (h : Chained ps) (hne : ps ≠ []) :
    (ps.filter fun p => p.superseded_at.isNone).length = 1 := by
  induction ps with
  | nil => exact absurd rfl hne
  | cons p ps ih =>
    cases ps with
    | nil => simp [h.1]
    | cons q ps =>
      rw [filter_cons_of_neg (by simp [h.1.closed])]
      exact ih h.2 (cons_ne_nil q ps)

/-- The prices one comes by, following `superseded_by_price_id` among `rows`. -/
def walk (rows : List StockPrice) : Nat → StockPrice → List StockPrice
  | 0, _ => []
  | n + 1, p =>
    p :: match p.superseded_by_price_id.bind fun id => rows.find? fun q => q.price_id = id with
      | none => []
      | some q => walk rows n q

theorem Chained.walk_eq {rows : List StockPrice} {p : StockPrice}
    (hrows : (rows.map (·.price_id)).Nodup) (h : Chained (p :: ps))
    (hsub : ∀ q ∈ ps, q ∈ rows) : walk rows (p :: ps).length p = p :: ps := by
  induction ps generalizing p with
  | nil =>
    rw [length_singleton, walk, h.2]
    rfl
  | cons q ps ih =>
    have hq : rows.find? (fun r => r.price_id = q.price_id) = some q :=
      find?_eq_some_of_key hrows (hsub q mem_cons_self)
    rw [length_cons, walk, h.1.points, Option.bind_some, hq]
    exact congrArg (p :: ·) (ih h.2 fun r hr => hsub r (mem_cons_of_mem q hr))

/-- A price that is closed now and points to its successor. -/
def StockPrice.succeededBy (now : Int) (priceId : String) (p : StockPrice) : StockPrice :=
  { p.close now with superseded_by_price_id := some priceId }

theorem Chained.extend (h : Chained ps) {new : StockPrice}
    (hnew : new.superseded_at = none ∧ new.superseded_by_price_id = none)
    (horder : ∀ p ∈ ps, p.superseded_at = none → p.effective_from ≤ new.effective_from) :
    Chained (updateWhere (fun p => p.superseded_at = none)
      (StockPrice.succeededBy new.effective_from new.price_id) ps ++ [new]) := by
  induction ps with
  | nil => exact hnew
  | cons p ps ih =>
    cases ps with
    | nil =>
      have hp : p.superseded_at = none := h.1
      rw [updateWhere, map_singleton, if_pos hp]
      exact ⟨⟨rfl, rfl, horder p mem_cons_self hp⟩, hnew⟩
    | cons q ps =>
      have hp : ¬ p.superseded_at = none := by
        rw [h.1.closed]
        exact Option.some_ne_none _
      have hrest := ih h.2 fun r hr => horder r (mem_cons_of_mem p hr)
      rw [updateWhere, map_cons, if_neg hp, map_cons]
      refine ⟨?_, hrest⟩
      obtain ⟨hclosed, hpoints, hordered⟩ := h.1
      split
      · exact ⟨hclosed, hpoints, hordered⟩
      · exact ⟨hclosed, hpoints, hordered⟩

/-! ## The history of an item -/

/-- The prices of an item and a type, in the order they were committed. -/
def pricesOf (stockItemId : String) (priceType : PriceType) (db : Lot) : List StockPrice :=
  db.stock_prices.filter fun p => p.stock_item_id = stockItemId && p.price_type = priceType

theorem mem_pricesOf {x : String} {t : PriceType} {p : StockPrice} :
    p ∈ pricesOf x t db ↔ p ∈ db.stock_prices ∧ p.stock_item_id = x ∧ p.price_type = t := by
  rw [pricesOf, mem_filter, Bool.and_eq_true, decide_eq_true_eq, decide_eq_true_eq]

/-- The rows a price is set in: the standing price succeeded, the new one inserted. -/
def supersede (w : LotWorld) (new : StockPrice) (rows : List StockPrice) : List StockPrice :=
  updateWhere (fun p => p.stands new.stock_item_id new.price_type)
    (StockPrice.succeededBy w.now new.price_id) rows ++ [new]

theorem pricesOf_supersede (w : LotWorld) (new : StockPrice) (x : String) (t : PriceType)
    (db : Lot) :
    pricesOf x t { db with stock_prices := supersede w new db.stock_prices } =
      if new.stock_item_id = x ∧ new.price_type = t then
        updateWhere (fun p => p.superseded_at = none) (StockPrice.succeededBy w.now new.price_id)
          (pricesOf x t db) ++ [new]
      else pricesOf x t db := by
  have hcond : ∀ p : StockPrice, (decide (p.stock_item_id = x) && decide (p.price_type = t)) = true ↔
      p.stock_item_id = x ∧ p.price_type = t := by
    intro p
    rw [Bool.and_eq_true, decide_eq_true_eq, decide_eq_true_eq]
  simp only [pricesOf, supersede, filter_append]
  split
  · rename_i hnew
    obtain ⟨rfl, rfl⟩ := hnew
    congr 1
    · rw [filter_updateWhere_comm]
      · refine updateWhere_congr fun p hp => ?_
        have hof := (hcond p).mp (mem_filter.mp hp).2
        exact ⟨fun h => h.2.2, fun h => ⟨hof.1, hof.2, h⟩⟩
      · exact fun _ => rfl
    · simp
  · rename_i hnew
    rw [filter_updateWhere]
    · simpa using hnew
    · intro p _ hstands
      have hother : ¬ (p.stock_item_id = x ∧ p.price_type = t) := fun h =>
        hnew ⟨hstands.1.symm.trans h.1, hstands.2.1.symm.trans h.2⟩
      have hfalse : (decide (p.stock_item_id = x) && decide (p.price_type = t)) = false :=
        Bool.eq_false_iff.mpr (mt (hcond p).mp hother)
      exact ⟨hfalse, hfalse⟩

theorem standingIds_eq (x : String) (t : PriceType) (db : Lot) :
    standingIds x t db =
      ((pricesOf x t db).filter fun p => p.superseded_at.isNone).map (·.price_id) := by
  rw [standingIds, pricesOf, filter_filter]
  congr 1
  refine filter_congr fun p _ => ?_
  rw [Bool.eq_iff_iff, decide_eq_true_eq]
  simp only [StockPrice.stands, decide_eq_true_eq, Bool.and_eq_true, Option.isNone_iff_eq_none]
  exact ⟨fun h => ⟨h.2.2, h.1, h.2.1⟩, fun h => ⟨h.2.1, h.2.2, h.1⟩⟩

theorem mem_standingIds {x y : String} {t : PriceType} :
    y ∈ standingIds x t db ↔ ∃ p ∈ db.stock_prices, p.stands x t ∧ p.price_id = y := by
  simp only [standingIds, mem_map, mem_filter, decide_eq_true_eq, and_assoc]

theorem three_statements (w : LotWorld) (new : StockPrice)
    (hids : (db.stock_prices.map (·.price_id)).Nodup)
    (hfree : ∀ p ∈ db.stock_prices, p.price_id ≠ new.price_id) :
    updateWhere (fun p : StockPrice => p.price_id ∈ standingIds new.stock_item_id new.price_type db)
        (fun p => { p with superseded_by_price_id := some new.price_id })
        (updateWhere (fun p => p.stands new.stock_item_id new.price_type) (StockPrice.close w.now)
          db.stock_prices ++ [new]) =
      supersede w new db.stock_prices := by
  have hnew : new.price_id ∉ standingIds new.stock_item_id new.price_type db := by
    intro h
    obtain ⟨p, hp, -, hid⟩ := mem_standingIds.mp h
    exact hfree p hp hid
  simp only [supersede, updateWhere, map_append, map_map, map_singleton, if_neg hnew]
  congr 1
  refine map_congr_left fun p hp => ?_
  rw [Function.comp_apply]
  by_cases hstands : p.stands new.stock_item_id new.price_type
  · rw [if_pos hstands, if_pos hstands, if_pos]
    · rfl
    · exact mem_standingIds.mpr ⟨p, hp, hstands, rfl⟩
  · rw [if_neg hstands, if_neg hstands, if_neg]
    intro h
    obtain ⟨q, hq, hqs, hid⟩ := mem_standingIds.mp h
    exact hstands (eq_of_key hids hq hp hid ▸ hqs)

/-! ## Setting prices side by side -/

/-- A call of `setStockPrice`, in the world its transaction begins in. -/
structure PriceCall where
  w : LotWorld
  input : PriceInput

variable {c : PriceCall}

def PriceCall.program (c : PriceCall) : LotWork PriceOutcome := setStockPriceWithin c.w c.input

/-- A valid type, a whole amount that a `BIGINT` holds, a currency, a short reason without
U+0000, an actor, and an item. -/
structure PriceCall.Valid (c : PriceCall) (db : Lot) : Prop where
  actor : c.w.access.knows c.input.actingUserLinkId = true
  amount : ∃ cents, c.input.amountCents = some cents ∧ 0 ≤ cents ∧ cents < 2 ^ 63
  currency : isCurrency (c.input.currency.getD "USD") = true
  reason : (c.input.reason.all fun r => r.length ≤ 200 && carried r) = true
  item : (readStockItem c.input.stockItemId db).isSome = true

instance (c : PriceCall) (db : Lot) : Decidable (c.Valid db) :=
  decidable_of_iff
    (c.w.access.knows c.input.actingUserLinkId = true ∧
      (c.input.amountCents.any fun cents => 0 ≤ cents ∧ cents < 2 ^ 63) = true ∧
      isCurrency (c.input.currency.getD "USD") = true ∧
      (c.input.reason.all fun r => r.length ≤ 200 && carried r) = true ∧
      (readStockItem c.input.stockItemId db).isSome = true)
    ⟨fun ⟨ha, hc, hu, hr, hi⟩ =>
        ⟨ha, by simpa [Option.any_eq_true] using hc, hu, hr, hi⟩,
      fun h => ⟨h.actor, by simpa [Option.any_eq_true] using h.amount, h.currency, h.reason, h.item⟩⟩

def itemLock (stockItemId : String) : LotLock := .row "stock_items" stockItemId .forUpdate

/-- Whoever holds the item began no earlier than the standing price took effect. -/
def BeganInOrder (c : PriceCall) (held : List LotLock) (db : Lot) : Prop :=
  itemLock c.input.stockItemId ∈ held →
    ∀ p ∈ pricesOf c.input.stockItemId c.input.priceType db, p.superseded_at = none →
      p.effective_from ≤ c.w.now

instance (c : PriceCall) (held : List LotLock) (db : Lot) : Decidable (BeganInOrder c held db) :=
  inferInstanceAs (Decidable (_ → _))

/-- Calls are valid and draw their own ids, none is cut off, and the order in which
they get the item is the order in which they began. -/
def InOrder (S : Server PriceCall Lot LotLock Raise PriceOutcome) : Event PriceCall → Prop
  | .arrive c => c.Valid S.committed ∧ (∀ p ∈ S.committed.stock_prices, p.price_id ≠ c.w.newPriceId) ∧
      ∀ s ∈ S.underWay, s.call.w.newPriceId ≠ c.w.newPriceId
  | .turn i => ∀ s ∈ S.session i, BeganInOrder s.call s.held S.committed
  | .abort _ => False

instance (S : Server PriceCall Lot LotLock Raise PriceOutcome) :
    ∀ e, Decidable (InOrder S e)
  | .arrive _ => inferInstanceAs (Decidable (_ ∧ _ ∧ _))
  | .turn i => inferInstanceAs (Decidable (∀ s ∈ S.session i, _))
  | .abort _ => .isFalse id

structure Priced (db : Lot) : Prop where
  ids : (db.stock_prices.map (·.price_id)).Nodup
  chained : ∀ x t, Chained (pricesOf x t db)

/-- What a call relies on: the items, the prices of the item it holds, its own new id. -/
structure Undisturbed (c : PriceCall) (held : List LotLock) (db db' : Lot) : Prop where
  items : db'.stock_items = db.stock_items
  prices : itemLock c.input.stockItemId ∈ held →
    ∀ t, pricesOf c.input.stockItemId t db' = pricesOf c.input.stockItemId t db
  free : (∀ p ∈ db.stock_prices, p.price_id ≠ c.w.newPriceId) →
    ∀ p ∈ db'.stock_prices, p.price_id ≠ c.w.newPriceId

/-- What a commit writes: prices of the item it holds, and its own new id. -/
structure WritesPrice (c : PriceCall) (held : List LotLock) (db db' : Lot) : Prop where
  items : db'.stock_items = db.stock_items
  locked : itemLock c.input.stockItemId ∈ held
  others : ∀ x, x ≠ c.input.stockItemId → ∀ t, pricesOf x t db' = pricesOf x t db
  ids : ∀ p ∈ db'.stock_prices, (∃ q ∈ db.stock_prices, q.price_id = p.price_id) ∨
    p.price_id = c.w.newPriceId

def priceDesk : Contract PriceCall Lot LotLock Raise PriceOutcome where
  inv := Priced
  rely := Undisturbed
  finds := BeganInOrder
  ensures := fun c held answer db db' =>
    (∃ price superseded, answer = .priced price superseded) ∧ WritesPrice c held db db'
  mayRaise := fun _ _ => False

theorem Undisturbed.trans {e f : Lot} (hde : Undisturbed c held d e)
    (hef : Undisturbed c held e f) : Undisturbed c held d f :=
  ⟨hef.items.trans hde.items, fun h t => (hef.prices h t).trans (hde.prices h t),
    fun h => hef.free (hde.free h)⟩

theorem commits_price (cents : Int) (hdb : Priced db) (hlock : itemLock c.input.stockItemId ∈ held)
    (hfree : ∀ p ∈ db.stock_prices, p.price_id ≠ c.w.newPriceId) (hbegan : BeganInOrder c held db) :
    Priced { db with stock_prices := supersede c.w (newPrice c.w c.input cents) db.stock_prices } ∧
      WritesPrice c held db
        { db with stock_prices := supersede c.w (newPrice c.w c.input cents) db.stock_prices } := by
  generalize hnew : newPrice c.w c.input cents = new
  have hid : new.price_id = c.w.newPriceId := by rw [← hnew]; rfl
  have hitem : new.stock_item_id = c.input.stockItemId := by rw [← hnew]; rfl
  have htype : new.price_type = c.input.priceType := by rw [← hnew]; rfl
  have hnow : c.w.now = new.effective_from := by rw [← hnew]; rfl
  have hopen : new.superseded_at = none ∧ new.superseded_by_price_id = none := by
    rw [← hnew]
    exact ⟨rfl, rfl⟩
  have hkeys : (updateWhere (fun p => p.stands new.stock_item_id new.price_type)
      (StockPrice.succeededBy c.w.now new.price_id) db.stock_prices).map (·.price_id) =
        db.stock_prices.map (·.price_id) := by
    rw [map_updateWhere]
    exact fun _ _ => rfl
  refine ⟨⟨?_, ?_⟩, rfl, hlock, ?_, ?_⟩
  · simp only [supersede, map_append, map_singleton, hkeys]
    rw [nodup_append]
    refine ⟨hdb.ids, nodup_singleton _, ?_⟩
    intro a ha b hb
    obtain ⟨p, hp, rfl⟩ := mem_map.mp ha
    rw [mem_singleton.mp hb, hid]
    exact hfree p hp
  · intro x t
    rw [pricesOf_supersede]
    split
    · rename_i hxt
      obtain ⟨rfl, rfl⟩ := hxt
      rw [hnow]
      refine (hdb.chained _ _).extend hopen fun p hp hlive => ?_
      rw [← hnow]
      exact hbegan hlock p (hitem ▸ htype ▸ hp) hlive
    · exact hdb.chained x t
  · intro x hx t
    rw [pricesOf_supersede, if_neg]
    exact fun h => hx (h.1.symm.trans hitem)
  · intro p hp
    rcases mem_append.mp hp with hp | hp
    · rcases updateWhere_cases hp with ⟨hp, -⟩ | ⟨q, hq, -, rfl⟩
      · exact .inl ⟨p, hp, rfl⟩
      · exact .inl ⟨q, hq, rfl⟩
    · exact .inr (by rw [mem_singleton.mp hp, hid])

theorem Undisturbed.standing {e : Lot} (h : Undisturbed c held d e)
    (hlock : itemLock c.input.stockItemId ∈ held) :
    standingIds c.input.stockItemId c.input.priceType e =
      standingIds c.input.stockItemId c.input.priceType d := by
  rw [standingIds_eq, standingIds_eq, h.prices hlock]

theorem insert_accepted {cents : Int} (hvalid : c.Valid db)
    (hcents : c.input.amountCents = some cents)
    (hfree : ∀ p ∈ d.stock_prices, p.price_id ≠ c.w.newPriceId) :
    ((updateWhere (fun p => p.stands c.input.stockItemId c.input.priceType)
        (StockPrice.close c.w.now) d.stock_prices).all fun q => decide (q.price_id ≠ c.w.newPriceId) &&
      ¬ q.stands c.input.stockItemId c.input.priceType) = true ∧
    (newPrice c.w c.input cents).accepted = true := by
  constructor
  · refine all_eq_true.mpr fun q hq => ?_
    rw [Bool.and_eq_true, decide_eq_true_eq, decide_eq_true_eq]
    rcases updateWhere_cases hq with ⟨hq, hstands⟩ | ⟨p, hp, -, rfl⟩
    · exact ⟨hfree q hq, hstands⟩
    · exact ⟨hfree p hp, fun h => Option.some_ne_none _ h.2.2⟩
  · obtain ⟨cents', hcents', hnonneg, hbig⟩ := hvalid.amount
    obtain rfl := Option.some.inj (hcents.symm.trans hcents')
    rw [StockPrice.accepted, Bool.and_eq_true, Bool.and_eq_true, decide_eq_true_eq]
    exact ⟨⟨⟨hnonneg, hbig⟩, hvalid.currency⟩, hvalid.reason⟩

theorem point_accepted (cents : Int) {closed : List String} (hk : Priced d)
    (hclosed : standingIds c.input.stockItemId c.input.priceType d = closed)
    (hfree : ∀ p ∈ d.stock_prices, p.price_id ≠ c.w.newPriceId) :
    ((updateWhere (fun p => p.stands c.input.stockItemId c.input.priceType)
        (StockPrice.close c.w.now) d.stock_prices ++ [newPrice c.w c.input cents]).all fun p =>
      decide (p.price_id ∉ closed) ||
        (p.superseded_at.isSome && p.price_id ≠ c.w.newPriceId)) = true := by
  subst hclosed
  refine all_eq_true.mpr fun p hp => ?_
  rw [Bool.or_eq_true, decide_eq_true_eq]
  rcases mem_append.mp hp with hp | hp
  · rcases updateWhere_cases hp with ⟨hp, hstands⟩ | ⟨q, hq, -, rfl⟩
    · left
      intro h
      obtain ⟨q, hq, hqs, hid⟩ := mem_standingIds.mp h
      exact hstands (eq_of_key hk.ids hq hp hid ▸ hqs)
    · right
      rw [Bool.and_eq_true, decide_eq_true_eq]
      exact ⟨rfl, hfree q hq⟩
  · left
    intro h
    obtain ⟨q, hq, -, hid⟩ := mem_standingIds.mp h
    rw [mem_singleton.mp hp] at hid
    exact hfree q hq hid

theorem setStockPriceWithin_sound (hvalid : c.Valid db)
    (hfree : ∀ p ∈ db.stock_prices, p.price_id ≠ c.w.newPriceId) :
    priceDesk.Sound c c.program [] (fun d => d) db := by
  obtain ⟨cents, hcents, hnonneg, hbig⟩ := hvalid.amount
  have hitem := hvalid.item
  unfold PriceCall.program setStockPriceWithin
  rw [hcents]
  dsimp only
  rw [if_neg (Int.not_lt.mpr hnonneg)]
  have hactor : actorOnLot c.w c.input.actingUserLinkId = pure c.input.actingUserLinkId := by
    rw [actorOnLot, requireActor_of_knows hvalid.actor]
  rw [hactor]
  refine sound_selectLocking_bind fun d held _ hlocks hr _ _ => ?_
  have hlock : itemLock c.input.stockItemId ∈ held := hlocks _ mem_cons_self
  replace hfree := hr.free hfree
  have hfound : (readStockItem c.input.stockItemId d).isSome = true := by
    rw [readStockItem, hr.items]
    exact hitem
  obtain ⟨item, hread⟩ := Option.isSome_iff_exists.mp hfound
  rw [hread]
  refine sound_execute_bind_of (fun d more hsub _ hr hk _ _ => ?_) fun d hr hk hf hrefused => ?_
  swap
  · -- The standing price took effect before the call began.
    have haccepted : (d.stock_prices.all fun p =>
        ¬ p.stands c.input.stockItemId c.input.priceType || p.effective_from ≤ c.w.now) = true := by
      refine all_eq_true.mpr fun p hp => ?_
      by_cases hstands : p.stands c.input.stockItemId c.input.priceType
      · have hbegan := hf hlock p (mem_pricesOf.mpr ⟨hp, hstands.1, hstands.2.1⟩) hstands.2.2
        simp [hbegan]
      · simp [hstands]
    rw [haccepted] at hrefused
    cases hrefused
  replace hfree := hr.free hfree
  replace hlock := hsub _ hlock
  generalize hclosed : standingIds c.input.stockItemId c.input.priceType d = closed
  refine sound_execute_bind_of (fun d more hsub _ hr hk _ _ => ?_) fun d hr hk hf hrefused => ?_
  swap
  · obtain ⟨hentries, hchecks⟩ := insert_accepted hvalid hcents (hr.free hfree)
    rw [Bool.and_eq_false_iff] at hrefused
    rcases hrefused with hrefused | hrefused
    · exact Bool.noConfusion (hentries.symm.trans hrefused)
    · exact Bool.noConfusion (hchecks.symm.trans hrefused)
  replace hclosed := (hr.standing hlock).trans hclosed
  replace hfree := hr.free hfree
  replace hlock := hsub _ hlock
  split
  · rename_i hnone
    intro e hr hk hf
    replace hclosed := (hr.standing hlock).trans hclosed
    replace hfree := hr.free hfree
    have hcommit := commits_price cents hk hlock hfree hf
    rw [← three_statements c.w (newPrice c.w c.input cents) hk.ids hfree] at hcommit
    have hsame : standingIds (newPrice c.w c.input cents).stock_item_id
        (newPrice c.w c.input cents).price_type e = [] := hclosed.trans hnone
    rw [hsame, updateWhere_of_forall_not fun _ _ => not_mem_nil] at hcommit
    exact ⟨hcommit.1, ⟨_, _, rfl⟩, hcommit.2⟩
  · refine sound_execute_bind_of (fun d more hsub _ hr hk _ _ => ?_) fun d hr hk hf hrefused => ?_
    swap
    · have haccepted := point_accepted cents hk ((hr.standing hlock).trans hclosed) (hr.free hfree)
      exact Bool.noConfusion (haccepted.symm.trans hrefused)
    replace hclosed := (hr.standing hlock).trans hclosed
    replace hfree := hr.free hfree
    replace hlock := hsub _ hlock
    intro e hr hk hf
    replace hclosed := (hr.standing hlock).trans hclosed
    replace hfree := hr.free hfree
    have hcommit := commits_price cents hk hlock hfree hf
    rw [← three_statements c.w (newPrice c.w c.input cents) hk.ids hfree] at hcommit
    have hsame : standingIds (newPrice c.w c.input cents).stock_item_id
        (newPrice c.w c.input cents).price_type e = closed := hclosed
    rw [hsame] at hcommit
    exact ⟨hcommit.1, ⟨_, _, rfl⟩, hcommit.2⟩

theorem priceDesk_cooperates : priceDesk.Cooperates LotLock.conflicts PriceCall.program
    (fun c d => c.w.newPriceId ≠ d.w.newPriceId) InOrder where
  refl := fun _ _ _ => ⟨rfl, fun _ _ => rfl, fun h => h⟩
  trans := fun _ _ _ _ _ => .trans
  symm := LotLock.conflicts_symm
  begins := fun S c h hpriced => setStockPriceWithin_sound h.1 h.2.1
  sets_apart := fun S c i s h hs => ⟨h.2.2 s (mem_underWay hs), (h.2.2 s (mem_underWay hs)).symm⟩
  finds := fun S i s h hs => h s hs
  respects := by
    intro S i j s t a _ _ _ _ _ hbeside _ ⟨_, hwrites⟩
    refine ⟨hwrites.items, fun hlock u => hwrites.others _ (fun hitem => ?_) u, fun hfree p hp hid => ?_⟩
    · have hclear := hbeside.2 _ hwrites.locked _ hlock
      simp [itemLock, LotLock.conflicts, Crm.RowLock.conflicts, hitem] at hclear
    · rcases hwrites.ids p hp with ⟨q, hq, hqid⟩ | hown
      · exact hfree q hq (hqid.trans hid)
      · exact hbeside.1 (hown.symm.trans hid)

/-- **The price history is a chain.**  In every interleaving in which calls get their
item in the order in which they began, every call that ends has committed and answered
`priced`, and afterwards every history is a chain: one price stands, and following the
pointers from the first price visits every price once. -/
theorem price_history_is_chain {db : Lot} (hdb : Priced db) {events : List (Event PriceCall)}
    (h : Along (Server.step LotLock.conflicts PriceCall.program) InOrder (.fresh db) events) :
    let S := run (Server.step LotLock.conflicts PriceCall.program) (.fresh db) events
    (∀ e ∈ S.history, ∃ call price superseded before after,
      e = .committed call (.priced price superseded) before after) ∧
    ∀ x t, Chained (pricesOf x t S.committed) ∧
      ∀ p ps, pricesOf x t S.committed = p :: ps →
        ((p :: ps).filter fun q => q.superseded_at.isNone).length = 1 ∧
          walk (p :: ps) (p :: ps).length p = p :: ps := by
  intro S
  have hg := priceDesk_cooperates.guarded hdb h
  refine ⟨fun e he => ?_, fun x t => ⟨hg.inv.chained x t, fun p ps hps => ?_⟩⟩
  · have hkeeps := hg.history e he
    cases e with
    | committed call answer before after =>
      obtain ⟨-, -, held, ⟨price, superseded, rfl⟩, -⟩ := hkeeps
      exact ⟨call, price, superseded, before, after, rfl⟩
    | raised call error => exact absurd hkeeps id
    | aborted call =>
      exact absurd he (Contract.not_aborted (P := fun _ => True) (fun _ _ _ hadm _ => absurd hadm id) h
        (fun _ _ => not_mem_nil) trivial)
  · have hchain : Chained (p :: ps) := hps ▸ hg.inv.chained x t
    have hids : ((p :: ps).map (·.price_id)).Nodup := by
      rw [← hps]
      exact hg.inv.ids.sublist (filter_sublist.map _)
    exact ⟨hchain.one_stands (cons_ne_nil p ps),
      hchain.walk_eq hids fun q hq => mem_cons_of_mem p hq⟩

/-! ## A car on the lot -/

namespace Forecourt

def clerk : String := "0c000000-0000-4000-8000-000000000001"

def car : StockItem where
  stock_item_id := "car"
  vehicle_id := "sedan"
  rooftop_id := "main street"
  stock_number := "A1"
  lifecycle_state := .retail_ready
  acquisition_source := .auction
  acquisition_party_id := none
  acquired_on := "2026-08-01"
  odometer := none
  odometer_unit := .mi
  title_status := .in_hand
  location_label := none
  retail_ready_at := some 1
  retired_at := none
  retired_reason := none
  authorization_version := 1

def lot : Lot where
  vehicles := [⟨"sedan", "1HGBH41JXMN109186", true, some 1991, 1⟩]
  stock_items := [car]
  stock_prices := []
  stock_transfers := []
  stock_listings := []

theorem lot_priced : Priced lot := ⟨nodup_nil, fun _ _ => trivial⟩

/-- A call that begins at an instant and draws an id. -/
def world (now : Int) (id : String) : LotWorld where
  access := { userLinkExists := fun u => u = clerk, reaches := fun _ _ => true }
  now := now
  rooftopExists := fun r => r = "main street" || r = "airport"
  newVehicleId := id
  newStockItemId := id
  newPriceId := id
  newTransferId := id

def markdown (now : Int) (id : String) (cents : Int) : PriceCall where
  w := world now id
  input := ⟨clerk, "car", .retail, some cents, none, some "monthly review"⟩

/-- Two markdowns, the second begun while the first is under way, each in its turn. -/
def inTurn : List (Event PriceCall) :=
  .arrive (markdown 1 "p1" 900000) :: .turn 0 :: .arrive (markdown 2 "p2" 850000) ::
    .turn 1 :: List.replicate 3 (.turn 0) ++ List.replicate 5 (.turn 1)

/-- The second call gets the car before the first, which began earlier. -/
def outOfTurn : List (Event PriceCall) :=
  .arrive (markdown 1 "p1" 900000) :: .arrive (markdown 2 "p2" 850000) ::
    List.replicate 4 (.turn 1) ++ List.replicate 3 (.turn 0)

end Forecourt

/-- Two markdowns, the second succeeding the first. -/
theorem markdowns_are_chain :
    let S := run (Server.step LotLock.conflicts PriceCall.program) (.fresh Forecourt.lot)
      Forecourt.inTurn
    (S.history.length = 2 ∧ S.committed.stock_prices.length = 2) ∧
    (∀ e ∈ S.history, ∃ call price superseded before after,
      e = .committed call (.priced price superseded) before after) ∧
    ∀ x t, Chained (pricesOf x t S.committed) ∧
      ∀ p ps, pricesOf x t S.committed = p :: ps →
        ((p :: ps).filter fun q => q.superseded_at.isNone).length = 1 ∧
          walk (p :: ps) (p :: ps).length p = p :: ps :=
  ⟨by decide +kernel, price_history_is_chain Forecourt.lot_priced (by decide +kernel)⟩

/-- The call that began earlier and waited would close a price before it took effect:
the database refuses it. -/
theorem earlier_call_raises :
    ¬ ∀ (db : Lot) (_ : Priced db) (events : List (Event PriceCall)),
      (∀ c, .arrive c ∈ events → c.Valid db) → (∀ i, .abort i ∉ events) →
      ∀ e ∈ (run (Server.step LotLock.conflicts PriceCall.program) (.fresh db) events).history,
        ∃ call price superseded before after,
          e = .committed call (.priced price superseded) before after := by
  intro h
  have hraised : ((run (Server.step LotLock.conflicts PriceCall.program) (.fresh Forecourt.lot)
      Forecourt.outOfTurn).history.any fun e => e matches .raised ..) = true := by
    decide +kernel
  obtain ⟨e, he, hmatches⟩ := any_eq_true.mp hraised
  have hvalid : ∀ c, Event.arrive c ∈ Forecourt.outOfTurn → c.Valid Forecourt.lot := by
    intro c hc
    rcases mem_append.mp hc with hc | hc
    · rcases mem_cons.mp hc with hc | hc
      · cases hc
        decide +kernel
      · rcases mem_cons.mp hc with hc | hc
        · cases hc
          decide +kernel
        · cases eq_of_mem_replicate hc
    · cases eq_of_mem_replicate hc
  have habort : ∀ i, Event.abort i ∉ Forecourt.outOfTurn := by
    intro i hi
    simp [Forecourt.outOfTurn] at hi
  obtain ⟨call, price, superseded, before, after, rfl⟩ :=
    h Forecourt.lot Forecourt.lot_priced Forecourt.outOfTurn hvalid habort e he
  cases hmatches

end Dealership.Inventory
