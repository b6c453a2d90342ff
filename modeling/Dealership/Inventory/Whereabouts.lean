import Dealership.Inventory.PriceChain
import Dealership.Inventory.Transfers
import Dealership.Library.Chronicle

/-!
# Where the cars are

The completed transfers of a car lead from the rooftop that acquired it to the rooftop
its record names.  An open transfer holds where the car is, because nothing but its own
completion moves the car, and because no second one is opened before it is settled.

The completion looks neither at the lifecycle of the car nor at who holds its stock
number where it arrives.  A retired car is moved all the same; a taken number is refused
by a unique index, and the settlement raises.
-/

namespace Dealership.Inventory

open Library List
open Crm (Casing RowLock)

variable {x : String} {held held' : List LotLock} {before : Books} {l : Lot} {t : StockTransfer}
  {answer : YardAnswer} {y : String} {l' : Lot} {c : YardCall} {after : Books}

/-! ## What a commit does to the yard -/

def transferLock (transferId : String) : LotLock := .row "stock_transfers" transferId .forUpdate

def settledLock (transferId : String) : LotLock := .row "stock_transfers" transferId .noKeyUpdate

def writtenLock (stockItemId : String) : LotLock := .row "stock_items" stockItemId .noKeyUpdate

def itemEntry (stockItemId : String) : LotLock := .index "stock_items_pkey" stockItemId

def transferEntry (transferId : String) : LotLock := .index "stock_transfers_pkey" transferId

def NewItem (stockItemId : String) (l : Lot) : Prop :=
  ∀ i ∈ l.stock_items, i.stock_item_id ≠ stockItemId

def NewTransfer (transferId : String) (l : Lot) : Prop :=
  ∀ t ∈ l.stock_transfers, t.transfer_id ≠ transferId

/-- What a commit that held `held` did to the cars and their transfers. -/
inductive Shifts (held : List LotLock) : YardAnswer → Lot → Lot → Prop where
  | /-- Nothing; a car that is acquired is not nothing. -/
    stays {answer : YardAnswer} {l l' : Lot}
      (quiet : ∀ i v p c, answer ≠ .acquisition (.acquired i v p c))
      (items : l'.stock_items = l.stock_items)
      (transfers : l'.stock_transfers = l.stock_transfers) : Shifts held answer l l'
  | arrives {i : StockItem} {v : Vehicle} {p : Option Crm.Party} {c : Bool} {l l' : Lot}
      (lock : itemEntry i.stock_item_id ∈ held) (new : NewItem i.stock_item_id l)
      (items : l'.stock_items = l.stock_items ++ [i])
      (transfers : l'.stock_transfers = l.stock_transfers) :
      Shifts held (.acquisition (.acquired i v p c)) l l'
  | requests {outcome : TransferOutcome} {t : StockTransfer} {i : StockItem} {l l' : Lot}
      (lock : itemLock t.stock_item_id ∈ held) (entry : transferEntry t.transfer_id ∈ held)
      (new : NewTransfer t.transfer_id l) (state : t.state = .requested)
      (only : openTransfer t.stock_item_id l = none)
      (car : readStockItem t.stock_item_id l = some i) (origin : t.from_rooftop_id = i.rooftop_id)
      (items : l'.stock_items = l.stock_items)
      (transfers : l'.stock_transfers = l.stock_transfers ++ [t]) :
      Shifts held (.transfer outcome) l l'
  | cancels {outcome : TransferSettleOutcome} {t : StockTransfer} {now : Int} {l l' : Lot}
      (lock : transferLock t.transfer_id ∈ held)
      (found : readTransfer t.transfer_id l = some t) (state : t.state = .requested)
      (items : l'.stock_items = l.stock_items)
      (transfers : l'.stock_transfers = updateWhere
        (fun u : StockTransfer => u.transfer_id = t.transfer_id ∧ u.state = .requested)
        (StockTransfer.settle now .cancelled) l.stock_transfers) :
      Shifts held (.settlement outcome) l l'
  | completes {outcome : TransferSettleOutcome} {t : StockTransfer} {now : Int} {l l' : Lot}
      (lock : transferLock t.transfer_id ∈ held) (written : writtenLock t.stock_item_id ∈ held)
      (found : readTransfer t.transfer_id l = some t) (state : t.state = .requested)
      (car : ∀ i ∈ readStockItem t.stock_item_id l, i.live = true)
      (items : l'.stock_items = updateWhere
        (fun i : StockItem => i.stock_item_id = t.stock_item_id)
        (StockItem.moveTo t.to_rooftop_id) l.stock_items)
      (transfers : l'.stock_transfers = updateWhere
        (fun u : StockTransfer => u.transfer_id = t.transfer_id ∧ u.state = .requested)
        (StockTransfer.settle now .completed) l.stock_transfers) :
      Shifts held (.settlement outcome) l l'
  | progresses {outcome : TransitionOutcome} {w : LotWorld} {input : TransitionInput}
      {version : Nat} {l l' : Lot}
      (lock : itemLock input.stockItemId ∈ held)
      (items : l'.stock_items = updateWhere (fun i : StockItem =>
        i.stock_item_id = input.stockItemId ∧ i.authorization_version = version)
        (StockItem.moved w.now input) l.stock_items)
      (transfers : l'.stock_transfers = l.stock_transfers) :
      Shifts held (.transition outcome) l l'

/-- Ids are keys, transfers are of cars on the lot, each is settled before the next of
its car is requested, and an open one starts where its car is. -/
structure Located (l : Lot) : Prop where
  items : (l.stock_items.map (·.stock_item_id)).Nodup
  transfers : (l.stock_transfers.map (·.transfer_id)).Nodup
  owned : ∀ t ∈ l.stock_transfers, ∃ i ∈ l.stock_items, i.stock_item_id = t.stock_item_id
  settled : l.stock_transfers.Pairwise fun t u =>
    t.stock_item_id = u.stock_item_id → t.state ≠ .requested
  origin : ∀ t ∈ l.stock_transfers, t.state = .requested → ∀ i ∈ l.stock_items,
    i.stock_item_id = t.stock_item_id → t.from_rooftop_id = i.rooftop_id

theorem readTransfer_some
    (h : readTransfer y l = some t) : t ∈ l.stock_transfers ∧ t.transfer_id = y :=
  of_find?_eq_some h

theorem readStockItem_some {i : StockItem} (h : readStockItem x l = some i) :
    i ∈ l.stock_items ∧ i.stock_item_id = x :=
  of_find?_eq_some h

theorem openTransfer_none (h : openTransfer x l = none) (ht : t ∈ l.stock_transfers)
    (hx : t.stock_item_id = x) : t.state ≠ .requested := by
  intro hstate
  have hnot := find?_eq_none.mp h t ht
  rw [StockTransfer.opens, hx, hstate] at hnot
  simp at hnot

theorem settle_pairwise {ts : List StockTransfer} {p : StockTransfer → Prop} [DecidablePred p]
    {now : Int} {state : TransferState} (hstate : state ≠ .requested)
    (h : ts.Pairwise fun t u => t.stock_item_id = u.stock_item_id → t.state ≠ .requested) :
    (updateWhere p (StockTransfer.settle now state) ts).Pairwise fun t u =>
      t.stock_item_id = u.stock_item_id → t.state ≠ .requested := by
  rw [updateWhere, pairwise_map]
  refine h.imp fun {t u} htu => ?_
  have hsame : ∀ v : StockTransfer,
      (if p v then v.settle now state else v).stock_item_id = v.stock_item_id := by
    intro v
    split <;> rfl
  rw [hsame, hsame]
  intro hitem
  split
  · exact hstate
  · exact htu hitem

theorem Located.one_open (h : Located l) {u : StockTransfer} (ht : t ∈ l.stock_transfers)
    (hu : u ∈ l.stock_transfers) (hitem : t.stock_item_id = u.stock_item_id)
    (htopen : t.state = .requested) (huopen : u.state = .requested) : t = u := by
  have hsame : ∀ ⦃t⦄, t ∈ l.stock_transfers → ∀ ⦃u⦄, u ∈ l.stock_transfers →
      t.stock_item_id = u.stock_item_id → t.state = .requested → u.state = .requested → t = u := by
    refine List.Pairwise.forall_of_forall_of_flip (fun _ _ _ _ _ => rfl) ?_ ?_
    · exact h.settled.imp fun htu hitem hopen _ => absurd hopen (htu hitem)
    · exact h.settled.imp fun htu hitem _ hopen => absurd hopen (htu hitem.symm)
  exact hsame ht hu hitem htopen huopen

/-- A commit keeps the cars where their transfers say they are. -/
theorem Located.shift (h : Located l) (hs : Shifts held answer l l') : Located l' := by
  obtain ⟨_, _, _, _, _⟩ := l'
  cases hs with
  | stays _ items transfers =>
    subst items transfers
    exact ⟨h.items, h.transfers, h.owned, h.settled, h.origin⟩
  | @arrives i _ _ _ _ _ _ new items transfers =>
    subst items transfers
    refine ⟨nodup_key_insert h.items new, h.transfers, fun t ht => ?_, h.settled,
      fun t ht hopen j hj hid => ?_⟩
    · obtain ⟨j, hj, hid⟩ := h.owned t ht
      exact ⟨j, mem_append_left _ hj, hid⟩
    · rcases mem_append.mp hj with hj | hj
      · exact h.origin t ht hopen j hj hid
      · obtain ⟨k, hk, hkid⟩ := h.owned t ht
        rw [mem_singleton.mp hj] at hid
        exact absurd (hkid.trans hid.symm) (new k hk)
  | @requests _ t i _ _ _ _ new state only car origin items transfers =>
    subst items transfers
    obtain ⟨hi, hid⟩ := readStockItem_some car
    refine ⟨h.items, nodup_key_insert h.transfers new, fun u hu => ?_, ?_,
      fun u hu hopen j hj hjid => ?_⟩
    · rcases mem_inserted hu with hu | rfl
      · exact h.owned u hu
      · exact ⟨i, hi, hid⟩
    · refine pairwise_append.mpr ⟨h.settled, pairwise_singleton _ _, ?_⟩
      intro u hu v hv hitem
      rw [mem_singleton.mp hv] at hitem
      exact openTransfer_none only hu hitem
    · rcases mem_inserted hu with hu | rfl
      · exact h.origin u hu hopen j hj hjid
      · rw [eq_of_key h.items hj hi (hjid.trans hid.symm)]
        exact origin
  | @cancels _ t now _ _ _ found state items transfers =>
    subst items transfers
    refine ⟨h.items, ?_, fun u hu => ?_, settle_pairwise (by decide) h.settled,
      fun u hu hopen => ?_⟩
    · exact nodup_map_updateWhere h.transfers fun _ _ => rfl
    · rcases updateWhere_cases hu with ⟨hu, -⟩ | ⟨v, hv, -, rfl⟩
      · exact h.owned u hu
      · exact h.owned v hv
    · rcases updateWhere_cases hu with ⟨hu, -⟩ | ⟨v, hv, -, rfl⟩
      · exact h.origin u hu hopen
      · cases hopen
  | @completes _ t now _ _ _ _ found state _ items transfers =>
    subst items transfers
    obtain ⟨ht, -⟩ := readTransfer_some found
    have hids : ∀ u, (∃ j ∈ l.stock_items, j.stock_item_id = u) → ∃ j ∈ updateWhere
        (fun i : StockItem => i.stock_item_id = t.stock_item_id)
        (StockItem.moveTo t.to_rooftop_id) l.stock_items, j.stock_item_id = u := by
      rintro _ ⟨j, hj, rfl⟩
      by_cases hid : j.stock_item_id = t.stock_item_id
      · exact ⟨_, mem_updateWhere_of_pos hj hid, rfl⟩
      · exact ⟨j, mem_updateWhere_of_neg hj hid, rfl⟩
    refine ⟨?_, ?_, fun u hu => ?_, settle_pairwise (by decide) h.settled,
      fun u hu hopen j hj hid => ?_⟩
    · exact nodup_map_updateWhere h.items fun _ _ => rfl
    · exact nodup_map_updateWhere h.transfers fun _ _ => rfl
    · rcases updateWhere_cases hu with ⟨hu, -⟩ | ⟨v, hv, -, rfl⟩
      · exact hids _ (h.owned u hu)
      · exact hids _ (h.owned v hv)
    · rcases updateWhere_cases hu with ⟨hu, hother⟩ | ⟨v, hv, -, rfl⟩
      · rcases updateWhere_cases hj with ⟨hj, -⟩ | ⟨k, hk, hkid, rfl⟩
        · exact h.origin u hu hopen j hj hid
        · -- Another open transfer of the car would be the one that completes.
          have hsame := h.one_open hu ht (hid.symm.trans hkid) hopen state
          exact absurd ⟨congrArg _ hsame, hopen⟩ hother
      · cases hopen
  | @progresses _ w input version _ _ _ items transfers =>
    subst items transfers
    refine ⟨?_, h.transfers, fun t ht => ?_, h.settled, fun t ht hopen j hj hid => ?_⟩
    · exact nodup_map_updateWhere h.items fun _ _ => rfl
    · obtain ⟨j, hj, hid⟩ := h.owned t ht
      by_cases hp : j.stock_item_id = input.stockItemId ∧ j.authorization_version = version
      · exact ⟨_, mem_updateWhere_of_pos hj hp, hid⟩
      · exact ⟨j, mem_updateWhere_of_neg hj hp, hid⟩
    · rcases updateWhere_cases hj with ⟨hj, -⟩ | ⟨k, hk, -, rfl⟩
      · exact h.origin t ht hopen j hj hid
      · exact h.origin t ht hopen k hk hid

/-! ## The contract of the yard -/

/-- What a transaction relies on under the locks it holds: the records and transfers it
has locked, that no transfer of a record it has locked is opened, that records stay,
and that the ids whose index entries it has taken stay free. -/
structure Parked (held : List LotLock) (l l' : Lot) : Prop where
  items : ∀ x, itemLock x ∈ held → ∀ i, readStockItem x l = some i → readStockItem x l' = some i
  transfers : ∀ y, transferLock y ∈ held → ∀ t, readTransfer y l = some t →
    readTransfer y l' = some t
  closed : ∀ x, itemLock x ∈ held → openTransfer x l = none → openTransfer x l' = none
  newItems : ∀ x, itemEntry x ∈ held → NewItem x l → NewItem x l'
  newTransfers : ∀ y, transferEntry y ∈ held → NewTransfer y l → NewTransfer y l'

theorem Parked.refl (held : List LotLock) (l : Lot) : Parked held l l :=
  ⟨fun _ _ _ h => h, fun _ _ _ h => h, fun _ _ h => h, fun _ _ h => h, fun _ _ h => h⟩

theorem Parked.trans {a b c : Lot} (hab : Parked held a b) (hbc : Parked held b c) :
    Parked held a c :=
  ⟨fun x hx i h => hbc.items x hx i (hab.items x hx i h),
    fun y hy t h => hbc.transfers y hy t (hab.transfers y hy t h),
    fun x hx h => hbc.closed x hx (hab.closed x hx h),
    fun x hx h => hbc.newItems x hx (hab.newItems x hx h),
    fun y hy h => hbc.newTransfers y hy (hab.newTransfers y hy h)⟩

theorem Parked.mono {more : List LotLock} (hsub : ∀ k ∈ held, k ∈ more) {a b : Lot}
    (h : Parked more a b) : Parked held a b :=
  ⟨fun x hx => h.items x (hsub _ hx), fun y hy => h.transfers y (hsub _ hy),
    fun x hx => h.closed x (hsub _ hx), fun x hx => h.newItems x (hsub _ hx),
    fun y hy => h.newTransfers y (hsub _ hy)⟩

/-- The car of the transfer is live, and its number free where it is to go. -/
def MayMove (transferId : String) (l : Lot) : Prop :=
  ∀ t ∈ readTransfer transferId l, ∀ i ∈ readStockItem t.stock_item_id l,
    i.live = true ∧ numberTakenAt t.to_rooftop_id i l.stock_items = false

instance (transferId : String) (l : Lot) : Decidable (MayMove transferId l) :=
  inferInstanceAs (Decidable (∀ t ∈ readTransfer transferId l,
    ∀ i ∈ readStockItem t.stock_item_id l, _))

/-- A completion that has settled its transfer may move the car. -/
def YardCall.Finds (c : YardCall) (held : List LotLock) (l : Lot) : Prop :=
  match c with
  | .settleStockTransfer _ input =>
    TransferState.settlesAs input.state = some .completed →
      settledLock input.transferId ∈ held → MayMove input.transferId l
  | _ => True

instance : ∀ (c : YardCall) (held : List LotLock) (l : Lot), Decidable (c.Finds held l)
  | .acquireStock .., _, _ | .requestStockTransfer .., _, _ | .transitionStock .., _, _ =>
    .isTrue trivial
  | .settleStockTransfer .., _, _ => inferInstanceAs (Decidable (_ → _ → _))

def YardCall.settles : YardCall → Bool
  | .settleStockTransfer .. => true
  | _ => false

def YardCall.Answers (c : YardCall) (answer : YardAnswer) : Prop :=
  c.settles = true → ∃ outcome, answer = .settlement outcome

def YardCall.Attributable : YardCall → Prop
  | .settleStockTransfer w input => w.access.knows input.actingUserLinkId = true
  | _ => True

instance : ∀ c : YardCall, Decidable c.Attributable
  | .settleStockTransfer .. => inferInstanceAs (Decidable (_ = _))
  | .acquireStock .. | .requestStockTransfer .. | .transitionStock .. => .isTrue trivial

/-- Settlements are by somebody known, none is cut off, and a completion moves a live
car whose number is free where it goes. -/
def Unhindered (S : Server YardCall Books LotLock Undone YardAnswer) : Event YardCall → Prop
  | .arrive c => c.Attributable
  | .turn i => ∀ s ∈ S.session i, s.call.Finds s.held S.committed.lot
  | .abort i => ∀ s ∈ S.session i, s.call.settles = false

instance (S : Server YardCall Books LotLock Undone YardAnswer) : ∀ e, Decidable (Unhindered S e)
  | .arrive c => inferInstanceAs (Decidable c.Attributable)
  | .turn i => inferInstanceAs (Decidable (∀ s ∈ S.session i, _))
  | .abort i => inferInstanceAs (Decidable (∀ s ∈ S.session i, _))

/-- The contract of a transaction on the lot whose answer `g` passes on. -/
def lotYard {B : Type} (g : B → YardAnswer) : Contract YardCall Lot LotLock Raise B where
  inv := Located
  rely := fun _ => Parked
  finds := YardCall.Finds
  ensures := fun c held b l l' => c.Answers (g b) ∧ Shifts held (g b) l l'
  mayRaise := fun c _ => c.settles = false

def yard : Contract YardCall Books LotLock Undone YardAnswer where
  inv := fun db => Located db.lot
  rely := fun _ held db db' => Parked held db.lot db'.lot
  finds := fun c held db => c.Finds held db.lot
  ensures := fun c held answer db db' => c.Answers answer ∧ Shifts held answer db.lot db'.lot
  mayRaise := fun c _ => c.settles = false

theorem yard_onLot {B : Type} {g : B → YardAnswer} {s : LotWork B} {db : Books}
    (h : (lotYard g).Sound c s [] (fun l => l) db.lot) :
    yard.Sound c (onLot s >>= fun b => pure (g b)) [] (fun d => d) db := by
  have hzoom : yard.Sound c (s.zoom Books.lotRows (fun k => k) .raised >>= fun b => pure (g b))
      (([] : List LotLock).map fun k => k) (Books.lotRows.modify fun l => l) db := by
    refine Contract.Sound.zoom (μ := lotYard g) (m := c) (ℓ := Books.lotRows) (fun _ hi => hi)
      (fun held d d' hr => ?_) (fun held d hf => ?_) (fun _ he => he)
      (fun held b f d hi hkeeps hens => ?_) h
    · rwa [map_id'] at hr
    · rwa [map_id'] at hf
    · rw [map_id']
      exact ⟨hkeeps, hens⟩
  rw [Lens.modify_id] at hzoom
  exact hzoom

/-! ### Each call keeps the contract -/

section Calls

variable {B : Type} {g : B → YardAnswer} {c : YardCall} {l : Lot}

theorem sound_quiet {b : B} (hanswers : c.Answers (g b))
    (hquiet : ∀ i v p m, g b ≠ .acquisition (.acquired i v p m)) :
    (lotYard g).Sound c (pure b) held (fun l => l) l :=
  fun _ _ hi _ => ⟨hi, hanswers, .stays hquiet rfl rfl⟩

theorem sound_shifts {b : B} {pending : Lot → Lot} (hanswers : c.Answers (g b))
    (h : ∀ d, Parked held l d → Located d → c.Finds held d → Shifts held (g b) d (pending d)) :
    (lotYard g).Sound c (pure b) held pending l := by
  intro d hr hi hf
  have hshifts := h d hr hi hf
  exact ⟨hi.shift hshifts, hanswers, hshifts⟩

end Calls

theorem transitionStockWithin_yard (w : LotWorld) (input : TransitionInput) (l : Lot) :
    (lotYard YardAnswer.transition).Sound (.transitionStock w input)
      (transitionStockWithin w input) [] (fun l => l) l := by
  have hanswers : ∀ outcome, (YardCall.transitionStock w input).Answers (.transition outcome) :=
    fun _ h => Bool.noConfusion h
  have hquiet : ∀ outcome i v p m,
      YardAnswer.transition outcome ≠ .acquisition (.acquired i v p m) := fun _ _ _ _ _ => nofun
  unfold transitionStockWithin actorOnLot
  cases requireActor w.access input.actingUserLinkId with
  | error e => exact rfl
  | ok actor =>
    refine sound_selectLocking_bind fun d₁ held₁ _ hlocks₁ _ _ _ => ?_
    have hlock : itemLock input.stockItemId ∈ held₁ := hlocks₁ _ mem_cons_self
    cases readStockItem input.stockItemId d₁ with
    | none => exact sound_quiet (hanswers _) (hquiet _)
    | some current =>
      dsimp only
      split
      · exact sound_quiet (hanswers _) (hquiet _)
      refine sound_select_bind fun d₂ _ _ _ => ?_
      split
      · exact sound_quiet (hanswers _) (hquiet _)
      refine sound_execute_bind_of (fun d₃ held₃ hsub₃ _ _ _ _ _ => ?_) fun _ _ _ _ _ => rfl
      split
      · exact sound_shifts (hanswers _) fun d _ _ _ =>
          .progresses (hsub₃ _ hlock) rfl rfl
      · exact sound_shifts (hanswers _) fun d _ _ _ =>
          .progresses (hsub₃ _ hlock) rfl rfl

theorem requestStockTransferWithin_yard (w : LotWorld) (input : TransferInput) (l : Lot) :
    (lotYard YardAnswer.transfer).Sound (.requestStockTransfer w input)
      (requestStockTransferWithin w input) [] (fun l => l) l := by
  have hanswers : ∀ outcome, (YardCall.requestStockTransfer w input).Answers (.transfer outcome) :=
    fun _ h => Bool.noConfusion h
  have hquiet : ∀ outcome i v p m,
      YardAnswer.transfer outcome ≠ .acquisition (.acquired i v p m) := fun _ _ _ _ _ => nofun
  unfold requestStockTransferWithin actorOnLot
  cases requireActor w.access input.actingUserLinkId with
  | error e => exact rfl
  | ok actor =>
    refine sound_selectLocking_bind fun d₁ held₁ _ hlocks₁ _ _ _ => ?_
    have hlock : itemLock input.stockItemId ∈ held₁ := hlocks₁ _ mem_cons_self
    cases hstock : readStockItem input.stockItemId d₁ with
    | none => exact sound_quiet (hanswers _) (hquiet _)
    | some stock =>
      dsimp only
      split
      · exact sound_quiet (hanswers _) (hquiet _)
      split
      · exact sound_quiet (hanswers _) (hquiet _)
      split
      · exact sound_quiet (hanswers _) (hquiet _)
      refine sound_select_bind fun d₂ hr₂ _ _ => ?_
      cases hopen : openTransfer input.stockItemId d₂ with
      | some transfer => exact sound_quiet (hanswers _) (hquiet _)
      | none =>
        intro d₃ hr₃ _ _
        dsimp only
        split
        · exact rfl
        split
        · exact rfl
        split
        · exact rfl
        rename_i horigin _ hnew
        split
        · exact rfl
        generalize hheld : ([.index "stock_transfers_pkey" w.newTransferId,
          openEntry input.stockItemId, .row "stock_items" input.stockItemId .keyShare] :
            List LotLock) ++ held₁ = held₃
        have hlock₃ : itemLock input.stockItemId ∈ held₃ := hheld ▸ mem_append_right _ hlock
        have hentry : transferEntry w.newTransferId ∈ held₃ :=
          hheld ▸ mem_append_left _ mem_cons_self
        have hnew : NewTransfer w.newTransferId d₃ := fun t ht hid =>
          hnew (any_eq_true.mpr ⟨t, ht, decide_eq_true hid⟩)
        obtain ⟨i, hi⟩ : ∃ i, readStockItem input.stockItemId d₃ = some i := by
          cases hread : readStockItem input.stockItemId d₃ with
          | none => exact absurd (by rw [derivedOrigin, hread]; rfl) horigin
          | some i => exact ⟨i, rfl⟩
        refine sound_shifts (hanswers _) fun d hr _ _ => .requests (i := i) hlock₃ hentry
          (hr.newTransfers _ hentry hnew) rfl ?_ ?_ ?_ rfl rfl
        · exact hr.closed _ hlock₃ (hr₃.closed _ hlock hopen)
        · exact hr.items _ hlock₃ i hi
        · change (derivedOrigin input.stockItemId d₃).getD "" = i.rooftop_id
          rw [derivedOrigin, hi]
          rfl

theorem settleStockTransferWithin_yard {w : LotWorld} {input : SettleInput} (l : Lot)
    (hactor : w.access.knows input.actingUserLinkId = true) :
    (lotYard YardAnswer.settlement).Sound (.settleStockTransfer w input)
      (settleStockTransferWithin w input) [] (fun l => l) l := by
  have hanswers : ∀ outcome, (YardCall.settleStockTransfer w input).Answers (.settlement outcome) :=
    fun outcome _ => ⟨outcome, rfl⟩
  have hquiet : ∀ outcome i v p m,
      YardAnswer.settlement outcome ≠ .acquisition (.acquired i v p m) := fun _ _ _ _ _ => nofun
  unfold settleStockTransferWithin
  split
  · exact sound_quiet (hanswers _) (hquiet _)
  rename_i state hstate
  rw [actorOnLot, requireActor_of_knows hactor]
  refine sound_selectLocking_bind fun d₁ held₁ _ hlocks₁ _ _ _ => ?_
  have hlock : transferLock input.transferId ∈ held₁ := hlocks₁ _ mem_cons_self
  cases hfound₁ : readTransfer input.transferId d₁ with
  | none => exact sound_quiet (hanswers _) (hquiet _)
  | some current =>
    dsimp only
    split
    · split
      · exact sound_quiet (hanswers _) (hquiet _)
      · exact sound_quiet (hanswers _) (hquiet _)
    rename_i hopen
    have hopen : current.state = .requested := not_not.mp hopen
    obtain ⟨-, hid⟩ := readTransfer_some hfound₁
    intro d₂ hr₂ _ _
    have hfound₂ : readTransfer input.transferId d₂ = some current :=
      hr₂.transfers _ hlock _ hfound₁
    generalize hheld : LotLock.row "stock_transfers" input.transferId .noKeyUpdate ::
      (readTransfer input.transferId d₂).toList.map (fun t => openEntry t.stock_item_id) ++
        held₁ = held₂
    have hsettled : settledLock input.transferId ∈ held₂ := hheld ▸ mem_cons_self
    replace hlock : transferLock input.transferId ∈ held₂ := by
      rw [← hheld]
      exact mem_append_right _ hlock
    have hrow : d₂.stock_transfers.find? (fun t =>
        t.transfer_id = input.transferId && t.state = .requested) = some current := by
      refine find?_of_imp hfound₂ (by simp [hid, hopen]) fun t ht => ?_
      rw [Bool.and_eq_true] at ht
      exact ht.1
    dsimp only
    rw [hrow]
    change (lotYard YardAnswer.settlement).Sound _ (if state = .completed then
        moveStockItem current.stock_item_id current.to_rooftop_id >>= fun _ =>
          pure (.settled (current.settle w.now state))
      else pure (.settled (current.settle w.now state))) held₂ _ d₂
    split
    · rename_i hcompleted
      subst hcompleted
      refine sound_execute_bind_of (fun d₃ held₃ hsub₃ hlocks₃ hr₃ _ _ _ => ?_)
        fun d hr hi hf hrefused => ?_
      swap
      · -- The number is free where the car goes.
        have hfound := hr.transfers _ hlock _ hfound₂
        have hfree := hf hstate hsettled current hfound
        rw [Option.all_eq_false] at hrefused
        obtain ⟨i, hi, htaken⟩ := hrefused
        simp [(hfree i hi).2] at htaken
      · refine sound_shifts (hanswers _) fun d hr _ hf => ?_
        have hfound : readTransfer input.transferId d = some current :=
          hr.transfers _ (hsub₃ _ hlock) _ (hr₃.transfers _ hlock _ hfound₂)
        have hfree := hf hstate (hsub₃ _ hsettled) current hfound
        rw [← hid] at hfound hlock
        exact .completes (hsub₃ _ hlock) (hlocks₃ _ mem_cons_self) hfound hopen
          (fun i hi => (hfree i hi).1) rfl (by rw [hid])
    · rename_i hcancelled
      have hstate : state = .cancelled := by
        have hmem := mem_of_find?_eq_some hstate
        simp only [mem_cons, not_mem_nil, or_false] at hmem
        exact hmem.resolve_left hcancelled
      subst hstate
      refine sound_shifts (hanswers _) fun d hr _ _ => ?_
      have hfound := hr.transfers _ hlock _ hfound₂
      rw [← hid] at hfound hlock
      exact .cancels hlock hfound hopen rfl (by rw [hid])

def SameYard (db db' : Books) : Prop :=
  db'.lot.stock_items = db.lot.stock_items ∧ db'.lot.stock_transfers = db.lot.stock_transfers

theorem SameYard.trans {a b c : Books} (hab : SameYard a b) (hbc : SameYard b c) : SameYard a c :=
  ⟨hbc.1.trans hab.1, hbc.2.trans hab.2⟩

theorem sameYard_actorOnBooks (access : Access) (actor : String) :
    (actorOnBooks access actor).Writes SameYard := by
  unfold actorOnBooks
  split
  · trivial
  · trivial

theorem sameYard_onLeads {A : Type} (s : Crm.Work A) : (onLeads s).Writes SameYard :=
  (Script.writes_any s).zoom.mono fun a b h => by
    rw [h.2]
    exact ⟨rfl, rfl⟩

theorem sameYard_insertVehicle (v : Vehicle) : (insertVehicle v).Writes SameYard := by
  refine ⟨fun seen db => ?_, fun seen => ?_⟩
  · dsimp only
    split
    · exact ⟨rfl, rfl⟩
    · exact ⟨rfl, rfl⟩
  · dsimp only
    repeat' split
    all_goals trivial

variable (casing : Casing)

theorem sameYard_resolveVehicleByVin (w : BooksWorld) (actor : String) (vin : Option String)
    (year : Int) :
    (resolveVehicleByVin casing w actor vin year).Writes SameYard := by
  have hselect : ∀ {A : Type} (f : Books → A), (Script.select f : BooksWork A).Writes SameYard :=
    fun f => writes_select (fun _ => ⟨rfl, rfl⟩) f
  unfold resolveVehicleByVin
  dsimp only
  split
  · trivial
  refine (sameYard_actorOnBooks _ _).bind fun _ => (hselect _).bind fun found => ?_
  split
  · trivial
  refine (sameYard_insertVehicle _).bind fun written => ?_
  split
  · trivial
  refine (hselect _).bind fun found => ?_
  split
  · trivial
  · trivial

theorem sameYard_resolveSeller (w : BooksWorld) (input : AcquisitionInput)
    (actor : String) : (resolveSeller casing w input actor).Writes SameYard := by
  unfold resolveSeller
  split
  · refine (sameYard_onLeads _).bind fun outcome => ?_
    split
    · trivial
    · trivial
    · trivial
  · split
    · trivial
    · refine (writes_selectLocking (fun _ => ⟨rfl, rfl⟩) _ _).bind fun found => ?_
      split
      · trivial
      split
      · trivial
      · trivial

theorem acquireStockWithin_yard (w : BooksWorld) (input : AcquisitionInput) (db : Books) :
    yard.Sound (.acquireStock w input)
      (acquireStockWithin casing w input >>= fun outcome => pure (.acquisition outcome))
      [] (fun d => d) db := by
  refine Contract.Sound.of_onAnswers ?_
  generalize hκ : yard.onAnswers YardAnswer.acquisition = κ
  have hregular : κ.Regular (.acquireStock w input) := hκ ▸
    ⟨fun held d => .refl held d.lot, fun _ _ _ _ => .trans, fun _ _ _ _ hsub => .mono hsub⟩
  have hraise : ∀ e, κ.mayRaise (.acquireStock w input) e := fun e => hκ ▸ rfl
  have hquiet : ∀ {held : List LotLock} {d : Books} {pending : Books → Books} outcome,
      (∀ i v p m, outcome ≠ .acquired i v p m) → (∀ x, SameYard x (pending x)) →
        κ.Sound (.acquireStock w input) (pure outcome) held pending d := by
    intro held d pending outcome hno hsame
    subst hκ
    intro d' _ hi _
    have hshifts : Shifts held (.acquisition outcome) d'.lot (pending d').lot :=
      .stays (fun i v p m h => hno i v p m (YardAnswer.acquisition.inj h)) (hsame d').1 (hsame d').2
    exact ⟨Located.shift hi hshifts, fun h => Bool.noConfusion h, hshifts⟩
  have hpart : ∀ {B : Type} {s : BooksWork B} {f : B → BooksWork AcquisitionOutcome}
      {held : List LotLock} {pending : Books → Books} {d : Books}, s.Writes SameYard →
      (∀ x, SameYard x (pending x)) → (∀ b held' pending' d', (∀ x, SameYard x (pending' x)) →
        κ.Sound (.acquireStock w input) (f b) held' pending' d') →
      κ.Sound (.acquireStock w input) (s >>= f) held pending d :=
    fun hs hp hf => Contract.Sound.bind_of_writes (R := SameYard) (fun _ _ _ => .trans) hregular
      hraise hs hp fun b held' pending' d' _ hp' _ => hf b held' pending' d' hp'
  unfold acquireStockWithin
  split
  · exact hquiet _ (fun _ _ _ _ => nofun) fun _ => ⟨rfl, rfl⟩
  refine hpart (sameYard_actorOnBooks _ _) (fun _ => ⟨rfl, rfl⟩) fun actor held₁ pending₁ d₁ hp₁ => ?_
  split
  · exact hquiet _ (fun _ _ _ _ => nofun) hp₁
  refine hpart (sameYard_resolveVehicleByVin ..) hp₁ fun resolved held₂ pending₂ d₂ hp₂ => ?_
  split
  · exact hquiet _ (fun _ _ _ _ => nofun) hp₂
  rename_i vehicle created
  unfold stockVehicle
  refine hpart (writes_selectLocking (fun _ => ⟨rfl, rfl⟩) _ _) hp₂
    fun stocked held₃ pending₃ d₃ hp₃ => ?_
  split
  · exact hquiet _ (fun _ _ _ _ => nofun) hp₃
  refine hpart (sameYard_resolveSeller ..) hp₃ fun seller held₄ pending₄ d₄ hp₄ => ?_
  split
  · exact hquiet _ (fun _ _ _ _ => nofun) hp₄
  dsimp only
  split
  · exact hquiet _ (fun _ _ _ _ => nofun) hp₄
  generalize newStockItem w input _ _ _ _ = i
  subst hκ
  intro d₅ _ _ _
  dsimp only
  split
  · exact rfl
  split
  · exact rfl
  rename_i hnew
  split
  · exact rfl
  split
  · exact rfl
  generalize hheld : LotLock.index "stock_items_pkey" i.stock_item_id ::
      i.entries ++ .row "vehicles" i.vehicle_id .keyShare ::
        i.acquisition_party_id.toList.map (fun p => .row "parties" p .keyShare) ++ held₄ = held₅
  have hentry : itemEntry i.stock_item_id ∈ held₅ :=
    hheld ▸ mem_append_left _ (mem_append_left _ mem_cons_self)
  have hfree : NewItem i.stock_item_id d₅.lot := by
    intro j hj hid
    rw [(hp₄ d₅).1] at hnew
    exact hnew (any_eq_true.mpr ⟨j, hj, decide_eq_true hid⟩)
  intro d hr hi _
  have hshifts : ∀ v p m, Shifts held₅ (.acquisition (.acquired i v p m)) d.lot
      { (pending₄ d).lot with stock_items := (pending₄ d).lot.stock_items ++ [i] } :=
    fun v p m => .arrives hentry (hr.newItems _ hentry hfree)
      (congrArg (· ++ [i]) (hp₄ d).1) (hp₄ d).2
  exact ⟨Located.shift hi (hshifts vehicle none created), fun h => Bool.noConfusion h, hshifts _ _ _⟩

/-! ### Side by side -/

theorem openTransfer_eq_none : openTransfer x l = none ↔
      ∀ t ∈ l.stock_transfers, t.stock_item_id = x → t.state ≠ .requested := by
  constructor
  · exact fun h t ht hx => openTransfer_none h ht hx
  · intro h
    refine find?_eq_none.mpr fun t ht hopens => ?_
    simp only [StockTransfer.opens, Bool.and_eq_true, decide_eq_true_eq] at hopens
    exact h t ht hopens.1 hopens.2

theorem distinct_items (hclear : ∀ k ∈ held, ∀ h ∈ held', k.conflicts h = false)
    (hx : itemLock x ∈ held ∨ writtenLock x ∈ held) (hy : itemLock y ∈ held') : x ≠ y := by
  rintro rfl
  rcases hx with hx | hx
  · have hfree := hclear _ hx _ hy
    simp [itemLock, LotLock.conflicts, RowLock.conflicts] at hfree
  · have hfree := hclear _ hx _ hy
    simp [writtenLock, itemLock, LotLock.conflicts, RowLock.conflicts] at hfree

theorem distinct_transfers (hclear : ∀ k ∈ held, ∀ h ∈ held', k.conflicts h = false)
    (hx : transferLock x ∈ held) (hy : transferLock y ∈ held') : x ≠ y := by
  rintro rfl
  have hfree := hclear _ hx _ hy
  simp [transferLock, LotLock.conflicts, RowLock.conflicts] at hfree

theorem distinct_entries (hclear : ∀ k ∈ held, ∀ h ∈ held', k.conflicts h = false) {index : String}
    (hx : .index index x ∈ held) (hy : .index index y ∈ held') : x ≠ y := by
  rintro rfl
  have hfree := hclear _ hx _ hy
  simp [LotLock.conflicts] at hfree

theorem readStockItem_updateWhere {items : List StockItem} {p : StockItem → Prop} [DecidablePred p]
    {f : StockItem → StockItem} (hid : ∀ i, (f i).stock_item_id = i.stock_item_id)
    (hp : ∀ i, p i → i.stock_item_id ≠ x) :
    (updateWhere p f items).find? (fun i => i.stock_item_id = x) =
      items.find? fun i => i.stock_item_id = x :=
  find?_updateWhere fun i _ hi => by simp [hid, hp i hi]

theorem settle_parked (hclear : ∀ k ∈ held, ∀ h ∈ held', k.conflicts h = false) {now : Int}
    {state : TransferState} (hstate : state ≠ .requested) (hlock : transferLock x ∈ held)
    (htransfers : l'.stock_transfers = updateWhere
      (fun u : StockTransfer => u.transfer_id = x ∧ u.state = .requested)
      (StockTransfer.settle now state) l.stock_transfers) :
    (∀ y, transferLock y ∈ held' → ∀ t, readTransfer y l = some t → readTransfer y l' = some t) ∧
    (∀ y, openTransfer y l = none → openTransfer y l' = none) ∧
    ∀ y, NewTransfer y l → NewTransfer y l' := by
  refine ⟨fun y hy t ht => ?_, fun y hy => ?_, fun y hy t ht => ?_⟩
  · have hne := distinct_transfers hclear hlock hy
    rw [readTransfer, htransfers, find?_updateWhere]
    · exact ht
    · rintro u - ⟨hid, -⟩
      have hother : u.transfer_id ≠ y := hid ▸ hne
      exact ⟨decide_eq_false hother, decide_eq_false hother⟩
  · rw [openTransfer_eq_none] at hy ⊢
    intro t ht hx
    rw [htransfers] at ht
    rcases updateWhere_cases ht with ⟨ht, -⟩ | ⟨u, hu, -, rfl⟩
    · exact hy t ht hx
    · exact hstate
  · rw [htransfers] at ht
    rcases updateWhere_cases ht with ⟨ht, -⟩ | ⟨u, hu, -, rfl⟩
    · exact hy t ht
    · exact hy u hu

theorem Shifts.parked (hclear : ∀ k ∈ held, ∀ h ∈ held', k.conflicts h = false)
    (hs : Shifts held answer l l') : Parked held' l l' := by
  obtain ⟨_, _, _, _, _⟩ := l'
  cases hs with
  | stays _ items transfers =>
    subst items transfers
    exact ⟨fun _ _ _ h => h, fun _ _ _ h => h, fun _ _ h => h, fun _ _ h => h, fun _ _ h => h⟩
  | @arrives i _ _ _ _ _ lock new items transfers =>
    subst items transfers
    refine ⟨fun x _ j h => ?_, fun _ _ _ h => h, fun _ _ h => h, fun x hx h j hj => ?_,
      fun _ _ h => h⟩
    · rw [readStockItem, find?_append, show l.stock_items.find? _ = some j from h]
      rfl
    · rcases mem_inserted hj with hj | rfl
      · exact h j hj
      · exact distinct_entries hclear lock hx
  | @requests _ t i _ _ lock entry new state only car origin items transfers =>
    subst items transfers
    refine ⟨fun _ _ _ h => h, fun y _ u h => ?_, fun x hx h => ?_, fun _ _ h => h,
      fun y hy h u hu => ?_⟩
    · rw [readTransfer, find?_append, show l.stock_transfers.find? _ = some u from h]
      rfl
    · rw [openTransfer_eq_none] at h ⊢
      intro u hu hux
      rcases mem_inserted hu with hu | rfl
      · exact h u hu hux
      · exact absurd hux (distinct_items hclear (.inl lock) hx)
    · rcases mem_inserted hu with hu | rfl
      · exact h u hu
      · exact distinct_entries hclear entry hy
  | cancels lock _ _ items transfers =>
    obtain ⟨hread, hopen, hnew⟩ := settle_parked hclear (by decide) lock transfers
    subst items
    exact ⟨fun _ _ _ h => h, hread, fun y _ => hopen y, fun _ _ h => h, fun y _ => hnew y⟩
  | completes lock written _ _ _ items transfers =>
    obtain ⟨hread, hopen, hnew⟩ := settle_parked hclear (by decide) lock transfers
    subst items
    refine ⟨fun x hx i h => ?_, hread, fun y _ => hopen y, fun x _ h j hj => ?_, fun y _ => hnew y⟩
    · rw [readStockItem, readStockItem_updateWhere]
      · exact h
      · exact fun _ => rfl
      · intro j hj
        rw [hj]
        exact distinct_items hclear (.inr written) hx
    · rcases updateWhere_cases hj with ⟨hj, -⟩ | ⟨k, hk, -, rfl⟩
      · exact h j hj
      · exact h k hk
  | progresses lock items transfers =>
    subst items transfers
    refine ⟨fun x hx i h => ?_, fun _ _ _ h => h, fun _ _ h => h, fun x _ h j hj => ?_,
      fun _ _ h => h⟩
    · rw [readStockItem, readStockItem_updateWhere]
      · exact h
      · exact fun _ => rfl
      · rintro j ⟨hj, -⟩
        rw [hj]
        exact distinct_items hclear (.inl lock) hx
    · rcases updateWhere_cases hj with ⟨hj, -⟩ | ⟨k, hk, -, rfl⟩
      · exact h j hj
      · exact h k hk

theorem yard_cooperates :
    yard.Cooperates LotLock.conflicts (YardCall.program casing) (fun _ _ => True) Unhindered where
  refl := fun _ held db => .refl held db.lot
  trans := fun _ _ _ _ _ => .trans
  symm := LotLock.conflicts_symm
  begins := by
    intro S c h _
    cases c with
    | acquireStock w input => exact acquireStockWithin_yard casing w input S.committed
    | requestStockTransfer w input =>
      exact yard_onLot (requestStockTransferWithin_yard w input S.committed.lot)
    | settleStockTransfer w input =>
      exact yard_onLot (settleStockTransferWithin_yard S.committed.lot h)
    | transitionStock w input =>
      exact yard_onLot (transitionStockWithin_yard w input S.committed.lot)
  sets_apart := fun _ _ _ _ _ _ => ⟨trivial, trivial⟩
  finds := fun S i s h hs => h s hs
  respects := fun S i j s t a _ _ _ _ _ hbeside _ hens => hens.2.parked hbeside.2

/-! ## The journeys of the cars -/

abbrev YardEnding := Ending YardCall Books Undone YardAnswer

def acquiredBy (x : String) : YardEnding → List StockItem
  | .committed _ (.acquisition (.acquired i _ _ _)) _ _ => if i.stock_item_id = x then [i] else []
  | _ => []

def completedTransfers (x : String) (l : Lot) : List StockTransfer :=
  l.stock_transfers.filter fun t => t.stock_item_id = x && t.state = .completed

/-- The transfers of a record that a transaction completed. -/
def completedBy (x : String) : YardEnding → List StockTransfer
  | .committed _ _ before after =>
    (completedTransfers x after.lot).filter fun t => t ∉ before.lot.stock_transfers
  | _ => []

/-- The acquisitions of a record, in the order in which they were committed. -/
def acquisitions (x : String) (es : List YardEnding) : List StockItem := es.flatMap (acquiredBy x)

/-- The completions of a record's transfers, in the order in which they were committed. -/
def completions (x : String) (es : List YardEnding) : List StockTransfer :=
  es.flatMap (completedBy x)

/-- No transfer was completed for a retired record. -/
def MovesLive : YardEnding → Prop
  | .committed c answer before after =>
    ∀ x, ∀ t ∈ completedBy x (.committed c answer before after),
      ∀ i ∈ before.lot.stock_items ++ after.lot.stock_items, i.stock_item_id = x → i.live = true
  | _ => True

/-- The completed transfers of each car lead from where it was acquired to where it is. -/
structure Journeys (es : List YardEnding) (l : Lot) : Prop where
  unacquired : ∀ x, NewItem x l → acquisitions x es = []
  path : ∀ i ∈ l.stock_items, ∃ a, acquisitions i.stock_item_id es = [a] ∧
    Trail StockTransfer.from_rooftop_id StockTransfer.to_rooftop_id a.rooftop_id
      (completions i.stock_item_id es) i.rooftop_id
  recorded : ∀ x, completions x es = completedTransfers x l
  live : ∀ e ∈ es, MovesLive e

theorem acquisitions_concat (x : String) (es : List YardEnding) (e : YardEnding) :
    acquisitions x (es ++ [e]) = acquisitions x es ++ acquiredBy x e := by
  rw [acquisitions, flatMap_append, flatMap_singleton, ← acquisitions]

theorem completions_concat (x : String) (es : List YardEnding) (e : YardEnding) :
    completions x (es ++ [e]) = completions x es ++ completedBy x e := by
  rw [completions, flatMap_append, flatMap_singleton, ← completions]

/-- Completing an open transfer puts it behind those of its car that are completed. -/
theorem filter_settle {ts : List StockTransfer} (x : String) (now : Int)
    (hids : (ts.map (·.transfer_id)).Nodup)
    (hsettled : ts.Pairwise fun t u => t.stock_item_id = u.stock_item_id → t.state ≠ .requested)
    (ht : t ∈ ts) (hopen : t.state = .requested) :
    (updateWhere (fun u : StockTransfer => u.transfer_id = t.transfer_id ∧ u.state = .requested)
        (StockTransfer.settle now .completed) ts).filter
          (fun u => u.stock_item_id = x && u.state = .completed) =
      ts.filter (fun u => u.stock_item_id = x && u.state = .completed) ++
        if t.stock_item_id = x then [t.settle now .completed] else [] := by
  induction ts with
  | nil => exact absurd ht not_mem_nil
  | cons a ts ih =>
    rw [map_cons, nodup_cons] at hids
    rw [pairwise_cons] at hsettled
    rcases mem_cons.mp ht with rfl | ht
    · have hrest : updateWhere (fun u : StockTransfer => u.transfer_id = t.transfer_id ∧
          u.state = .requested) (StockTransfer.settle now .completed) ts = ts := by
        refine updateWhere_of_forall_not fun u hu hp => hids.1 ?_
        exact mem_map.mpr ⟨u, hu, hp.1⟩
      rw [updateWhere] at hrest
      rw [updateWhere, map_cons, hrest, if_pos ⟨rfl, hopen⟩]
      by_cases hx : t.stock_item_id = x
      · have hnone : ts.filter (fun u => u.stock_item_id = x && u.state = .completed) = [] := by
          refine filter_eq_nil_iff.mpr fun u hu hq => ?_
          rw [Bool.and_eq_true, decide_eq_true_eq] at hq
          exact hsettled.1 u hu (hx.trans hq.1.symm) hopen
        simp [hnone, hopen, hx, StockTransfer.settle]
      · simp [hx, StockTransfer.settle]
    · have hne : ¬ (a.transfer_id = t.transfer_id ∧ a.state = .requested) := fun h =>
        hids.1 (mem_map.mpr ⟨t, ht, h.1.symm⟩)
      have hrest := ih hids.2 hsettled.2 ht
      rw [updateWhere] at hrest
      rw [updateWhere, map_cons, if_neg hne, filter_cons, filter_cons, hrest]
      split
      · rfl
      · rfl

theorem completedBy_eq_nil (c : YardCall) (answer : YardAnswer)
    (h : completedTransfers x after.lot = completedTransfers x before.lot) :
    completedBy x (.committed c answer before after) = [] := by
  rw [completedBy, h]
  refine filter_eq_nil_iff.mpr fun t ht hnew => ?_
  exact absurd (mem_filter.mp ht).1 (of_decide_eq_true hnew)

theorem movesLive_of_nil (h : ∀ x, completedBy x (.committed c answer before after) = []) :
    MovesLive (.committed c answer before after) := by
  intro x t ht
  rw [h x] at ht
  exact absurd ht not_mem_nil

namespace Journeys

variable {es : List YardEnding} {l l' : Lot}

theorem quiet (h : Journeys es l) {e : YardEnding}
    (hids : ∀ x, NewItem x l' → NewItem x l)
    (hplaces : ∀ j ∈ l'.stock_items, ∃ i ∈ l.stock_items,
      i.stock_item_id = j.stock_item_id ∧ i.rooftop_id = j.rooftop_id)
    (hsame : ∀ x, completedTransfers x l' = completedTransfers x l)
    (hacquired : ∀ x, acquiredBy x e = []) (hcompleted : ∀ x, completedBy x e = [])
    (hlive : MovesLive e) : Journeys (es ++ [e]) l' := by
  refine ⟨fun x hx => ?_, fun j hj => ?_, fun x => ?_, fun f hf => ?_⟩
  · rw [acquisitions_concat, hacquired, append_nil]
    exact h.unacquired x (hids x hx)
  · obtain ⟨i, hi, hid, hrooftop⟩ := hplaces j hj
    rw [acquisitions_concat, hacquired, append_nil, completions_concat, hcompleted,
      append_nil, ← hid, ← hrooftop]
    exact h.path i hi
  · rw [completions_concat, hcompleted, append_nil, hsame]
    exact h.recorded x
  · rcases mem_inserted hf with hf | rfl
    · exact h.live f hf
    · exact hlive

theorem arrives {after : Books} (h : Journeys es before.lot) (hl : Located before.lot)
    {c : YardCall} {i : StockItem} {v : Vehicle} {p : Option Crm.Party} {m : Bool}
    (hnew : NewItem i.stock_item_id before.lot)
    (hitems : after.lot.stock_items = before.lot.stock_items ++ [i])
    (htransfers : after.lot.stock_transfers = before.lot.stock_transfers) :
    Journeys (es ++ [.committed c (.acquisition (.acquired i v p m)) before after]) after.lot := by
  have hsame : ∀ x, completedTransfers x after.lot = completedTransfers x before.lot := fun x => by
    rw [completedTransfers, htransfers, ← completedTransfers]
  have hnil : ∀ x, completedBy x
      (.committed c (.acquisition (.acquired i v p m)) before after) = [] :=
    fun x => completedBy_eq_nil _ _ (hsame x)
  refine ⟨fun x hx => ?_, fun j hj => ?_, fun x => ?_, fun f hf => ?_⟩
  · have hother : i.stock_item_id ≠ x := hx i (hitems ▸ mem_append_right _ (mem_singleton_self i))
    have hbefore : NewItem x before.lot := fun k hk =>
      hx k (hitems ▸ mem_append_left _ hk)
    rw [acquisitions_concat, acquiredBy, if_neg hother, append_nil]
    exact h.unacquired x hbefore
  · rw [acquisitions_concat, acquiredBy, completions_concat, hnil, append_nil]
    rw [hitems] at hj
    rcases mem_append.mp hj with hj | hj
    · rw [if_neg (hnew j hj).symm, append_nil]
      exact h.path j hj
    · obtain rfl := mem_singleton.mp hj
      have hfirst : completions j.stock_item_id es = [] := by
        rw [h.recorded]
        refine filter_eq_nil_iff.mpr fun t ht hq => ?_
        rw [Bool.and_eq_true, decide_eq_true_eq] at hq
        obtain ⟨k, hk, hid⟩ := hl.owned t ht
        exact hnew k hk (hid.trans hq.1)
      rw [if_pos rfl, h.unacquired _ hnew, hfirst]
      exact ⟨j, rfl, rfl⟩
  · rw [completions_concat, hnil, append_nil, hsame]
    exact h.recorded x
  · rcases mem_append.mp hf with hf | hf
    · exact h.live f hf
    · rw [mem_singleton.mp hf]
      exact movesLive_of_nil hnil

theorem completes {after : Books} (h : Journeys es before.lot) (hl : Located before.lot)
    {c : YardCall} {outcome : TransferSettleOutcome} {t : StockTransfer} {now : Int}
    (hfound : readTransfer t.transfer_id before.lot = some t) (hopen : t.state = .requested)
    (hcar : ∀ i ∈ readStockItem t.stock_item_id before.lot, i.live = true)
    (hitems : after.lot.stock_items = updateWhere
      (fun i : StockItem => i.stock_item_id = t.stock_item_id)
      (StockItem.moveTo t.to_rooftop_id) before.lot.stock_items)
    (htransfers : after.lot.stock_transfers = updateWhere
      (fun u : StockTransfer => u.transfer_id = t.transfer_id ∧ u.state = .requested)
      (StockTransfer.settle now .completed) before.lot.stock_transfers) :
    Journeys (es ++ [.committed c (.settlement outcome) before after]) after.lot := by
  obtain ⟨ht, -⟩ := readTransfer_some hfound
  have hadds : ∀ x, completedTransfers x after.lot = completedTransfers x before.lot ++
      if t.stock_item_id = x then [t.settle now .completed] else [] := by
    intro x
    rw [completedTransfers, htransfers]
    exact filter_settle x now hl.transfers hl.settled ht hopen
  have hnew : t.settle now .completed ∉ before.lot.stock_transfers := by
    intro hmem
    have hsame : t.settle now .completed = t := eq_of_key hl.transfers hmem ht rfl
    have hstate : (t.settle now .completed).state = .requested := by rw [hsame, hopen]
    cases hstate
  have hcompleted : ∀ x, completedBy x (.committed c (.settlement outcome) before after) =
      if t.stock_item_id = x then [t.settle now .completed] else [] := by
    intro x
    have hold : completedBy x (.committed c (.settlement outcome) before before) = [] :=
      completedBy_eq_nil c _ rfl
    rw [completedBy] at hold
    rw [completedBy, hadds, filter_append, hold, nil_append]
    split
    · rw [filter_singleton, decide_eq_true hnew, cond_true]
    · rfl
  have hacquired : ∀ x, acquiredBy x (.committed c (.settlement outcome) before after) = [] :=
    fun _ => rfl
  have hids : ∀ j ∈ after.lot.stock_items, ∃ i ∈ before.lot.stock_items,
      j.stock_item_id = i.stock_item_id ∧ j.live = i.live ∧
        j.rooftop_id = if i.stock_item_id = t.stock_item_id then t.to_rooftop_id
          else i.rooftop_id := by
    intro j hj
    rw [hitems] at hj
    rcases updateWhere_cases hj with ⟨hj, hne⟩ | ⟨i, hi, hid, rfl⟩
    · exact ⟨j, hj, rfl, rfl, by rw [if_neg hne]⟩
    · exact ⟨i, hi, rfl, rfl, by rw [if_pos hid]; rfl⟩
  refine ⟨fun x hx => ?_, fun j hj => ?_, fun x => ?_, fun f hf => ?_⟩
  · rw [acquisitions_concat, hacquired, append_nil]
    refine h.unacquired x fun i hi => ?_
    rw [NewItem, hitems] at hx
    by_cases hid : i.stock_item_id = t.stock_item_id
    · exact hx (i.moveTo t.to_rooftop_id) (mem_updateWhere_of_pos hi hid)
    · exact hx i (mem_updateWhere_of_neg hi hid)
  · obtain ⟨i, hi, hid, -, hrooftop⟩ := hids j hj
    obtain ⟨a, hacq, htrail⟩ := h.path i hi
    refine ⟨a, ?_, ?_⟩
    · rw [acquisitions_concat, hacquired, append_nil, hid]
      exact hacq
    · rw [completions_concat, hcompleted, hid, hrooftop]
      by_cases hx : i.stock_item_id = t.stock_item_id
      · rw [if_pos hx.symm, if_pos hx]
        have hfrom : t.from_rooftop_id = i.rooftop_id := hl.origin t ht hopen i hi hx
        exact htrail.concat (e := t.settle now .completed) hfrom
      · rw [if_neg (Ne.symm hx), if_neg hx, append_nil]
        exact htrail
  · rw [completions_concat, hcompleted, hadds, h.recorded]
  · rcases mem_inserted hf with hf | rfl
    · exact h.live f hf
    · intro x u hu i hi hid
      rw [hcompleted] at hu
      have hx : t.stock_item_id = x := by
        by_contra hx
        rw [if_neg hx] at hu
        exact absurd hu not_mem_nil
      have hlive : ∀ k ∈ before.lot.stock_items, k.stock_item_id = x → k.live = true := by
        intro k hk hkx
        refine hcar k ?_
        rw [hx, ← hkx]
        exact find?_eq_some_of_key hl.items hk
      rcases mem_append.mp hi with hi | hi
      · exact hlive i hi hid
      · obtain ⟨k, hk, hkid, hklive, -⟩ := hids i hi
        rw [hklive]
        exact hlive k hk (hkid.symm.trans hid)

end Journeys

theorem Journeys.commit {es : List YardEnding} (h : Journeys es before.lot)
    (hl : Located before.lot) (hs : Shifts held answer before.lot after.lot) :
    Journeys (es ++ [.committed c answer before after]) after.lot := by
  have hstill : ∀ {answer : YardAnswer},
      (∀ x, acquiredBy x (.committed c answer before after) = []) →
      (∀ x, NewItem x after.lot → NewItem x before.lot) →
      (∀ j ∈ after.lot.stock_items, ∃ i ∈ before.lot.stock_items,
        i.stock_item_id = j.stock_item_id ∧ i.rooftop_id = j.rooftop_id) →
      (∀ x, completedTransfers x after.lot = completedTransfers x before.lot) →
        Journeys (es ++ [.committed c answer before after]) after.lot := by
    intro answer hacquired hids hplaces hsame
    have hnil := fun x => completedBy_eq_nil c answer (hsame x)
    exact h.quiet hids hplaces hsame hacquired hnil (movesLive_of_nil hnil)
  cases hs with
  | stays quiet items transfers =>
    refine hstill (fun x => ?_) (fun x hx => ?_) (fun j hj => ?_) fun x => ?_
    · unfold acquiredBy
      split
      · rename_i heq
        cases heq
        exact absurd rfl (quiet _ _ _ _)
      · rfl
    · rwa [NewItem, items] at hx
    · rw [items] at hj
      exact ⟨j, hj, rfl, rfl⟩
    · rw [completedTransfers, transfers, ← completedTransfers]
  | arrives _ new items transfers => exact h.arrives hl new items transfers
  | @requests _ t _ _ _ _ _ _ state _ _ _ items transfers =>
    refine hstill (fun _ => rfl) (fun x hx => ?_) (fun j hj => ?_) fun x => ?_
    · rwa [NewItem, items] at hx
    · rw [items] at hj
      exact ⟨j, hj, rfl, rfl⟩
    · rw [completedTransfers, transfers, filter_append, ← completedTransfers]
      simp [state]
  | @cancels _ t now _ _ _ _ state items transfers =>
    refine hstill (fun _ => rfl) (fun x hx => ?_) (fun j hj => ?_) fun x => ?_
    · rwa [NewItem, items] at hx
    · rw [items] at hj
      exact ⟨j, hj, rfl, rfl⟩
    · rw [completedTransfers, transfers, filter_updateWhere]
      · rfl
      · intro u _ hu
        simp [hu.2, StockTransfer.settle]
  | completes _ _ found state car items transfers =>
    exact h.completes hl found state car items transfers
  | @progresses _ w input version _ _ _ items transfers =>
    refine hstill (fun _ => rfl) (fun x hx => ?_) (fun j hj => ?_) fun x => ?_
    · rw [NewItem, items] at hx
      intro i hi
      by_cases hp : i.stock_item_id = input.stockItemId ∧ i.authorization_version = version
      · exact hx (i.moved w.now input) (mem_updateWhere_of_pos hi hp)
      · exact hx i (mem_updateWhere_of_neg hi hp)
    · rw [items] at hj
      rcases updateWhere_cases hj with ⟨hj, -⟩ | ⟨i, hi, -, rfl⟩
      · exact ⟨j, hj, rfl, rfl⟩
      · exact ⟨i, hi, rfl, rfl⟩
    · rw [completedTransfers, transfers, ← completedTransfers]

/-- What the yard says of its cars: at most one transfer of a car is open, the completed
ones lead from where it was acquired to where it is, in the order in which they were
completed, none was completed for a retired car, and every settlement has an answer. -/
structure Whereabouts (S : Server YardCall Books LotLock Undone YardAnswer) : Prop where
  one_open : ∀ x, (S.committed.lot.stock_transfers.filter (·.opens x)).length ≤ 1
  journeys : Journeys S.history S.committed.lot
  answered : ∀ e ∈ S.history, e.call.settles = true → ∃ outcome before after,
    e = .committed e.call (.settlement outcome) before after

/-- **A car is where its transfers say it is.**  From a lot without cars, in every
interleaving in which settlements are made by somebody known and not cut off, and a
completion moves a live car whose number is free where it goes. -/
theorem cars_are_where_transfers_say (casing : Casing) {db : Books}
    (hitems : db.lot.stock_items = []) (htransfers : db.lot.stock_transfers = [])
    {events : List (Event YardCall)}
    (h : Along (Server.step LotLock.conflicts (YardCall.program casing)) Unhindered (.fresh db)
      events) :
    Whereabouts (run (Server.step LotLock.conflicts (YardCall.program casing)) (.fresh db)
      events) := by
  have hdb : yard.inv db := by
    refine ⟨?_, ?_, ?_, ?_, ?_⟩
    · rw [hitems]
      exact nodup_nil
    · rw [htransfers]
      exact nodup_nil
    · rw [htransfers]
      exact forall_mem_nil _
    · rw [htransfers]
      exact List.Pairwise.nil
    · rw [htransfers]
      exact forall_mem_nil _
  have hg := (yard_cooperates casing).guarded hdb h
  have hnil : Journeys [] db.lot := by
    refine ⟨fun _ _ => rfl, fun i hi => ?_, fun x => ?_, forall_mem_nil _⟩
    · rw [hitems] at hi
      exact absurd hi not_mem_nil
    · rw [completedTransfers, htransfers]
      rfl
  have hjourneys := (yard_cooperates casing).account (I := fun es d => Journeys es d.lot) hdb hnil
    (fun es e d d' hes hleads hkeeps => ?_) h
  · refine ⟨fun x => ?_, hjourneys, fun e he hsettles => ?_⟩
    · have hnodup : (run (Server.step LotLock.conflicts (YardCall.program casing)) (.fresh db)
          events).committed.lot.stock_transfers.Nodup := hg.inv.transfers.of_map _
      refine length_le_one_of_forall_eq (hnodup.filter _) fun t ht u hu => ?_
      simp only [mem_filter, StockTransfer.opens, Bool.and_eq_true, decide_eq_true_eq] at ht hu
      exact hg.inv.one_open ht.1 hu.1 (ht.2.1.trans hu.2.1.symm) ht.2.2 hu.2.2
    · have hkeeps := hg.history e he
      cases e with
      | committed c answer before after =>
        obtain ⟨-, -, held, hanswers, -⟩ := hkeeps
        obtain ⟨outcome, rfl⟩ := hanswers hsettles
        exact ⟨outcome, before, after, rfl⟩
      | raised c error => exact absurd (hsettles.symm.trans hkeeps) Bool.noConfusion
      | aborted c =>
        refine absurd he (Contract.not_aborted (P := fun c => c.settles = true) ?_ h
          (fun _ _ => not_mem_nil) hsettles)
        intro S i s hadm hs hc
        exact absurd (hc.symm.trans (hadm s hs)) Bool.noConfusion
  · cases e with
    | committed c answer before after =>
      obtain ⟨rfl, rfl⟩ := hleads
      obtain ⟨hl, -, held, -, hshifts⟩ := hkeeps
      exact hes.commit hl hshifts
    | raised c error =>
      cases hleads
      exact hes.quiet (fun _ hx => hx) (fun j hj => ⟨j, hj, rfl, rfl⟩) (fun _ => rfl)
        (fun _ => rfl) (fun _ => rfl) trivial
    | aborted c =>
      cases hleads
      exact hes.quiet (fun _ hx => hx) (fun j hj => ⟨j, hj, rfl, rfl⟩) (fun _ => rfl)
        (fun _ => rfl) (fun _ => rfl) trivial

/-! ## Two rooftops -/

namespace TwoRooftops

open Forecourt (clerk)

/-- The dealership before it owns a car. -/
def books : Books where
  crm := .quiet [] [] [] []
  lot := ⟨[], [], [], [], []⟩
  merged_into := []
  party_consents := []
  party_merges := []

/-- A call that draws an id for whatever it creates. -/
def world (id : String) : BooksWorld where
  access := (Forecourt.world 1 id).access
  now := 1
  rooftopExists := (Forecourt.world 1 id).rooftopExists
  stockItemExists := fun _ => false
  vehicleExists := fun _ => false
  campaignVersionExists := fun _ => false
  newPartyId := id
  newLeadId := id
  newTouchId := id
  newHandoffId := id
  newActivityId := id
  newAppointmentId := id
  newVehicleId := id
  newStockItemId := id

/-- A car is bought at auction, for a rooftop. -/
def buy (item vin stockNumber rooftop : String) : YardCall :=
  .acquireStock (world item)
    { actingUserLinkId := clerk
      rooftopId := rooftop
      vin := some vin
      stockNumber := some stockNumber
      acquisitionSource := "auction"
      acquiredOn := "2026-08-01"
      referenceYear := 2026
      odometer := none
      odometerUnit := none
      titleStatus := none
      locationLabel := none
      acquisitionPartyId := none
      newParty := none }

def request (id item rooftop : String) : YardCall :=
  .requestStockTransfer (Forecourt.world 2 id) ⟨clerk, item, rooftop, none⟩

def complete (id : String) : YardCall :=
  .settleStockTransfer (Forecourt.world 3 id) ⟨clerk, id, "completed"⟩

/-- Everybody is known, and nobody is cut off. -/
def Undisputed (events : List (Event YardCall)) : Prop :=
  (∀ c, .arrive c ∈ events → c.Attributable) ∧ ∀ i, .abort i ∉ events

def roundTrip : List YardCall :=
  [buy "sedan" "1HGBH41JXMN109186" "A1" "main street", request "t1" "sedan" "airport",
    complete "t1", request "t2" "sedan" "main street", complete "t2"]

def takenNumber : List YardCall :=
  [buy "sedan" "1HGBH41JXMN109186" "A1" "main street",
    buy "coupe" "1HGBH41JXMN109187" "A1" "airport", request "t1" "sedan" "airport", complete "t1"]

theorem oneByOne_undisputed {calls : List YardCall} (h : ∀ c ∈ calls, c.Attributable) :
    Undisputed (oneByOne 6 calls 0) := by
  constructor
  · intro c hc
    obtain ⟨⟨d, i⟩, hd, hc⟩ := mem_flatMap.mp hc
    rcases mem_cons.mp hc with hc | hc
    · cases hc
      exact h c (fst_mem_of_mem_zipIdx hd)
    · cases eq_of_mem_replicate hc
  · intro i hi
    obtain ⟨⟨d, j⟩, -, hi⟩ := mem_flatMap.mp hi
    rcases mem_cons.mp hi with hi | hi
    · cases hi
    · cases eq_of_mem_replicate hi

/-- The end of the day. -/
abbrev close (calls : List YardCall) : Server YardCall Books LotLock Undone YardAnswer :=
  served LotLock.conflicts (YardCall.program .ascii) books (oneByOne 6 calls 0)

end TwoRooftops

open TwoRooftops in
/-- To the airport and back, by two transfers. -/
theorem round_trip_ends_at_home :
    ((completions "sedan" (close roundTrip).history).map (·.to_rooftop_id) =
        ["airport", "main street"] ∧
      (close roundTrip).committed.lot.stock_items.map (·.rooftop_id) = ["main street"]) ∧
    Whereabouts (close roundTrip) :=
  ⟨by decide +kernel, cars_are_where_transfers_say .ascii rfl rfl (by decide +kernel)⟩

open TwoRooftops in
/-- A completion whose number is taken at the destination raises. -/
theorem taken_number_raises :
    ¬ ∀ calls : List YardCall, Undisputed (oneByOne 6 calls 0) → Whereabouts (close calls) := by
  intro h
  have hraised : ((close takenNumber).history.any fun e =>
      e.call.settles && e matches .raised ..) = true := by
    decide +kernel
  obtain ⟨e, he, hmatches⟩ := any_eq_true.mp hraised
  rw [Bool.and_eq_true] at hmatches
  have hknown : ∀ c ∈ takenNumber, c.Attributable := by decide +kernel
  obtain ⟨outcome, before, after, heq⟩ :=
    (h takenNumber (oneByOne_undisputed hknown)).answered e he hmatches.1
  rw [heq] at hmatches
  exact Bool.noConfusion hmatches.2

end Dealership.Inventory
