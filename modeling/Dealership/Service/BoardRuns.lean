import Dealership.Library.Chronicle
import Dealership.Service.Board
import Dealership.Service.Writes

/-!
# Everybody at the board

The lifecycle and the people at the board together.  While nobody finishes an item that a
status change under way has found and keeps, every order that waits for somebody is shown,
once and in the queue it belongs in.
-/

namespace Dealership.Service

open Library List
open Inventory (LotLock)
open Sales (Locked)

variable {held : List LotLock} {roId : String} {ids : List String} {more : List LotLock}

/-! ## The contract -/

/-- What others may have done since, to whoever holds `held`. -/
structure BoardKept (held : List LotLock) (d d' : Shop) : Prop where
  orders : ∀ r ∈ d.repair_orders, .row "repair_orders" r.ro_id .forUpdate ∈ held →
    r ∈ d'.repair_orders
  items : ∀ q ∈ d.service_queue_items, Locked held "service_queue_items" q.queue_item_id →
    q ∈ d'.service_queue_items
  found : ∀ roId, Owned held roId d → ∀ q ∈ openItems roId d', ∃ p ∈ openItems roId d,
    p.queue_item_id = q.queue_item_id ∧ p.queue_type = q.queue_type
  orderKeys : ∀ id, .index "repair_orders_pkey" id ∈ held →
    (∀ r ∈ d.repair_orders, r.ro_id ≠ id) → ∀ r ∈ d'.repair_orders, r.ro_id ≠ id
  itemKeys : ∀ id, .index "service_queue_items_pkey" id ∈ held →
    (∀ q ∈ d.service_queue_items, q.queue_item_id ≠ id) →
      ∀ q ∈ d'.service_queue_items, q.queue_item_id ≠ id

theorem Owned.mono {d : Shop} (h : Owned held roId d)
    (hsub : ∀ k ∈ held, k ∈ more) : Owned more roId d :=
  h.imp (fun ⟨hlock, hthere⟩ => ⟨hsub _ hlock, hthere⟩) fun ⟨hkey, hfresh⟩ => ⟨hsub _ hkey, hfresh⟩

theorem Owned.kept {d d' : Shop} (h : Owned held roId d) (hr : BoardKept held d d') :
    Owned held roId d' := by
  rcases h with ⟨hlock, r, hmem, rfl⟩ | ⟨hkey, hfresh⟩
  · exact .inl ⟨hlock, r, hr.orders r hmem hlock, rfl⟩
  · exact .inr ⟨hkey, hr.orderKeys roId hkey hfresh⟩

theorem BoardKept.refl (held : List LotLock) (d : Shop) : BoardKept held d d where
  orders := fun _ hr _ => hr
  items := fun _ hq _ => hq
  found := fun _ _ q hq => ⟨q, hq, rfl, rfl⟩
  orderKeys := fun _ _ h => h
  itemKeys := fun _ _ h => h

theorem BoardKept.trans {a b e : Shop} (hab : BoardKept held a b) (hbe : BoardKept held b e) :
    BoardKept held a e where
  orders := fun r hr hlock => hbe.orders r (hab.orders r hr hlock) hlock
  items := fun q hq hlock => hbe.items q (hab.items q hq hlock) hlock
  found := by
    intro roId howned q hq
    obtain ⟨p, hp, hid, hqueue⟩ := hbe.found roId (howned.kept hab) q hq
    obtain ⟨x, hx, hid', hqueue'⟩ := hab.found roId howned p hp
    exact ⟨x, hx, hid'.trans hid, hqueue'.trans hqueue⟩
  orderKeys := fun id hkey h => hbe.orderKeys id hkey (hab.orderKeys id hkey h)
  itemKeys := fun id hkey h => hbe.itemKeys id hkey (hab.itemKeys id hkey h)

theorem BoardKept.mono (hsub : ∀ k ∈ held, k ∈ more) {a b : Shop}
    (h : BoardKept more a b) : BoardKept held a b where
  orders := fun r hr hlock => h.orders r hr (hsub _ hlock)
  items := fun q hq hlock => h.items q hq (hlock.mono hsub)
  found := fun roId howned => h.found roId (howned.mono hsub)
  orderKeys := fun id hkey => h.orderKeys id (hsub _ hkey)
  itemKeys := fun id hkey => h.itemKeys id (hsub _ hkey)

theorem BoardKept.of_same {a b c : Shop} (h : BoardKept held a b) (same : SameBoard b c) :
    BoardKept held a c := by
  refine ⟨?_, ?_, ?_, ?_, ?_⟩
  · rw [same.orders]
    exact h.orders
  · rw [same.items]
    exact h.items
  · intro roId
    rw [same.openItems]
    exact h.found roId
  · rw [same.orders]
    exact h.orderKeys
  · rw [same.items]
    exact h.itemKeys

section Kept

variable {more : List LotLock} {d : Shop} (hclear : ∀ k ∈ held, ∀ l ∈ more, k.conflicts l = false)

include hclear

theorem order_not_both (h : .row "repair_orders" roId .forUpdate ∈ held) :
    .row "repair_orders" roId .forUpdate ∉ more := by
  intro h'
  simpa [LotLock.conflicts, Crm.RowLock.conflicts] using hclear _ h _ h'

theorem owned_not_both (h : Owned held roId d) : ¬ Owned more roId d := by
  rcases h with ⟨hlock, r, hr, hid⟩ | ⟨hkey, hfresh⟩
  · rintro (⟨hlock', -⟩ | ⟨-, hfresh⟩)
    · exact order_not_both hclear hlock hlock'
    · exact hfresh r hr hid
  · rintro (⟨-, r, hr, hid⟩ | ⟨hkey', -⟩)
    · exact hfresh r hr hid
    · exact index_not_both hclear hkey hkey'

theorem BoardKept.of_synced {target : Option QueueType} {entered : Option QueueItem}
    (h : Synced held roId target ids entered d) {orders : List RepairOrder}
    (horders : ∀ r ∈ d.repair_orders, .row "repair_orders" r.ro_id .forUpdate ∈ more → r ∈ orders)
    (hkeys : ∀ id, .index "repair_orders_pkey" id ∈ more →
      (∀ r ∈ d.repair_orders, r.ro_id ≠ id) → ∀ r ∈ orders, r.ro_id ≠ id) :
    BoardKept more d (Shop.synced { d with repair_orders := orders } ids entered) := by
  refine ⟨horders, ?_, ?_, hkeys, ?_⟩
  · intro q hq hlock
    refine mem_append_left _ (mem_updateWhere_of_neg hq fun hin => ?_)
    exact (h.locked _ hin).not_both hclear hlock
  · intro id howned q hq
    rcases h.open_cases hq with ⟨hq, -⟩ | ⟨-, rfl, -⟩
    · exact ⟨q, hq, rfl, rfl⟩
    · exact absurd howned (owned_not_both hclear h.owned)
  · intro id hkey hfresh q hq
    rcases mem_append.mp hq with hq | hq
    · rcases updateWhere_cases hq with ⟨hq, -⟩ | ⟨p, hp, -, rfl⟩
      · exact hfresh q hq
      · exact hfresh p hp
    · rw [Option.mem_toList] at hq
      rintro rfl
      exact index_not_both hclear (h.enters q hq).1 hkey

theorem BoardMoves.kept {c : BoardCall} {d' : Shop} (hm : BoardMoves held c d d')
    (hd : BoardSound d) : BoardKept more d d' := by
  have hrefl := BoardKept.refl more d
  -- An order that is entered is not one that somebody else is about to enter.
  have hentered : ∀ {r : RepairOrder}, .index "repair_orders_pkey" r.ro_id ∈ held →
      ∀ id, .index "repair_orders_pkey" id ∈ more → (∀ s ∈ d.repair_orders, s.ro_id ≠ id) →
        ∀ s ∈ d.repair_orders ++ [r], s.ro_id ≠ id := by
    intro r hkey id hkey' hfresh s hs
    rcases concat_cases hs with hs | rfl
    · exact hfresh s hs
    · rintro rfl
      exact index_not_both hclear hkey hkey'
  cases hm with
  | stays same => exact hrefl.of_same same
  | opens key _ _ same =>
    refine BoardKept.of_same ?_ same
    refine ⟨fun s hs _ => mem_append_left _ hs, hrefl.items, ?_, hentered key, hrefl.itemKeys⟩
    exact fun _ _ q hq => ⟨q, hq, rfl, rfl⟩
  | checksIn _ key _ synced _ same =>
    refine (BoardKept.of_synced hclear synced ?_ (hentered key)).of_same same
    exact fun s hs _ => mem_append_left _ hs
  | @moves r target ids entered _ _ _ lock found synced _ same =>
    refine (BoardKept.of_synced hclear synced ?_ ?_).of_same same
    · intro s hs hlock
      refine mem_updateWhere_of_neg hs fun hid => ?_
      exact order_not_both hclear lock (hid ▸ hlock)
    · intro id _ hfresh s hs
      rcases updateWhere_cases hs with ⟨hs, -⟩ | ⟨x, hx, -, rfl⟩
      · exact hfresh s hs
      · exact hfresh x hx
  | @works q f _ _ lock found keyed fits same =>
    refine BoardKept.of_same ?_ same
    refine ⟨hrefl.orders, ?_, ?_, hrefl.orderKeys, ?_⟩
    · intro p hp hlock
      refine mem_updateWhere_of_neg hp fun hin => ?_
      exact lock.not_both hclear (mem_singleton.mp hin ▸ hlock)
    · intro roId _ p hp
      obtain ⟨hmem, hro, hopen⟩ := mem_openItems.mp hp
      rcases updateWhere_cases hmem with ⟨hmem, -⟩ | ⟨x, hx, hin, rfl⟩
      · exact ⟨p, mem_openItems.mpr ⟨hmem, hro, hopen⟩, rfl, rfl⟩
      · obtain rfl := eq_of_key hd.items hx found (mem_singleton.mp hin)
        refine ⟨x, mem_openItems.mpr ⟨hx, fits.order.symm.trans hro, ?_⟩, (keyed x).symm,
          fits.queue.symm⟩
        refine Bool.eq_false_iff.mpr fun hclosed => ?_
        rw [fits.closed hclosed] at hopen
        cases hopen
    · intro id _ hfresh p hp
      rcases updateWhere_cases hp with ⟨hp, -⟩ | ⟨x, hx, -, rfl⟩
      · exact hfresh p hp
      · rw [keyed]
        exact hfresh x hx

end Kept

/-- An item of the order that was found to keep is open still. -/
def StillOpen (d : Shop) : LotLock → Prop
  | .row table roId _ => table = "service_queue_items: kept" → openItems roId d ≠ []
  | .index .. | .advisory .. => True

instance (d : Shop) : ∀ k, Decidable (StillOpen d k)
  | .row table roId _ => inferInstanceAs (Decidable
      (table = "service_queue_items: kept" → openItems roId d ≠ []))
  | .index .. | .advisory .. => .isTrue trivial

/-- The contract of a call, or of a part of one that answers a `B`. -/
def board (B : Type) : Contract BoardCall Shop LotLock ServiceError B where
  inv := BoardSound
  rely := fun _ => BoardKept
  finds := fun _ held d => ∀ k ∈ held, StillOpen d k
  ensures := fun c held _ => BoardMoves held c
  mayRaise := fun _ _ => True

instance {B : Type} {c : BoardCall} : (board B).Tolerant c := ⟨fun _ => trivial⟩

theorem board_regular (B : Type) (c : BoardCall) : (board B).Regular c :=
  ⟨fun _ _ => .refl _ _, fun _ _ _ _ => .trans, fun _ _ _ _ hsub => .mono hsub⟩

/-- What has been found of the items stays so for whoever owns the order. -/
theorem Cleared.kept {target : Option QueueType} {d d' : Shop} (h : Cleared held roId target ids d)
    (hsub : ∀ k ∈ held, k ∈ more) (hr : BoardKept held d d') :
    Cleared more roId target ids d' := by
  refine ⟨(h.owned.kept hr).mono hsub, fun id hin => (h.locked id hin).mono hsub, ?_, ?_⟩
  · intro q hq hstale
    obtain ⟨p, hp, hid, hqueue⟩ := hr.found roId h.owned q hq
    rw [← hid]
    exact h.stale p hp (hqueue ▸ hstale)
  · rintro id hin
    obtain ⟨q, hq, rfl, hstale⟩ := h.only id hin
    obtain ⟨hmem, hrest⟩ := mem_openItems.mp hq
    exact ⟨q, mem_openItems.mpr ⟨hr.items q hmem (h.locked _ hin), hrest⟩, rfl, hstale⟩

theorem BoardKept.queues {d d' : Shop} (hr : BoardKept held d d') (howned : Owned held roId d)
    {P : QueueType → Prop} (h : ∀ q ∈ openItems roId d, P q.queue_type) :
    ∀ q ∈ openItems roId d', P q.queue_type := by
  intro q hq
  obtain ⟨p, hp, -, hqueue⟩ := hr.found roId howned q hq
  rw [← hqueue]
  exact h p hp

theorem Synced.kept {target : Option QueueType} {entered : Option QueueItem} {d d' : Shop}
    (h : Synced held roId target ids entered d) (hsub : ∀ k ∈ held, k ∈ more)
    (hr : BoardKept held d d') : Synced more roId target ids entered d' := by
  refine ⟨h.toCleared.kept hsub hr, ?_, ?_⟩
  · intro q hq
    obtain ⟨hkey, hfresh, hro, hopen, htarget, hnone⟩ := h.enters q hq
    exact ⟨hsub _ hkey, hr.itemKeys _ hkey hfresh, hro, hopen, htarget,
      hr.queues (P := fun queue => target ≠ some queue) h.owned hnone⟩
  · intro hentered
    refine (h.keeps hentered).imp_right fun ⟨hmark, hall⟩ => ⟨hsub _ hmark, ?_⟩
    exact hr.queues (P := fun queue => target = some queue) h.owned hall

section Sound

variable {B : Type} {c : BoardCall} {pending : Shop → Shop} {d : Shop} {w : ServiceWorld}
  {r : RepairOrder} {target : ROStatus} {b : B}

theorem board_aside {A : Type} {s : ServiceWork A} (hs : s.Writes SameBoard)
    {k : A → ServiceWork B}
    (h : ∀ a pending' d' more, (∀ k ∈ held, k ∈ more) → BoardKept held d d' →
      (∀ x, SameBoard (pending x) (pending' x)) → (board B).Sound c (k a) more pending' d') :
    (board B).Sound c (s >>= k) held pending d := by
  refine Contract.Sound.past_writes (Q := fun x y => SameBoard (pending x) y)
    (fun _ _ _ => .trans) (board_regular B c) (fun _ => trivial) hs
    (fun x => .refl (pending x)) ?_
  exact fun a held' pending' d' hsub hp hr => h a pending' d' held' hsub hr hp

theorem board_commits
    (h : ∀ d', BoardKept held d d' → BoardSound d' → (∀ k ∈ held, StillOpen d' k) →
      BoardMoves held c d' (pending d')) : (board B).Sound c (pure b) held pending d := by
  intro d' hr hi hf
  have hmoves := h d' hr hi hf
  exact ⟨hmoves.boardSound hi, hmoves⟩

theorem board_ends {s : ServiceWork B} (hs : s.Writes SameBoard)
    (h : ∀ more d', (∀ k ∈ held, k ∈ more) → BoardKept held d d' → BoardSound d' →
      (∀ k ∈ more, StillOpen d' k) → ∀ after, SameBoard (pending d') after →
        BoardMoves more c d' after) : (board B).Sound c s held pending d := by
  refine Contract.Sound.of_writes (Q := fun x y => SameBoard (pending x) y)
    (fun _ _ _ => .trans) (board_regular B c) (fun _ => trivial) hs
    (fun x => .refl (pending x)) ?_
  intro a held' pending' d' hsub hp hr
  exact board_commits fun d'' hr' hi hf =>
    h held' d'' hsub (hr.trans (hr'.mono hsub)) hi hf _ (hp d'')

theorem show_sound {locationId : String} {queue : QueueType} {k : Unit → ServiceWork B}
    (hcleared : Cleared held roId (some queue) ids d)
    (hitems : ∀ x, (pending x).service_queue_items = (x.setItems ids finished).service_queue_items)
    (h : ∀ entered pending' d' more, (∀ k ∈ held, k ∈ more) → BoardKept held d d' →
      Synced more roId (some queue) ids entered d' →
      (∀ x, SameBoard { pending x with
        service_queue_items := (pending x).service_queue_items ++ entered.toList } (pending' x)) →
        (board B).Sound c (k ()) more pending' d') : (board B).Sound c ((Script.selectLocking
      (fun d => if (openItems roId d).any fun q => q.queue_type = queue then [keptMark roId]
        else []) (fun d => (openItems roId d).any fun q => q.queue_type = queue) >>= fun present =>
      if present = true then pure () else
        createServiceQueueItem w w.nextId ⟨locationId, queue, some roId, none⟩) >>= k)
      held pending d := by
  rw [Script.bind_assoc]
  refine sound_selectLocking_bind fun d₁ held₁ hsub₁ hlocks₁ hr₁ hi₁ _ => ?_
  have hcleared₁ := hcleared.kept hsub₁ hr₁
  -- What is open in the transaction's own eyes is what is open and has not been done with.
  have hopen : ∀ q, q ∈ openItems roId (pending d₁) ↔
      q ∈ openItems roId d₁ ∧ q.queue_item_id ∉ ids := by
    intro q
    rw [← mem_openItems_finished, openItems, hitems, openItems]
  cases hfound : (openItems roId (pending d₁)).any fun q => q.queue_type = queue with
  | true =>
    rw [if_pos hfound] at hlocks₁
    obtain ⟨p, hp, hqueue⟩ := any_eq_true.mp hfound
    have hall : ∀ q ∈ openItems roId d₁, some queue = some q.queue_type := by
      intro q hq
      rw [hi₁.alone roId q hq p ((hopen p).mp hp).1, of_decide_eq_true hqueue]
    refine h none pending d₁ held₁ hsub₁ hr₁
      ⟨hcleared₁, fun q hq => absurd hq (Option.not_mem_none q), fun _ => .inr ?_⟩ ?_
    · exact ⟨hlocks₁ _ mem_cons_self, hall⟩
    · exact fun x => ⟨rfl, (append_nil _).symm⟩
  | false =>
    have hnone : ∀ q ∈ openItems roId d₁, some queue ≠ some q.queue_type := by
      intro q hq hqueue
      have hin : q.queue_item_id ∉ ids := by
        intro hin
        obtain ⟨p, hp, -, hne⟩ := hcleared₁.only _ hin
        rw [hi₁.alone roId p hp q hq] at hne
        exact hne hqueue
      refine any_eq_false.mp hfound q ((hopen q).mpr ⟨hq, hin⟩) ?_
      exact decide_eq_true (Option.some.inj hqueue).symm
    unfold createServiceQueueItem
    rw [if_neg Bool.false_ne_true, Script.bind_assoc]
    refine requireUuid_sound ?_
    rw [Script.bind_assoc]
    refine sound_select_bind fun d₂ hr₂ _ _ => ?_
    generalize slaDueAt w _ _ = dueAt
    unfold insertItem
    refine sound_execute_bind fun d₃ held₃ hsub₃ hlocks₃ hr₃ _ _ hfresh => ?_
    have hs := hr₂.trans hr₃
    refine h (some (newItem w.nextId ⟨locationId, queue, some roId, none⟩ dueAt)) _ d₃ held₃
      (fun k hk => hsub₃ _ (hsub₁ _ hk)) (hr₁.trans (hs.mono hsub₁))
      ⟨hcleared₁.kept hsub₃ hs, ?_, fun hnone => absurd hnone (Option.some_ne_none _)⟩
      fun x => ⟨rfl, rfl⟩
    intro q hq
    obtain rfl := Option.mem_some.mp hq
    refine ⟨hlocks₃ _ mem_cons_self, fun p hp hid => ?_, rfl, rfl, rfl, ?_⟩
    · have hkeys : (pending d₃).service_queue_items.map QueueItem.queue_item_id =
          d₃.service_queue_items.map QueueItem.queue_item_id := by
        rw [hitems]
        exact map_updateWhere (f := finished) fun _ _ => rfl
      obtain ⟨r, hr, hrid⟩ := mem_map.mp (hkeys ▸ mem_map_of_mem hp)
      exact of_decide_eq_true (all_eq_true.mp hfresh r hr) (hrid.trans hid)
    · exact hs.queues (P := fun q => some queue ≠ some q) hcleared₁.owned hnone

theorem syncQueueForRO_sound {ro : RepairOrder} {k : Unit → ServiceWork B}
    (howned : Owned held ro.ro_id d)
    (hitems : ∀ x, (pending x).service_queue_items = x.service_queue_items)
    (h : ∀ ids entered pending' d' more, (∀ k ∈ held, k ∈ more) → BoardKept held d d' →
      Synced more ro.ro_id (roStatusQueue ro.status) ids entered d' →
      (∀ x, SameBoard ((pending x).synced ids entered) (pending' x)) →
        (board B).Sound c (k ()) more pending' d') :
    (board B).Sound c (syncQueueForRO w ro >>= k) held pending d := by
  unfold syncQueueForRO
  generalize roStatusQueue ro.status = target at h ⊢
  rw [Script.bind_assoc]
  refine store_sound fun d₁ held₁ hsub₁ hlocks₁ hr₁ _ _ => ?_
  have hmem : ∀ id, id ∈ staleItems ro.ro_id target (pending d₁) ↔
      ∃ q ∈ openItems ro.ro_id d₁, q.queue_item_id = id ∧ target ≠ some q.queue_type := by
    intro id
    rw [staleItems, openItems, hitems, ← openItems]
    simp only [mem_map, mem_filter, decide_eq_true_eq]
    constructor
    · rintro ⟨q, ⟨hq, hne⟩, hid⟩
      exact ⟨q, hq, hid, hne⟩
    · rintro ⟨q, hq, hid, hne⟩
      exact ⟨q, ⟨hq, hne⟩, hid⟩
  generalize staleItems ro.ro_id target (pending d₁) = ids at hlocks₁ hmem ⊢
  have hcleared : Cleared held₁ ro.ro_id target ids d₁ :=
    ⟨(howned.kept hr₁).mono hsub₁, fun id hin => .inr (hlocks₁ _ (mem_map_of_mem hin)),
      fun q hq hne => (hmem _).mpr ⟨q, hq, rfl, hne⟩, fun id hin => (hmem id).mp hin⟩
  cases target with
  | none =>
    refine h ids none _ d₁ held₁ hsub₁ hr₁
      ⟨hcleared, fun q hq => absurd hq (Option.not_mem_none q), fun _ => .inl rfl⟩ fun x => ?_
    exact ⟨rfl, (append_nil _).symm⟩
  | some queue =>
    refine show_sound hcleared (fun x => ?_) ?_
    · exact congrArg (updateWhere _ finished) (hitems x)
    · intro entered pending' d₂ held₂ hsub₂ hr₂ hsynced hsame
      exact h ids entered pending' d₂ held₂ (fun k hk => hsub₂ _ (hsub₁ _ hk))
        (hr₁.trans (hr₂.mono hsub₁)) hsynced hsame

theorem SameBoard.synced {a b : Shop} (h : SameBoard a b) (ids : List String)
    (entered : Option QueueItem) : SameBoard (a.synced ids entered) (b.synced ids entered) where
  orders := h.orders
  items := by rw [Shop.synced, h.items, Shop.synced]

theorem SameBoard.setStatus {a b : Shop} (h : SameBoard a b) (roId : String) (target : ROStatus) :
    SameBoard (a.setStatus roId target) (b.setStatus roId target) where
  orders := by rw [Shop.setStatus, h.orders, Shop.setStatus]
  items := h.items

theorem changed_ends {rest : ServiceWork B} (hcall : c.lifecycle = true)
    (hlock : .row "repair_orders" r.ro_id .forUpdate ∈ held) (hr : r ∈ d.repair_orders)
    (hp : ∀ x, SameBoard (x.setStatus r.ro_id target) (pending x)) (hrest : rest.Writes SameBoard) :
    (board B).Sound c (syncQueueForRO w { r with status := target } >>= fun _ => rest) held
      pending d := by
  refine syncQueueForRO_sound (.inl ⟨hlock, r, hr, rfl⟩) (fun x => (hp x).items) ?_
  intro ids entered pending' d₁ held₁ hsub₁ hr₁ hsynced hsame
  refine board_ends hrest fun held₂ d₂ hsub₂ hr₂ _ hf after hafter => ?_
  have hr' := (hr₁.trans (hr₂.mono hsub₁)).orders r hr hlock
  refine .moves hcall (hsub₂ _ (hsub₁ _ hlock)) hr' (hsynced.kept hsub₂ hr₂)
    (fun hmark => hf _ hmark rfl) ?_
  exact (((hp d₂).synced ids entered).trans (hsame d₂)).trans hafter

theorem moveRO_onBoard {sources : List ROStatus} {k : Bool → ServiceWork B}
    (hlock : .row "repair_orders" r.ro_id .forUpdate ∈ held) (hr : r ∈ d.repair_orders)
    (hp : ∀ x, SameBoard x (pending x))
    (h : ∀ d' more, (∀ k ∈ held, k ∈ more) → BoardKept held d d' →
      (board B).Sound c (k (decide (r.status ∈ sources))) more
        (fun x => if r.status ∈ sources then (pending x).setStatus r.ro_id target
          else pending x) d') :
    (board B).Sound c (moveRO r.ro_id sources target >>= k) held pending d := by
  unfold moveRO
  refine sound_execute_bind fun d' more hsub _ hr' hi _ _ => ?_
  have hfound : findRO r.ro_id (pending d') = some r := by
    rw [findRO, (hp d').orders]
    exact find?_eq_some_of_key hi.orders (hr'.orders r hr hlock)
  simpa only [hfound, Option.any_some, decide_eq_true_eq] using h d' more hsub hr'

theorem moved_ends {sources : List ROStatus} {rest : ServiceWork B} (hcall : c.lifecycle = true)
    (hlock : .row "repair_orders" r.ro_id .forUpdate ∈ held) (hr : r ∈ d.repair_orders)
    (hp : ∀ x, SameBoard x (pending x)) (hrest : rest.Writes SameBoard) :
    (board B).Sound c (moveRO r.ro_id sources target >>= fun moved =>
      (if moved = true then syncQueueForRO w { r with status := target } else pure ()) >>=
        fun _ => rest) held pending d := by
  refine moveRO_onBoard hlock hr hp fun d₁ held₁ hsub₁ hr₁ => ?_
  by_cases hin : r.status ∈ sources
  · simp only [hin, if_true, decide_true]
    exact changed_ends hcall (hsub₁ _ hlock) (hr₁.orders r hr hlock)
      (fun x => (hp x).setStatus r.ro_id target) hrest
  · simp only [hin, if_false, decide_false, Bool.false_eq_true]
    refine board_ends hrest fun held₂ d₂ _ _ _ _ after hafter => ?_
    exact .stays ((hp d₂).trans hafter)

/-! ### The lifecycle -/

theorem told_leaves (w : ServiceWorld) (roId : String) (event : ROEventType) (b : B) :
    (recordROEvent w roId event >>= fun _ => pure b).Writes SameBoard :=
  (recordROEvent_writes (fun _ _ => ⟨rfl, rfl⟩) w roId event).bind fun _ => writes_pure b

theorem createRO_onBoard (w : ServiceWorld) (input : ROInput) :
    (board RepairOrder).Sound (.createRO w input) (createRO w input) [] (fun x => x) d := by
  unfold createRO requireOdometer
  refine requireUuid_sound (requireUuid_sound ?_)
  refine requireUuid_sound (insist_sound fun _ => ?_)
  refine insist_sound fun _ => ?_
  refine board_aside (requireFreeAppointment_writes .refl _) fun _ pending d₁ held₁ _ _ hsame => ?_
  refine insertRO_sound fun d₂ held₂ _ _ hkey _ hfresh => ?_
  refine board_ends (told_leaves _ _ _ _) fun held₃ d₃ hsub₃ hr₃ _ _ after hafter => ?_
  rw [(hsame d₂).orders] at hfresh
  refine .opens (hsub₃ _ hkey) (hr₃.orderKeys _ hkey hfresh) rfl (SameBoard.trans ⟨?_, ?_⟩ hafter)
  · exact congrArg (· ++ _) (hsame d₃).orders
  · exact (hsame d₃).items

theorem opened_onBoard {appointmentId : String} {event : ROEventType} (hcall : c.lifecycle = true)
    (hp : ∀ x, SameBoard x (pending x)) :
    (board B).Sound c (insertRO r >>= fun _ => convertAppointment appointmentId >>= fun _ =>
      recordROEvent w roId event >>= fun _ => syncQueueForRO w r >>= fun _ =>
        convertOffers w appointmentId roId >>= fun _ => pure b) held pending d := by
  refine insertRO_sound fun d₁ held₁ _ _ hkey _ hfresh => ?_
  rw [(hp d₁).orders] at hfresh
  unfold convertAppointment
  refine board_aside (writes_execute (fun _ _ => ⟨rfl, rfl⟩) _ _ _ _)
    fun _ pending₂ d₂ held₂ hsub₂ hr₂ hsame₂ => ?_
  refine board_aside (recordROEvent_writes (fun _ _ => ⟨rfl, rfl⟩) _ _ _)
    fun _ pending₃ d₃ held₃ hsub₃ hr₃ hsame₃ => ?_
  have hkey₃ := hsub₃ _ (hsub₂ _ hkey)
  have hfresh₃ := hr₃.orderKeys _ (hsub₂ _ hkey) (hr₂.orderKeys _ hkey hfresh)
  have hpending : ∀ x : Shop, SameBoard { x with repair_orders := x.repair_orders ++ [r] }
      (pending₃ x) := by
    intro x
    refine SameBoard.trans ⟨?_, ?_⟩ ((hsame₂ x).trans (hsame₃ x))
    · exact congrArg (· ++ [r]) (hp x).orders
    · exact (hp x).items
  refine syncQueueForRO_sound (.inr ⟨hkey₃, hfresh₃⟩) (fun x => (hpending x).items) ?_
  intro ids entered pending₄ d₄ held₄ hsub₄ hr₄ hsynced hsame₄
  refine board_ends ?_ fun held₅ d₅ hsub₅ hr₅ _ hf after hafter => ?_
  · exact (writes_execute (fun _ _ => ⟨rfl, rfl⟩) _ _ _ _).bind fun _ =>
      writes_pure _
  · refine .checksIn hcall (hsub₅ _ (hsub₄ _ hkey₃)) ?_ (hsynced.kept hsub₅ hr₅)
      (fun hmark => hf _ hmark rfl) ?_
    · exact (hr₄.trans (hr₅.mono hsub₄)).orderKeys _ hkey₃ hfresh₃
    · exact (((hpending d₅).synced ids entered).trans (hsame₄ d₅)).trans hafter

theorem checkIn_onBoard (w : ServiceWorld) (appointmentId : String) (odometer : Option Rat) :
    (board CheckInResult).Sound (.checkIn w appointmentId odometer)
      (checkIn w appointmentId odometer) [] (fun x => x) d := by
  unfold checkIn requireOdometer
  refine requireUuid_sound (insist_sound fun _ => ?_)
  refine board_aside (lockAppointment_writes .refl _) fun a pending₁ d₁ held₁ _ _ hsame₁ => ?_
  refine sound_select_bind fun d₂ _ _ _ => ?_
  cases orderOf appointmentId (pending₁ d₂) with
  | some ro => exact board_commits fun d₃ _ _ _ => .stays (hsame₁ d₃)
  | none => exact insist_sound fun _ => opened_onBoard rfl hsame₁

theorem startMPISession_onBoard (w : ServiceWorld) (roId templateId techUserId : String) :
    (board MpiSession).Sound (.startMPISession w roId templateId techUserId)
      (startMPISession w roId templateId techUserId) [] (fun x => x) d := by
  unfold startMPISession
  refine requireUuid_sound (requireUuid_sound ?_)
  refine assertRO_sound fun r d₁ held₁ hid _ hlock _ _ hr => ?_
  subst hid
  refine insist_sound fun _ => ?_
  refine sound_select_bind fun d₂ hr₂ _ _ => insist_sound fun _ => ?_
  refine board_aside (writes_execute (fun _ _ => ⟨rfl, rfl⟩) _ _ _ _)
    fun _ pending d₃ held₃ hsub₃ hr₃ hsame => ?_
  exact moved_ends rfl (hsub₃ _ hlock) ((hr₂.trans hr₃).orders r hr hlock) hsame
    (told_leaves _ _ _ _)

theorem generateEstimate_onBoard (w : ServiceWorld) (roId : String)
    (languageMode : Option String) :
    (board Estimate).Sound (.generateEstimate w roId languageMode)
      (generateEstimate w roId languageMode) [] (fun x => x) d := by
  unfold generateEstimate insertEstimate
  refine insist_sound fun _ => ?_
  refine assertRO_sound fun r d₁ held₁ hid _ hlock _ _ hr => ?_
  subst hid
  refine insist_sound fun _ => ?_
  refine sound_selectLocking_bind fun d₂ held₂ hsub₂ _ hr₂ _ _ => ?_
  refine insist_sound fun _ => ?_
  refine sound_select_bind fun d₃ hr₃ _ _ => insist_sound fun _ => ?_
  refine board_aside (writes_execute (fun _ _ => ⟨rfl, rfl⟩) _ _ _ _)
    fun _ pending₄ d₄ held₄ hsub₄ hr₄ hsame₄ => ?_
  refine board_aside (writes_execute (fun _ _ => ⟨rfl, rfl⟩) _ _ _ _)
    fun _ pending₅ d₅ held₅ hsub₅ hr₅ hsame₅ => ?_
  have hs := hr₂.trans ((hr₃.trans (hr₄.trans (hr₅.mono hsub₄))).mono hsub₂)
  exact moved_ends rfl (hsub₅ _ (hsub₄ _ (hsub₂ _ hlock))) (hs.orders r hr hlock)
    (fun x => (hsame₄ x).trans (hsame₅ x)) (told_leaves _ _ _ _)

theorem lockEstimate_leaves (roId estimateId : String) :
    (lockEstimate roId estimateId).Writes SameBoard := by
  refine (writes_selectLocking .refl _ _).bind fun found => ?_
  cases found with
  | none => exact writes_raise _
  | some e => exact writes_pure e

theorem sendEstimate_onBoard (w : ServiceWorld) (roId estimateId : String) :
    (board Estimate).Sound (.sendEstimate w roId estimateId) (sendEstimate w roId estimateId) []
      (fun x => x) d := by
  unfold sendEstimate setEstimate
  refine requireUuid_sound ?_
  refine assertRO_sound fun r d₁ held₁ hid _ hlock _ _ hr => ?_
  subst hid
  refine insist_sound fun _ => ?_
  refine board_aside (lockEstimate_leaves _ _) fun e pending₂ d₂ held₂ hsub₂ hr₂ hsame₂ => ?_
  refine insist_sound fun _ => ?_
  refine board_aside (writes_execute (fun _ _ => ⟨rfl, rfl⟩) _ _ _ _)
    fun _ pending₃ d₃ held₃ hsub₃ hr₃ hsame₃ => ?_
  exact moved_ends rfl (hsub₃ _ (hsub₂ _ hlock)) ((hr₂.trans (hr₃.mono hsub₂)).orders r hr hlock)
    (fun x => (hsame₂ x).trans (hsame₃ x)) (told_leaves _ _ _ _)

theorem withdrawEstimates_leaves (roId : String) : (withdrawEstimates roId).Writes SameBoard :=
  (writes_execute (fun _ _ => ⟨rfl, rfl⟩) _ _ _ _).bind fun _ =>
    writes_execute (fun _ _ => ⟨rfl, rfl⟩) _ _ _ _

theorem transitionRO_onBoard (w : ServiceWorld) (roId : String) (target : ROStatus)
    (input : TransitionInput) :
    (board RepairOrder).Sound (.transitionRO w roId target input)
      (transitionRO w roId target input) [] (fun x => x) d := by
  unfold transitionRO
  refine assertRO_sound fun r d₁ held₁ hid _ hlock _ _ hr => ?_
  subst hid
  refine insist_sound fun _ => ?_
  refine board_aside (transitionGates_writes (fun _ _ => ⟨rfl, rfl⟩) .refl _ _ _ _)
    fun _ pending₂ d₂ held₂ hsub₂ hr₂ hsame₂ => ?_
  have hlock₂ := hsub₂ _ hlock
  have hr₂' := hr₂.orders r hr hlock
  refine moveRO_onBoard hlock₂ hr₂' hsame₂ fun d₃ held₃ hsub₃ hr₃ => ?_
  refine insist_sound fun _ => ?_
  simp only [mem_singleton, if_true]
  refine board_aside (where_writes (withdrawEstimates_leaves _))
    fun _ pending₄ d₄ held₄ hsub₄ hr₄ hsame₄ => ?_
  exact changed_ends rfl (hsub₄ _ (hsub₃ _ hlock₂))
    ((hr₃.trans (hr₄.mono hsub₃)).orders r hr₂' hlock₂)
    (fun x => ((hsame₂ x).setStatus r.ro_id target).trans (hsame₄ x)) (told_leaves _ _ _ _)

theorem createComebackCase_onBoard (w : ServiceWorld) (input : ComebackInput) :
    (board ComebackCase).Sound (.createComebackCase w input) (createComebackCase w input) []
      (fun x => x) d := by
  unfold createComebackCase
  refine insist_sound fun _ => insist_sound fun _ => ?_
  refine insist_sound fun _ => ?_
  generalize jsLe input.original_ro_id input.new_ro_id = sorted
  dsimp only
  refine assertRO_sound fun r₁ d₁ held₁ _ _ hlock₁ _ _ _ => ?_
  refine assertRO_sound fun r₂ d₂ held₂ _ hsub₂ hlock₂ _ _ _ => ?_
  -- Whichever was locked first, the order that comes back is.
  have hlock : .row "repair_orders" input.original_ro_id .forUpdate ∈ held₂ := by
    cases sorted with
    | true => exact hsub₂ _ hlock₁
    | false => exact hlock₂
  refine assertRO_sound fun r d₃ held₃ hid hsub₃ _ _ _ hr => ?_
  rw [← hid] at hlock ⊢
  refine insist_sound fun _ => ?_
  refine board_aside (writes_execute (fun _ _ => ⟨rfl, rfl⟩) _ _ _ _)
    fun _ pending₄ d₄ held₄ hsub₄ hr₄ hsame₄ => ?_
  refine moved_ends rfl (hsub₄ _ (hsub₃ _ hlock)) (hr₄.orders r hr (hsub₃ _ hlock)) hsame₄ ?_
  exact (recordROEvent_writes (fun _ _ => ⟨rfl, rfl⟩) _ _ _).bind fun _ => told_leaves _ _ _ _

/-! ### People -/

theorem lockItem_sound {queueItemId : String} {k : QueueItem → ServiceWork B}
    (h : ∀ q d' more, q.queue_item_id = queueItemId →
      Locked more "service_queue_items" queueItemId → q ∈ d'.service_queue_items →
        (board B).Sound c (k q) more (fun x => x) d') :
    (board B).Sound c (lockItem queueItemId >>= k) held (fun x => x) d := by
  unfold lockItem
  rw [Script.bind_assoc]
  refine sound_selectLocking_bind fun d' more _ hlocks _ _ _ => ?_
  cases hfound : d'.service_queue_items.find? fun q => q.queue_item_id = queueItemId with
  | none => exact trivial
  | some q =>
    obtain ⟨hmem, hid⟩ := of_find?_eq_some hfound
    exact h q d' more hid (.inl (hlocks _ mem_cons_self)) hmem

theorem writeItem_ends {q : QueueItem} {f : QueueItem → QueueItem}
    (hlock : Locked held "service_queue_items" q.queue_item_id) (hq : q ∈ d.service_queue_items)
    (hkey : ∀ p, (f p).queue_item_id = p.queue_item_id) (hf : Works c q (f q)) :
    (board B).Sound c (writeItem q.queue_item_id f >>= fun _ => pure b) held (fun x => x) d := by
  unfold writeItem
  refine store_sound fun d₁ held₁ hsub₁ _ hr₁ _ _ => ?_
  refine board_commits fun d₂ hr₂ _ _ => ?_
  exact .works (hlock.mono hsub₁) ((hr₁.trans (hr₂.mono hsub₁)).items q hq hlock) hkey hf (.refl _)

theorem assignServiceQueueItem_onBoard (w : ServiceWorld) (queueItemId : String) :
    (board QueueItem).Sound (.assignServiceQueueItem w queueItemId)
      (assignServiceQueueItem w queueItemId) [] (fun x => x) d := by
  unfold assignServiceQueueItem
  refine requireUuid_sound ?_
  refine lockItem_sound fun q d₁ held₁ hid hlock hq => ?_
  subst hid
  refine insist_sound fun hopen => insist_sound fun hmine => ?_
  refine writeItem_ends hlock hq (fun _ => rfl) ⟨rfl, rfl, fun hclosed => ?_, fun h hholder => ?_⟩
  · rw [hclosed] at hopen
    cases hopen
  · rw [hholder, Option.all_some, decide_eq_true_eq] at hmine
    exact ⟨congrArg some hmine.symm, .inr hmine.symm⟩

theorem updateServiceQueueItemStatus_onBoard (w : ServiceWorld) (queueItemId : String)
    (input : QueueStatusInput) :
    (board QueueItem).Sound (.updateServiceQueueItemStatus w queueItemId input)
      (updateServiceQueueItemStatus w queueItemId input) [] (fun x => x) d := by
  unfold updateServiceQueueItemStatus
  refine requireUuid_sound ?_
  cases input.status with
  | none => exact trivial
  | some status =>
    refine lockItem_sound fun q d₁ held₁ hid hlock hq => ?_
    subst hid
    refine insist_sound fun hmine => ?_
    refine insist_sound fun hclosed => ?_
    refine writeItem_ends hlock hq (fun _ => rfl) ⟨rfl, rfl, fun hc => ?_, fun h hholder => ?_⟩
    · rw [hc] at hclosed
      exact hclosed
    · rw [hholder, Option.all_some, Bool.or_eq_true, decide_eq_true_eq] at hmine
      exact ⟨hholder, .inr (hmine.imp_right Eq.symm)⟩

theorem escalateServiceQueueItem_onBoard (queueItemId : String) (input : EscalationInput) :
    (board Unit).Sound (.escalateServiceQueueItem queueItemId input)
      (escalateServiceQueueItem queueItemId input) [] (fun x => x) d := by
  unfold escalateServiceQueueItem
  refine requireUuid_sound ?_
  refine insist_sound fun _ => insist_sound fun _ => ?_
  refine sound_execute_bind fun d₁ held₁ _ hlocks _ _ _ _ => ?_
  unfold insist
  cases hfound : d₁.service_queue_items.any fun q => q.queue_item_id = queueItemId with
  | false => exact trivial
  | true =>
    rw [if_pos hfound] at hlocks
    obtain ⟨q, hq, hid⟩ := any_eq_true.mp hfound
    obtain rfl := of_decide_eq_true hid
    have hlock : Locked held₁ "service_queue_items" q.queue_item_id := .inr (hlocks _ mem_cons_self)
    refine board_commits fun d₂ hr₂ _ _ => ?_
    exact .works (f := fun q : QueueItem => { q with priority := .p0 }) hlock
      (hr₂.items q hq hlock) (fun _ => rfl)
      ⟨rfl, rfl, fun hclosed => hclosed, fun _ hholder => ⟨hholder, .inl rfl⟩⟩ (.refl _)

theorem BoardCall.program_sound (c : BoardCall) :
    (board Unit).Sound c c.program [] (fun x => x) d := by
  cases c with
  | createRO w input => exact Contract.Sound.of_onAnswers (createRO_onBoard w input)
  | checkIn w appointmentId odometer =>
    exact Contract.Sound.of_onAnswers (checkIn_onBoard w appointmentId odometer)
  | startMPISession w roId templateId techUserId =>
    exact Contract.Sound.of_onAnswers (startMPISession_onBoard w roId templateId techUserId)
  | generateEstimate w roId languageMode =>
    exact Contract.Sound.of_onAnswers (generateEstimate_onBoard w roId languageMode)
  | sendEstimate w roId estimateId =>
    exact Contract.Sound.of_onAnswers (sendEstimate_onBoard w roId estimateId)
  | transitionRO w roId target input =>
    exact Contract.Sound.of_onAnswers (transitionRO_onBoard w roId target input)
  | createComebackCase w input =>
    exact Contract.Sound.of_onAnswers (createComebackCase_onBoard w input)
  | assignServiceQueueItem w queueItemId =>
    exact Contract.Sound.of_onAnswers (assignServiceQueueItem_onBoard w queueItemId)
  | updateServiceQueueItemStatus w queueItemId input =>
    exact Contract.Sound.of_onAnswers (updateServiceQueueItemStatus_onBoard w queueItemId input)
  | escalateServiceQueueItem queueItemId input =>
    exact escalateServiceQueueItem_onBoard queueItemId input

end Sound

def KeptOpen (S : BoardServer) : Event BoardCall → Prop
  | .turn i => ∀ s ∈ S.session i, ∀ k ∈ s.held, StillOpen S.committed k
  | .arrive _ | .abort _ => True

instance (S : BoardServer) : ∀ e, Decidable (KeptOpen S e)
  | .turn i => inferInstanceAs (Decidable (∀ s ∈ S.session i, ∀ k ∈ s.held,
      StillOpen S.committed k))
  | .arrive _ | .abort _ => .isTrue trivial

theorem board_cooperates :
    (board Unit).Cooperates LotLock.conflicts BoardCall.program (fun _ _ => True) KeptOpen where
  refl := fun _ => .refl
  trans := fun _ _ _ _ _ => .trans
  symm := LotLock.conflicts_symm
  begins := fun _ c _ _ => c.program_sound
  sets_apart := fun _ _ _ _ _ _ => ⟨trivial, trivial⟩
  finds := fun _ _ s ha hs => ha s hs
  respects := fun _ _ _ _ _ _ _ _ _ _ _ hbeside hi hmoves => hmoves.kept hbeside.2 hi

/-! ## What a run shows -/

/-- A commit that brings an order into a status that waits for somebody leaves it one item, in
the queue of that status. -/
def ShowsMoved : BoardEnding → Prop
  | .committed _ _ before after => ∀ r ∈ after.repair_orders, r ∉ before.repair_orders →
      ∀ queue, roStatusQueue r.status = some queue →
        ∃ q, openItems r.ro_id after = [q] ∧ q.queue_type = queue
  | _ => True

/-- An item that is done or canceled stays closed. -/
def StaysFinished : BoardEnding → Prop
  | .committed _ _ before after => ∀ q ∈ before.service_queue_items, q.status.isClosed = true →
      ∃ q' ∈ after.service_queue_items, q'.queue_item_id = q.queue_item_id ∧
        q'.status.isClosed = true
  | _ => True

/-- An item stays its holder's, and its status is changed by its holder, by a supervisor, or by
a change of its order that closes it. -/
def StaysTaken : BoardEnding → Prop
  | .committed c _ before after => ∀ q ∈ before.service_queue_items, ∀ holder,
      q.assigned_to_user_id = some holder →
        ∃ q' ∈ after.service_queue_items, q'.queue_item_id = q.queue_item_id ∧
          q'.assigned_to_user_id = some holder ∧
          (q'.status = q.status ∨ c.mayWork holder ∨ c.lifecycle = true ∧ q'.status = .done ∧
            ∃ r ∈ after.repair_orders, q.ro_id = some r.ro_id ∧ r ∉ before.repair_orders)
  | _ => True

structure ShowsOrders (d : Shop) (S : BoardServer) : Prop where
  once : ∀ roId, (openItems roId S.committed).length ≤ 1
  inPlace : ∀ r ∈ S.committed.repair_orders, ∀ q ∈ openItems r.ro_id S.committed,
    roStatusQueue r.status = some q.queue_type
  moved : ∀ e ∈ S.history, ShowsMoved e
  closed : ∀ e ∈ S.history, StaysFinished e
  taken : ∀ e ∈ S.history, StaysTaken e
  linked : Linked d S.history S.committed

section Endings

variable {c : BoardCall} {d d' : Shop} {answer : Unit}

theorem BoardMoves.showsMoved (hm : BoardMoves held c d d') (hd : BoardSound d) :
    ShowsMoved (.committed c answer d d') := by
  intro r hr hnew queue hqueue
  have hd' := hm.boardSound hd
  -- Wherever an open item is left in the queue, it is the only one.
  have hone : (∃ q ∈ openItems r.ro_id d', q.queue_type = queue) →
      ∃ q, openItems r.ro_id d' = [q] ∧ q.queue_type = queue :=
    fun ⟨q, hq, hin⟩ => ⟨q, hd'.openItems_eq hq, hin⟩
  cases hm with
  | stays same => exact absurd (same.orders ▸ hr) hnew
  | works _ _ _ _ same => exact absurd (same.orders ▸ hr) hnew
  | opens _ _ aside same =>
    rw [same.orders] at hr
    rcases concat_cases hr with hr | rfl
    · exact absurd hr hnew
    · rw [aside] at hqueue
      cases hqueue
  | checksIn _ _ _ synced shown same =>
    rw [same.orders] at hr
    rcases concat_cases hr with hr | rfl
    · exact absurd hr hnew
    · apply hone
      rw [same.openItems]
      exact synced.shows hd shown hqueue
  | @moves s target ids entered _ _ _ _ _ synced shown same =>
    rw [same.orders] at hr
    rcases setStatus_cases hr with ⟨hr, -⟩ | ⟨hid, hstatus⟩
    · exact absurd hr hnew
    · apply hone
      rw [same.openItems, hid]
      exact synced.shows hd shown (hstatus ▸ hqueue)

theorem mem_synced {entered : Option QueueItem} {orders : List RepairOrder} {q : QueueItem}
    (hq : q ∈ d.service_queue_items) :
    q ∈ (Shop.synced { d with repair_orders := orders } ids entered).service_queue_items ∨
      q.queue_item_id ∈ ids ∧
        finished q ∈
          (Shop.synced { d with repair_orders := orders } ids entered).service_queue_items := by
  by_cases hin : q.queue_item_id ∈ ids
  · exact .inr ⟨hin, mem_append_left _ (mem_updateWhere_of_pos hq hin)⟩
  · exact .inl (mem_append_left _ (mem_updateWhere_of_neg hq hin))

theorem BoardMoves.staysFinished (hm : BoardMoves held c d d') (hd : BoardSound d) :
    StaysFinished (.committed c answer d d') := by
  intro q hq hclosed
  cases hm with
  | stays same => exact ⟨q, same.items ▸ hq, rfl, hclosed⟩
  | opens _ _ _ same => exact ⟨q, same.items ▸ hq, rfl, hclosed⟩
  | checksIn _ _ _ _ _ same | moves _ _ _ _ _ same =>
    rw [same.items]
    rcases mem_synced hq with hq | ⟨-, hq⟩
    · exact ⟨q, hq, rfl, hclosed⟩
    · exact ⟨finished q, hq, rfl, rfl⟩
  | @works p f _ _ _ found keyed fits same =>
    rw [same.items]
    by_cases hid : q.queue_item_id = p.queue_item_id
    · obtain rfl := eq_of_key hd.items hq found hid
      exact ⟨f q, mem_updateWhere_of_pos hq (mem_singleton.mpr rfl), keyed q, fits.closed hclosed⟩
    · refine ⟨q, mem_updateWhere_of_neg hq fun hin => hid (mem_singleton.mp hin), rfl, hclosed⟩

theorem BoardMoves.staysTaken (hm : BoardMoves held c d d') (hd : BoardSound d) :
    StaysTaken (.committed c answer d d') := by
  intro q hq holder hholder
  cases hm with
  | stays same => exact ⟨q, same.items ▸ hq, rfl, hholder, .inl rfl⟩
  | opens _ _ _ same => exact ⟨q, same.items ▸ hq, rfl, hholder, .inl rfl⟩
  | checksIn call _ fresh synced _ same =>
    rw [same.items]
    rcases mem_synced hq with hq | ⟨hin, -⟩
    · exact ⟨q, hq, rfl, hholder, .inl rfl⟩
    · -- An order that is opened has no items to close.
      obtain ⟨p, hp, -⟩ := synced.only _ hin
      obtain ⟨hmem, hro, -⟩ := mem_openItems.mp hp
      obtain ⟨s, hs, hid⟩ := hd.placed p hmem _ hro
      exact absurd hid (fresh s hs)
  | @moves r target ids entered _ _ call _ found synced _ same =>
    rw [same.items, same.orders]
    rcases mem_synced hq with hq' | ⟨hin, hq'⟩
    · exact ⟨q, hq', rfl, hholder, .inl rfl⟩
    · refine ⟨finished q, hq', rfl, hholder, .inr (.inr ⟨call, rfl, ?_⟩)⟩
      obtain ⟨p, hp, hid, hne⟩ := synced.only _ hin
      have hpmem := mem_openItems.mp hp
      obtain rfl := eq_of_key hd.items hpmem.1 hq hid
      refine ⟨{ r with status := target }, mem_updateWhere_of_pos found rfl, hpmem.2.1, ?_⟩
      intro hmem
      have hsame := eq_of_key hd.orders hmem found rfl
      have hin := hd.inPlace r found p hp
      rw [← congrArg RepairOrder.status hsame] at hin
      exact hne hin
  | @works p f _ _ _ found keyed fits same =>
    rw [same.items]
    by_cases hid : q.queue_item_id = p.queue_item_id
    · obtain rfl := eq_of_key hd.items hq found hid
      obtain ⟨hkept, hstatus⟩ := fits.holder holder hholder
      exact ⟨f q, mem_updateWhere_of_pos hq (mem_singleton.mpr rfl), keyed q, hkept,
        hstatus.imp_right .inl⟩
    · exact ⟨q, mem_updateWhere_of_neg hq fun hin => hid (mem_singleton.mp hin), rfl,
        hholder, .inl rfl⟩

end Endings

/-- **The board shows every repair order once and where it is.**  In every interleaving in which
nobody finishes an item that a status change under way has kept. -/
theorem board_shows_orders {d : Shop} (hd : BoardSound d) {events : List (Event BoardCall)}
    (h : Along (Server.step LotLock.conflicts BoardCall.program) KeptOpen (.fresh d) events) :
    ShowsOrders d (run (Server.step LotLock.conflicts BoardCall.program) (.fresh d) events) := by
  have hg := board_cooperates.guarded hd h
  have hsound : BoardSound (run (Server.step LotLock.conflicts BoardCall.program) (.fresh d)
    events).committed := hg.inv
  refine ⟨hsound.openItems_length, hsound.inPlace, fun e he => ?_, fun e he => ?_, fun e he => ?_,
    linked_run _ _ d events⟩
  · exact (hg.history e he).cases (fun _ _ _ _ _ hi hm => hm.showsMoved hi)
      (fun _ _ _ => trivial) fun _ => trivial
  · exact (hg.history e he).cases (fun _ _ _ _ _ hi hm => hm.staysFinished hi)
      (fun _ _ _ => trivial) fun _ => trivial
  · exact (hg.history e he).cases (fun _ _ _ _ _ hi hm => hm.staysTaken hi)
      (fun _ _ _ => trivial) fun _ => trivial

/-! ## A shop floor -/

namespace Floor

def order : String := uuid "1"

def item : String := uuid "2"

def location : String := uuid "3"

def world (userId : String) (roles : List Role) (id : String) : ServiceWorld :=
  ⟨userId, roles, 0, id, id, fun s => s⟩

def ann : ServiceWorld := world "ann" [.other "service_tech"] ""

def bob : ServiceWorld := world "bob" [.other "service_tech"] ""

/-- A car that is being repaired, and its item. -/
def shop : Shop :=
  { Shop.opening "t" [] [] [] [] with
    repair_orders := [⟨order, location, none, "c", "v", .in_repair, none⟩]
    service_queue_items := [⟨item, location, .in_repair, some order, none, .p1, .queued, none, none,
      none⟩] }

theorem shop_sound : BoardSound shop := by
  have hopen : ∀ roId, ∀ q ∈ openItems roId shop, q = ⟨item, location, .in_repair, some order,
      none, .p1, .queued, none, none, none⟩ ∧ some order = some roId := by
    intro roId q hq
    obtain ⟨hmem, hro, -⟩ := mem_openItems.mp hq
    obtain rfl := mem_singleton.mp hmem
    exact ⟨rfl, hro⟩
  refine ⟨by decide, by decide, ?_, ?_, ?_⟩
  · intro q hq roId hro
    obtain rfl := mem_singleton.mp hq
    exact ⟨_, mem_cons_self, Option.some.inj hro⟩
  · intro roId p hp q hq
    rw [(hopen roId p hp).1, (hopen roId q hq).1]
  · intro r hr q hq
    obtain rfl := mem_singleton.mp hr
    rw [(hopen _ q hq).1]
    rfl

abbrev serve : List (Event BoardCall) → BoardServer :=
  served LotLock.conflicts BoardCall.program shop

def move (target : ROStatus) (id : String) : BoardCall :=
  .transitionRO (world "advisor" [.service_advisor] id) order target ⟨none, none⟩

def finish (w : ServiceWorld) : BoardCall :=
  .updateServiceQueueItemStatus w item ⟨some .done, none⟩

/-- Ann takes the item, which Bob may not finish; the car goes to a vendor, where the item stays
Ann's, and then to quality control, where another waits. -/
def shift : List (Event BoardCall) :=
  oneByOne 8 [.assignServiceQueueItem ann item, finish bob, move .sublet_in_progress (uuid "4"),
    move .qc (uuid "6")] 0

/-- The car goes to a vendor, and the item is found in the queue it belongs in; Ann finishes it
before the move commits. -/
def finishedMeanwhile : List (Event BoardCall) :=
  .arrive (move .sublet_in_progress (uuid "4")) :: List.replicate 4 (.turn 0) ++
    .arrive (finish ann) :: List.replicate 4 (.turn 1) ++ List.replicate 3 (.turn 0)

/-- An order has been brought into a status that waits for somebody, and is not shown. -/
def hides : BoardEnding → Bool
  | .committed _ _ before after => after.repair_orders.any fun r =>
    r ∉ before.repair_orders && (roStatusQueue r.status).isSome && (openItems r.ro_id after).isEmpty
  | _ => false

theorem not_hides {e : BoardEnding} (h : ShowsMoved e) : hides e = false := by
  rcases e with ⟨c, answer, before, after⟩ | _ | _
  · refine any_eq_false.mpr fun r hr hhidden => ?_
    simp only [Bool.and_eq_true, decide_eq_true_eq] at hhidden
    obtain ⟨⟨hnew, hqueue⟩, hempty⟩ := hhidden
    obtain ⟨queue, hin⟩ := Option.isSome_iff_exists.mp hqueue
    obtain ⟨q, hq, -⟩ := h r hr hnew queue hin
    rw [hq] at hempty
    cases hempty
  · rfl
  · rfl

end Floor

open Floor in
/-- Bob was refused, and the item was Ann's until the car left for quality control. -/
theorem shift_shows_orders :
    (serve Floor.shift).committed.service_queue_items.map
        (fun q => (q.queue_type, q.status, q.assigned_to_user_id)) =
      [(.in_repair, .done, some "ann"), (.qc, .queued, none)] ∧
      ShowsOrders shop (serve Floor.shift) :=
  ⟨by decide +kernel, board_shows_orders shop_sound (by decide +kernel)⟩

open Floor in
/-- The car is at the vendor's, and no queue has it. -/
theorem finished_meanwhile_hides :
    (serve finishedMeanwhile).committed.repair_orders.map RepairOrder.status =
        [.sublet_in_progress] ∧
      ¬ ShowsOrders shop (serve finishedMeanwhile) := by
  refine ⟨by decide +kernel, fun h => ?_⟩
  have hshown : ∀ e ∈ (serve finishedMeanwhile).history, hides e = false :=
    fun e he => not_hides (h.moved e he)
  exact absurd hshown (by decide +kernel)

end Dealership.Service
