import Dealership.Inventory.ListingRecord

/-!
# A retired car is not advertised

A retirement asks once whether a listing of the car is live.  What moves listings
afterwards never looks at the car again: a publication requested before and still
undelivered, a withdrawal of a listing that was rejected, a reconciliation that finds
the provider carrying what the platform withdrew.  A retired car is off the market,
and stays so, when it leaves with nothing on its way to the provider and none of the
other two happens to it later.
-/

namespace Dealership.Inventory

open Library List

variable {S : ListingDesk}

/-! ## Off the market -/

/-- A retired car has no listing that is live and no publication on its way. -/
def OffMarket (items : List StockItem) (listings : List StockListing)
    (outbox : List OutboxEvent) : Prop :=
  ∀ i ∈ items, i.lifecycle_state = .retired → ∀ l ∈ listings,
    l.stock_item_id = i.stock_item_id → l.state.live = false ∧
      ∀ e ∈ outbox, e.listing_id = some l.listing_id → e.event_type = .publish →
        e.delivered_at ≠ none

namespace OffMarket

variable {items : List StockItem} {listings : List StockListing} {outbox : List OutboxEvent}

theorem write (h : OffMarket items listings outbox) {id : String}
    {f : StockListing → StockListing} (hid : ∀ l, (f l).listing_id = l.listing_id)
    (hitem : ∀ l, (f l).stock_item_id = l.stock_item_id)
    (hdown : ∀ i ∈ items, i.lifecycle_state = .retired → ∀ l ∈ listings, l.listing_id = id →
      l.stock_item_id = i.stock_item_id → (f l).state.live = false) :
    OffMarket items (updateWhere (fun l : StockListing => l.listing_id = id) f listings) outbox := by
  intro i hi hretired l hl hof
  rcases updateWhere_cases hl with ⟨hl, -⟩ | ⟨k, hk, hkid, rfl⟩
  · exact h i hi hretired l hl hof
  · rw [hitem] at hof
    refine ⟨hdown i hi hretired k hk hkid hof, ?_⟩
    rw [hid]
    exact (h i hi hretired k hk hof).2

theorem insert (h : OffMarket items listings outbox) {l : StockListing}
    (hcar : ∀ i ∈ items, i.stock_item_id = l.stock_item_id → i.lifecycle_state ≠ .retired) :
    OffMarket items (listings ++ [l]) outbox := by
  intro i hi hretired k hk hof
  rcases mem_inserted hk with hk | rfl
  · exact h i hi hretired k hk hof
  · exact absurd hretired (hcar i hi hof.symm)

theorem enqueue (h : OffMarket items listings outbox) {e : OutboxEvent}
    (he : e.event_type = .publish → ∀ l ∈ listings, e.listing_id = some l.listing_id →
      ∀ i ∈ items, i.stock_item_id = l.stock_item_id → i.lifecycle_state ≠ .retired) :
    OffMarket items listings (outbox ++ [e]) := by
  intro i hi hretired l hl hof
  refine ⟨(h i hi hretired l hl hof).1, fun f hf hnames hpublish => ?_⟩
  rcases mem_inserted hf with hf | rfl
  · exact (h i hi hretired l hl hof).2 f hf hnames hpublish
  · exact absurd hretired (he hpublish l hl hnames i hi hof.symm)

theorem events (h : OffMarket items listings outbox) {p : OutboxEvent → Prop} [DecidablePred p]
    {f : OutboxEvent → OutboxEvent} (hlisting : ∀ e, (f e).listing_id = e.listing_id)
    (htype : ∀ e, (f e).event_type = e.event_type)
    (hdelivered : ∀ e, p e → (f e).delivered_at = none → e.delivered_at = none) :
    OffMarket items listings (updateWhere p f outbox) := by
  intro i hi hretired l hl hof
  refine ⟨(h i hi hretired l hl hof).1, fun e he hnames hpublish hnone => ?_⟩
  rcases updateWhere_cases he with ⟨he, -⟩ | ⟨g, hg, hp, rfl⟩
  · exact (h i hi hretired l hl hof).2 e he hnames hpublish hnone
  · rw [hlisting] at hnames
    rw [htype] at hpublish
    exact (h i hi hretired l hl hof).2 g hg hnames hpublish (hdelivered g hp hnone)

end OffMarket

/-! ## Leaving quietly -/

def retiredItem (stockItemId : String) (S : ListingDesk) : Bool :=
  S.rows.stock_items.any fun i => i.stock_item_id = stockItemId && i.lifecycle_state = .retired

def publicationDue (listingId : String) (S : ListingDesk) : Bool :=
  S.rows.admin_outbox.any fun e =>
    e.listing_id = some listingId && e.event_type = .publish && e.delivered_at.isNone

/-- A car is retired with no listing live and none on its way to the provider; once it
is, no rejected listing of it is asked down, and the provider is not found carrying one. -/
def LeavesQuietly (S : ListingDesk) : DeskStep → Prop
  | .settleTransition i false => ∀ m ∈ S.moving[i]?, m.input.toState = .retired →
      ∀ l ∈ S.rows.stock_listings, l.stock_item_id = m.stockItemId →
        l.state.live = false ∧ publicationDue l.listing_id S = false
  | .requestWithdrawal _ _ listingId => ∀ l ∈ S.rows.stock_listings, l.listing_id = listingId →
      l.state = .rejected → retiredItem l.stock_item_id S = false
  | .settleReconcile i false => ∀ r ∈ S.reconciling[i]?,
      retiredItem r.listing.stock_item_id S = true → r.providerHasListing = false
  | _ => True

instance (S : ListingDesk) : ∀ e, Decidable (LeavesQuietly S e)
  | .settleTransition i false => inferInstanceAs (Decidable (∀ m ∈ S.moving[i]?,
      m.input.toState = .retired → ∀ l ∈ S.rows.stock_listings,
        l.stock_item_id = m.stockItemId → _ ∧ _))
  | .requestWithdrawal _ _ listingId => inferInstanceAs (Decidable
      (∀ l ∈ S.rows.stock_listings, l.listing_id = listingId → l.state = .rejected → _ = _))
  | .settleReconcile i false => inferInstanceAs (Decidable (∀ r ∈ S.reconciling[i]?, _ = _ → _))
  | .settleTransition _ true | .settleReconcile _ true | .requestPublication .. | .claim ..
  | .settle _ | .crash _ | .deferEvent .. | .beginReconcile .. | .acquire _
  | .beginTransition .. => .isTrue trivial

structure Quiet (S : ListingDesk) : Prop where
  rows : RowsHeld S.rows.stock_listings S.reconciling
  flying : Flying S.inFlight S.rows.admin_outbox
  items : (S.rows.stock_items.map (·.stock_item_id)).Nodup
  offMarket : OffMarket S.rows.stock_items S.rows.stock_listings S.rows.admin_outbox

theorem retiredItem_of_mem {i : StockItem} (hi : i ∈ S.rows.stock_items)
    (hretired : i.lifecycle_state = .retired) : retiredItem i.stock_item_id S = true :=
  any_eq_true.mpr ⟨i, hi, by simp [hretired]⟩

theorem Quiet.ready (h : Quiet S) {stockItemId : String}
    (hready : ∃ stock, (S.rows.stock_items.find? fun i => i.stock_item_id = stockItemId) = some stock ∧
      stock.lifecycle_state = .retail_ready) :
    ∀ i ∈ S.rows.stock_items, i.stock_item_id = stockItemId → i.lifecycle_state ≠ .retired := by
  obtain ⟨stock, hstock, hstate⟩ := hready
  obtain ⟨hmem, hid⟩ := of_find?_eq_some (p := fun i : StockItem => i.stock_item_id = stockItemId) hstock
  intro i hi hiid
  rw [eq_of_key h.items hi hmem (hiid.trans hid.symm), hstate]
  exact LifecycleState.noConfusion

theorem answered_item (d : Delivery) (a : ListingOutcome) (l : StockListing) :
    (d.answered a l).stock_item_id = l.stock_item_id := by
  unfold Delivery.answered
  split <;> rfl

theorem corrected_item (r : Reconciliation) (l : StockListing) :
    (r.corrected l).stock_item_id = l.stock_item_id := by
  unfold Reconciliation.corrected
  split <;> rfl

theorem Quiet.publishes (h : Quiet S) {w : DeskWorld} {stockItemId channel listingId : String}
    {rows : ListingRows}
    (hcar : ∀ i ∈ S.rows.stock_items, i.stock_item_id = stockItemId → i.lifecycle_state ≠ .retired)
    (hgranted : PublicationGranted w stockItemId channel S.rows listingId rows) :
    OffMarket rows.stock_items rows.stock_listings rows.admin_outbox := by
  cases hgranted with
  | renewed l hl hitem hchannel =>
    subst hitem
    have hwritten : OffMarket S.rows.stock_items
        (updateWhere (fun k : StockListing => k.listing_id = l.listing_id)
          (StockListing.pending .publish_pending) S.rows.stock_listings) S.rows.admin_outbox := by
      refine h.offMarket.write (fun _ => rfl) (fun _ => rfl) fun i hi hretired k hk hid hof => ?_
      rw [eq_of_key h.rows.ids hk hl hid] at hof
      exact absurd hretired (hcar i hi hof.symm)
    refine hwritten.enqueue fun _ k hk hnames i hi hof => ?_
    rcases updateWhere_cases hk with ⟨-, hother⟩ | ⟨j, hj, hid, rfl⟩
    · exact absurd (Option.some.inj hnames).symm hother
    · obtain rfl : j = l := eq_of_key h.rows.ids hj hl hid
      exact hcar i hi hof
  | opened hnew =>
    have hinserted : OffMarket S.rows.stock_items
        (S.rows.stock_listings ++ [newListing w stockItemId channel]) S.rows.admin_outbox :=
      h.offMarket.insert hcar
    refine hinserted.enqueue fun _ k hk hnames i hi hof => ?_
    rcases mem_inserted hk with hk | rfl
    · exact absurd (Option.some.inj hnames).symm (hnew k hk)
    · exact hcar i hi hof

/-- A delivery takes a retired car's listing down, if it does anything to it. -/
theorem Quiet.settles (h : Quiet S) {d : Delivery} (hd : d ∈ S.inFlight) {rows : ListingRows}
    {answer : Option ListingEvent} (hcommit : d.settlement S.rows = .commit rows answer) :
    OffMarket S.rows.stock_items rows.stock_listings rows.admin_outbox := by
  obtain ⟨-, attempts, lastError, houtbox⟩ := settlement_marks hcommit
  rw [houtbox]
  have hmarked : ∀ listings, OffMarket S.rows.stock_items listings S.rows.admin_outbox →
      OffMarket S.rows.stock_items listings
        (updateWhere (fun e : OutboxEvent => e.event_id = d.event.event_id)
          (OutboxEvent.delivered d.now attempts lastError) S.rows.admin_outbox) :=
    fun _ hoff => hoff.events (fun _ => rfl) (fun _ => rfl) fun _ _ hnone => by cases hnone
  rcases settlement_commits hcommit with ⟨-, hlistings, -⟩ | ⟨l, a, hprogress, -, -, hlistings, -⟩
  · exact hmarked _ (hlistings ▸ h.offMarket)
  · refine hmarked _ (hlistings ▸ h.offMarket.write (fun k => d.answered_id a k)
      (fun k => answered_item d a k) fun i hi hretired k hk hid hof => ?_)
    cases hkind : d.event.event_type with
    | withdraw =>
      simp only [Delivery.answered, hkind]
      rfl
    | publish =>
      -- A publication under way is undelivered, so its car is not retired.
      obtain ⟨hmem, hdue⟩ := h.flying.flights d hd
      have hnames : d.event.listing_id = some k.listing_id := by
        rw [hid]
        exact h.flying.called d hd l _ hprogress
      exact absurd hdue ((h.offMarket i hi hretired k hk hof).2 _ hmem hnames hkind)

theorem Quiet.step (h : Quiet S) {e : DeskStep} (ha : LeavesQuietly S e) : Quiet (S.step e) := by
  have hrows := h.rows.step e
  have hflying := h.flying.step e
  have hstep := stepped S e
  generalize S.step e = S' at hrows hflying hstep ⊢
  cases hstep with
  | publishes ready _ _ granted =>
    refine ⟨hrows, hflying, ?_, h.publishes (h.ready ready) granted⟩
    cases granted with
    | renewed l _ _ _ => exact h.items
    | opened _ => exact h.items
  | @withdraws w who l _ hl hup _ =>
    refine ⟨hrows, hflying, h.items, ?_⟩
    have hwritten : OffMarket S.rows.stock_items
        (updateWhere (fun k : StockListing => k.listing_id = l.listing_id)
          (StockListing.pending .withdraw_pending) S.rows.stock_listings)
        S.rows.admin_outbox := by
      refine h.offMarket.write (fun _ => rfl) (fun _ => rfl) fun i hi hretired k hk hkid hof => ?_
      -- Only a rejected listing of a retired car is neither down nor live.
      obtain rfl : k = l := eq_of_key h.rows.ids hk hl hkid
      have hdown := (h.offMarket i hi hretired k hk hof).1
      have hrejected : k.state = .rejected := by
        cases hstate : k.state with
        | rejected => rfl
        | withdrawn => exact absurd (.inl hstate) hup
        | draft => exact absurd (.inr hstate) hup
        | publish_pending | published | withdraw_pending =>
          rw [hstate] at hdown
          cases hdown
      have hnot := ha k hk rfl hrejected
      rw [hof, retiredItem_of_mem hi hretired] at hnot
      cases hnot
    exact hwritten.enqueue fun hpublish => by cases hpublish
  | settles flight _ commits =>
    have hitems := (settlement_marks commits).1
    exact ⟨hrows, hflying, hitems ▸ h.items, hitems ▸ h.settles flight commits⟩
  | defers =>
    exact ⟨hrows, hflying, h.items,
      h.offMarket.events (fun _ => rfl) (fun _ => rfl) fun _ _ hnone => hnone⟩
  | @corrects i r hr =>
    refine ⟨hrows, hflying, (recordListingEvent_items _ _).symm ▸ h.items, ?_⟩
    simp only [recordListingEvent_items, recordListingEvent_listings, recordListingEvent_outbox]
    refine h.offMarket.write (fun l => r.corrected_id l) (fun l => corrected_item r l) ?_
    intro j hj hretired k hk hid hof
    obtain rfl : k = r.listing := eq_of_key h.rows.ids hk (h.rows.held r (mem_of_getElem? hr)) hid
    have hhas := ha r hr (hof ▸ retiredItem_of_mem hj hretired)
    have hdown := (h.offMarket j hj hretired r.listing hk hof).1
    have hstate : r.listing.state ≠ .published := by
      intro hstate
      rw [hstate] at hdown
      cases hdown
    simpa [Reconciliation.corrected, Reconciliation.correctedTo, Reconciliation.agreed,
      hhas, hstate] using hdown
  | acquires acquired fresh =>
    refine ⟨hrows, hflying, nodup_key_insert h.items fresh, ?_⟩
    intro j hj hretired
    rcases mem_inserted hj with hj | rfl
    · exact h.offMarket j hj hretired
    · rw [acquired] at hretired
      cases hretired
  | @transitions i m hm =>
    refine ⟨hrows, hflying, ?_, ?_⟩
    · exact nodup_map_updateWhere h.items fun _ _ => rfl
    · intro j hj hretired l hl hof
      rcases updateWhere_cases hj with ⟨hj, -⟩ | ⟨k, hk, hkey, rfl⟩
      · exact h.offMarket j hj hretired l hl hof
      · obtain ⟨hdown, hdue⟩ := ha m hm hretired l hl (hof.trans hkey.1)
        refine ⟨hdown, fun e he hnames hpublish hnone => ?_⟩
        have hbad : publicationDue l.listing_id S = true :=
          any_eq_true.mpr ⟨e, he, by simp [hnames, hpublish, hnone]⟩
        rw [hdue] at hbad
        cases hbad
  | _ => exact ⟨hrows, hflying, h.items, h.offMarket⟩

theorem quiet_fresh {items : List StockItem} (hitems : (items.map (·.stock_item_id)).Nodup) :
    Quiet (.fresh items) where
  rows := ⟨nodup_nil, forall_mem_nil _, nodup_nil⟩
  flying := ⟨nodup_nil, forall_mem_nil _, forall_mem_nil _⟩
  items := hitems
  offMarket := fun _ _ _ => forall_mem_nil _

/-- **A retired car is not advertised.**  In every run in which cars are retired with no
listing live and none on its way, and afterwards no rejected listing of them is asked
down and no reconciliation hears the provider carry one, a retired car has no live
listing and no publication to be sent. -/
theorem retired_car_not_advertised {items : List StockItem}
    (hitems : (items.map (·.stock_item_id)).Nodup) {steps : List DeskStep}
    (h : Along ListingDesk.step LeavesQuietly (.fresh items) steps) :
    let S := run ListingDesk.step (.fresh items) steps
    ∀ i ∈ S.rows.stock_items, i.lifecycle_state = .retired →
      ∀ l ∈ S.rows.stock_listings, l.stock_item_id = i.stock_item_id →
        l.state.live = false ∧ ∀ e ∈ S.rows.admin_outbox, e.listing_id = some l.listing_id →
          e.event_type = .publish → e.delivered_at ≠ none :=
  (h.invariant (fun _ _ hS ha => Quiet.step hS ha) (quiet_fresh hitems)).offMarket

/-! ## A car leaves -/

namespace Window

def lotWorld (now : Int) : LotWorld where
  access := { userLinkExists := fun u => u = clerk, reaches := fun _ _ => true }
  now := now
  rooftopExists := fun _ => true
  newVehicleId := "vehicle"
  newStockItemId := "item"
  newPriceId := "price"
  newTransferId := "transfer"

def retire (now : Int) : List DeskStep :=
  [.beginTransition (lotWorld now) ⟨clerk, "car", .retired, none, some "sold"⟩,
    .settleTransition 0 false]

/-- Published, withdrawn, sold. -/
def sold : List DeskStep := upAndDown.take 6 ++ retire 6

/-- Published, withdrawn, sold, and compared with a provider that keeps references. -/
def soldAndCompared : List DeskStep :=
  sold ++ [.beginReconcile 7 "listing" simulatedListingProvider, .settleReconcile 0 false]

end Window

/-- A car that is sold once its listing is down. -/
theorem sold_car_not_advertised :
    let S := run ListingDesk.step (.fresh [Window.car]) Window.sold
    (S.rows.stock_items.map (·.lifecycle_state) = [.retired] ∧
      S.rows.stock_listings.map (·.state) = [.withdrawn]) ∧
    ∀ i ∈ S.rows.stock_items, i.lifecycle_state = .retired →
      ∀ l ∈ S.rows.stock_listings, l.stock_item_id = i.stock_item_id →
        l.state.live = false ∧ ∀ e ∈ S.rows.admin_outbox, e.listing_id = some l.listing_id →
          e.event_type = .publish → e.delivered_at ≠ none :=
  ⟨by decide +kernel, retired_car_not_advertised (by decide) (by decide +kernel)⟩

/-- A reconciliation puts the sold car back on the market. -/
theorem sold_car_advertised :
    ¬ ∀ (items : List StockItem) (_ : (items.map (·.stock_item_id)).Nodup)
      (steps : List DeskStep),
      ∀ i ∈ (run ListingDesk.step (.fresh items) steps).rows.stock_items,
        i.lifecycle_state = .retired →
          ∀ l ∈ (run ListingDesk.step (.fresh items) steps).rows.stock_listings,
            l.stock_item_id = i.stock_item_id → l.state.live = false := by
  intro h
  have hall := h [Window.car] (by decide) Window.soldAndCompared
  revert hall
  decide +kernel

end Dealership.Inventory
