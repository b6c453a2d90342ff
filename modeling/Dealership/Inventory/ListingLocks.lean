import Dealership.Inventory.Listings

/-!
# Who holds what

A reconciliation has its listing to itself and a delivery its event, at every desk
that is reached: the rows they read are the rows they write.
-/

namespace Dealership.Inventory

open Library List

variable {S : ListingDesk}

/-! ## Listings and who holds them -/

/-- Listings are keyed, and a reconciliation has its listing to itself. -/
structure RowsHeld (listings : List StockListing) (reconciling : List Reconciliation) : Prop where
  ids : (listings.map (·.listing_id)).Nodup
  held : ∀ r ∈ reconciling, r.listing ∈ listings
  apart : (reconciling.map (·.listing.listing_id)).Nodup

namespace RowsHeld

variable {listings : List StockListing} {reconciling : List Reconciliation}

theorem write (h : RowsHeld listings reconciling) {id : String} {f : StockListing → StockListing}
    (hf : ∀ l, (f l).listing_id = l.listing_id)
    (hfree : ∀ r ∈ reconciling, r.listing.listing_id ≠ id) :
    RowsHeld (updateWhere (fun l : StockListing => l.listing_id = id) f listings) reconciling := by
  refine ⟨?_, fun r hr => mem_updateWhere_of_neg (h.held r hr) (hfree r hr), h.apart⟩
  exact nodup_map_updateWhere h.ids fun l _ => hf l

theorem insert (h : RowsHeld listings reconciling) {l : StockListing}
    (hnew : ∀ k ∈ listings, k.listing_id ≠ l.listing_id) :
    RowsHeld (listings ++ [l]) reconciling :=
  ⟨nodup_key_insert h.ids hnew, fun r hr => mem_append_left _ (h.held r hr), h.apart⟩

theorem hold (h : RowsHeld listings reconciling) {r : Reconciliation} (hr : r.listing ∈ listings)
    (hfree : ∀ q ∈ reconciling, q.listing.listing_id ≠ r.listing.listing_id) :
    RowsHeld listings (reconciling ++ [r]) := by
  refine ⟨h.ids, fun q hq => ?_, nodup_key_insert h.apart hfree⟩
  rcases mem_inserted hq with hq | rfl
  · exact h.held q hq
  · exact hr

theorem release (h : RowsHeld listings reconciling) (i : Nat) :
    RowsHeld listings (reconciling.eraseIdx i) :=
  ⟨h.ids, fun r hr => h.held r (mem_of_mem_eraseIdx hr),
    h.apart.sublist ((eraseIdx_sublist reconciling i).map _)⟩

theorem others_apart (h : RowsHeld listings reconciling) {i : Nat} {r : Reconciliation}
    (hr : reconciling[i]? = some r) :
    ∀ q ∈ reconciling.eraseIdx i, q.listing.listing_id ≠ r.listing.listing_id := by
  intro q hq heq
  obtain ⟨hi, hget⟩ := List.getElem?_eq_some_iff.mp hr
  have hperm := (getElem_cons_eraseIdx_perm hi).map fun q : Reconciliation =>
    q.listing.listing_id
  have hnodup := hperm.nodup_iff.mpr h.apart
  rw [map_cons, nodup_cons, hget] at hnodup
  exact hnodup.1 (mem_map.mpr ⟨q, hq, heq⟩)

theorem free_of_channel (h : RowsHeld listings reconciling) {l : StockListing} (hl : l ∈ listings)
    (hfree : ∀ r ∈ reconciling, ¬ (r.listing.stock_item_id = l.stock_item_id ∧
      r.listing.channel = l.channel)) : ∀ r ∈ reconciling, r.listing.listing_id ≠ l.listing_id := by
  intro r hr hid
  have heq : r.listing = l := eq_of_key h.ids (h.held r hr) hl hid
  exact hfree r hr ⟨by rw [heq], by rw [heq]⟩

end RowsHeld

theorem not_listingHeld {id : String} (h : S.listingHeld id = false) :
    ∀ r ∈ S.reconciling, r.listing.listing_id ≠ id := by
  simpa [ListingDesk.listingHeld] using h

theorem Delivery.answered_id (d : Delivery) (a : ListingOutcome) (l : StockListing) :
    (d.answered a l).listing_id = l.listing_id := by
  unfold Delivery.answered
  split <;> rfl

theorem Reconciliation.corrected_id (r : Reconciliation) (l : StockListing) :
    (r.corrected l).listing_id = l.listing_id := by
  unfold Reconciliation.corrected
  split <;> rfl

variable (e : ListingEvent)

@[simp] theorem recordListingEvent_listings (rows : ListingRows) :
    (recordListingEvent e rows).stock_listings = rows.stock_listings := by
  unfold recordListingEvent
  split <;> rfl

theorem recordListingEvent_events (rows : ListingRows) :
    (recordListingEvent e rows).listing_events =
      if rows.listing_events.any e.sameAttempt then rows.listing_events
      else rows.listing_events ++ [e] := by
  unfold recordListingEvent
  split <;> rfl

theorem settlement_commits {d : Delivery} {rows rows' : ListingRows} {answer : Option ListingEvent}
    (h : d.settlement rows = .commit rows' answer) :
    (answer = none ∧ rows'.stock_listings = rows.stock_listings ∧
      rows'.listing_events = rows.listing_events) ∨
    ∃ l a, d.progress = .called l (.outcome a) ∧
      ¬ (d.event.event_type = .publish ∧ a.outcome = .deferred) ∧
      answer = some (d.answerRow l a) ∧
      rows'.stock_listings = updateWhere (fun k : StockListing => k.listing_id = l.listing_id)
        (d.answered a) rows.stock_listings ∧
      rows'.listing_events = (recordListingEvent (d.answerRow l a) rows).listing_events := by
  cases hprogress : d.progress with
  | called l told =>
    obtain ⟨a, rfl, hfinal, rfl, rfl⟩ := settlement_called hprogress h
    refine .inr ⟨l, a, rfl, hfinal, rfl, ?_, ?_⟩
    · simp only [ListingRows.setEvent, ListingRows.setListing, recordListingEvent_listings]
    · rw [recordListingEvent_events]
      exact recordListingEvent_events _ _
  | deduplicated | unnamed | absent =>
    unfold Delivery.settlement at h
    rw [hprogress] at h
    cases h
    exact .inl ⟨rfl, rfl, rfl⟩

theorem RowsHeld.step (h : RowsHeld S.rows.stock_listings S.reconciling) (e : DeskStep) :
    RowsHeld (S.step e).rows.stock_listings (S.step e).reconciling := by
  have hstep := stepped S e
  generalize S.step e = S' at hstep ⊢
  cases hstep with
  | publishes _ _ apart granted =>
    cases granted with
    | renewed l hl hitem hchannel =>
      subst hitem hchannel
      exact h.write (fun _ => rfl) (h.free_of_channel hl apart)
    | opened hnew => exact h.insert hnew
  | withdraws free => exact h.write (fun _ => rfl) (not_listingHeld free)
  | @settles d rows answer _ free commits =>
    rcases settlement_commits commits with
      ⟨-, hlistings, -⟩ | ⟨l, a, hprogress, -, -, hlistings, -⟩
    · exact hlistings ▸ h
    · rw [ListingDesk.waits, hprogress] at free
      exact hlistings ▸ h.write (fun k => d.answered_id a k) (not_listingHeld free)
  | asks _ free listing => exact h.hold listing (not_listingHeld free)
  | releases i => exact h.release i
  | @corrects i r row =>
    simp only [recordListingEvent_listings]
    exact (h.release i).write (fun l => r.corrected_id l) (h.others_apart row)
  | _ => exact h

/-! ## Deliveries under way -/

/-- A delivery holds its event, which is undelivered, and no two hold the same. -/
structure Flying (inFlight : List Delivery) (outbox : List OutboxEvent) : Prop where
  eventIds : (outbox.map (·.event_id)).Nodup
  flights : ∀ d ∈ inFlight, d.event ∈ outbox ∧ d.event.delivered_at = none
  called : ∀ d ∈ inFlight, ∀ l answer, d.progress = .called l answer →
    d.event.listing_id = some l.listing_id

namespace Flying

variable {inFlight : List Delivery} {outbox : List OutboxEvent}

theorem enqueue (h : Flying inFlight outbox) {e : OutboxEvent}
    (hfresh : ∀ f ∈ outbox, f.event_id ≠ e.event_id) : Flying inFlight (outbox ++ [e]) :=
  ⟨nodup_key_insert h.eventIds hfresh,
    fun d hd => ⟨mem_append_left _ (h.flights d hd).1, (h.flights d hd).2⟩, h.called⟩

theorem write (h : Flying inFlight outbox) {p : OutboxEvent → Prop} [DecidablePred p]
    {f : OutboxEvent → OutboxEvent} (hf : ∀ e, (f e).event_id = e.event_id)
    (hfree : ∀ d ∈ inFlight, ¬ p d.event) : Flying inFlight (updateWhere p f outbox) := by
  refine ⟨?_, fun d hd => ⟨mem_updateWhere_of_neg (h.flights d hd).1 (hfree d hd),
    (h.flights d hd).2⟩, h.called⟩
  exact nodup_map_updateWhere h.eventIds fun e _ => hf e

theorem without (h : Flying inFlight outbox) (eventId : String) :
    Flying (inFlight.filter fun d => d.event.event_id ≠ eventId) outbox :=
  ⟨h.eventIds, fun d hd => h.flights d (mem_of_mem_filter hd),
    fun d hd => h.called d (mem_of_mem_filter hd)⟩

theorem claim (h : Flying inFlight outbox) {d : Delivery} (hd : d.event ∈ outbox)
    (hdue : d.event.delivered_at = none)
    (hcalled : ∀ l answer, d.progress = .called l answer →
      d.event.listing_id = some l.listing_id) : Flying (inFlight ++ [d]) outbox := by
  refine ⟨h.eventIds, fun c hc => ?_, fun c hc => ?_⟩
  · rcases mem_inserted hc with hc | rfl
    · exact h.flights c hc
    · exact ⟨hd, hdue⟩
  · rcases mem_inserted hc with hc | rfl
    · exact h.called c hc
    · exact hcalled

end Flying

@[simp] theorem recordListingEvent_outbox (rows : ListingRows) :
    (recordListingEvent e rows).admin_outbox = rows.admin_outbox := by
  unfold recordListingEvent
  split <;> rfl

@[simp] theorem recordListingEvent_items (rows : ListingRows) :
    (recordListingEvent e rows).stock_items = rows.stock_items := by
  unfold recordListingEvent
  split <;> rfl

theorem settlement_marks {d : Delivery} {rows rows' : ListingRows} {answer : Option ListingEvent}
    (h : d.settlement rows = .commit rows' answer) :
    rows'.stock_items = rows.stock_items ∧ ∃ attempts lastError,
      rows'.admin_outbox = updateWhere (fun e : OutboxEvent => e.event_id = d.event.event_id)
        (OutboxEvent.delivered d.now attempts lastError) rows.admin_outbox := by
  cases hprogress : d.progress with
  | called l told =>
    obtain ⟨a, rfl, -, -, rfl⟩ := settlement_called hprogress h
    refine ⟨recordListingEvent_items _ _, d.attempt, none, ?_⟩
    simp only [ListingRows.setEvent, ListingRows.setListing, recordListingEvent_outbox]
  | deduplicated | unnamed | absent =>
    unfold Delivery.settlement at h
    rw [hprogress] at h
    cases h
    exact ⟨rfl, _, _, rfl⟩

theorem Claimed.called_listing {now : Int} {port : ListingPort} {shown : Shown} {e : OutboxEvent}
    {progress : Progress} {calls : List ProviderCall}
    (h : Claimed S now port shown e progress calls) {l : StockListing} {answer : ProviderAnswer}
    (hcalled : progress = .called l answer) : e.listing_id = some l.listing_id := by
  cases h with
  | called k _ hlisting _ =>
    cases hcalled
    exact hlisting
  | deduplicated _ | unnamed _ _ | absent _ _ _ _ => cases hcalled

theorem Flying.step (h : Flying S.inFlight S.rows.admin_outbox) (e : DeskStep) :
    Flying (S.step e).inFlight (S.step e).rows.admin_outbox := by
  have hstep := stepped S e
  generalize S.step e = S' at hstep ⊢
  cases hstep with
  | publishes _ fresh _ granted => cases granted <;> exact h.enqueue fresh
  | withdraws _ _ _ fresh => exact h.enqueue fresh
  | claims _ event due _ begun => exact h.claim event due fun l answer => begun.called_listing
  | @settles d _ _ _ _ commits =>
    obtain ⟨-, attempts, lastError, houtbox⟩ := settlement_marks commits
    refine houtbox ▸ (h.without d.event.event_id).write (fun _ => rfl) fun c hc => ?_
    simpa using (mem_filter.mp hc).2
  | ends _ eventId => exact h.without eventId
  | defers free =>
    rw [ListingDesk.eventHeld, any_eq_false] at free
    exact h.write (fun _ => rfl) fun d hd hevent => free d hd (decide_eq_true hevent.1)
  | corrects =>
    simp only [recordListingEvent_outbox]
    exact h
  | _ => exact h

end Dealership.Inventory
