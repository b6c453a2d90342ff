import Dealership.Inventory.ListingLocks

/-!
# Every answer is on record

A committed answer of the provider and a reconciliation pass are each recorded under
the listing, the kind of event and the number of the attempt; what finds its key
taken is dropped.  The number restarts with every request and does not move between
two reconciliations, so the ledger is the log of what was committed exactly when no
answer meets an earlier one under its key.

That a listing is down is the provider's word only when the provider agreed to take
it down: the delivery of a withdrawal does not look at the answer.
-/

namespace Dealership.Inventory

open Library List

/-! ## The ledger and the log -/

/-- The provider said that the listing is down. -/
def ListingEvent.cameDown (e : ListingEvent) : Prop :=
  e.event_type = .withdrawn ∧ e.outcome = .accepted ∨
    ∃ before corrected, e.detail = .compared before false corrected

def lastAnswer (listingId : String) (S : ListingDesk) : Option ListingEvent :=
  lastWhere (fun e => e.listing_id = listingId) S.answers

/-- The ledger is the log, and a listing recorded withdrawn is one of which the provider
last said that it is down. -/
structure OnRecord (S : ListingDesk) : Prop where
  rows : RowsHeld S.rows.stock_listings S.reconciling
  recorded : S.rows.listing_events = S.answers
  withdrawn : ∀ l ∈ S.rows.stock_listings, l.state = .withdrawn →
    ∃ e, lastAnswer l.listing_id S = some e ∧ e.cameDown

/-- The answer a delivery is about to commit: a publication that is deferred commits none. -/
def Delivery.told (d : Delivery) : Option (StockListing × ListingOutcome) :=
  match d.progress with
  | .called l (.outcome a) =>
    if d.event.event_type = .publish ∧ a.outcome = .deferred then none else some (l, a)
  | _ => none

/-- The key of an answer about to be committed is free, and a withdrawal about to be
committed was accepted. -/
def AnswersApart (S : ListingDesk) : DeskStep → Prop
  | .settle eventId => ∀ d ∈ S.inFlight, d.event.event_id = eventId → ∀ p ∈ d.told,
      (S.rows.listing_events.any (d.answerRow p.1 p.2).sameAttempt) = false ∧
        (d.event.event_type = .withdraw → p.2.outcome = .accepted)
  | .settleReconcile i _ => ∀ r ∈ S.reconciling[i]?,
      (S.rows.listing_events.any r.answerRow.sameAttempt) = false
  | _ => True

instance (S : ListingDesk) : ∀ e, Decidable (AnswersApart S e)
  | .settle eventId => inferInstanceAs (Decidable (∀ d ∈ S.inFlight,
      d.event.event_id = eventId → ∀ p ∈ d.told, _ ∧ (_ → _)))
  | .settleReconcile i _ => inferInstanceAs (Decidable (∀ r ∈ S.reconciling[i]?, _ = _))
  | .requestPublication .. | .requestWithdrawal .. | .claim .. | .crash _ | .deferEvent ..
  | .beginReconcile .. | .acquire _ | .beginTransition .. | .settleTransition .. => .isTrue trivial

theorem OnRecord.quiet {S S' : ListingDesk} (h : OnRecord S)
    (hrows : RowsHeld S'.rows.stock_listings S'.reconciling)
    (hevents : S'.rows.listing_events = S.rows.listing_events) (hanswers : S'.answers = S.answers)
    (hlistings : ∀ l ∈ S'.rows.stock_listings, l ∈ S.rows.stock_listings ∨ l.state ≠ .withdrawn) :
    OnRecord S' := by
  refine ⟨hrows, by rw [hevents, hanswers, h.recorded], fun l hl hdown => ?_⟩
  rw [lastAnswer, hanswers]
  rcases hlistings l hl with hold | hup
  · exact h.withdrawn l hold hdown
  · exact absurd hdown hup

theorem OnRecord.answer {S S' : ListingDesk} (h : OnRecord S)
    (hrows : RowsHeld S'.rows.stock_listings S'.reconciling) {e : ListingEvent}
    {f : StockListing → StockListing} (hf : ∀ l, (f l).listing_id = l.listing_id)
    (hfree : (S.rows.listing_events.any e.sameAttempt) = false)
    (hevents : S'.rows.listing_events = (recordListingEvent e S.rows).listing_events)
    (hanswers : S'.answers = S.answers ++ [e])
    (hlistings : S'.rows.stock_listings =
      updateWhere (fun l : StockListing => l.listing_id = e.listing_id) f S.rows.stock_listings)
    (hdown : ∀ l ∈ S.rows.stock_listings, l.listing_id = e.listing_id →
      (f l).state = .withdrawn → e.cameDown) : OnRecord S' := by
  have hrecorded : (recordListingEvent e S.rows).listing_events = S.rows.listing_events ++ [e] := by
    rw [recordListingEvent_events, hfree, if_neg Bool.false_ne_true]
  refine ⟨hrows, by rw [hevents, hrecorded, hanswers, h.recorded], fun l hl hstate => ?_⟩
  rw [hlistings] at hl
  rcases updateWhere_cases hl with ⟨hl, hother⟩ | ⟨k, hk, hid, rfl⟩
  · rw [lastAnswer, hanswers, lastWhere_concat_of_neg]
    · exact h.withdrawn l hl hstate
    · simpa using fun heq => hother heq.symm
  · refine ⟨e, ?_, hdown k hk hid hstate⟩
    rw [lastAnswer, hanswers, lastWhere_concat_of_pos]
    rw [hf k, decide_eq_true_eq]
    exact hid.symm

theorem OnRecord.step {S : ListingDesk} (h : OnRecord S) {e : DeskStep} (ha : AnswersApart S e) :
    OnRecord (S.step e) := by
  have hrows := h.rows.step e
  have hstep := stepped S e
  generalize S.step e = S' at hstep hrows ⊢
  cases hstep with
  | publishes _ _ _ granted =>
    cases granted with
    | renewed l hl hitem hchannel =>
      refine h.quiet hrows rfl rfl fun k hk => ?_
      rcases updateWhere_cases hk with ⟨hk, -⟩ | ⟨j, -, -, rfl⟩
      · exact .inl hk
      · exact .inr ListingState.noConfusion
    | opened hnew =>
      refine h.quiet hrows rfl rfl fun k hk => ?_
      rcases mem_inserted hk with hk | rfl
      · exact .inl hk
      · exact .inr ListingState.noConfusion
  | withdraws =>
    refine h.quiet hrows rfl rfl fun k hk => ?_
    rcases updateWhere_cases hk with ⟨hk, -⟩ | ⟨j, -, -, rfl⟩
    · exact .inl hk
    · exact .inr ListingState.noConfusion
  | @settles d rows answer flight _ commits =>
    rcases settlement_commits commits with
      ⟨rfl, hlistings, hevents⟩ | ⟨l, a, hprogress, hfinal, rfl, hlistings, hevents⟩
    · exact h.quiet hrows hevents (append_nil _) fun k hk => .inl (hlistings ▸ hk)
    · have htold : d.told = some (l, a) := by
        simp only [Delivery.told, hprogress, if_neg hfinal]
      obtain ⟨hfree, haccepted⟩ := ha d flight rfl (l, a) htold
      refine h.answer hrows (fun k => d.answered_id a k) hfree hevents rfl hlistings ?_
      -- Only the delivery of a withdrawal takes a listing down.
      intro k _ _ hstate
      left
      cases hkind : d.event.event_type with
      | withdraw =>
        refine ⟨?_, haccepted hkind⟩
        simp only [Delivery.answerRow, hkind]
      | publish =>
        simp only [Delivery.answered, hkind] at hstate
        split at hstate <;> cases hstate
  | @corrects i r row =>
    have hevents : (recordListingEvent r.answerRow
        (S.rows.setListing r.listing.listing_id r.corrected)).listing_events =
        (recordListingEvent r.answerRow S.rows).listing_events := by
      rw [recordListingEvent_events, recordListingEvent_events]
      rfl
    refine h.answer hrows (fun k => r.corrected_id k) (ha r row) hevents rfl ?_ ?_
    · exact recordListingEvent_listings _ _
    · -- The provider carries nothing, or a listing that was published.
      intro k hk hid hstate
      right
      have hkr : k = r.listing := eq_of_key h.rows.ids hk (h.rows.held r (mem_of_getElem? row)) hid
      refine ⟨r.listing.state, r.correctedTo, ?_⟩
      cases hhas : r.providerHasListing with
      | false => simp only [Reconciliation.answerRow, hhas]
      | true =>
        subst hkr
        simp only [Reconciliation.corrected, Reconciliation.correctedTo,
          Reconciliation.agreed, hhas] at hstate
        by_cases hpublished : r.listing.state = .published
        · simp [hpublished] at hstate
        · simp [hpublished] at hstate
  | _ => exact h.quiet hrows rfl rfl fun k hk => .inl hk

theorem onRecord_fresh (items : List StockItem) : OnRecord (.fresh items) where
  rows := ⟨nodup_nil, forall_mem_nil _, nodup_nil⟩
  recorded := rfl
  withdrawn := forall_mem_nil _

/-- **Every answer is on record.**  In every run in which no answer about to be committed
finds its key taken and no withdrawal is committed on another answer than `accepted`,
the ledger of a listing is the log of what the provider and the reconciliations said,
row by row, and a listing is withdrawn only when the last word was that it is down. -/
theorem every_answer_on_record {items : List StockItem} {steps : List DeskStep}
    (h : Along ListingDesk.step AnswersApart (.fresh items) steps) :
    let S := run ListingDesk.step (.fresh items) steps
    S.rows.listing_events = S.answers ∧
      ∀ l ∈ S.rows.stock_listings, l.state = .withdrawn →
        ∃ e, lastAnswer l.listing_id S = some e ∧ e.cameDown := by
  intro S
  have hrecord : OnRecord S :=
    h.invariant (fun _ _ hS ha => OnRecord.step hS ha) (onRecord_fresh items)
  exact ⟨hrecord.recorded, hrecord.withdrawn⟩

/-! ## A car in the window -/

namespace Window

def clerk : String := "0c000000-0000-4000-8000-000000000001"

def car : StockItem where
  stock_item_id := "car"
  vehicle_id := "sedan"
  rooftop_id := "main street"
  stock_number := "A1"
  lifecycle_state := .retail_ready
  acquisition_source := .auction
  acquisition_party_id := none
  acquired_on := "2026-08-01"
  odometer := none
  odometer_unit := .mi
  title_status := .in_hand
  location_label := none
  retail_ready_at := some 1
  retired_at := none
  retired_reason := none
  authorization_version := 1

/-- A request at an instant, priced and photographed, drawing an event. -/
def world (now : Int) (eventId : String) : DeskWorld where
  access := { userLinkExists := fun u => u = clerk, reaches := fun _ _ => true }
  now := now
  newListingId := "listing"
  newEventId := eventId
  hold := none
  priced := true
  photographed := true

def shown : Shown := ⟨"A1", "1HGBH41JXMN109186", some 1991, none, none, some 900000, 3⟩

def publish (now : Int) (eventId : String) (channel : String) : DeskStep :=
  .requestPublication (world now eventId) clerk car.stock_item_id channel

def withdraw (now : Int) (eventId : String) : DeskStep :=
  .requestWithdrawal (world now eventId) clerk "listing"

/-- A worker with the simulated provider claims an event and settles it. -/
def deliver (now : Int) (eventId : String) : List DeskStep :=
  [.claim now eventId simulatedListingProvider shown, .settle eventId]

def upAndDown : List DeskStep :=
  publish 1 "e1" "website" :: deliver 2 "e1" ++ withdraw 3 "e2" :: deliver 4 "e2" ++
    [.beginReconcile 5 "listing" simulatedListingProvider]

def upDownUp : List DeskStep :=
  publish 1 "e1" "website" :: deliver 2 "e1" ++ withdraw 3 "e2" :: deliver 4 "e2" ++
    publish 5 "e3" "website" :: deliver 6 "e3"

end Window

/-- A listing that goes up and comes down. -/
theorem up_and_down_on_record :
    let S := run ListingDesk.step (.fresh [Window.car]) Window.upAndDown
    (S.rows.listing_events.length = 2 ∧ S.rows.stock_listings.map (·.state) = [.withdrawn]) ∧
    S.rows.listing_events = S.answers ∧
      ∀ l ∈ S.rows.stock_listings, l.state = .withdrawn →
        ∃ e, lastAnswer l.listing_id S = some e ∧ e.cameDown :=
  ⟨by decide +kernel, every_answer_on_record (by decide +kernel)⟩

/-- The second publication is delivered at its first attempt, as the first one was: its
answer is dropped. -/
theorem second_publication_not_on_record :
    ¬ ∀ (items : List StockItem) (steps : List DeskStep),
      (run ListingDesk.step (.fresh items) steps).rows.listing_events =
        (run ListingDesk.step (.fresh items) steps).answers := by
  intro h
  have hlength := congrArg List.length (h [Window.car] Window.upDownUp)
  revert hlength
  decide +kernel

end Dealership.Inventory
