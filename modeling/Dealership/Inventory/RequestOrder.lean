import Dealership.Inventory.Advertised

/-!
# The last request decides

The events of one listing are claimed one by one, by whichever worker comes first, and
an event that is deferred is pushed out by minutes while a younger one is due.  Once
everything is delivered a listing is where its last request put it as long as the
events of one listing are claimed in the order they were requested, and no withdrawal
converges on a listing that is down while a publication of it is still on its way.
-/

namespace Dealership.Inventory

open Library List

variable {x : String} {e : OutboxEvent} {p : OutboxEvent → Prop} {f : OutboxEvent → OutboxEvent}
  {es : List OutboxEvent} {S : ListingDesk} {i : String}

/-! ## The queue of a listing -/

/-- The events of a listing, in the order they were requested. -/
def eventsOf (listingId : String) (outbox : List OutboxEvent) : List OutboxEvent :=
  outbox.filter fun e => e.listing_id = some listingId

/-- What is requested before a delivered event is delivered. -/
def FirstInFirstOut (es : List OutboxEvent) : Prop :=
  es.Pairwise fun e f => f.delivered_at ≠ none → e.delivered_at ≠ none

/-- Everything requested before the event is delivered. -/
def Clear (eventId : String) (es : List OutboxEvent) : Prop :=
  ∀ f ∈ es.takeWhile fun f => f.event_id ≠ eventId, f.delivered_at ≠ none

instance (eventId : String) (es : List OutboxEvent) : Decidable (Clear eventId es) :=
  inferInstanceAs (Decidable
    (∀ f ∈ es.takeWhile fun f => f.event_id ≠ eventId, f.delivered_at ≠ none))

theorem mem_eventsOf {outbox : List OutboxEvent} :
    e ∈ eventsOf x outbox ↔ e ∈ outbox ∧ e.listing_id = some x := by
  rw [eventsOf, mem_filter, decide_eq_true_eq]

theorem eventsOf_concat_of_pos (h : e.listing_id = some x) (outbox : List OutboxEvent) :
    eventsOf x (outbox ++ [e]) = eventsOf x outbox ++ [e] := by
  rw [eventsOf, filter_append, filter_cons_of_pos (by rw [h]; simp), filter_nil]
  rfl

theorem eventsOf_concat_of_neg (h : e.listing_id ≠ some x) (outbox : List OutboxEvent) :
    eventsOf x (outbox ++ [e]) = eventsOf x outbox := by
  rw [eventsOf, filter_append, filter_cons_of_neg (by simpa using h), filter_nil, append_nil]
  rfl

theorem eventsOf_updateWhere [DecidablePred p] (h : ∀ e, (f e).listing_id = e.listing_id)
    (outbox : List OutboxEvent) :
    eventsOf x (updateWhere p f outbox) = updateWhere p f (eventsOf x outbox) :=
  filter_updateWhere_comm fun e => by rw [h]

theorem Clear.cons (h : Clear i (e :: es))
    (hne : e.event_id ≠ i) : e.delivered_at ≠ none ∧ Clear i es := by
  rw [Clear, takeWhile_cons_of_pos (by simpa using hne)] at h
  exact forall_mem_cons.mp h

theorem Clear.append (h : Clear i es) (hmem : ∃ e ∈ es, e.event_id = i)
    (fs : List OutboxEvent) : Clear i (es ++ fs) := by
  induction es with
  | nil =>
    obtain ⟨e, he, -⟩ := hmem
    cases he
  | cons e es ih =>
    by_cases hid : e.event_id = i
    · rw [cons_append, Clear, takeWhile_cons_of_neg (by simpa using hid)]
      exact forall_mem_nil _
    · obtain ⟨hdelivered, hrest⟩ := h.cons hid
      rw [cons_append, Clear, takeWhile_cons_of_pos (by simpa using hid)]
      refine forall_mem_cons.mpr ⟨hdelivered, ih hrest ?_⟩
      obtain ⟨f, hf, hfid⟩ := hmem
      rcases mem_cons.mp hf with rfl | hf
      · exact absurd hfid hid
      · exact ⟨f, hf, hfid⟩

theorem Clear.updateWhere (h : Clear i es) [DecidablePred p]
    (hid : ∀ e, (f e).event_id = e.event_id)
    (hdelivered : ∀ e, p e → e.delivered_at ≠ none → (f e).delivered_at ≠ none) :
    Clear i (Library.updateWhere p f es) := by
  induction es with
  | nil => exact h
  | cons e es ih =>
    have hsame : (if p e then f e else e).event_id = e.event_id := by
      split
      · exact hid e
      · rfl
    rw [Library.updateWhere, map_cons]
    by_cases heq : e.event_id = i
    · rw [Clear, takeWhile_cons_of_neg (by simpa [hsame] using heq)]
      exact forall_mem_nil _
    · obtain ⟨hdone, hrest⟩ := h.cons heq
      rw [Clear, takeWhile_cons_of_pos (by simpa [hsame] using heq)]
      refine forall_mem_cons.mpr ⟨?_, ih hrest⟩
      split
      · rename_i hp
        exact hdelivered e hp hdone
      · exact hdone

theorem Clear.unique (hids : (es.map (·.event_id)).Nodup) {f : OutboxEvent} (he : e ∈ es)
    (hf : f ∈ es) (hedue : e.delivered_at = none) (hfdue : f.delivered_at = none)
    (hclear : Clear e.event_id es) (hclear' : Clear f.event_id es) : e = f := by
  induction es with
  | nil => cases he
  | cons a es ih =>
    rw [map_cons, nodup_cons] at hids
    have hhead : ∀ g ∈ a :: es, g.delivered_at = none → Clear g.event_id (a :: es) →
        a.delivered_at = none → g = a := by
      intro g hg _ hclear hadue
      rcases mem_cons.mp hg with rfl | hg
      · rfl
      · have hne : a.event_id ≠ g.event_id := fun h =>
          hids.1 (mem_map.mpr ⟨g, hg, h.symm⟩)
        exact absurd hadue (hclear.cons hne).1
    cases hadue : a.delivered_at with
    | none =>
      rw [hhead e he hedue hclear hadue, hhead f hf hfdue hclear' hadue]
    | some t =>
      have htail : ∀ g ∈ a :: es, g.delivered_at = none → g ∈ es ∧ a.event_id ≠ g.event_id := by
        intro g hg hgdue
        rcases mem_cons.mp hg with rfl | hg
        · rw [hadue] at hgdue
          cases hgdue
        · exact ⟨hg, fun h => hids.1 (mem_map.mpr ⟨g, hg, h.symm⟩)⟩
      obtain ⟨he, hene⟩ := htail e he hedue
      obtain ⟨hf, hfne⟩ := htail f hf hfdue
      exact ih hids.2 he hf (hclear.cons hene).2 (hclear'.cons hfne).2

namespace FirstInFirstOut

variable {es : List OutboxEvent}

theorem concat (h : FirstInFirstOut es) (he : e.delivered_at = none) :
    FirstInFirstOut (es ++ [e]) := by
  refine pairwise_append.mpr ⟨h, pairwise_singleton _ _, fun a _ b hb hdone => ?_⟩
  rw [mem_singleton.mp hb] at hdone
  exact absurd he hdone

theorem update (h : FirstInFirstOut es) [DecidablePred p]
    (hf : ∀ e, (f e).delivered_at = e.delivered_at) : FirstInFirstOut (updateWhere p f es) := by
  have hsame : ∀ e, (if p e then f e else e).delivered_at = e.delivered_at := by
    intro e
    split
    · exact hf e
    · rfl
  refine pairwise_map.mpr (h.imp fun {a b} hab => ?_)
  rw [hsame, hsame]
  exact hab

theorem deliver (h : FirstInFirstOut es) (hids : (es.map (·.event_id)).Nodup) {i : String}
    (hclear : Clear i es) (hf : ∀ e, (f e).delivered_at ≠ none) :
    FirstInFirstOut (updateWhere (fun e : OutboxEvent => e.event_id = i) f es) := by
  induction es with
  | nil => exact h
  | cons a es ih =>
    rw [map_cons, nodup_cons] at hids
    rw [FirstInFirstOut, pairwise_cons] at h
    rw [updateWhere, map_cons, FirstInFirstOut, pairwise_cons]
    by_cases hid : a.event_id = i
    · -- The event itself: none of the others has its id.
      have hrest : updateWhere (fun e : OutboxEvent => e.event_id = i) f es = es :=
        updateWhere_of_forall_not fun e he heq =>
          hids.1 (mem_map.mpr ⟨e, he, heq.trans hid.symm⟩)
      rw [updateWhere] at hrest
      rw [hrest, if_pos hid]
      exact ⟨fun _ _ _ => hf a, h.2⟩
    · obtain ⟨hdone, hclear⟩ := hclear.cons hid
      rw [if_neg hid]
      exact ⟨fun _ _ _ => hdone, ih h.2 hids.2 hclear⟩

theorem last_of_delivered (h : FirstInFirstOut es) {last : OutboxEvent} (he : e ∈ es)
    (hdue : e.delivered_at = none) (hlast : es.getLast? = some last)
    (hall : ∀ f ∈ es, f.event_id ≠ e.event_id → f.delivered_at ≠ none) :
    last.event_id = e.event_id := by
  obtain ⟨init, rfl⟩ := getLast?_eq_some_iff.mp hlast
  by_contra hne
  have hdone := hall last (mem_append_right _ mem_cons_self) hne
  rcases mem_append.mp he with he | he
  · exact (pairwise_append.mp h).2.2 e he last mem_cons_self hdone hdue
  · exact hne (by rw [mem_singleton.mp he])

theorem all_of_last (h : FirstInFirstOut es) {last : OutboxEvent} (hlast : es.getLast? = some last)
    (hdone : last.delivered_at ≠ none) : ∀ f ∈ es, f.delivered_at ≠ none := by
  obtain ⟨init, rfl⟩ := getLast?_eq_some_iff.mp hlast
  intro f hf
  rcases mem_inserted hf with hf | rfl
  · exact (pairwise_append.mp h).2.2 f hf last mem_cons_self hdone
  · exact hdone

end FirstInFirstOut

/-! ## The desk, in request order -/

/-- The last publication or withdrawal the provider received for a listing. -/
def lastCall (listingId : String) (S : ListingDesk) : Option ProviderCall :=
  lastWhere (fun c => c.listing_id = listingId) S.calls

def lastRequest (listingId : String) (S : ListingDesk) : Option Granted :=
  lastWhere (fun r => r.listing_id = listingId) S.requests

/-- Where a delivered request leaves a listing. -/
def ListingRequest.reached : ListingRequest → ListingState → Prop
  | .withdraw, state => state = .withdrawn
  | .publish, state => state = .published ∨ state = .rejected

/-- The events of one listing are claimed in the order they were requested, no withdrawal
converges on a listing that is down while a publication of it is on its way, and nobody
reconciles. -/
def InRequestOrder (S : ListingDesk) : DeskStep → Prop
  | .claim now eventId _ _ => ∀ e ∈ S.claimed now eventId,
      Clear e.event_id (S.rows.admin_outbox.filter fun f => f.listing_id = e.listing_id)
  | .requestWithdrawal _ _ listingId => ∀ l ∈ S.rows.stock_listings, l.listing_id = listingId →
      l.state = .withdrawn → publicationDue listingId S = false
  | .beginReconcile .. => False
  | _ => True

instance (S : ListingDesk) : ∀ e, Decidable (InRequestOrder S e)
  | .claim now eventId _ _ => inferInstanceAs (Decidable (∀ e ∈ S.claimed now eventId,
      Clear e.event_id (S.rows.admin_outbox.filter fun f => f.listing_id = e.listing_id)))
  | .requestWithdrawal _ _ listingId => inferInstanceAs (Decidable
      (∀ l ∈ S.rows.stock_listings, l.listing_id = listingId → l.state = .withdrawn → _ = _))
  | .beginReconcile .. => .isFalse id
  | .requestPublication .. | .settle _ | .crash _ | .deferEvent .. | .settleReconcile ..
  | .acquire _ | .beginTransition .. | .settleTransition .. => .isTrue trivial

/-- The rows of a desk in request order. -/
structure Queued (rows : ListingRows) : Prop where
  ids : (rows.stock_listings.map (·.listing_id)).Nodup
  eventIds : (rows.admin_outbox.map (·.event_id)).Nodup
  notDraft : ∀ l ∈ rows.stock_listings, l.state ≠ .draft
  begun : ∀ l ∈ rows.stock_listings, eventsOf l.listing_id rows.admin_outbox ≠ []
  named : ∀ e ∈ rows.admin_outbox, ∃ l ∈ rows.stock_listings, e.listing_id = some l.listing_id
  ledger : ∀ id ∈ rows.admin_outbox_deliveries,
    ∃ e ∈ rows.admin_outbox, e.event_id = id ∧ e.delivered_at ≠ none
  order : ∀ x, FirstInFirstOut (eventsOf x rows.admin_outbox)

/-- A delivery of the first undelivered event of its listing, whose call is the last. -/
structure Turn (S : ListingDesk) (d : Delivery) : Prop where
  called : ∃ l answer, d.progress = .called l answer ∧ d.event.listing_id = some l.listing_id ∧
    Clear d.event.event_id (eventsOf l.listing_id S.rows.admin_outbox) ∧
    lastCall l.listing_id S = some ⟨l.listing_id, d.event.event_type, d.event.event_id, answer⟩

/-- Everything delivered, a listing is where its last event leaves it, and the provider
heard of that event last. -/
def Rests (S : ListingDesk) (l : StockListing) : Prop :=
  (∀ e ∈ eventsOf l.listing_id S.rows.admin_outbox, e.delivered_at ≠ none) →
    ∀ e, (eventsOf l.listing_id S.rows.admin_outbox).getLast? = some e →
      e.event_type.reached l.state ∧ ∃ c, lastCall l.listing_id S = some c ∧
        c.kind = e.event_type ∧ c.event_id = e.event_id

/-- The last request granted for a listing is its last event, or converged on it. -/
def Heard (S : ListingDesk) (x : String) : Prop :=
  ∀ r, lastRequest x S = some r → ∃ e, (eventsOf x S.rows.admin_outbox).getLast? = some e ∧
    r.kind = e.event_type ∧ ∀ id ∈ r.event_id, id = e.event_id

structure Orderly (S : ListingDesk) : Prop where
  queued : Queued S.rows
  flying : Flying S.inFlight S.rows.admin_outbox
  idle : S.reconciling = []
  turns : ∀ d ∈ S.inFlight, Turn S d
  rests : ∀ l ∈ S.rows.stock_listings, Rests S l
  heard : ∀ x, Heard S x

section Queue

variable {rows : ListingRows}

theorem Queued.nodup (h : Queued rows) (x : String) :
    ((eventsOf x rows.admin_outbox).map (·.event_id)).Nodup :=
  h.eventIds.sublist (filter_sublist.map _)

theorem Queued.not_ledger (h : Queued rows) (he : e ∈ rows.admin_outbox)
    (hdue : e.delivered_at = none) : e.event_id ∉ rows.admin_outbox_deliveries := by
  intro hmem
  obtain ⟨f, hf, hid, hdone⟩ := h.ledger _ hmem
  rw [eq_of_key h.eventIds hf he hid] at hdone
  exact hdone hdue

theorem Queued.found (h : Queued rows) (he : e ∈ rows.admin_outbox) :
    ∃ l ∈ rows.stock_listings, e.listing_id = some l.listing_id ∧
      readListing l.listing_id rows = some l := by
  obtain ⟨l, hl, hnames⟩ := h.named e he
  exact ⟨l, hl, hnames, find?_eq_some_of_key h.ids hl⟩

theorem Queued.enqueue (h : Queued rows) {listings : List StockListing}
    (hids : (listings.map (·.listing_id)).Nodup) (hdraft : ∀ l ∈ listings, l.state ≠ .draft)
    (hkeys : ∀ l ∈ listings, l.listing_id = x ∨ ∃ k ∈ rows.stock_listings,
      k.listing_id = l.listing_id)
    (hstay : ∀ k ∈ rows.stock_listings, ∃ l ∈ listings, l.listing_id = k.listing_id)
    (hthere : ∃ l ∈ listings, l.listing_id = x) (hnames : e.listing_id = some x)
    (hdue : e.delivered_at = none) (hfresh : ∀ f ∈ rows.admin_outbox, f.event_id ≠ e.event_id) :
    Queued { rows with stock_listings := listings, admin_outbox := rows.admin_outbox ++ [e] } := by
  refine ⟨hids, nodup_key_insert h.eventIds hfresh, hdraft, fun l hl hnil => ?_, ?_, ?_, ?_⟩
  · have hempty : ∀ f ∈ rows.admin_outbox ++ [e], f.listing_id ≠ some l.listing_id := by
      intro f hf hlisting
      have hmem := mem_eventsOf.mpr ⟨hf, hlisting⟩
      rw [hnil] at hmem
      cases hmem
    rcases hkeys l hl with hx | ⟨k, hk, hkl⟩
    · exact hempty e (mem_append_right _ mem_cons_self) (hx ▸ hnames)
    · refine h.begun k hk (eq_nil_iff_forall_not_mem.mpr fun f hf => ?_)
      obtain ⟨hf, hlisting⟩ := mem_eventsOf.mp hf
      exact hempty f (mem_append_left _ hf) (hkl ▸ hlisting)
  · intro f hf
    rcases mem_append.mp hf with hf | hf
    · obtain ⟨k, hk, hlisting⟩ := h.named f hf
      obtain ⟨l, hl, hlk⟩ := hstay k hk
      exact ⟨l, hl, hlk ▸ hlisting⟩
    · obtain ⟨l, hl, hlx⟩ := hthere
      exact ⟨l, hl, by rw [mem_singleton.mp hf, hnames, hlx]⟩
  · intro id hid
    obtain ⟨f, hf, hfid⟩ := h.ledger id hid
    exact ⟨f, mem_append_left _ hf, hfid⟩
  · intro x
    change FirstInFirstOut (eventsOf x (rows.admin_outbox ++ [e]))
    by_cases hx : e.listing_id = some x
    · rw [eventsOf_concat_of_pos hx]
      exact (h.order x).concat hdue
    · rw [eventsOf_concat_of_neg hx]
      exact h.order x

theorem Queued.update (h : Queued rows) [DecidablePred p] (hid : ∀ e, (f e).event_id = e.event_id)
    (hlisting : ∀ e, (f e).listing_id = e.listing_id)
    (hdelivered : ∀ e, (f e).delivered_at = e.delivered_at) :
    Queued { rows with admin_outbox := updateWhere p f rows.admin_outbox } := by
  refine ⟨h.ids, ?_, h.notDraft, fun l hl hnil => ?_, fun e he => ?_, fun id hledger => ?_, ?_⟩
  · exact nodup_map_updateWhere h.eventIds fun e _ => hid e
  · rw [eventsOf_updateWhere hlisting, updateWhere, map_eq_nil_iff] at hnil
    exact h.begun l hl hnil
  · rcases updateWhere_cases he with ⟨he, -⟩ | ⟨g, hg, -, rfl⟩
    · exact h.named e he
    · rw [hlisting]
      exact h.named g hg
  · obtain ⟨e, he, heid, hdone⟩ := h.ledger id hledger
    by_cases hp : p e
    · exact ⟨f e, mem_updateWhere_of_pos he hp, by rw [hid, heid], by rw [hdelivered]; exact hdone⟩
    · exact ⟨e, mem_updateWhere_of_neg he hp, heid, hdone⟩
  · intro x
    change FirstInFirstOut (eventsOf x (updateWhere p f rows.admin_outbox))
    rw [eventsOf_updateWhere hlisting]
    exact (h.order x).update hdelivered

theorem Queued.others (h : Queued rows) (he : e ∈ rows.admin_outbox) {y : String}
    (hnames : e.listing_id = some x) (hxy : x ≠ y) (f : OutboxEvent → OutboxEvent) :
    updateWhere (fun g : OutboxEvent => g.event_id = e.event_id) f
      (eventsOf y rows.admin_outbox) = eventsOf y rows.admin_outbox := by
  refine updateWhere_of_forall_not fun g hg hid => hxy ?_
  obtain ⟨hg, hlisting⟩ := mem_eventsOf.mp hg
  rw [eq_of_key h.eventIds hg he hid, hnames] at hlisting
  exact Option.some.inj hlisting

theorem Queued.deliver (h : Queued rows) (he : e ∈ rows.admin_outbox)
    (hnames : e.listing_id = some x) (hclear : Clear e.event_id (eventsOf x rows.admin_outbox))
    {f : StockListing → StockListing} (hf : ∀ l, (f l).listing_id = l.listing_id)
    (hdraft : ∀ l, (f l).state ≠ .draft) {g : OutboxEvent → OutboxEvent}
    (hid : ∀ e, (g e).event_id = e.event_id) (hlisting : ∀ e, (g e).listing_id = e.listing_id)
    (hdelivered : ∀ e, (g e).delivered_at ≠ none) (events : List ListingEvent) : Queued
      { stock_items := rows.stock_items
        stock_listings :=
          updateWhere (fun l : StockListing => l.listing_id = x) f rows.stock_listings
        listing_events := events
        admin_outbox :=
          updateWhere (fun g : OutboxEvent => g.event_id = e.event_id) g rows.admin_outbox
        admin_outbox_deliveries := rows.admin_outbox_deliveries ++ [e.event_id] } := by
  have hkeys : ∀ l ∈ updateWhere (fun l : StockListing => l.listing_id = x) f rows.stock_listings,
      ∃ k ∈ rows.stock_listings, k.listing_id = l.listing_id := by
    intro l hl
    rcases updateWhere_cases hl with ⟨hl, -⟩ | ⟨k, hk, -, rfl⟩
    · exact ⟨l, hl, rfl⟩
    · exact ⟨k, hk, (hf k).symm⟩
  refine ⟨?_, ?_, fun l hl => ?_, fun l hl hnil => ?_, fun a ha => ?_, fun id hledger => ?_, ?_⟩
  · exact nodup_map_updateWhere h.ids fun l _ => hf l
  · exact nodup_map_updateWhere h.eventIds fun a _ => hid a
  · rcases updateWhere_cases hl with ⟨hl, -⟩ | ⟨k, -, -, rfl⟩
    · exact h.notDraft l hl
    · exact hdraft k
  · obtain ⟨k, hk, hkl⟩ := hkeys l hl
    rw [eventsOf_updateWhere hlisting, updateWhere, map_eq_nil_iff] at hnil
    exact h.begun k hk (hkl ▸ hnil)
  · obtain ⟨b, hb, hab⟩ : ∃ b ∈ rows.admin_outbox, a.listing_id = b.listing_id := by
      rcases updateWhere_cases ha with ⟨ha, -⟩ | ⟨b, hb, -, rfl⟩
      · exact ⟨a, ha, rfl⟩
      · exact ⟨b, hb, hlisting b⟩
    obtain ⟨l, hl, hbl⟩ := h.named b hb
    rw [hab, hbl]
    by_cases hlx : l.listing_id = x
    · exact ⟨f l, mem_updateWhere_of_pos hl hlx, by rw [hf]⟩
    · exact ⟨l, mem_updateWhere_of_neg hl hlx, rfl⟩
  · rcases mem_append.mp hledger with hledger | hledger
    · obtain ⟨a, ha, haid, hdone⟩ := h.ledger id hledger
      by_cases hae : a.event_id = e.event_id
      · exact ⟨g a, mem_updateWhere_of_pos ha hae, by rw [hid, haid], hdelivered a⟩
      · exact ⟨a, mem_updateWhere_of_neg ha hae, haid, hdone⟩
    · exact ⟨g e, mem_updateWhere_of_pos he rfl, by rw [hid, mem_singleton.mp hledger],
        hdelivered e⟩
  · intro y
    change FirstInFirstOut (eventsOf y (updateWhere _ g rows.admin_outbox))
    rw [eventsOf_updateWhere hlisting]
    by_cases hxy : x = y
    · subst hxy
      exact (h.order x).deliver (h.nodup x) hclear hdelivered
    · rw [h.others he hnames hxy]
      exact h.order y

end Queue

theorem Orderly.quiet {S' : ListingDesk} (h : Orderly S) (hqueued : Queued S'.rows)
    (hflying : Flying S'.inFlight S'.rows.admin_outbox) (hidle : S'.reconciling = [])
    (hflights : ∀ d ∈ S'.inFlight, d ∈ S.inFlight) (hcalls : S'.calls = S.calls)
    (hrequests : S'.requests = S.requests)
    (hlistings : S'.rows.stock_listings = S.rows.stock_listings) [DecidablePred p]
    (houtbox : S'.rows.admin_outbox = updateWhere p f S.rows.admin_outbox)
    (hid : ∀ e, (f e).event_id = e.event_id := by exact fun _ => rfl)
    (hlisting : ∀ e, (f e).listing_id = e.listing_id := by exact fun _ => rfl)
    (htype : ∀ e, (f e).event_type = e.event_type := by exact fun _ => rfl)
    (hdelivered : ∀ e, (f e).delivered_at = e.delivered_at := by exact fun _ => rfl) :
    Orderly S' := by
  have hevents : ∀ x, eventsOf x S'.rows.admin_outbox =
      updateWhere p f (eventsOf x S.rows.admin_outbox) := by
    intro x
    rw [houtbox, eventsOf_updateWhere hlisting]
  have hrow : ∀ e : OutboxEvent, (if p e then f e else e).event_id = e.event_id ∧
      (if p e then f e else e).event_type = e.event_type ∧
      (if p e then f e else e).delivered_at = e.delivered_at := by
    intro e
    split
    · exact ⟨hid e, htype e, hdelivered e⟩
    · exact ⟨rfl, rfl, rfl⟩
  have hlast : ∀ x e', (eventsOf x S'.rows.admin_outbox).getLast? = some e' →
      ∃ e, (eventsOf x S.rows.admin_outbox).getLast? = some e ∧ e'.event_id = e.event_id ∧
        e'.event_type = e.event_type := by
    intro x e' he'
    rw [hevents, updateWhere, getLast?_map, Option.map_eq_some_iff] at he'
    obtain ⟨e, he, rfl⟩ := he'
    exact ⟨e, he, (hrow e).1, (hrow e).2.1⟩
  refine ⟨hqueued, hflying, hidle, fun d hd => ?_, fun l hl hall e he => ?_, fun x r hr => ?_⟩
  · obtain ⟨l, answer, hprogress, hnames, hclear, hcall⟩ := (h.turns d (hflights d hd)).called
    refine ⟨l, answer, hprogress, hnames, ?_, by rw [lastCall, hcalls]; exact hcall⟩
    rw [hevents]
    exact hclear.updateWhere hid fun e _ hdone => by rw [hdelivered]; exact hdone
  · rw [hlistings] at hl
    obtain ⟨e₀, he₀, hidsame, htypesame⟩ := hlast _ e he
    rw [lastCall, hcalls, hidsame, htypesame]
    refine h.rests l hl (fun a ha hnone => ?_) e₀ he₀
    refine hall (if p a then f a else a) ?_ ((hrow a).2.2.trans hnone)
    rw [hevents]
    exact mem_map_of_mem ha
  · rw [lastRequest, hrequests] at hr
    obtain ⟨e, he, hkind, hevent⟩ := h.heard x r hr
    refine ⟨if p e then f e else e, ?_, hkind.trans (hrow e).2.1.symm, fun id hid => ?_⟩
    · rw [hevents, updateWhere, getLast?_map, he]
      rfl
    · rw [hevent id hid, (hrow e).1]

theorem Orderly.granted (h : Orderly S) {rows : ListingRows} (hqueued : Queued rows)
    (hnames : e.listing_id = some x) (hdue : e.delivered_at = none)
    (hfresh : ∀ f ∈ S.rows.admin_outbox, f.event_id ≠ e.event_id)
    (houtbox : rows.admin_outbox = S.rows.admin_outbox ++ [e])
    (hlistings : ∀ l ∈ rows.stock_listings, l.listing_id = x ∨ l ∈ S.rows.stock_listings) :
    Orderly { S with
      rows
      requests := S.requests ++ [⟨x, e.event_type, some e.event_id⟩] } := by
  refine ⟨hqueued, houtbox ▸ h.flying.enqueue hfresh, h.idle, fun d hd => ?_, fun l hl hall a ha => ?_,
    fun y r hr => ?_⟩
  · obtain ⟨l, answer, hprogress, hlisting, hclear, hcall⟩ := (h.turns d hd).called
    refine ⟨l, answer, hprogress, hlisting, ?_, hcall⟩
    simp only [houtbox]
    by_cases hlx : e.listing_id = some l.listing_id
    · rw [eventsOf_concat_of_pos hlx]
      exact hclear.append ⟨d.event, mem_eventsOf.mpr ⟨(h.flying.flights d hd).1, hlisting⟩, rfl⟩ _
    · rw [eventsOf_concat_of_neg hlx]
      exact hclear
  · simp only [houtbox] at hall ha
    by_cases hlx : e.listing_id = some l.listing_id
    · exact absurd hdue (hall e (mem_eventsOf.mpr ⟨mem_append_right _ mem_cons_self, hlx⟩))
    · rw [eventsOf_concat_of_neg hlx] at hall ha
      rcases hlistings l hl with rfl | hl
      · exact absurd hnames hlx
      · exact h.rests l hl hall a ha
  · simp only [houtbox]
    by_cases hyx : x = y
    · subst hyx
      change lastWhere _ (S.requests ++ [_]) = _ at hr
      rw [lastWhere_concat_of_pos (by simp)] at hr
      cases hr
      refine ⟨e, ?_, rfl, fun id hid => (Option.some.inj hid).symm⟩
      rw [eventsOf_concat_of_pos hnames, getLast?_concat]
    · change lastWhere _ (S.requests ++ [_]) = _ at hr
      rw [lastWhere_concat_of_neg (by simpa using hyx)] at hr
      rw [eventsOf_concat_of_neg (by rw [hnames]; simpa using hyx)]
      exact h.heard y r hr

theorem Orderly.claims (h : Orderly S) {now : Int} {port : ListingPort} {shown : Shown}
    {progress : Progress} {calls : List ProviderCall}
    (hclear : Clear e.event_id (S.rows.admin_outbox.filter fun f => f.listing_id = e.listing_id))
    (he : e ∈ S.rows.admin_outbox) (hdue : e.delivered_at = none)
    (hfree : S.eventHeld e.event_id = false) (hbegun : Claimed S now port shown e progress calls)
    (hflying : Flying (S.inFlight ++ [⟨e, now, progress⟩]) S.rows.admin_outbox) :
    Orderly { S with inFlight := S.inFlight ++ [⟨e, now, progress⟩], calls } := by
  obtain ⟨l, hl, hnames, hread⟩ := h.queued.found he
  -- The event is undelivered and its listing is there, so the provider is called.
  obtain ⟨answer, rfl, rfl⟩ : ∃ answer, progress = .called l answer ∧
      calls = S.calls ++ [⟨l.listing_id, e.event_type, e.event_id, answer⟩] := by
    have hledger := h.queued.not_ledger he hdue
    cases hbegun with
    | deduplicated hmem => exact absurd hmem hledger
    | unnamed _ hnone =>
      rw [hnames] at hnone
      cases hnone
    | absent listingId _ hsome habsent =>
      rw [hnames] at hsome
      cases hsome
      rw [hread] at habsent
      cases habsent
    | called k _ hsome hk =>
      rw [hnames] at hsome
      have hlk : l.listing_id = k.listing_id := Option.some.inj hsome
      rw [← hlk, hread] at hk
      cases hk
      exact ⟨_, rfl, rfl⟩
  rw [hnames] at hclear
  -- No other delivery of the listing is under way: its event would be this one.
  have hothers : ∀ d ∈ S.inFlight, ∀ k answer, d.progress = .called k answer →
      k.listing_id ≠ l.listing_id := by
    intro d hd k answer hprogress hkl
    obtain ⟨j, told, hprogress', hlisting, hclear', -⟩ := (h.turns d hd).called
    rw [hprogress] at hprogress'
    cases hprogress'
    rw [hkl] at hlisting hclear'
    obtain ⟨hmem, hddue⟩ := h.flying.flights d hd
    have hsame : d.event = e := Clear.unique (h.queued.nodup l.listing_id)
      (mem_eventsOf.mpr ⟨hmem, hlisting⟩) (mem_eventsOf.mpr ⟨he, hnames⟩) hddue hdue hclear' hclear
    rw [ListingDesk.eventHeld, any_eq_false] at hfree
    exact hfree d hd (by rw [hsame]; simp)
  refine ⟨h.queued, hflying, h.idle, fun d hd => ?_, fun k hk hall f hf => ?_, h.heard⟩
  · rcases mem_inserted hd with hd | rfl
    · obtain ⟨k, told, hprogress, hlisting, hclear', hcall⟩ := (h.turns d hd).called
      refine ⟨k, told, hprogress, hlisting, hclear', ?_⟩
      have hne := hothers d hd k told hprogress
      exact (lastWhere_concat_of_neg (by simpa using hne.symm) S.calls).trans hcall
    · exact ⟨l, answer, rfl, hnames, hclear, lastWhere_concat_of_pos (by simp) S.calls⟩
  · by_cases hkl : k.listing_id = l.listing_id
    · exact absurd hdue (hall e (mem_eventsOf.mpr ⟨he, hkl ▸ hnames⟩))
    · obtain ⟨hreached, c, hcall, hc⟩ := h.rests k hk hall f hf
      refine ⟨hreached, c, ?_, hc⟩
      exact (lastWhere_concat_of_neg (by simpa using fun heq => hkl heq.symm) S.calls).trans hcall

theorem answered_reached {d : Delivery} {a : ListingOutcome} (l : StockListing) :
    d.event.event_type.reached (d.answered a l).state := by
  cases hkind : d.event.event_type with
  | withdraw => simp only [Delivery.answered, hkind, ListingRequest.reached]
  | publish =>
    simp only [Delivery.answered, hkind, ListingRequest.reached]
    split
    · exact .inl rfl
    · exact .inr rfl

theorem answered_not_draft (d : Delivery) (a : ListingOutcome) (l : StockListing) :
    (d.answered a l).state ≠ .draft := by
  have hreached := answered_reached (d := d) (a := a) l
  intro hdraft
  rw [hdraft] at hreached
  cases hkind : d.event.event_type with
  | withdraw =>
    rw [hkind] at hreached
    cases hreached
  | publish =>
    rw [hkind] at hreached
    rcases hreached with hreached | hreached <;> cases hreached

theorem Orderly.settles (h : Orderly S) {d : Delivery} (hd : d ∈ S.inFlight) {rows : ListingRows}
    {answer : Option ListingEvent} (hcommit : d.settlement S.rows = .commit rows answer)
    (hflying : Flying (S.without d.event.event_id).inFlight rows.admin_outbox) :
    Orderly { S.without d.event.event_id with rows, answers := S.answers ++ answer.toList } := by
  obtain ⟨l, told, hprogress, hnames, hclear, hcall⟩ := (h.turns d hd).called
  obtain ⟨hmem, hdue⟩ := h.flying.flights d hd
  obtain ⟨a, -, -, -, hrows⟩ := settlement_called hprogress hcommit
  generalize hmark : OutboxEvent.delivered d.now d.attempt none = mark at hrows
  have hid : ∀ e, (mark e).event_id = e.event_id := fun _ => by rw [← hmark]; rfl
  have htype : ∀ e, (mark e).event_type = e.event_type := fun _ => by rw [← hmark]; rfl
  have hlisting : ∀ e, (mark e).listing_id = e.listing_id := fun _ => by rw [← hmark]; rfl
  have hdone : ∀ e, (mark e).delivered_at ≠ none := fun _ => by
    rw [← hmark]
    exact Option.some_ne_none _
  have houtbox : rows.admin_outbox = updateWhere
      (fun e : OutboxEvent => e.event_id = d.event.event_id) mark S.rows.admin_outbox := by
    rw [hrows]
    simp only [ListingRows.setEvent, ListingRows.setListing, recordListingEvent_outbox]
  have hlistings : rows.stock_listings = updateWhere
      (fun k : StockListing => k.listing_id = l.listing_id) (d.answered a)
      S.rows.stock_listings := by
    rw [hrows]
    simp only [ListingRows.setEvent, ListingRows.setListing, recordListingEvent_listings]
  have hledger : rows.admin_outbox_deliveries =
      S.rows.admin_outbox_deliveries ++ [d.event.event_id] := by
    rw [hrows]
    simp only [ListingRows.setEvent, ListingRows.setListing, recordListingEvent]
    split <;> rfl
  have hqueued : Queued rows := by
    have hdeliver := h.queued.deliver hmem hnames hclear (fun k => d.answered_id a k)
      (answered_not_draft d a) hid hlisting hdone rows.listing_events
    rw [← houtbox, ← hlistings, ← hledger] at hdeliver
    exact ⟨hdeliver.ids, hdeliver.eventIds, hdeliver.notDraft, hdeliver.begun, hdeliver.named,
      hdeliver.ledger, hdeliver.order⟩
  have hevents : ∀ x, eventsOf x rows.admin_outbox = updateWhere
      (fun e : OutboxEvent => e.event_id = d.event.event_id) mark
      (eventsOf x S.rows.admin_outbox) := by
    intro x
    rw [houtbox, eventsOf_updateWhere hlisting]
  have hstay : ∀ x, x ≠ l.listing_id →
      eventsOf x rows.admin_outbox = eventsOf x S.rows.admin_outbox := by
    intro x hx
    rw [hevents, h.queued.others hmem hnames (Ne.symm hx)]
  have hkeep : ∀ e : OutboxEvent,
      (if e.event_id = d.event.event_id then mark e else e).event_id = e.event_id ∧
      (if e.event_id = d.event.event_id then mark e else e).event_type = e.event_type := by
    intro e
    split
    · exact ⟨hid e, htype e⟩
    · exact ⟨rfl, rfl⟩
  refine ⟨hqueued, hflying, h.idle, fun c hc => ?_, fun k hk hall f hf => ?_, fun x r hr => ?_⟩
  · obtain ⟨j, told', hprogress', hlisting', hclear', hcall'⟩ :=
      (h.turns c (mem_of_mem_filter hc)).called
    refine ⟨j, told', hprogress', hlisting', ?_, hcall'⟩
    simp only [hevents]
    exact hclear'.updateWhere hid fun e _ _ => hdone e
  · simp only [hlistings] at hk
    rcases updateWhere_cases hk with ⟨hk, hother⟩ | ⟨j, hj, hjl, rfl⟩
    · rw [hstay k.listing_id hother] at hall hf
      exact h.rests k hk hall f hf
    · -- Nothing of the listing is left undelivered, so this was its last event.
      rw [d.answered_id, hjl] at hall hf ⊢
      rw [hevents, updateWhere, getLast?_map, Option.map_eq_some_iff] at hf
      obtain ⟨last, hlast, rfl⟩ := hf
      have hin : d.event ∈ eventsOf l.listing_id S.rows.admin_outbox :=
        mem_eventsOf.mpr ⟨hmem, hnames⟩
      have hlastid : last.event_id = d.event.event_id := by
        refine (h.queued.order l.listing_id).last_of_delivered hin hdue hlast fun g hg hne => ?_
        have hg' := hall g (by rw [hevents]; exact mem_updateWhere_of_neg hg hne)
        exact hg'
      have hlastevent : last = d.event := eq_of_key (h.queued.nodup l.listing_id)
        (mem_of_getLast? hlast) hin hlastid
      rw [(hkeep last).1, (hkeep last).2, hlastevent]
      exact ⟨answered_reached j, _, hcall, rfl, rfl⟩
  · obtain ⟨e, he, hkind, hevent⟩ := h.heard x r hr
    refine ⟨if e.event_id = d.event.event_id then mark e else e, ?_,
      hkind.trans (hkeep e).2.symm, fun i hi => ?_⟩
    · simp only [hevents]
      rw [updateWhere, getLast?_map, he]
      rfl
    · rw [hevent i hi, (hkeep e).1]

theorem Orderly.pending (h : Orderly S) {l : StockListing} (hl : l ∈ S.rows.stock_listings)
    {state : ListingState} (hstate : state ≠ .draft) {e : OutboxEvent}
    (hnames : e.listing_id = some l.listing_id) (hdue : e.delivered_at = none)
    (hfresh : ∀ f ∈ S.rows.admin_outbox, f.event_id ≠ e.event_id) :
    Orderly { S with
      rows := { S.rows with
        stock_listings := updateWhere (fun k : StockListing => k.listing_id = l.listing_id)
          (StockListing.pending state) S.rows.stock_listings
        admin_outbox := S.rows.admin_outbox ++ [e] }
      requests := S.requests ++ [⟨l.listing_id, e.event_type, some e.event_id⟩] } := by
  have hids : (updateWhere (fun k : StockListing => k.listing_id = l.listing_id)
      (StockListing.pending state) S.rows.stock_listings).map (·.listing_id) =
      S.rows.stock_listings.map (·.listing_id) := map_updateWhere fun _ _ => rfl
  refine h.granted ?_ hnames hdue hfresh rfl fun k hk => ?_
  · refine h.queued.enqueue (hids ▸ h.queued.ids) (fun k hk => ?_) (fun k hk => ?_)
      (fun k hk => ?_) ⟨_, mem_updateWhere_of_pos hl rfl, rfl⟩ hnames hdue hfresh
    · rcases updateWhere_cases hk with ⟨hk, -⟩ | ⟨j, -, -, rfl⟩
      · exact h.queued.notDraft k hk
      · exact hstate
    · rcases updateWhere_cases hk with ⟨hk, -⟩ | ⟨j, -, hj, rfl⟩
      · exact .inr ⟨k, hk, rfl⟩
      · exact .inl hj
    · have hmem : k.listing_id ∈ S.rows.stock_listings.map (·.listing_id) := mem_map_of_mem hk
      rw [← hids] at hmem
      exact mem_map.mp hmem
  · rcases updateWhere_cases hk with ⟨hk, -⟩ | ⟨j, -, hj, rfl⟩
    · exact .inr hk
    · exact .inl hj

theorem Orderly.converges (h : Orderly S) {l : StockListing} (hl : l ∈ S.rows.stock_listings)
    (hdown : l.state = .withdrawn ∨ l.state = .draft)
    (ha : l.state = .withdrawn → publicationDue l.listing_id S = false) :
    Orderly { S with requests := S.requests ++ [⟨l.listing_id, .withdraw, none⟩] } := by
  refine ⟨h.queued, h.flying, h.idle, fun d hd => ⟨(h.turns d hd).called⟩, h.rests,
    fun x r hr => ?_⟩
  change lastWhere _ (S.requests ++ [_]) = _ at hr
  by_cases hx : l.listing_id = x
  · subst hx
    rw [lastWhere_concat_of_pos (by simp)] at hr
    cases hr
    have hwithdrawn : l.state = .withdrawn := hdown.resolve_right (h.queued.notDraft l hl)
    obtain ⟨last, hlast⟩ := getLast?_isSome.mpr (h.queued.begun l hl) |> Option.isSome_iff_exists.mp
    obtain ⟨hmem, hnames⟩ := mem_eventsOf.mp (mem_of_getLast? hlast)
    refine ⟨last, hlast, ?_, fun id hid => by cases hid⟩
    cases hkind : last.event_type with
    | withdraw => rfl
    | publish =>
      exfalso
      cases hdone : last.delivered_at with
      | none =>
        have hdue := ha hwithdrawn
        have hbad : publicationDue l.listing_id S = true :=
          any_eq_true.mpr ⟨last, hmem, by simp [hnames, hkind, hdone]⟩
        rw [hdue] at hbad
        cases hbad
      | some t =>
        have hall := (h.queued.order l.listing_id).all_of_last hlast
          (by rw [hdone]; exact Option.some_ne_none t)
        have hreached := (h.rests l hl hall last hlast).1
        rw [hkind, hwithdrawn] at hreached
        rcases hreached with hreached | hreached <;> cases hreached
  · rw [lastWhere_concat_of_neg (by simpa using hx)] at hr
    exact h.heard x r hr

theorem Orderly.step (h : Orderly S) {e : DeskStep} (ha : InRequestOrder S e) :
    Orderly (S.step e) := by
  -- What leaves the events and the listings as they are.
  have hsame : updateWhere (fun _ : OutboxEvent => False) id S.rows.admin_outbox =
      S.rows.admin_outbox := updateWhere_of_forall_not fun _ _ => id
  have hrows : ∀ items, Queued { S.rows with stock_items := items } := fun _ =>
    ⟨h.queued.ids, h.queued.eventIds, h.queued.notDraft, h.queued.begun, h.queued.named,
      h.queued.ledger, h.queued.order⟩
  have hflying := h.flying.step e
  have hstep := stepped S e
  generalize S.step e = S' at hflying hstep ⊢
  cases hstep with
  | aside | releases =>
    exact h.quiet h.queued hflying (by simp [h.idle]) (fun d hd => hd) rfl rfl rfl hsame.symm
  | @publishes w _ _ _ _ _ _ hfresh _ granted =>
    cases granted with
    | renewed l hl _ _ =>
      exact h.pending
        (e := ⟨w.newEventId, .publish, some l.listing_id, w.now, w.now, 0, none, none⟩)
        hl ListingState.noConfusion rfl rfl hfresh
    | opened hnew =>
      refine h.granted
        (e := ⟨w.newEventId, .publish, some w.newListingId, w.now, w.now, 0, none, none⟩)
        ?_ rfl rfl hfresh rfl fun k hk => ?_
      · refine h.queued.enqueue (nodup_key_insert h.queued.ids hnew) (fun k hk => ?_)
          (fun k hk => ?_) (fun k hk => ⟨k, mem_append_left _ hk, rfl⟩)
          ⟨_, mem_append_right _ mem_cons_self, rfl⟩ rfl rfl hfresh
        · rcases mem_inserted hk with hk | rfl
          · exact h.queued.notDraft k hk
          · exact ListingState.noConfusion
        · rcases mem_append.mp hk with hk | hk
          · exact .inr ⟨k, hk, rfl⟩
          · exact .inl (by rw [mem_singleton.mp hk])
      · rcases mem_append.mp hk with hk | hk
        · exact .inr hk
        · exact .inl (by rw [mem_singleton.mp hk]; rfl)
  | converges listing down => exact h.converges listing down fun hdown => ha _ listing rfl hdown
  | @withdraws w _ l _ hl _ hfresh =>
    exact h.pending
      (e := ⟨w.newEventId, .withdraw, some l.listing_id, w.now, w.now, 0, none, none⟩)
      hl ListingState.noConfusion rfl rfl hfresh
  | claims claimed event due free begun =>
    exact h.claims (ha _ claimed) event due free begun hflying
  | settles flight _ commits => exact h.settles flight commits hflying
  | ends eventId deferring =>
    exact h.quiet h.queued hflying h.idle (fun d hd => mem_of_mem_filter hd) rfl rfl rfl hsame.symm
  | @defers now _ _ d _ =>
    exact h.quiet (f := OutboxEvent.deferredBy now d)
      (h.queued.update (fun _ => rfl) (fun _ => rfl) fun _ => rfl) hflying h.idle
      (fun d hd => hd) rfl rfl rfl rfl
  | asks => exact absurd ha id
  | corrects row =>
    rw [h.idle] at row
    cases row
  | acquires | transitions =>
    exact h.quiet (hrows _) hflying h.idle (fun d hd => hd) rfl rfl rfl hsame.symm

theorem orderly_fresh (items : List StockItem) : Orderly (.fresh items) where
  queued := ⟨nodup_nil, nodup_nil, forall_mem_nil _, forall_mem_nil _,
    forall_mem_nil _, forall_mem_nil _, fun _ => List.Pairwise.nil⟩
  flying := ⟨nodup_nil, forall_mem_nil _, forall_mem_nil _⟩
  idle := rfl
  turns := forall_mem_nil _
  rests := forall_mem_nil _
  heard := fun _ _ hr => by cases hr

/-- **A listing ends where its last request put it.**  In every run in which the events
of one listing are claimed in the order they were requested and no withdrawal converges
while a publication is on its way, once everything about a listing is delivered it is
withdrawn, or published or rejected, as the last request asked, and the last call the
provider received about it is the one for that request. -/
theorem listing_ends_where_last_request_put_it {items : List StockItem} {steps : List DeskStep}
    (h : Along ListingDesk.step InRequestOrder (.fresh items) steps) :
    let S := run ListingDesk.step (.fresh items) steps
    ∀ l ∈ S.rows.stock_listings,
      (∀ e ∈ eventsOf l.listing_id S.rows.admin_outbox, e.delivered_at ≠ none) →
        ∀ r, lastRequest l.listing_id S = some r → r.kind.reached l.state ∧
          ∃ c, lastCall l.listing_id S = some c ∧ c.kind = r.kind ∧
            ∀ id ∈ r.event_id, c.event_id = id := by
  intro S l hl hall r hr
  have horderly : Orderly S :=
    h.invariant (fun _ _ hS ha => Orderly.step hS ha) (orderly_fresh items)
  obtain ⟨e, he, hkind, hevent⟩ := horderly.heard l.listing_id r hr
  obtain ⟨hreached, c, hcall, hckind, hcevent⟩ := horderly.rests l hl hall e he
  exact ⟨hkind ▸ hreached, c, hcall, hckind.trans hkind.symm,
    fun id hid => hcevent.trans (hevent id hid).symm⟩

/-! ## Out of turn -/

namespace Window

/-- Published on a channel that defers the first attempt, and withdrawn after it. -/
def slowly : List DeskStep :=
  publish 1 "e1" "slow_channel" :: deliver 2 "e1" ++
    [.deferEvent 3 0 false, .claim 900000000 "e1" simulatedListingProvider shown, .settle "e1"] ++
    withdraw 900000001 "e2" :: deliver 900000002 "e2"

/-- Published on the slow channel, withdrawn while the publication waits: the withdrawal is
delivered first. -/
def overtaken : List DeskStep :=
  publish 1 "e1" "slow_channel" :: deliver 2 "e1" ++ .deferEvent 3 0 false ::
    withdraw 4 "e2" :: deliver 5 "e2" ++ deliver 900000000 "e1"

end Window

/-- A publication that is deferred once and a withdrawal in its turn. -/
theorem slow_listing_ends_withdrawn :
    let S := run ListingDesk.step (.fresh [Window.car]) Window.slowly
    (S.rows.stock_listings.map (·.state) = [.withdrawn] ∧ S.calls.length = 3 ∧
      (S.rows.admin_outbox.all fun e => e.delivered_at.isSome) = true) ∧
    ∀ l ∈ S.rows.stock_listings,
      (∀ e ∈ eventsOf l.listing_id S.rows.admin_outbox, e.delivered_at ≠ none) →
        ∀ r, lastRequest l.listing_id S = some r → r.kind.reached l.state ∧
          ∃ c, lastCall l.listing_id S = some c ∧ c.kind = r.kind ∧
            ∀ id ∈ r.event_id, c.event_id = id :=
  ⟨by decide +kernel, listing_ends_where_last_request_put_it (by decide +kernel)⟩

/-- The last request was a withdrawal, everything is delivered, and the car is in the
window. -/
theorem overtaken_listing_ends_published :
    ¬ ∀ (items : List StockItem) (steps : List DeskStep),
      ∀ l ∈ (run ListingDesk.step (.fresh items) steps).rows.stock_listings,
        (∀ e ∈ eventsOf l.listing_id
          (run ListingDesk.step (.fresh items) steps).rows.admin_outbox, e.delivered_at ≠ none) →
        ∀ r ∈ lastRequest l.listing_id (run ListingDesk.step (.fresh items) steps),
          r.kind = .withdraw → l.state = .withdrawn := by
  intro h
  have hall := h [Window.car] Window.overtaken
  revert hall
  decide +kernel

end Dealership.Inventory
