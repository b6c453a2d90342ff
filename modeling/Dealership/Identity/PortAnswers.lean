import Mathlib.Data.List.MinMax
import Dealership.Identity.Deliveries

/-!
# What the port accepts

The ledger is there to keep an event from being handed over twice, but the port is asked in the
transaction that writes it.  As long as no transaction fails once the port has the event, every
acceptance is backed by the ledger or by the transaction that will write it; a transaction that
does fail then takes the evidence along.

An event that fails is put off for longer than a pass lasts, so it takes one place of a pass;
that rests on the bookkeeping, which is a transaction of its own.
-/

namespace Dealership.Identity

open Library List

variable {p : Pass} {clock : Int}

/-! ## Runs in which nothing is lost -/

/-- The event an attempt has failed on and not booked yet. -/
def PassStage.failedRow : PassStage → Option OutboxRow
  | .failed row _ | .booking _ row _ => some row
  | .looking | .begun _ | .claimed _ _ | .recorded _ _ | .delivering _ _ _ | .unmarked _ _ _
  | .marked _ _ _ | .drained => none

/-- The event the port has accepted from a transaction that has not committed. -/
def PassStage.answered : PassStage → Option String
  | .unmarked _ row true | .marked _ row true => some row.eventId
  | .looking | .begun _ | .claimed _ _ | .recorded _ _ | .delivering _ _ _ | .unmarked _ _ false
  | .marked _ _ false | .failed _ _ | .booking _ _ _ | .drained => none

/-- How long a pass may take, in milliseconds: the least an event is put off. -/
def passWindow : Int := 300000

/-- No transaction fails between handing its event to the port and its commit; the bookkeeping
of a failure commits, and without waiting for another worker; and a pass begins its attempts
within five minutes. -/
def Outbox.Smooth (m : Outbox) : OutboxEvent → Prop
  | .turn passId (.fails _) => ∀ p ∈ m.pass passId, p.stage.exposed = false
  | .turn passId .bookingFails => ∀ p ∈ m.pass passId, p.stage.failedRow = none
  | .turn passId .books => ∀ p ∈ m.pass passId, ∀ now ∈ p.stage.instant, now = m.clock
  | .turn passId .begins => ∀ p ∈ m.pass passId, m.clock < p.startedAt + passWindow
  | _ => True

/-- What the places of a pass rest on: the bookkeeping of a failure commits, and no pass has
started since it began; and a pass begins its attempts within five minutes. -/
def Outbox.Books (m : Outbox) : OutboxEvent → Prop
  | .turn passId .bookingFails => ∀ p ∈ m.pass passId, p.stage.failedRow = none
  | .turn passId .books =>
    ∀ p ∈ m.pass passId, ∀ now ∈ p.stage.instant, ∀ q ∈ m.passes, q.startedAt ≤ now
  | .turn passId .begins => ∀ p ∈ m.pass passId, m.clock < p.startedAt + passWindow
  | _ => True

instance Outbox.instDecidableSmooth (m : Outbox) (e : OutboxEvent) : Decidable (m.Smooth e) := by
  unfold Outbox.Smooth
  split <;> infer_instance

/-- An event this pass need not attempt again: it is delivered, or it is put off until the pass
is over. -/
def Pass.Done (p : Pass) (t : OutboxTables) (eventId : String) : Prop :=
  ∃ row ∈ t.adminOutbox, row.eventId = eventId ∧ isAdminEvent row.eventType = true ∧
    (row.deliveredAt ≠ none ∨ p.startedAt + passWindow ≤ row.availableAt)

/-- The places of a pass: no event has two, and an event that has one is under way or done. -/
structure Pass.Places (p : Pass) (t : OutboxTables) : Prop where
  nodup : p.attempted.Nodup
  done : ∀ eventId ∈ p.attempted, (∃ row ∈ p.stage.row, row.eventId = eventId) ∨ p.Done t eventId
  window : ∀ now, p.stage = .begun now → now < p.startedAt + passWindow

def Outbox.Placed (m : Outbox) : Prop := ∀ p ∈ m.passes, p.Places m.tables

structure Outbox.Backed (m : Outbox) : Prop where
  orphans : m.orphans = []
  once : (m.accepted.map AdminOutboxDelivery.eventId).Nodup
  backed : ∀ delivery ∈ m.accepted,
    (∃ l ∈ m.tables.deliveries, l.eventId = delivery.eventId) ∨
      ∃ p ∈ m.passes, p.stage.answered = some delivery.eventId

/-! ## The tables move -/

/-- Events of the administration stay as they are, are delivered, or are put off, and the
ledger grows. -/
structure OutboxTables.Settles (t : OutboxTables) (clock : Int) (t' : OutboxTables) : Prop where
  rows : ∀ row ∈ t.adminOutbox, isAdminEvent row.eventType = true →
    ∃ row' ∈ t'.adminOutbox, row'.eventId = row.eventId ∧ row'.eventType = row.eventType ∧
      (row'.deliveredAt = row.deliveredAt ∧ row'.availableAt = row.availableAt ∨
        row'.deliveredAt ≠ none ∨ clock + passWindow ≤ row'.availableAt)
  ledger : ∀ l ∈ t.deliveries, l ∈ t'.deliveries

theorem OutboxTables.Settles.of_rows {t t' : OutboxTables}
    (hrows : ∀ row ∈ t.adminOutbox, isAdminEvent row.eventType = true → row ∈ t'.adminOutbox)
    (hledger : ∀ l ∈ t.deliveries, l ∈ t'.deliveries) : t.Settles clock t' :=
  ⟨fun row hrow hadmin => ⟨row, hrows row hrow hadmin, rfl, rfl, .inl ⟨rfl, rfl⟩⟩, hledger⟩

theorem OutboxTables.Settles.refl (t : OutboxTables) (clock : Int) : t.Settles clock t :=
  .of_rows (fun _ hrow _ => hrow) fun _ hl => hl

theorem OutboxTables.settles_commit (t : OutboxTables) (clock now : Int) (eventId sink : String)
    (firstDelivery : Bool) : t.Settles clock (t.commitDelivery now eventId sink firstDelivery) := by
  have hrows : ∀ row ∈ t.adminOutbox, ∃ row' ∈ updateWhere
      (fun row : OutboxRow => row.eventId = eventId) (OutboxRow.deliver now) t.adminOutbox,
      row'.eventId = row.eventId ∧ row'.eventType = row.eventType ∧
        (row'.deliveredAt = row.deliveredAt ∧ row'.availableAt = row.availableAt ∨
          row'.deliveredAt ≠ none ∨ clock + passWindow ≤ row'.availableAt) := by
    intro row hrow
    by_cases hid : row.eventId = eventId
    · refine ⟨_, mem_updateWhere_of_pos hrow hid, rfl, rfl, .inr (.inl ?_)⟩
      intro hnone
      cases hnone
    · exact ⟨row, mem_updateWhere_of_neg hrow hid, rfl, rfl, .inl ⟨rfl, rfl⟩⟩
  cases firstDelivery with
  | true => exact ⟨fun row hrow _ => hrows row hrow, fun l hl => mem_append_left _ hl⟩
  | false => exact ⟨fun row hrow _ => hrows row hrow, fun l hl => hl⟩

theorem OutboxTables.settles_book (t : OutboxTables) (clock : Int) (eventId message : String) :
    t.Settles clock (t.book clock eventId message) := by
  refine ⟨?_, fun l hl => hl⟩
  intro row hrow _
  by_cases hbooked : row.eventId = eventId ∧ row.deliveredAt = none
  · refine ⟨_, mem_updateWhere_of_pos hrow hbooked, rfl, rfl, .inr (.inr ?_)⟩
    exact Int.add_le_add_left (putOff_succ row.attempts) clock
  · exact ⟨row, mem_updateWhere_of_neg hrow hbooked, rfl, rfl, .inl ⟨rfl, rfl⟩⟩

theorem Pass.Done.settles {t t' : OutboxTables} {eventId : String} (h : p.Done t eventId)
    (ht : t.Settles clock t') (hstarted : p.startedAt ≤ clock) :
    p.Done t' eventId := by
  obtain ⟨row, hrow, hid, hadmin, hdone⟩ := h
  obtain ⟨row', hrow', hid', htype', hmoved⟩ := ht.rows row hrow hadmin
  refine ⟨row', hrow', hid'.trans hid, htype' ▸ hadmin, ?_⟩
  rcases hmoved with ⟨hdelivered, havailable⟩ | hdelivered | hput
  · rw [hdelivered, havailable]
    exact hdone
  · exact .inl hdelivered
  · exact .inr (Int.le_trans (Int.add_le_add_right hstarted _) hput)

theorem Pass.Places.settles {t t' : OutboxTables} (h : p.Places t) (ht : t.Settles clock t')
    (hstarted : p.startedAt ≤ clock) : p.Places t' :=
  ⟨h.nodup, fun eventId hid => (h.done eventId hid).imp_right fun hdone =>
    hdone.settles ht hstarted, h.window⟩

namespace Outbox

variable {m : Outbox} {now : Int} {row : OutboxRow} {p' : Pass}

theorem places_same {t : OutboxTables} (h : p.Places t) (hattempted : p'.attempted = p.attempted)
    (hstarted : p'.startedAt = p.startedAt)
    (hrow : ∀ row ∈ p.stage.row, row ∈ p'.stage.row ∨ p.Done t row.eventId)
    (hwindow : ∀ now, p'.stage = .begun now → now < p'.startedAt + passWindow) : p'.Places t where
  nodup := hattempted ▸ h.nodup
  done := by
    intro eventId hid
    rw [hattempted] at hid
    have hdone : p.Done t eventId → p'.Done t eventId := by
      intro hd
      rw [Pass.Done, hstarted]
      exact hd
    rcases h.done eventId hid with ⟨row, habout, rfl⟩ | hd
    · rcases hrow row habout with hstill | hd
      · exact .inl ⟨row, hstill, rfl⟩
      · exact .inr (hdone hd)
    · exact .inr (hdone hd)
  window := hwindow

theorem Placed.settles (h : m.Placed) {instant : Int} {t' : OutboxTables}
    (ht : m.tables.Settles instant t') (hstarted : ∀ p ∈ m.passes, p.startedAt ≤ instant)
    (clock' : Int) : Placed { m with clock := clock', tables := t' } :=
  fun p hp => (h p hp).settles ht (hstarted p hp)

theorem Placed.setPass (h : m.Placed) (hplaces : p'.Places m.tables) :
    (m.setPass p.passId p').Placed := by
  intro q hq
  rcases updateWhere_cases hq with ⟨hold, -⟩ | ⟨_, -, -, rfl⟩
  · exact h q hold
  · exact hplaces

theorem Placed.goesOn (h : m.Placed) (hp : p ∈ m.passes) (hattempted : p'.attempted = p.attempted)
    (hstarted : p'.startedAt = p.startedAt) (hrow : ∀ row ∈ p.stage.row, row ∈ p'.stage.row)
    (hwindow : ∀ now, p'.stage = .begun now → now < p'.startedAt + passWindow) :
    (m.setPass p.passId p').Placed :=
  h.setPass (places_same (h p hp) hattempted hstarted (fun row hr => .inl (hrow row hr)) hwindow)

theorem Backed.settles (h : m.Backed) {t' : OutboxTables}
    (hledger : ∀ l ∈ m.tables.deliveries, l ∈ t'.deliveries) (clock' : Int) :
    Backed { m with clock := clock', tables := t' } where
  orphans := h.orphans
  once := h.once
  backed := fun delivery hdelivery => (h.backed delivery hdelivery).imp_left
    fun ⟨l, hl, hid⟩ => ⟨l, hledger l hl, hid⟩

theorem Backed.setPass (h : m.Backed) (hids : (m.passes.map Pass.passId).Nodup) (hp : p ∈ m.passes)
    (p' : Pass)
    (hanswered : ∀ eventId, p.stage.answered = some eventId →
      p'.stage.answered = some eventId ∨ ∃ l ∈ m.tables.deliveries, l.eventId = eventId) :
    (m.setPass p.passId p').Backed where
  orphans := h.orphans
  once := h.once
  backed := by
    intro delivery hdelivery
    rcases h.backed delivery hdelivery with hledger | ⟨q, hq, hq'⟩
    · exact .inl hledger
    · by_cases hsame : q.passId = p.passId
      · rw [eq_of_key hids hq hp hsame] at hq'
        rcases hanswered _ hq' with hstill | hledger
        · exact .inr ⟨p', mem_updateWhere_of_pos hp rfl, hstill⟩
        · exact .inl hledger
      · exact .inr ⟨q, mem_updateWhere_of_neg hq hsame, hq'⟩

theorem Backed.silent (h : m.Backed) (hids : (m.passes.map Pass.passId).Nodup) (hp : p ∈ m.passes)
    (p' : Pass) (hsilent : p.stage.answered = none) : (m.setPass p.passId p').Backed := by
  refine h.setPass hids hp p' fun eventId hanswered => ?_
  rw [hsilent] at hanswered
  cases hanswered

theorem answered_exposed {stage : PassStage} {eventId : String}
    (h : stage.answered = some eventId) : stage.exposed = true := by
  cases stage with
  | unmarked now row firstDelivery | marked now row firstDelivery =>
    cases firstDelivery with
    | true => rfl
    | false => cases h
  | looking | begun | claimed | recorded | delivering | failed | booking | drained => cases h

theorem answered_row {stage : PassStage} {eventId : String}
    (h : stage.answered = some eventId) : ∃ row ∈ stage.held, row.eventId = eventId := by
  cases stage with
  | unmarked now row firstDelivery | marked now row firstDelivery =>
    cases firstDelivery with
    | true => exact ⟨row, rfl, Option.some.inj h⟩
    | false => cases h
  | looking | begun | claimed | recorded | delivering | failed | booking | drained => cases h

theorem done_of_commit (hm : m.Sound) (hp : p ∈ m.passes) {firstDelivery : Bool}
    (hstage : p.stage = .marked now row firstDelivery) :
    p.Done (m.tables.commitDelivery now row.eventId p.sink firstDelivery) row.eventId := by
  have hheld : row ∈ p.stage.held := by rw [hstage]; rfl
  obtain ⟨hrow, -⟩ := (hm.fits p hp).held row hheld
  obtain ⟨hadmin, -⟩ := (hm.fits p hp).admin row (PassStage.row_of_held hheld)
  refine ⟨row.deliver now, ?_, rfl, hadmin, .inl ?_⟩
  · cases firstDelivery with
    | true => exact mem_updateWhere_of_pos hrow rfl
    | false => exact mem_updateWhere_of_pos hrow rfl
  · intro hnone
    cases hnone

/-- A failed attempt that is booked is done: it is put off, or another worker has delivered
it. -/
theorem done_of_book (hm : m.Sound) (hp : p ∈ m.passes) {message : String}
    (hstage : p.stage = .booking now row message) (hstarted : p.startedAt ≤ now) :
    p.Done (m.tables.book now row.eventId message) row.eventId := by
  obtain ⟨hadmin, r, hr, hid, htype⟩ := (hm.fits p hp).admin row (by rw [hstage]; rfl)
  by_cases hdelivered : r.deliveredAt = none
  · refine ⟨_, mem_updateWhere_of_pos hr ⟨hid, hdelivered⟩, hid, htype ▸ hadmin, .inr ?_⟩
    exact Int.add_le_add hstarted (putOff_succ r.attempts)
  · exact ⟨r, mem_updateWhere_of_neg hr fun hbooked => hdelivered hbooked.2, hid, htype ▸ hadmin,
      .inl hdelivered⟩

theorem Placed.committed (h : m.Placed) (hm : m.Sound) (hp : p ∈ m.passes)
    {firstDelivery : Bool} (hstage : p.stage = .marked now row firstDelivery)
    (hattempted : p'.attempted = p.attempted) (hstarted : p'.startedAt = p.startedAt)
    (hwindow : ∀ now, p'.stage ≠ .begun now) : Placed ({ m with
      tables := m.tables.commitDelivery now row.eventId p.sink firstDelivery }.setPass
        p.passId p') := by
  have hsettles := m.tables.settles_commit m.clock now row.eventId p.sink firstDelivery
  refine (h.settles hsettles (fun q hq => (hm.fits q hq).started) m.clock).setPass ?_
  refine places_same ((h p hp).settles hsettles (hm.fits p hp).started) hattempted hstarted ?_
    fun instant hbegun => absurd hbegun (hwindow instant)
  intro r hr
  rw [hstage] at hr
  cases hr
  exact .inr (done_of_commit hm hp hstage)

theorem Backed.committed (h : m.Backed) (hm : m.Sound) (hp : p ∈ m.passes) (p' : Pass)
    {firstDelivery : Bool} (hstage : p.stage = .marked now row firstDelivery) : Backed ({ m with
      tables := m.tables.commitDelivery now row.eventId p.sink firstDelivery }.setPass
        p.passId p') := by
  have hsettles := m.tables.settles_commit m.clock now row.eventId p.sink firstDelivery
  refine (h.settles hsettles.ledger m.clock).setPass hm.passIds hp p' ?_
  intro eventId hanswered
  rw [hstage] at hanswered
  cases firstDelivery with
  | false => cases hanswered
  | true =>
    cases hanswered
    exact .inr ⟨_, mem_append_right _ (mem_singleton.mpr rfl), rfl⟩

theorem Backed.unanswered (h : m.Backed) (hm : m.Sound) (hp : p ∈ m.passes)
    {delivery : AdminOutboxDelivery} (hstage : p.stage = .delivering now row delivery) :
    ∀ earlier ∈ m.accepted, earlier.eventId ≠ delivery.eventId := by
  intro earlier hearlier hsame
  have hheld : row ∈ p.stage.held := by rw [hstage]; rfl
  obtain ⟨hrow, hundelivered⟩ := (hm.fits p hp).held row hheld
  obtain ⟨hadmin, -⟩ := (hm.fits p hp).admin row (PassStage.row_of_held hheld)
  have hid : earlier.eventId = row.eventId :=
    hsame.trans ((hm.fits p hp).delivery now row delivery hstage)
  rcases h.backed earlier hearlier with ⟨l, hl, hkey⟩ | ⟨q, hq, hanswered⟩
  · exact (hm.tables.ledger row hrow hadmin).mpr ⟨l, hl, hkey.trans hid⟩ hundelivered
  · obtain ⟨row', hrow', hkey⟩ := answered_row hanswered
    have hpq : q = p := hm.apart q hq p hp row' hrow' row hheld (hkey.trans hid)
    rw [hpq, hstage] at hanswered
    cases hanswered

theorem Placed.not_attempted (h : m.Placed) (hm : m.Sound) (hp : p ∈ m.passes)
    (hstage : p.stage = .begun now) (hrow : row ∈ m.claimable now) : row.eventId ∉ p.attempted := by
  obtain ⟨hmem, hundelivered, havailable, -, -⟩ := mem_claimable.mp hrow
  intro hid
  rcases (h p hp).done _ hid with ⟨r, hr, -⟩ | ⟨r, hr, hsame, -, hdone⟩
  · rw [hstage] at hr
    cases hr
  obtain rfl : r = row := eq_of_key hm.tables.eventIds hr hmem hsame
  rcases hdone with hdelivered | hput
  · exact hdelivered hundelivered
  · have hwindow := (h p hp).window now hstage
    omega

theorem Placed.turned (h : m.Placed) (hm : m.Sound) (hp : p ∈ m.passes)
    (hpass : m.pass p.passId = some p) {turn : Turn} {m' : Outbox} (hturn : m.Turned p turn m' p')
    (hbooks : m.Books (.turn p.passId turn)) : (m'.setPass p.passId p').Placed := by
  have hfail : ∀ row message, p.stage.row = some row →
      (m.setPass p.passId (p.failWith row message)).Placed := by
    intro row message hrow
    refine h.goesOn hp rfl rfl ?_ fun _ hbegun => by cases hbegun
    intro r hr
    rw [hrow] at hr
    exact hr
  cases hturn with
  | begins stage more =>
    refine h.goesOn hp rfl rfl (fun r hr => ?_) fun now hbegun => ?_
    · rw [stage] at hr
      cases hr
    · cases hbegun
      exact hbooks p hpass
  | @claims now row stage mem first =>
    refine h.setPass ⟨?_, ?_, fun _ hbegun => by cases hbegun⟩
    · refine nodup_append.mpr ⟨(h p hp).nodup, nodup_singleton _, ?_⟩
      intro a ha b hb hab
      rw [mem_singleton.mp hb] at hab
      exact h.not_attempted hm hp stage mem (hab ▸ ha)
    · intro eventId hid
      rcases mem_append.mp hid with hold | hnew
      · rcases (h p hp).done eventId hold with ⟨r, hr, -⟩ | hdone
        · rw [stage] at hr
          cases hr
        · exact .inr hdone
      · exact .inl ⟨row, rfl, (mem_singleton.mp hnew).symm⟩
  | drains stage none | finds stage found | records stage | hands stage | accepts stage
  | marks stage | beginsBooking stage =>
    refine h.goesOn hp rfl rfl (fun r hr => ?_) fun _ hbegun => by cases hbegun
    rw [stage] at hr
    exact hr
  | refuses message stage | abandons message stage => exact hfail _ message (by rw [stage]; rfl)
  | commits stage => exact h.committed hm hp stage rfl rfl fun _ hbegun => by cases hbegun
  | commitsUnheard message stage =>
    exact h.committed hm hp stage rfl rfl fun _ hbegun => by cases hbegun
  | failsEarly message stage =>
    refine h.goesOn hp rfl rfl (fun r hr => ?_) fun _ hbegun => by cases hbegun
    rcases stage with stage | ⟨now, stage⟩
    · rw [stage] at hr
      cases hr
    · rw [stage] at hr
      cases hr
  | fails message stage => exact hfail _ message (PassStage.row_of_held stage)
  | @books now row message stage free =>
    have hstarted := hbooks p hpass now (by rw [stage]; rfl)
    have hsettles := m.tables.settles_book now row.eventId message
    refine (h.settles hsettles hstarted m.clock).setPass
      (places_same ((h p hp).settles hsettles (hstarted p hp)) rfl rfl ?_ fun _ hbegun => by
        cases hbegun)
    intro r hr
    rw [stage] at hr
    cases hr
    exact .inr (done_of_book hm hp stage (hstarted p hp))
  | @bookingFails row message stage =>
    have hnone := hbooks p hpass
    rcases stage with stage | ⟨now, stage⟩
    · rw [stage] at hnone
      cases hnone
    · rw [stage] at hnone
      cases hnone

theorem Backed.turned (h : m.Backed) (hm : m.Sound) (hp : p ∈ m.passes)
    (hpass : m.pass p.passId = some p) {turn : Turn} {m' : Outbox} (hturn : m.Turned p turn m' p')
    (hsmooth : m.Smooth (.turn p.passId turn)) : (m'.setPass p.passId p').Backed := by
  have hunexposed : p.stage.exposed = false → p.stage.answered = none := by
    intro hex
    refine Option.eq_none_iff_forall_ne_some.mpr fun eventId hanswered => ?_
    rw [answered_exposed hanswered] at hex
    cases hex
  cases hturn with
  | begins stage more => exact h.silent hm.passIds hp _ (by rw [stage]; rfl)
  | claims stage | drains stage | finds stage | records stage | hands stage | refuses _ stage
  | beginsBooking stage => exact h.silent hm.passIds hp _ (by rw [stage]; rfl)
  | @accepts now row delivery stage =>
    have hown := (hm.fits p hp).delivery now row delivery stage
    refine ⟨h.orphans, nodup_key_insert h.once (h.unanswered hm hp stage), ?_⟩
    intro earlier hearlier
    rcases mem_inserted hearlier with hold | rfl
    · rcases h.backed earlier hold with hledger | ⟨q, hq, hanswered⟩
      · exact .inl hledger
      · refine .inr ⟨q, mem_updateWhere_of_neg hq ?_, hanswered⟩
        intro hsame
        rw [eq_of_key hm.passIds hq hp hsame, stage] at hanswered
        cases hanswered
    · exact .inr ⟨_, mem_updateWhere_of_pos hp rfl, congrArg some hown.symm⟩
  | @marks now row firstDelivery stage =>
    refine h.setPass hm.passIds hp _ fun eventId hanswered => .inl ?_
    rw [stage] at hanswered
    cases firstDelivery with
    | true => exact hanswered
    | false => cases hanswered
  | commits stage => exact h.committed hm hp _ stage
  | commitsUnheard message stage => exact h.committed hm hp _ stage
  | failsEarly message stage | fails message stage =>
    exact h.silent hm.passIds hp _ (hunexposed (hsmooth p hpass))
  | @abandons now row delivery message stage =>
    have hexposed := hsmooth p hpass
    rw [stage] at hexposed
    cases hexposed
  | @books now row message stage free =>
    have hsettles := m.tables.settles_book now row.eventId message
    exact (h.settles hsettles.ledger m.clock).silent hm.passIds hp _ (by rw [stage]; rfl)
  | bookingFails stage =>
    refine h.silent hm.passIds hp _ ?_
    rcases stage with stage | ⟨now, stage⟩
    · rw [stage]
      rfl
    · rw [stage]
      rfl

/-! ## Every event -/

/-- What an event does: the tables settle, a pass starts, a pass takes its turn, or the port
accepts what its worker has given up. -/
inductive Happens (m : Outbox) : OutboxEvent → Outbox → Prop where
  | settles {e : OutboxEvent} {clock' : Int} {t' : OutboxTables}
      (settles : m.tables.Settles m.clock t') :
      m.Happens e { m with clock := clock', tables := t' }
  | starts {e : OutboxEvent} {p : Pass} (fresh : p.attempted = []) (looking : p.stage = .looking) :
      m.Happens e { m with passes := m.passes ++ [p] }
  | turns {p p' : Pass} {turn : Turn} {m' : Outbox} (mem : p ∈ m.passes)
      (pass : m.pass p.passId = some p) (turned : m.Turned p turn m' p') :
      m.Happens (.turn p.passId turn) (m'.setPass p.passId p')
  | strays {delivery : AdminOutboxDelivery} (mem : delivery ∈ m.orphans) :
      m.Happens (.orphanAccepted delivery)
        { m with accepted := m.accepted ++ [delivery], orphans := m.orphans.erase delivery }

theorem happens (m : Outbox) (e : OutboxEvent) : m.Happens e (m.step e) := by
  have hidle : m.Happens e m := .settles (.refl m.tables m.clock)
  cases e with
  | tick elapsed => exact .settles (.refl m.tables m.clock)
  | invite w input =>
    simp only [Outbox.step]
    split
    · refine .settles ?_
      refine committed_induction (P := m.tables.Settles m.clock) (.refl m.tables m.clock) ?_
      intro out t' hok
      rcases OutboxTables.createStaffInvitation_cases hok with rfl | ⟨inv, -, -, mutations, rfl⟩
      · exact .refl m.tables m.clock
      · exact .of_rows (fun row hrow _ => mem_append_left _ hrow) fun l hl => hl
    · exact hidle
  | revokeInvitation access actor tenantId invitationId =>
    refine .settles ?_
    refine committed_induction (P := m.tables.Settles m.clock) (.refl m.tables m.clock) ?_
    intro version t' hok
    obtain ⟨hrows, hledger, -⟩ := OutboxTables.revokeStaffInvitation_cases hok
    exact .of_rows (fun row hrow _ => hrows ▸ hrow) fun l hl => hledger ▸ hl
  | enqueue newEventId tenantId eventType payload =>
    simp only [Outbox.step]
    split
    · exact .settles (.of_rows (fun row hrow _ => mem_append_left _ hrow) fun l hl => hl)
    · exact hidle
  | elsewhere row delivery =>
    simp only [Outbox.step, Outbox.elsewhere]
    split
    · exact hidle
    rename_i hother
    refine .settles (.of_rows ?_ fun l hl => mem_append_left _ hl)
    intro r hr hadmin
    refine mem_updateWhere_of_neg hr ?_
    rintro ⟨-, htype⟩
    exact hother (htype ▸ hadmin)
  | dispatch passId limit sink =>
    simp only [Outbox.step]
    split
    · exact hidle
    · exact .starts rfl rfl
  | turn passId turn =>
    simp only [Outbox.step]
    split
    · exact hidle
    rename_i p hpass
    obtain ⟨hp, rfl⟩ := of_pass hpass
    split
    · exact hidle
    · rename_i m' p' hturn
      exact .turns hp hpass (Outbox.turned hturn)
  | orphanAccepted delivery =>
    simp only [Outbox.step]
    split
    · rename_i horphan
      exact .strays horphan
    · exact hidle

theorem Placed.step (h : m.Placed) (hm : m.Sound) (e : OutboxEvent) (hbooks : m.Books e) :
    (m.step e).Placed := by
  have hhappens := m.happens e
  generalize m.step e = m₁ at hhappens
  cases hhappens with
  | settles settles => exact h.settles settles (fun p hp => (hm.fits p hp).started) _
  | starts fresh looking =>
    intro p hp
    rcases mem_inserted hp with hold | rfl
    · exact h p hold
    · refine ⟨fresh ▸ nodup_nil, fresh ▸ forall_mem_nil _, fun now hbegun => ?_⟩
      rw [looking] at hbegun
      cases hbegun
  | turns mem pass turned => exact h.turned hm mem pass turned hbooks
  | strays mem => exact h

theorem Backed.step (h : m.Backed) (hm : m.Sound) (e : OutboxEvent) (hsmooth : m.Smooth e) :
    (m.step e).Backed := by
  have hhappens := m.happens e
  generalize m.step e = m₁ at hhappens
  cases hhappens with
  | settles settles => exact h.settles settles.ledger _
  | starts fresh looking =>
    refine ⟨h.orphans, h.once, fun delivery hdelivery => ?_⟩
    exact (h.backed delivery hdelivery).imp_right fun ⟨p, hp, hanswered⟩ =>
      ⟨p, mem_append_left _ hp, hanswered⟩
  | turns mem pass turned => exact h.turned hm mem pass turned hsmooth
  | strays mem =>
    rw [h.orphans] at mem
    cases mem

/-- No pass has started since a booking began that is carried out at once. -/
theorem Smooth.books {e : OutboxEvent} (h : m.Smooth e) (hm : m.Sound) : m.Books e := by
  unfold Books
  split
  · exact h
  · intro p hp now hnow q hq
    rw [h p hp now hnow]
    exact (hm.fits q hq).started
  · exact h
  · trivial

/-! ## Every run -/

theorem run_placed (clock : Int) {es : List OutboxEvent}
    (h : Along Outbox.step Books (start clock) es) :
    (run Outbox.step (start clock) es).Sound ∧ (run Outbox.step (start clock) es).Placed :=
  Along.invariant (I := fun m : Outbox => m.Sound ∧ m.Placed)
    (fun _ e hm hbooks => ⟨(hm.1.step e).1, hm.2.step hm.1 e hbooks⟩) h
    ⟨start_sound clock, forall_mem_nil _⟩

theorem run_backed (clock : Int) {es : List OutboxEvent}
    (h : Along Outbox.step Smooth (start clock) es) :
    (run Outbox.step (start clock) es).Sound ∧ (run Outbox.step (start clock) es).Placed ∧
      (run Outbox.step (start clock) es).Backed :=
  Along.invariant (I := fun m : Outbox => m.Sound ∧ m.Placed ∧ m.Backed)
    (fun _ e hm hsmooth => ⟨(hm.1.step e).1, hm.2.1.step hm.1 e (hsmooth.books hm.1),
      hm.2.2.step hm.1 e hsmooth⟩) h
    ⟨start_sound clock, forall_mem_nil _, rfl, nodup_nil, forall_mem_nil _⟩

/-! ## What an outbox promises -/

/-- An attempt that is given up, by its worker or by the port, changes no table. -/
theorem failed_tables (m : Outbox) (passId : Nat) (message : String) :
    (m.step (.turn passId (.fails message))).tables = m.tables ∧
      (m.step (.turn passId (.refuses message))).tables = m.tables := by
  constructor
  · simp only [Outbox.step]
    split
    · rfl
    split
    · rfl
    rename_i p hpass m' p' hturn
    cases Outbox.turned hturn with
    | failsEarly | fails | abandons => rfl
  · simp only [Outbox.step]
    split
    · rfl
    split
    · rfl
    rename_i p hpass m' p' hturn
    cases Outbox.turned hturn with
    | refuses => rfl

/-- A row after a failed attempt at it was booked. -/
def BookedFrom (clock : Int) (row row' : OutboxRow) : Prop :=
  row' = { row with
    attempts := row.attempts + 1
    lastError := row'.lastError
    availableAt := row'.availableAt } ∧
  row.availableAt ≤ row'.availableAt ∧ clock + passWindow ≤ row'.availableAt

theorem Sound.booked (h : m.Sound) (hpass : m.pass p.passId = some p) {message : String}
    (hstage : p.stage = .booking m.clock row message) :
    (m.step (.turn p.passId .books)).tables.deliveries = m.tables.deliveries ∧
      ∀ r' ∈ (m.step (.turn p.passId .books)).tables.adminOutbox, r' ∈ m.tables.adminOutbox ∨
        ∃ r ∈ m.tables.adminOutbox, r.eventId = row.eventId ∧ r.deliveredAt = none ∧
          BookedFrom m.clock r r' := by
  obtain ⟨hp, -⟩ := of_pass hpass
  simp only [Outbox.step, hpass, Outbox.turn, hstage]
  split
  · exact ⟨rfl, fun r' hr' => .inl hr'⟩
  rename_i m' p' hturn
  split at hturn
  · cases hturn
    refine ⟨rfl, ?_⟩
    intro r' hr'
    rcases updateWhere_cases hr' with ⟨hold, -⟩ | ⟨r, hr, ⟨hid, hundelivered⟩, rfl⟩
    · exact .inl hold
    · refine .inr ⟨r, hr, hid, hundelivered, rfl, ?_, ?_⟩
      · obtain ⟨hadmin, r₀, hr₀, hid₀, htype₀⟩ := (h.fits p hp).admin row (by rw [hstage]; rfl)
        have hsame : r = r₀ := eq_of_key h.tables.eventIds hr hr₀ (hid.trans hid₀.symm)
        have havailable := h.tables.available r hr (by rw [hsame, htype₀]; exact hadmin)
        exact Int.le_trans havailable (Int.add_le_add_left (putOff_mono (Nat.le_succ _)) _)
      · exact Int.add_le_add_left (putOff_succ r.attempts) _
  · cases hturn

theorem Sound.takes (h : m.Sound) (hstage : p.stage = .begun now) (hsome : m.claimable now ≠ []) :
    ∃ row ∈ m.claimable now, (m.turn p (.claims row.eventId)).isSome := by
  obtain ⟨row, hearliest⟩ := Option.ne_none_iff_exists'.mp
    (mt (argmin_eq_none (f := OutboxRow.occurredAt)).mp hsome)
  have hrow : row ∈ m.claimable now := argmin_mem hearliest
  have hkeys : ((m.claimable now).map OutboxRow.eventId).Nodup :=
    h.tables.eventIds.sublist (filter_sublist.map _)
  refine ⟨row, hrow, ?_⟩
  have hfound : (m.claimable now).find? (fun r => decide (r.eventId = row.eventId)) = some row :=
    find?_eq_some_of_key hkeys hrow
  have hfirst : ((m.claimable now).all
      fun other => decide (row.occurredAt ≤ other.occurredAt)) = true :=
    all_eq_true.mpr fun other hother => decide_eq_true (le_of_mem_argmin hother hearliest)
  simp only [Outbox.turn, hstage, hfound, hfirst, if_true, Option.isSome_some]

/-- An event that fails never keeps a pass from another one that is due: what the pass may claim
it has not attempted before, and it takes something whenever there is something to take. -/
theorem run_spares_others (clock : Int) {es : List OutboxEvent}
    (h : Along Outbox.step Books (start clock) es)
    (hp : p ∈ (run Outbox.step (start clock) es).passes) (hstage : p.stage = .begun now) :
    (∀ row ∈ (run Outbox.step (start clock) es).claimable now, row.eventId ∉ p.attempted) ∧
      ((run Outbox.step (start clock) es).claimable now ≠ [] →
        ∃ row ∈ (run Outbox.step (start clock) es).claimable now,
          ((run Outbox.step (start clock) es).turn p (.claims row.eventId)).isSome) := by
  obtain ⟨hm, hplaced⟩ := run_placed clock h
  exact ⟨fun row hrow => hplaced.not_attempted hm hp hstage hrow, hm.takes hstage⟩

structure Honours (m : Outbox) : Prop where
  /-- No invitation is without its event. -/
  invited : ∀ inv ∈ m.tables.invitations, ∃ row ∈ m.tables.adminOutbox, inv.announcedBy row
  /-- An event stays, and once delivered it stays delivered. -/
  stays : ∀ later, m.tables.Onward (run Outbox.step m later).tables
  /-- Until then it is there to be claimed from `available_at` on, unless a worker holds it. -/
  claimable : ∀ row ∈ m.tables.adminOutbox, isAdminEvent row.eventType = true →
    row.deliveredAt = none → ∀ now, row.availableAt ≤ now →
    row ∈ m.claimable now ∨ m.locked row.eventId = true
  /-- A look-up takes a claimable event whenever there is one. -/
  takes : ∀ p ∈ m.passes, ∀ now, p.stage = .begun now → m.claimable now ≠ [] →
    ∃ row ∈ m.claimable now, (m.turn p (.claims row.eventId)).isSome
  /-- An event is delivered exactly when the ledger has it. -/
  ledger : ∀ row ∈ m.tables.adminOutbox, isAdminEvent row.eventType = true →
    (row.deliveredAt ≠ none ↔ ∃ l ∈ m.tables.deliveries, l.eventId = row.eventId)
  /-- The port has accepted no event twice. -/
  once : (m.accepted.map AdminOutboxDelivery.eventId).Nodup
  /-- An attempt that fails changes nothing, and booking it counts it and puts the event off. -/
  failed : ∀ passId message, (m.step (.turn passId (.fails message))).tables = m.tables ∧
    (m.step (.turn passId (.refuses message))).tables = m.tables
  booked : ∀ p row message, m.pass p.passId = some p → p.stage = .booking m.clock row message →
    (m.step (.turn p.passId .books)).tables.deliveries = m.tables.deliveries ∧
      ∀ r' ∈ (m.step (.turn p.passId .books)).tables.adminOutbox, r' ∈ m.tables.adminOutbox ∨
        ∃ r ∈ m.tables.adminOutbox, r.eventId = row.eventId ∧ r.deliveredAt = none ∧
          BookedFrom m.clock r r'
  /-- Only events of the administration are claimed. -/
  admin : ∀ p ∈ m.passes, ∀ row ∈ p.stage.row, isAdminEvent row.eventType = true
  /-- An event that fails takes one place of a pass. -/
  places : ∀ p ∈ m.passes, p.attempted.Nodup

theorem Backed.honours (h : m.Backed) (hplaced : m.Placed) (hm : m.Sound) : m.Honours where
  invited := hm.tables.invited
  stays := fun later => run_onward hm later
  claimable := by
    intro row hrow hadmin hundelivered now havailable
    cases hlocked : m.locked row.eventId with
    | true => exact .inr rfl
    | false => exact .inl (mem_claimable.mpr ⟨hrow, hundelivered, havailable, hadmin, hlocked⟩)
  takes := fun _ _ _ hstage hsome => hm.takes hstage hsome
  ledger := hm.tables.ledger
  once := h.once
  failed := fun passId message => failed_tables m passId message
  booked := fun _ _ _ hpass hstage => hm.booked hpass hstage
  admin := fun p hp row hrow => ((hm.fits p hp).admin row hrow).1
  places := fun p hp => (hplaced p hp).nodup

end Outbox

/-- As long as no transaction fails once the port has its event, and every failure is booked at
once by a pass that does not outlast it, the outbox keeps its promises. -/
theorem outbox_keeps_its_promises (clock : Int) (events : List OutboxEvent)
    (h : Along Outbox.step Outbox.Smooth (.start clock) events) :
    (run Outbox.step (.start clock) events).Honours := by
  obtain ⟨hm, hplaced, hbacked⟩ := Outbox.run_backed clock h
  exact hbacked.honours hplaced hm

namespace Post

def world (newInvitationId newEventId : String) : InvitationWorld where
  access := ⟨fun _ => true, fun _ _ => false⟩
  nodeExists := fun _ _ _ => false
  lower := id
  newInvitationId := newInvitationId
  newEventId := newEventId

def request (email : String) : CreateStaffInvitationInput where
  actingUserLinkId := "00000000-0000-4000-8000-000000000001"
  tenantId := "T"
  email := email
  displayName := none
  invitedRole := "service_viewer"
  scopeLevel := none
  scopeId := none
  expiresInDays := none

/-- Two people are invited, and a worker starts a pass of two places. -/
def invited : List OutboxEvent :=
  [.invite (world "I" "E") (request "first@example.com"), .tick 1,
    .invite (world "J" "F") (request "second@example.com"), .tick 1, .dispatch 0 (some 2) "log"]

/-- An attempt at an event, as far as the answer of the port. -/
def attempt (passId : Nat) (eventId : String) (rest : List Turn) : List OutboxEvent :=
  (Turn.begins :: .claims eventId :: .records :: .hands :: rest).map (.turn passId)

/-- The port refuses the first event and accepts the second. -/
def refusedThenAccepted : List OutboxEvent :=
  invited ++ attempt 0 "E" [.refuses "unreachable", .beginsBooking, .books] ++
    attempt 0 "F" [.accepts, .marks, .commits none]

/-- The commit fails after the port has accepted the event, and the event is handed over again
when its time has come. -/
def lostCommit : List OutboxEvent :=
  invited ++ attempt 0 "E" [.accepts, .marks, .fails "connection lost", .beginsBooking, .books] ++
    [.tick 300000, .dispatch 1 none "log"] ++ attempt 1 "E" [.accepts, .marks, .commits none]

/-- The failure of the first event cannot be booked, and the pass spends both its places on
it. -/
def starved : List OutboxEvent :=
  invited ++ attempt 0 "E" [.refuses "unreachable", .beginsBooking, .bookingFails] ++
    attempt 0 "E" [.refuses "unreachable", .beginsBooking, .bookingFails]

end Post

/-- A refused event is put off and the pass goes on to the next one. -/
theorem refused_event_is_put_off :
    (run Outbox.step (.start 0) Post.refusedThenAccepted).Honours ∧
      (run Outbox.step (.start 0) Post.refusedThenAccepted).tables.adminOutbox.map
        (fun row => (row.eventId, row.attempts, row.availableAt, row.deliveredAt)) =
          [("E", 1, 300002, none), ("F", 1, 1, some 2)] ∧
      (run Outbox.step (.start 0) Post.refusedThenAccepted).passes.map Pass.attempted =
        [["E", "F"]] :=
  ⟨outbox_keeps_its_promises 0 Post.refusedThenAccepted (by decide +kernel), by decide +kernel,
    by decide +kernel⟩

/-- The port accepts an event twice when the commit fails that would have recorded it, and an
event whose failure is not booked takes every place of a pass. -/
theorem accepted_twice_and_starved :
    ¬ (run Outbox.step (.start 0) Post.lostCommit).Honours ∧
      ¬ (run Outbox.step (.start 0) Post.starved).Honours := by
  constructor
  · intro h
    exact absurd h.once (by decide +kernel)
  · intro h
    refine absurd h.places ?_
    decide +kernel

end Dealership.Identity
