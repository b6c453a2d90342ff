import Dealership.Service.Shifts
import Dealership.Service.Statements

/-!
# What happens at the bench

The four calls that work with tickets, and for each what a commit of it does: dispatch
supersedes every live ticket of the line it has locked, a status change moves a live ticket
under its lock, a clock entry is added under the lock of its ticket, and an update of a line
leaves the technician who is on it.
-/

namespace Dealership.Service

open Library List
open Inventory (LotLock)
open Sales (Locked)

variable {d : Shop} {t : WorkTicket} {held : List LotLock} {c : TicketCall} {e : TimeEntry}
  {d' : Shop}

/-! ## The bench in order -/

/-- A line has one live ticket at most, that of the technician who is assigned to it. -/
def Dispatched (d : Shop) : Prop :=
  ∀ t ∈ d.tech_work_tickets, t.isLive = true →
    (∀ l ∈ d.ro_line_items, l.line_item_id = t.line_item_id →
      l.assigned_tech_user_id = some t.assigned_tech_user_id) ∧
    ∀ u ∈ d.tech_work_tickets, u.isLive = true → u.line_item_id = t.line_item_id → u = t

structure BenchSound (d : Shop) : Prop where
  lines : (d.ro_line_items.map LineItem.line_item_id).Nodup
  tickets : (d.tech_work_tickets.map WorkTicket.ticket_id).Nodup
  entries : (d.tech_time_entries.map TimeEntry.time_entry_id).Nodup
  dispatched : Dispatched d

/-! ## Moves -/

def superseded (t : WorkTicket) : WorkTicket := { t with status := .reassigned }

def handedOut (id : String) (input : DispatchInput) : WorkTicket :=
  ⟨id, input.ro_id, input.line_item_id, input.tech_user_id, .assigned, none⟩

def Shop.dispatched (d : Shop) (ids : List String) (id : String) (input : DispatchInput) : Shop :=
  { d with
    tech_work_tickets := updateWhere (fun t => t.ticket_id ∈ ids) superseded d.tech_work_tickets ++
      [handedOut id input]
    ro_line_items := updateWhere (fun l => l.line_item_id ∈ [input.line_item_id])
      (fun l => { l with assigned_tech_user_id := some input.tech_user_id }) d.ro_line_items }

/-- What a commit that held `held` did at the bench. -/
inductive TicketMoves (held : List LotLock) : TicketCall → Shop → Shop → Prop where
  | edits {w : ServiceWorld} {roId lineItemId : String} {updates : LineUpdates} {d : Shop}
      (lock : Locked held "ro_line_items" lineItemId) :
      TicketMoves held (.updateLineItem w roId lineItemId updates) d
        (d.setLines [lineItemId] (updates.apply w.supervises))
  | dispatches {w : ServiceWorld} {input : DispatchInput} {ids : List String} {d : Shop}
      (lock : Locked held "ro_line_items" input.line_item_id)
      (key : .index "tech_work_tickets_pkey" w.newId ∈ held)
      (fresh : ∀ t ∈ d.tech_work_tickets, t.ticket_id ≠ w.newId)
      (locked : ∀ id ∈ ids, Locked held "tech_work_tickets" id)
      (live : ∀ t ∈ d.tech_work_tickets, t.ticket_id ∈ ids → t.isLive = true)
      (all : ∀ t ∈ d.tech_work_tickets, t.isLive = true → t.line_item_id = input.line_item_id →
        t.ticket_id ∈ ids) :
      TicketMoves held (.dispatchTech w input) d (d.dispatched ids w.newId input)
  | moves {w : ServiceWorld} {t : WorkTicket} {input : TicketInput} {status : TicketStatus}
      {d : Shop} (lock : Locked held "tech_work_tickets" t.ticket_id)
      (found : t ∈ d.tech_work_tickets) (live : t.isLive = true) :
      TicketMoves held (.updateTicketStatus w t.ticket_id input) d
        (d.setTickets [t.ticket_id] (withTicketStatus status input.pause_reason))
  | clocks {w : ServiceWorld} {ticketId : String} {input : TimeEntryInput} {e : TimeEntry}
      {d : Shop} (lock : Locked held "tech_work_tickets" ticketId)
      (known : ∃ t ∈ d.tech_work_tickets, t.ticket_id = ticketId)
      (key : .index "tech_time_entries_pkey" e.time_entry_id ∈ held)
      (fresh : ∀ f ∈ d.tech_time_entries, f.time_entry_id ≠ e.time_entry_id)
      (ticket : e.ticket_id = ticketId) (event : input.event_type = some e.event_type)
      (instant : e.occurred_at = input.occurredAt)
      (accepted : clockAccepts (lastEntry ticketId d) e.event_type e.occurred_at = true) :
      TicketMoves held (.recordTimeEntry w ticketId input) d
        { d with tech_time_entries := d.tech_time_entries ++ [e] }

/-! ## Every move keeps the bench in order -/

theorem BenchSound.edits (hd : BenchSound d) (ids : List String) {f : LineItem → LineItem}
    (hid : ∀ l, (f l).line_item_id = l.line_item_id)
    (htech : ∀ l, (f l).assigned_tech_user_id = l.assigned_tech_user_id) :
    BenchSound (d.setLines ids f) where
  lines := nodup_map_updateWhere hd.lines fun l _ => hid l
  tickets := hd.tickets
  entries := hd.entries
  dispatched := by
    intro t ht hlive
    refine ⟨fun l hl heq => ?_, (hd.dispatched t ht hlive).2⟩
    rcases updateWhere_cases hl with ⟨hl, -⟩ | ⟨m, hm, -, rfl⟩
    · exact (hd.dispatched t ht hlive).1 l hl heq
    · rw [htech]
      exact (hd.dispatched t ht hlive).1 m hm ((hid m).symm.trans heq)

theorem live_of_dispatched {ids : List String} {id : String} {input : DispatchInput}
    (hall : ∀ t ∈ d.tech_work_tickets, t.isLive = true → t.line_item_id = input.line_item_id →
      t.ticket_id ∈ ids) (ht : t ∈ (d.dispatched ids id input).tech_work_tickets)
    (hlive : t.isLive = true) : t = handedOut id input ∨
      t ∈ d.tech_work_tickets ∧ t.line_item_id ≠ input.line_item_id := by
  rcases mem_append.mp ht with ht | ht
  · rcases updateWhere_cases ht with ⟨ht, hnot⟩ | ⟨u, -, -, rfl⟩
    · exact .inr ⟨ht, fun heq => hnot (hall t ht hlive heq)⟩
    · cases hlive
  · exact .inl (mem_singleton.mp ht)

theorem BenchSound.dispatches (hd : BenchSound d) {ids : List String} {id : String}
    {input : DispatchInput} (hfresh : ∀ t ∈ d.tech_work_tickets, t.ticket_id ≠ id)
    (hall : ∀ t ∈ d.tech_work_tickets, t.isLive = true → t.line_item_id = input.line_item_id →
      t.ticket_id ∈ ids) : BenchSound (d.dispatched ids id input) where
  lines := nodup_map_updateWhere hd.lines fun _ _ => rfl
  tickets := by
    refine nodup_key_insert ?_ fun t ht => ?_
    · exact nodup_map_updateWhere hd.tickets fun _ _ => rfl
    · rcases updateWhere_cases ht with ⟨ht, -⟩ | ⟨u, hu, -, rfl⟩
      · exact hfresh t ht
      · exact hfresh u hu
  entries := hd.entries
  dispatched := by
    intro t ht hlive
    constructor
    · intro l hl heq
      rcases live_of_dispatched hall ht hlive with rfl | ⟨ht', hne⟩
      · rcases updateWhere_cases hl with ⟨-, hnot⟩ | ⟨m, -, -, rfl⟩
        · exact absurd (mem_singleton.mpr heq) hnot
        · rfl
      · rcases updateWhere_cases hl with ⟨hl, -⟩ | ⟨m, -, hin, rfl⟩
        · exact (hd.dispatched t ht' hlive).1 l hl heq
        · exact absurd (heq.symm.trans (mem_singleton.mp hin)) hne
    · intro u hu hulive heq
      rcases live_of_dispatched hall ht hlive with rfl | ⟨ht', hne⟩
      · rcases live_of_dispatched hall hu hulive with rfl | ⟨-, hune⟩
        · rfl
        · exact absurd heq hune
      · rcases live_of_dispatched hall hu hulive with rfl | ⟨hu', -⟩
        · exact absurd heq.symm hne
        · exact (hd.dispatched t ht' hlive).2 u hu' hulive heq

theorem BenchSound.moves (hd : BenchSound d) (ht : t ∈ d.tech_work_tickets)
    (hlive : t.isLive = true) (status : TicketStatus) (reason : Option String) :
    BenchSound (d.setTickets [t.ticket_id] (withTicketStatus status reason)) where
  lines := hd.lines
  tickets := nodup_map_updateWhere hd.tickets fun _ _ => rfl
  entries := hd.entries
  dispatched := by
    -- Whatever is live now was, with the same line and the same technician.
    have hwas : ∀ u ∈ (d.setTickets [t.ticket_id]
        (withTicketStatus status reason)).tech_work_tickets, u.isLive = true →
        ∃ v ∈ d.tech_work_tickets, v.isLive = true ∧ v.line_item_id = u.line_item_id ∧
          v.assigned_tech_user_id = u.assigned_tech_user_id ∧
            u = if v.ticket_id ∈ [t.ticket_id] then withTicketStatus status reason v else v := by
      intro u hu hulive
      rcases updateWhere_cases hu with ⟨hu, hnot⟩ | ⟨v, hv, hin, rfl⟩
      · exact ⟨u, hu, hulive, rfl, rfl, (if_neg hnot).symm⟩
      · obtain rfl : v = t := eq_of_key hd.tickets hv ht (mem_singleton.mp hin)
        exact ⟨v, hv, hlive, rfl, rfl, (if_pos hin).symm⟩
    intro u hu hulive
    obtain ⟨v, hv, hvlive, hline, htech, hu'⟩ := hwas u hu hulive
    have hkept := hd.dispatched v hv hvlive
    refine ⟨fun l hl heq => htech ▸ hkept.1 l hl (heq.trans hline.symm), fun x hx hxlive heq => ?_⟩
    obtain ⟨y, hy, hylive, hyline, -, hx'⟩ := hwas x hx hxlive
    obtain rfl := hkept.2 y hy hylive (hyline.trans (heq.trans hline.symm))
    rw [hu', hx']

theorem BenchSound.clocks (hd : BenchSound d)
    (hfresh : ∀ f ∈ d.tech_time_entries, f.time_entry_id ≠ e.time_entry_id) :
    BenchSound { d with tech_time_entries := d.tech_time_entries ++ [e] } where
  lines := hd.lines
  tickets := hd.tickets
  entries := nodup_key_insert hd.entries hfresh
  dispatched := hd.dispatched

/-- **Every commit keeps the bench in order.** -/
theorem TicketMoves.benchSound (hm : TicketMoves held c d d')
    (hd : BenchSound d) : BenchSound d' := by
  cases hm with
  | edits _ => exact hd.edits _ (fun _ => rfl) fun _ => rfl
  | dispatches _ _ fresh _ _ all => exact hd.dispatches fresh all
  | moves _ found live => exact hd.moves found live _ _
  | clocks _ _ _ fresh _ _ _ _ => exact hd.clocks fresh

/-! ## What is over is over -/

theorem TicketMoves.closed_stays (hm : TicketMoves held c d d') (hd : BenchSound d)
    (ht : t ∈ d.tech_work_tickets) (hclosed : t.isLive = false) : t ∈ d'.tech_work_tickets := by
  cases hm with
  | edits _ => exact ht
  | dispatches _ _ _ _ live _ =>
    refine mem_append_left _ (mem_updateWhere_of_neg ht fun hin => ?_)
    rw [live t ht hin] at hclosed
    cases hclosed
  | @moves w u input status _ _ found live =>
    refine mem_updateWhere_of_neg ht fun hin => ?_
    rw [eq_of_key hd.tickets ht found (mem_singleton.mp hin), live] at hclosed
    cases hclosed
  | clocks _ _ _ _ _ _ _ _ => exact ht

theorem Shop.entriesOf_concat_of_pos {ticketId : String} (h : e.ticket_id = ticketId) :
    Shop.entriesOf { d with tech_time_entries := d.tech_time_entries ++ [e] } ticketId =
      d.entriesOf ticketId ++ [e] := by
  simp [Shop.entriesOf, h]

theorem Shop.entriesOf_concat_of_neg {ticketId : String} (h : e.ticket_id ≠ ticketId) :
    Shop.entriesOf { d with tech_time_entries := d.tech_time_entries ++ [e] } ticketId =
      d.entriesOf ticketId := by
  simp [Shop.entriesOf, h]

/-! ## The conditions -/

def clockWouldTake (ticketId : String) (input : TimeEntryInput) (d : Shop) : Bool :=
  input.event_type.any fun event => clockAccepts (lastEntry ticketId d) event input.occurredAt

/-- Whoever has the lock of a ticket and an entry the clock takes, has it for a live ticket. -/
def TicketCall.OnLive (c : TicketCall) (held : List LotLock) (d : Shop) : Prop :=
  match c with
  | .recordTimeEntry _ ticketId input => Locked held "tech_work_tickets" ticketId →
      clockWouldTake ticketId input d = true →
        ∀ t ∈ d.tech_work_tickets, t.ticket_id = ticketId → t.isLive = true
  | _ => True

/-- Whoever has the lock of a ticket and an entry the clock takes, is held against the entry
that was committed last. -/
def TicketCall.Timely (c : TicketCall) (held : List LotLock) (d : Shop) : Prop :=
  match c with
  | .recordTimeEntry _ ticketId input => Locked held "tech_work_tickets" ticketId →
      clockWouldTake ticketId input d = true →
        lastEntry ticketId d = (d.entriesOf ticketId).getLast?
  | _ => True

instance Locked.decidable (held : List LotLock) (table id : String) :
    Decidable (Locked held table id) :=
  inferInstanceAs (Decidable (_ ∨ _))

instance TicketCall.decidableOnLive :
    ∀ (c : TicketCall) (held : List LotLock) (d : Shop), Decidable (c.OnLive held d)
  | .recordTimeEntry .., _, d =>
    inferInstanceAs (Decidable (_ → _ → ∀ t ∈ d.tech_work_tickets, _ → _))
  | .dispatchTech .., _, _ | .updateTicketStatus .., _, _ | .updateLineItem .., _, _ =>
    .isTrue trivial

instance TicketCall.decidableTimely :
    ∀ (c : TicketCall) (held : List LotLock) (d : Shop), Decidable (c.Timely held d)
  | .recordTimeEntry .., _, _ => inferInstanceAs (Decidable (_ → _ → _ = _))
  | .dispatchTech .., _, _ | .updateTicketStatus .., _, _ | .updateLineItem .., _, _ =>
    .isTrue trivial

/-- The entries of every ticket were accepted one after another. -/
def AllClocked (d : Shop) : Prop := ∀ ticketId, Clocked (d.entriesOf ticketId)

theorem TicketMoves.allClocked (hm : TicketMoves held c d d') (htimely : c.Timely held d)
    (hd : AllClocked d) :
    AllClocked d' := by
  cases hm with
  | edits _ | dispatches _ _ _ _ _ _ | moves _ _ _ => exact hd
  | @clocks w ticketId input e _ lock known key fresh ticket event instant accepted =>
    intro id
    by_cases hid : e.ticket_id = id
    · rw [Shop.entriesOf_concat_of_pos hid]
      refine .next (hd id) ?_
      have htakes : clockWouldTake ticketId input d = true := by
        rw [clockWouldTake, event, ← instant]
        exact accepted
      rw [htimely lock htakes, ticket.symm.trans hid] at accepted
      exact accepted
    · rw [Shop.entriesOf_concat_of_neg hid]
      exact hd id

end Dealership.Service
