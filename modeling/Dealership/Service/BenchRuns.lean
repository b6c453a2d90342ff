import Dealership.Library.Chronicle
import Dealership.Service.Bench

/-!
# One technician, and one clock

The bench with everybody at it.  A line never has two live tickets, and a closed ticket stays
as it is; while nobody clocks an entry on a closed ticket, a ticket that was taken away is not
clocked any more.  While every entry is held against the one committed before it, the entries
of a ticket are coherent shifts.
-/

namespace Dealership.Service

open Library List
open Inventory (LotLock)
open Sales (Locked)

variable {held : List LotLock}

/-! ## The contract -/

/-- What others may have done since, to whoever holds `held`. -/
structure BenchKept (held : List LotLock) (d d' : Shop) : Prop where
  lines : ∀ l ∈ d.ro_line_items, Locked held "ro_line_items" l.line_item_id → l ∈ d'.ro_line_items
  tickets : ∀ t ∈ d.tech_work_tickets, Locked held "tech_work_tickets" t.ticket_id →
    t ∈ d'.tech_work_tickets
  live : ∀ t' ∈ d'.tech_work_tickets, t'.isLive = true →
    Locked held "ro_line_items" t'.line_item_id → ∃ t ∈ d.tech_work_tickets,
      t.isLive = true ∧ t.ticket_id = t'.ticket_id ∧ t.line_item_id = t'.line_item_id
  entries : ∀ id, Locked held "tech_work_tickets" id → d'.entriesOf id = d.entriesOf id
  ticketKeys : ∀ id, .index "tech_work_tickets_pkey" id ∈ held →
    (∀ t ∈ d.tech_work_tickets, t.ticket_id ≠ id) → ∀ t ∈ d'.tech_work_tickets, t.ticket_id ≠ id
  entryKeys : ∀ id, .index "tech_time_entries_pkey" id ∈ held →
    (∀ e ∈ d.tech_time_entries, e.time_entry_id ≠ id) →
      ∀ e ∈ d'.tech_time_entries, e.time_entry_id ≠ id

theorem BenchKept.refl (held : List LotLock) (d : Shop) : BenchKept held d d where
  lines := fun _ hl _ => hl
  tickets := fun _ ht _ => ht
  live := fun t ht hlive _ => ⟨t, ht, hlive, rfl, rfl⟩
  entries := fun _ _ => rfl
  ticketKeys := fun _ _ h => h
  entryKeys := fun _ _ h => h

theorem BenchKept.trans {a b e : Shop} (hab : BenchKept held a b)
    (hbe : BenchKept held b e) : BenchKept held a e where
  lines := fun l hl hlock => hbe.lines l (hab.lines l hl hlock) hlock
  tickets := fun t ht hlock => hbe.tickets t (hab.tickets t ht hlock) hlock
  live := by
    intro t' ht' hlive hlock
    obtain ⟨t, ht, htlive, hid, hline⟩ := hbe.live t' ht' hlive hlock
    obtain ⟨u, hu, hulive, huid, huline⟩ := hab.live t ht htlive (hline.symm ▸ hlock)
    exact ⟨u, hu, hulive, huid.trans hid, huline.trans hline⟩
  entries := fun id hlock => (hbe.entries id hlock).trans (hab.entries id hlock)
  ticketKeys := fun id hkey h => hbe.ticketKeys id hkey (hab.ticketKeys id hkey h)
  entryKeys := fun id hkey h => hbe.entryKeys id hkey (hab.entryKeys id hkey h)

theorem BenchKept.mono {more : List LotLock} (hsub : ∀ k ∈ held, k ∈ more) {a b : Shop}
    (h : BenchKept more a b) : BenchKept held a b where
  lines := fun l hl hlock => h.lines l hl (hlock.mono hsub)
  tickets := fun t ht hlock => h.tickets t ht (hlock.mono hsub)
  live := fun t ht hlive hlock => h.live t ht hlive (hlock.mono hsub)
  entries := fun id hlock => h.entries id (hlock.mono hsub)
  ticketKeys := fun id hkey => h.ticketKeys id (hsub _ hkey)
  entryKeys := fun id hkey => h.entryKeys id (hsub _ hkey)

theorem TicketMoves.kept {more : List LotLock} {c : TicketCall} {d d' : Shop}
    (hm : TicketMoves held c d d') (hd : BenchSound d)
    (hclear : ∀ k ∈ held, ∀ l ∈ more, k.conflicts l = false) : BenchKept more d d' := by
  have hrefl := BenchKept.refl more d
  cases hm with
  | @edits w roId lineItemId updates _ lock =>
    refine { hrefl with lines := fun l hl hlock => mem_updateWhere_of_neg hl fun hin => ?_ }
    exact lock.not_both hclear (mem_singleton.mp hin ▸ hlock)
  | @dispatches w input ids _ lock key fresh locked live all =>
    have hline : ¬ Locked more "ro_line_items" input.line_item_id := lock.not_both hclear
    constructor
    · intro l hl hlock
      refine mem_updateWhere_of_neg hl fun hin => ?_
      exact hline (mem_singleton.mp hin ▸ hlock)
    · intro t ht hlock
      refine mem_append_left _ (mem_updateWhere_of_neg ht fun hin => ?_)
      exact (locked _ hin).not_both hclear hlock
    · intro t ht hlive hlock
      rcases live_of_dispatched all ht hlive with rfl | ⟨ht, -⟩
      · exact absurd hlock hline
      · exact ⟨t, ht, hlive, rfl, rfl⟩
    · exact hrefl.entries
    · intro id hkey hfree t ht
      rcases mem_inserted ht with ht | rfl
      · rcases updateWhere_cases ht with ⟨ht, -⟩ | ⟨u, hu, -, rfl⟩
        · exact hfree t ht
        · exact hfree u hu
      · rintro rfl
        exact index_not_both hclear key hkey
    · exact hrefl.entryKeys
  | @moves w t input status _ lock found live =>
    refine { hrefl with tickets := ?_, live := ?_, ticketKeys := ?_ }
    · intro u hu hlock
      refine mem_updateWhere_of_neg hu fun hin => ?_
      exact lock.not_both hclear (mem_singleton.mp hin ▸ hlock)
    · intro u hu hlive _
      rcases updateWhere_cases hu with ⟨hu, -⟩ | ⟨v, hv, hin, rfl⟩
      · exact ⟨u, hu, hlive, rfl, rfl⟩
      · obtain rfl := eq_of_key hd.tickets hv found (mem_singleton.mp hin)
        exact ⟨v, hv, live, rfl, rfl⟩
    · intro id _ hfree u hu
      rcases updateWhere_cases hu with ⟨hu, -⟩ | ⟨v, hv, -, rfl⟩
      · exact hfree u hu
      · exact hfree v hv
  | @clocks w ticketId input e _ lock known key fresh ticket event instant accepted =>
    refine { hrefl with entries := ?_, entryKeys := ?_ }
    · intro id hlock
      refine Shop.entriesOf_concat_of_neg fun heq => ?_
      exact lock.not_both hclear (ticket.symm.trans heq ▸ hlock)
    · intro id hkey hfree f hf
      rcases mem_inserted hf with hf | rfl
      · exact hfree f hf
      · rintro rfl
        exact index_not_both hclear key hkey

/-- The contract of a call, or of a part of one that answers a `B`. -/
def bench (B : Type) (live timely : Prop) :
    Contract TicketCall Shop LotLock ServiceError B where
  inv := fun d => BenchSound d ∧ (timely → AllClocked d)
  rely := fun _ => BenchKept
  finds := fun c held d => (live → c.OnLive held d) ∧ (timely → c.Timely held d)
  ensures := fun c held _ d d' => TicketMoves held c d d' ∧ (live → c.OnLive held d)
  mayRaise := fun _ _ => True

instance {B : Type} {live timely : Prop} {c : TicketCall} : (bench B live timely).Tolerant c :=
  ⟨fun _ => trivial⟩

section Sound

variable {live timely : Prop} {d : Shop}

theorem bench_commits {B : Type} {c : TicketCall} {held : List LotLock} {pending : Shop → Shop}
    {b : B}
    (h : ∀ d', BenchKept held d d' → BenchSound d' → TicketMoves held c d' (pending d')) :
    (bench B live timely).Sound c (pure b) held pending d := by
  intro d' hr hi hf
  have hmoves := h d' hr hi.1
  exact ⟨⟨hmoves.benchSound hi.1, fun ht => hmoves.allClocked (hf.2 ht) (hi.2 ht)⟩, hmoves, hf.1⟩

theorem assertOwnTicket_sound {B : Type} {c : TicketCall} {w : ServiceWorld} {ticketId : String}
    {k : WorkTicket → ServiceWork B}
    (h : ∀ t d' held, t.ticket_id = ticketId → Locked held "tech_work_tickets" ticketId →
      t ∈ d'.tech_work_tickets → (bench B live timely).Sound c (k t) held (fun x => x) d') :
    (bench B live timely).Sound c (assertOwnTicket w ticketId >>= k) [] (fun x => x) d := by
  unfold assertOwnTicket
  rw [Script.bind_assoc]
  refine requireUuid_sound ?_
  rw [Script.bind_assoc]
  refine sound_selectLocking_bind fun d' more _ hlocks _ _ _ => ?_
  cases hfound : d'.tech_work_tickets.find? fun t => t.ticket_id = ticketId with
  | none => exact trivial
  | some t =>
    obtain ⟨hmem, hid⟩ := of_find?_eq_some hfound
    dsimp only
    rw [Script.bind_assoc]
    refine insist_sound fun _ => ?_
    exact h t d' more hid (.inl (hlocks _ mem_cons_self)) hmem

variable (w : ServiceWorld)

theorem updateTicketStatus_benchSound (ticketId : String) (input : TicketInput) :
    (bench WorkTicket live timely).Sound (.updateTicketStatus w ticketId input)
      (updateTicketStatus w ticketId input) [] (fun x => x) d := by
  unfold updateTicketStatus
  cases input.status with
  | none => exact trivial
  | some status =>
    refine assertOwnTicket_sound fun t d₁ held₁ hid hlock ht => ?_
    subst hid
    refine insist_sound fun hlive => ?_
    refine store_sound fun d₂ held₂ hsub₂ _ hr₂ _ _ => ?_
    refine bench_commits fun d₃ hr₃ _ => ?_
    have hs := hr₂.trans (hr₃.mono hsub₂)
    exact .moves (hlock.mono hsub₂) (hs.tickets t ht hlock) hlive

theorem recordTimeEntry_benchSound (ticketId : String) (input : TimeEntryInput) :
    (bench TimeEntry live timely).Sound (.recordTimeEntry w ticketId input)
      (recordTimeEntry w ticketId input) [] (fun x => x) d := by
  unfold recordTimeEntry
  cases hevent : input.event_type with
  | none => exact trivial
  | some event =>
    unfold requireOccurredAt
    simp only [Script.bind_assoc]
    refine insist_sound fun _ => insist_sound fun _ => ?_
    refine assertOwnTicket_sound fun t d₁ held₁ hid hlock ht => ?_
    subst hid
    refine sound_select_bind fun d₂ hr₂ _ _ => ?_
    refine insist_sound fun hforward => ?_
    refine insist_sound fun hfollows => ?_
    have haccepted : clockAccepts (lastEntry t.ticket_id d₂) event input.occurredAt = true := by
      rw [clockAccepts, Bool.and_eq_true]
      exact ⟨hforward, hfollows⟩
    unfold insertTimeEntry
    refine sound_execute_bind fun d₃ held₃ hsub₃ hlocks₃ hr₃ _ _ hfree => ?_
    have hkey : .index "tech_time_entries_pkey" w.newId ∈ held₃ :=
      hlocks₃ _ (mem_cons_of_mem _ mem_cons_self)
    have hfresh : ∀ f ∈ d₃.tech_time_entries, f.time_entry_id ≠ w.newId :=
      fun f hf => of_decide_eq_true (all_eq_true.mp hfree f hf)
    refine bench_commits fun d₄ hr₄ _ => ?_
    have hs := hr₃.trans (hr₄.mono hsub₃)
    refine .clocks (hlock.mono hsub₃) ⟨t, (hr₂.trans hs).tickets t ht hlock, rfl⟩ hkey
      (hr₄.entryKeys _ hkey hfresh) rfl hevent rfl ?_
    rw [lastEntry, hs.entries _ hlock]
    exact haccepted

theorem updateLineItem_benchSound (roId lineItemId : String) (updates : LineUpdates) :
    (bench LineItem live timely).Sound (.updateLineItem w roId lineItemId updates)
      (updateLineItem w roId lineItemId updates) [] (fun x => x) d := by
  unfold updateLineItem
  refine validateUpdates_sound ?_
  refine assertRO_sound fun r d₁ held₁ _ _ _ _ _ _ => ?_
  refine assertLineItem_sound fun l d₂ held₂ hid _ _ hlock _ _ _ => ?_
  subst hid
  unfold requireUnfrozen
  simp only [Script.bind_assoc]
  refine insist_sound fun _ => insist_sound fun _ => ?_
  refine insist_sound fun _ => insist_sound fun _ => ?_
  refine insist_sound fun _ => ?_
  unfold writeLine
  refine sound_execute_bind fun d₃ held₃ hsub₃ _ _ _ _ _ => ?_
  refine insist_sound fun hhit => ?_
  simp only [if_pos hhit]
  exact bench_commits fun d₄ _ _ => .edits (hlock.mono hsub₃)

theorem mem_liveTickets {lineItemId id : String} {x : Shop} :
    id ∈ liveTickets lineItemId x ↔ ∃ t ∈ x.tech_work_tickets,
      t.ticket_id = id ∧ t.line_item_id = lineItemId ∧ t.isLive = true := by
  simp only [liveTickets, mem_map, mem_filter, Bool.and_eq_true, decide_eq_true_eq,
    WorkTicket.isLive]
  constructor
  · rintro ⟨t, ⟨ht, hline, hlive⟩, hid⟩
    exact ⟨t, ht, hid, hline, hlive⟩
  · rintro ⟨t, ht, hid, hline, hlive⟩
    exact ⟨t, ⟨ht, hline, hlive⟩, hid⟩

theorem dispatchTech_benchSound (input : DispatchInput) :
    (bench WorkTicket live timely).Sound (.dispatchTech w input) (dispatchTech w input) []
      (fun x => x) d := by
  unfold dispatchTech
  refine requireUuid_sound ?_
  refine assertRO_sound fun r d₁ held₁ _ _ _ _ _ _ => ?_
  refine assertLineItem_sound fun l d₂ held₂ hid _ _ hlock _ _ _ => ?_
  refine sound_select_bind fun d₃ _ _ _ => ?_
  refine insist_sound fun _ => ?_
  refine store_sound fun d₄ held₄ hsub₄ hlocks₄ hr₄ hi₄ _ => ?_
  have hlocked : ∀ id ∈ liveTickets input.line_item_id d₄, Locked held₄ "tech_work_tickets" id :=
    fun id hin => .inr (hlocks₄ _ (mem_map_of_mem hin))
  refine sound_execute_bind fun d₅ held₅ hsub₅ hlocks₅ hr₅ _ _ hfree => ?_
  have hkey : .index "tech_work_tickets_pkey" w.newId ∈ held₅ :=
    hlocks₅ _ (mem_cons_of_mem _ mem_cons_self)
  have hfresh : ∀ t ∈ d₅.tech_work_tickets, t.ticket_id ≠ w.newId := by
    intro t ht
    have hall := all_eq_true.mp hfree (if t.ticket_id ∈ liveTickets input.line_item_id d₄ then
      superseded t else t) (mem_updateWhere.mpr ⟨t, ht, rfl⟩)
    split at hall
    · exact of_decide_eq_true hall
    · exact of_decide_eq_true hall
  refine store_sound fun d₆ held₆ hsub₆ _ hr₆ _ _ => ?_
  refine bench_commits fun d₇ hr₇ hd₇ => ?_
  have hlast := hr₆.trans (hr₇.mono hsub₆)
  have hs : BenchKept held₄ d₄ d₇ := hr₅.trans (hlast.mono hsub₅)
  have hup : ∀ k ∈ held₄, k ∈ held₆ := fun k hk => hsub₆ _ (hsub₅ _ hk)
  have hline : Locked held₄ "ro_line_items" input.line_item_id := hlock.mono hsub₄
  refine .dispatches (hline.mono hup) (hsub₆ _ hkey) (hlast.ticketKeys _ hkey hfresh)
    (fun id hin => (hlocked id hin).mono hup) ?_ ?_
  · intro t ht hin
    obtain ⟨u, hu, huid, -, hulive⟩ := mem_liveTickets.mp hin
    have hu₇ := hs.tickets u hu (huid.symm ▸ hlocked _ hin)
    rw [eq_of_key hd₇.tickets ht hu₇ huid.symm]
    exact hulive
  · intro t ht htlive hteq
    obtain ⟨u, hu, hulive, huid, huline⟩ := hs.live t ht htlive (hteq.symm ▸ hline)
    exact mem_liveTickets.mpr ⟨u, hu, huid, huline.trans hteq, hulive⟩

theorem TicketCall.program_sound (c : TicketCall) :
    (bench Unit live timely).Sound c c.program [] (fun x => x) d := by
  cases c with
  | dispatchTech w input => exact Contract.Sound.of_onAnswers (dispatchTech_benchSound w input)
  | updateTicketStatus w ticketId input =>
    exact Contract.Sound.of_onAnswers (updateTicketStatus_benchSound w ticketId input)
  | recordTimeEntry w ticketId input =>
    exact Contract.Sound.of_onAnswers (recordTimeEntry_benchSound w ticketId input)
  | updateLineItem w roId lineItemId updates =>
    exact Contract.Sound.of_onAnswers (updateLineItem_benchSound w roId lineItemId updates)

end Sound

theorem bench_cooperates {live timely : Prop} {admits : TicketServer → Event TicketCall → Prop}
    (hlive : live → ∀ S i s, admits S (.turn i) → S.session i = some s →
      s.call.OnLive s.held S.committed)
    (htimely : timely → ∀ S i s, admits S (.turn i) → S.session i = some s →
      s.call.Timely s.held S.committed) :
    (bench Unit live timely).Cooperates LotLock.conflicts TicketCall.program
      (fun _ _ => True) admits where
  refl := fun _ => .refl
  trans := fun _ _ _ _ _ => .trans
  symm := LotLock.conflicts_symm
  begins := fun _ c _ _ => c.program_sound
  sets_apart := fun _ _ _ _ _ _ => ⟨trivial, trivial⟩
  finds := fun S i s ha hs => ⟨fun h => hlive h S i s ha hs, fun h => htimely h S i s ha hs⟩
  respects := fun _ _ _ _ _ _ _ _ _ _ _ hbeside hi hmoves =>
    hmoves.1.kept hi.1 hbeside.2

/-! ## One technician -/

/-- Tickets that are completed, reassigned or canceled are left as they are. -/
def StaysClosed : TicketEnding → Prop
  | .committed _ _ before after =>
    ∀ t ∈ before.tech_work_tickets, t.isLive = false → t ∈ after.tech_work_tickets
  | _ => True

/-- An entry is committed on a ticket that is live at its commit. -/
def ClocksOnLive : TicketEnding → Prop
  | .committed _ _ before after => ∀ e ∈ after.tech_time_entries,
      e ∈ before.tech_time_entries ∨
        ∃ t ∈ before.tech_work_tickets, t.ticket_id = e.ticket_id ∧ t.isLive = true
  | _ => True

/-- A line has one live ticket, of the technician who is on it; a closed ticket is never
reopened, and no longer clocked; and only what was committed has changed anything. -/
structure OneTechnician (d : Shop) (S : TicketServer) : Prop where
  dispatched : Dispatched S.committed
  closed : ∀ e ∈ S.history, StaysClosed e
  clocked : ∀ e ∈ S.history, ClocksOnLive e
  linked : Linked d S.history S.committed

def ClockedLive (S : TicketServer) : Event TicketCall → Prop
  | .turn i => ∀ s ∈ S.session i, s.call.OnLive s.held S.committed
  | .arrive _ | .abort _ => True

instance (S : TicketServer) : ∀ e, Decidable (ClockedLive S e)
  | .turn i => inferInstanceAs (Decidable (∀ s ∈ S.session i, s.call.OnLive s.held S.committed))
  | .arrive _ | .abort _ => .isTrue trivial

theorem TicketMoves.clocksOnLive {c : TicketCall} {d d' : Shop} {answer : Unit}
    (hm : TicketMoves held c d d') (hlive : c.OnLive held d) :
    ClocksOnLive (.committed c answer d d') := by
  intro e he
  cases hm with
  | edits _ | dispatches _ _ _ _ _ _ | moves _ _ _ => exact .inl he
  | @clocks w ticketId input f _ lock known key fresh ticket event instant accepted =>
    rcases mem_append.mp he with he | he
    · exact .inl he
    · obtain ⟨t, ht, hid⟩ := known
      have htakes : clockWouldTake ticketId input d = true := by
        rw [clockWouldTake, event, ← instant]
        exact accepted
      refine .inr ⟨t, ht, ?_, hlive lock htakes t ht hid⟩
      rw [mem_singleton.mp he, ticket, hid]

/-- **One technician is on a job, and only that one clocks it.**  In every interleaving in
which no entry is clocked on a closed ticket. -/
theorem one_technician_clocks {d : Shop} (hd : BenchSound d) {events : List (Event TicketCall)}
    (h : Along (Server.step LotLock.conflicts TicketCall.program) ClockedLive (.fresh d) events) :
    OneTechnician d (run (Server.step LotLock.conflicts TicketCall.program) (.fresh d) events) := by
  have hc : (bench Unit True False).Cooperates LotLock.conflicts TicketCall.program
      (fun _ _ => True) ClockedLive :=
    bench_cooperates (fun _ _ _ s ha hs => ha s hs) False.elim
  have hg := hc.guarded ⟨hd, False.elim⟩ h
  refine ⟨hg.inv.1.dispatched, fun e he => ?_, fun e he => ?_, linked_run _ _ d events⟩
  · have hkeeps := hg.history e he
    cases e with
    | raised c error => exact trivial
    | aborted c => exact trivial
    | committed c answer before after =>
      obtain ⟨hi, -, held, hmoves, -⟩ := hkeeps
      exact fun t ht hclosed => hmoves.closed_stays hi.1 ht hclosed
  · have hkeeps := hg.history e he
    cases e with
    | raised c error => exact trivial
    | aborted c => exact trivial
    | committed c answer before after =>
      obtain ⟨-, -, held, hmoves, hlive⟩ := hkeeps
      exact hmoves.clocksOnLive (hlive trivial)

/-! ## One clock -/

/-- Entries are held against the one that was committed last. -/
def InOrder (S : TicketServer) : Event TicketCall → Prop
  | .turn i => ∀ s ∈ S.session i, s.call.Timely s.held S.committed
  | .arrive _ | .abort _ => True

instance (S : TicketServer) : ∀ e, Decidable (InOrder S e)
  | .turn i => inferInstanceAs (Decidable (∀ s ∈ S.session i, s.call.Timely s.held S.committed))
  | .arrive _ | .abort _ => .isTrue trivial

/-- **Clock entries form coherent shifts.**  In every interleaving in which each entry the
clock takes is held against the one committed last, on every ticket. -/
theorem clock_entries_coherent {d : Shop} (hd : BenchSound d) (hclocked : AllClocked d)
    {events : List (Event TicketCall)}
    (h : Along (Server.step LotLock.conflicts TicketCall.program) InOrder (.fresh d) events)
    (ticketId : String) :
    Coherent ((run (Server.step LotLock.conflicts TicketCall.program) (.fresh d)
      events).committed.entriesOf ticketId) := by
  have hc : (bench Unit False True).Cooperates LotLock.conflicts TicketCall.program
      (fun _ _ => True) InOrder :=
    bench_cooperates False.elim fun _ _ _ s ha hs => ha s hs
  exact ((hc.guarded ⟨hd, fun _ => hclocked⟩ h).inv.2 trivial ticketId).coherent

/-! ## A bay -/

instance : ∀ e, Decidable (ClocksOnLive e)
  | .committed _ _ before after => inferInstanceAs (Decidable (∀ e ∈ after.tech_time_entries,
      e ∈ before.tech_time_entries ∨ ∃ t ∈ before.tech_work_tickets, _ ∧ _))
  | .raised .. | .aborted .. => .isTrue trivial

namespace Bay

def order : String := uuid "1"

def line : String := uuid "2"

def ann : String := uuid "3"

def bob : String := uuid "4"

def ticket : String := uuid "5"

def second : String := uuid "6"

def world (userId id : String) (now : Int) : ServiceWorld :=
  ⟨userId, [.other "service_tech"], now, id, id, fun s => s⟩

/-- A car with one job on it, and two technicians. -/
def shop : Shop :=
  { Shop.opening "t" [] [] [⟨ann, "l", true⟩, ⟨bob, "l", true⟩] [] with
    repair_orders := [⟨order, "l", none, "c", "v", .in_repair, none⟩]
    ro_line_items := [⟨line, order, .labor, none, "brakes", .approved, .approved, none, none,
      none, none, none, none, none⟩] }

theorem shop_sound : BenchSound shop :=
  ⟨by decide, nodup_nil, nodup_nil, forall_mem_nil _⟩

theorem shop_clocked : AllClocked shop := fun _ => .none

abbrev serve : List (Event TicketCall) → TicketServer :=
  served LotLock.conflicts TicketCall.program shop

def dispatch (tech id : String) : TicketCall :=
  .dispatchTech (world "advisor" id 0) ⟨order, line, tech⟩

/-- Ann clocks an event of an instant, in a transaction that began at another. -/
def clock (event : TimeEventType) (occurredAt began : Int) (id : String) : TicketCall :=
  .recordTimeEntry (world ann id began) ticket ⟨some event, some (some occurredAt), occurredAt⟩

/-- Ann works the job in two goes, and is done. -/
def shiftWorked : List (Event TicketCall) :=
  oneByOne 8 [dispatch ann ticket, clock .start 100 10 "a", clock .pause 200 20 "b",
    clock .resume 300 30 "c", clock .stop 400 40 "d",
    .updateTicketStatus (world ann "" 50) ticket ⟨some .completed, none⟩] 0

/-- Bob is given the job while Ann is on it, and she clocks out afterwards. -/
def takenAway : List (Event TicketCall) :=
  oneByOne 8 [dispatch ann ticket, clock .start 100 10 "a", dispatch bob second,
    clock .stop 200 20 "b"] 0

/-- The transaction of the pause began first, and was granted the ticket after the start. -/
def overtaken : List (Event TicketCall) :=
  oneByOne 8 [dispatch ann ticket] 0 ++ [.arrive (clock .pause 300 10 "b"),
    .arrive (clock .start 100 20 "a")] ++ List.replicate 4 (.turn 2) ++
    List.replicate 4 (.turn 1) ++ .arrive (clock .stop 200 30 "c") :: List.replicate 4 (.turn 3)

end Bay

open Bay in
/-- Ann has worked the job and closed it. -/
theorem shift_is_worked :
    (serve shiftWorked).committed.tech_work_tickets.map WorkTicket.status = [.completed] ∧
      OneTechnician shop (serve shiftWorked) :=
  ⟨by decide +kernel, one_technician_clocks shop_sound (by decide +kernel)⟩

open Bay in
/-- Ann's stop is committed on a ticket that was reassigned. -/
theorem taken_away_and_clocked : ¬ OneTechnician shop (serve takenAway) :=
  fun h => absurd h.clocked (by decide +kernel)

open Bay in
/-- The hours Ann has worked are hours. -/
theorem shift_is_coherent :
    worked ((serve shiftWorked).committed.entriesOf ticket) = [(100, 200), (300, 400)] ∧
      Coherent ((serve shiftWorked).committed.entriesOf ticket) :=
  ⟨by decide +kernel, clock_entries_coherent shop_sound shop_clocked (by decide +kernel) ticket⟩

open Bay in
/-- The stop is held against the start, and clocked a hundred before the pause. -/
theorem overtaken_runs_backwards : ¬ Coherent ((serve overtaken).committed.entriesOf ticket) :=
  fun h => absurd h.forward (by decide +kernel)

end Dealership.Service
