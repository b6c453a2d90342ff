import Dealership.Identity.Dispatch

/-!
# The outbox loses no event

What one turn can do is said once.  Everything a run keeps is read off it: an event stays in
its table, a row is delivered exactly when the ledger has it, and two passes never hold one
row.  What the port accepts is another matter, for no transaction takes it back.
-/

namespace Dealership.Identity

open Library List

variable {p : Pass} {t' : OutboxTables} {t : OutboxTables}

/-! ## One turn -/

inductive Outbox.Turned (m : Outbox) (p : Pass) : Turn → Outbox → Pass → Prop where
  | begins (stage : p.stage = .looking) (more : 0 < p.remaining) :
      m.Turned p .begins m { p with stage := .begun m.clock }
  | claims {now : Int} {row : OutboxRow} (stage : p.stage = .begun now)
      (mem : row ∈ m.claimable now)
      (first : ∀ other ∈ m.claimable now, row.occurredAt ≤ other.occurredAt) :
      m.Turned p (.claims row.eventId) m
        { p with attempted := p.attempted ++ [row.eventId], stage := .claimed now row }
  | drains {now : Int} (stage : p.stage = .begun now) (none : m.claimable now = []) :
      m.Turned p .drains m { p with stage := .drained }
  | finds {now : Int} {row : OutboxRow} (stage : p.stage = .claimed now row)
      (found : ∃ l ∈ m.tables.deliveries, l.eventId = row.eventId) :
      m.Turned p .records m { p with stage := .unmarked now row false }
  | records {now : Int} {row : OutboxRow} (stage : p.stage = .claimed now row) :
      m.Turned p .records m { p with stage := .recorded now row }
  | hands {now : Int} {row : OutboxRow} (stage : p.stage = .recorded now row) :
      m.Turned p .hands m { p with stage := .delivering now row (m.tables.hydrate row) }
  | accepts {now : Int} {row : OutboxRow} {delivery : AdminOutboxDelivery}
      (stage : p.stage = .delivering now row delivery) :
      m.Turned p .accepts { m with accepted := m.accepted ++ [delivery] }
        { p with stage := .unmarked now row true }
  | refuses {now : Int} {row : OutboxRow} {delivery : AdminOutboxDelivery} (message : String)
      (stage : p.stage = .delivering now row delivery) :
      m.Turned p (.refuses message) m (p.failWith row message)
  | marks {now : Int} {row : OutboxRow} {firstDelivery : Bool}
      (stage : p.stage = .unmarked now row firstDelivery) :
      m.Turned p .marks m { p with stage := .marked now row firstDelivery }
  | commits {now : Int} {row : OutboxRow} {firstDelivery : Bool}
      (stage : p.stage = .marked now row firstDelivery) :
      m.Turned p (.commits none)
        { m with tables := m.tables.commitDelivery now row.eventId p.sink firstDelivery }
        (p.countCommitted firstDelivery).goOn
  | commitsUnheard {now : Int} {row : OutboxRow} {firstDelivery : Bool} (message : String)
      (stage : p.stage = .marked now row firstDelivery) :
      m.Turned p (.commits (some message))
        { m with tables := m.tables.commitDelivery now row.eventId p.sink firstDelivery }
        (p.failWith row message)
  | failsEarly (message : String) (stage : p.stage = .looking ∨ ∃ now, p.stage = .begun now) :
      m.Turned p (.fails message) m p.countFailed.goOn
  | fails {row : OutboxRow} (message : String) (stage : p.stage.held = some row) :
      m.Turned p (.fails message) m (p.failWith row message)
  | abandons {now : Int} {row : OutboxRow} {delivery : AdminOutboxDelivery} (message : String)
      (stage : p.stage = .delivering now row delivery) :
      m.Turned p (.fails message) { m with orphans := m.orphans ++ [delivery] }
        (p.failWith row message)
  | beginsBooking {row : OutboxRow} {message : String} (stage : p.stage = .failed row message) :
      m.Turned p .beginsBooking m { p with stage := .booking m.clock row message }
  | books {now : Int} {row : OutboxRow} {message : String}
      (stage : p.stage = .booking now row message) (free : m.locked row.eventId = false) :
      m.Turned p .books { m with tables := m.tables.book now row.eventId message } p.goOn
  | bookingFails {row : OutboxRow} {message : String}
      (stage : p.stage = .failed row message ∨ ∃ now, p.stage = .booking now row message) :
      m.Turned p .bookingFails m p.goOn

theorem Outbox.turned {m m' : Outbox} {p' : Pass} {turn : Turn} (h : m.turn p turn = some (m', p'))
    : m.Turned p turn m' p' := by
  unfold Outbox.turn at h
  split at h
  · rename_i hstage
    split at h
    · rename_i hmore
      cases h
      exact .begins hstage hmore
    · cases h
  · rename_i eventId now hstage
    split at h
    · cases h
    rename_i row hrow
    obtain ⟨hmem, rfl⟩ := of_find?_eq_some hrow
    split at h
    · rename_i hfirst
      cases h
      exact .claims hstage hmem fun other hother =>
        of_decide_eq_true (all_eq_true.mp hfirst other hother)
    · cases h
  · rename_i now hstage
    split at h
    · rename_i hnone
      cases h
      exact .drains hstage hnone
    · cases h
  · rename_i now row hstage
    split at h
    · rename_i hfound
      cases h
      obtain ⟨l, hl, hid⟩ := any_eq_true.mp hfound
      exact .finds hstage ⟨l, hl, of_decide_eq_true hid⟩
    · cases h
      exact .records hstage
  · rename_i now row hstage
    cases h
    exact .hands hstage
  · rename_i now row delivery hstage
    cases h
    exact .accepts hstage
  · rename_i message now row delivery hstage
    cases h
    exact .refuses message hstage
  · rename_i now row firstDelivery hstage
    cases h
    exact .marks hstage
  · rename_i lost now row firstDelivery hstage
    cases lost with
    | none =>
      cases h
      exact .commits hstage
    | some message =>
      cases h
      exact .commitsUnheard message hstage
  · rename_i message hstage
    split at h
    · cases h
      exact .failsEarly message (.inl hstage)
    · cases h
  · rename_i message now hstage
    split at h
    · cases h
      exact .failsEarly message (.inr ⟨now, hstage⟩)
    · cases h
  · rename_i message now row hstage
    cases h
    exact .fails message (by rw [hstage]; rfl)
  · rename_i message now row hstage
    cases h
    exact .fails message (by rw [hstage]; rfl)
  · rename_i message now row firstDelivery hstage
    cases h
    exact .fails message (by rw [hstage]; rfl)
  · rename_i message now row firstDelivery hstage
    cases h
    exact .fails message (by rw [hstage]; rfl)
  · rename_i message now row delivery hstage
    cases h
    exact .abandons message hstage
  · rename_i row message hstage
    cases h
    exact .beginsBooking hstage
  · rename_i now row message hstage
    split at h
    · rename_i hfree
      cases h
      exact .books hstage hfree.1
    · cases h
  · rename_i row message hstage
    cases h
    exact .bookingFails (.inl hstage)
  · rename_i now row message hstage
    cases h
    exact .bookingFails (.inr ⟨now, hstage⟩)
  · cases h

/-! ## Events stay -/

/-- An event as a later statement may leave it.  A row of another domain keeps its identifier
and its type. -/
structure OutboxRow.Onward (row row' : OutboxRow) : Prop where
  eventId : row'.eventId = row.eventId
  eventType : row'.eventType = row.eventType
  same : isAdminEvent row.eventType = true → row'.tenantId = row.tenantId ∧
    row'.payload = row.payload ∧ row'.occurredAt = row.occurredAt ∧
    row.attempts ≤ row'.attempts ∧ (row.deliveredAt ≠ none → row'.deliveredAt = row.deliveredAt)

theorem OutboxRow.Onward.refl (row : OutboxRow) : row.Onward row :=
  ⟨rfl, rfl, fun _ => ⟨rfl, rfl, rfl, Nat.le_refl _, fun _ => rfl⟩⟩

theorem OutboxRow.Onward.trans {a b c : OutboxRow} (h : a.Onward b) (k : b.Onward c) :
    a.Onward c where
  eventId := k.eventId.trans h.eventId
  eventType := k.eventType.trans h.eventType
  same := by
    intro hadmin
    obtain ⟨h₁, h₂, h₃, h₄, h₅⟩ := h.same hadmin
    obtain ⟨k₁, k₂, k₃, k₄, k₅⟩ := k.same (h.eventType ▸ hadmin)
    refine ⟨k₁.trans h₁, k₂.trans h₂, k₃.trans h₃, Nat.le_trans h₄ k₄, ?_⟩
    intro hdelivered
    have hmiddle := h₅ hdelivered
    exact (k₅ (hmiddle ▸ hdelivered)).trans hmiddle

theorem OutboxRow.onward_deliver {row : OutboxRow} (h : row.deliveredAt = none) (now : Int) :
    row.Onward (row.deliver now) :=
  ⟨rfl, rfl, fun _ => ⟨rfl, rfl, rfl, Nat.le_succ _, fun hdelivered => absurd h hdelivered⟩⟩

theorem OutboxRow.onward_book (row : OutboxRow) (now : Int) (message : String) :
    row.Onward (row.book now message) :=
  ⟨rfl, rfl, fun _ => ⟨rfl, rfl, rfl, Nat.le_succ _, fun _ => rfl⟩⟩

/-- Every event of the first tables is in the second. -/
def OutboxTables.Onward (t t' : OutboxTables) : Prop :=
  ∀ row ∈ t.adminOutbox, ∃ row' ∈ t'.adminOutbox, row.Onward row'

theorem OutboxTables.Onward.of_sublist
    (h : ∀ row ∈ t.adminOutbox, row ∈ t'.adminOutbox) : t.Onward t' :=
  fun row hrow => ⟨row, h row hrow, .refl row⟩

theorem OutboxTables.Onward.of_updateWhere {q : OutboxRow → Prop} [DecidablePred q]
    {f : OutboxRow → OutboxRow} (ht' : t'.adminOutbox = updateWhere q f t.adminOutbox)
    (hf : ∀ row ∈ t.adminOutbox, q row → row.Onward (f row)) : t.Onward t' := by
  intro row hrow
  rw [ht']
  by_cases hq : q row
  · exact ⟨f row, mem_updateWhere_of_pos hrow hq, hf row hrow hq⟩
  · exact ⟨row, mem_updateWhere_of_neg hrow hq, .refl row⟩

/-! ## What the tables keep -/

/-- The longest an event that was attempted so often is put off. -/
def putOff (attempts : Nat) : Int := 300000 * (min attempts 8 : Nat)

theorem putOff_mono {a b : Nat} (h : a ≤ b) : putOff a ≤ putOff b := by
  unfold putOff
  omega

theorem putOff_succ (attempts : Nat) : 300000 ≤ putOff (attempts + 1) := by
  unfold putOff
  omega

def StaffInvitation.announcedBy (inv : StaffInvitation) (row : OutboxRow) : Prop :=
  row.eventType = staffInvitationCreated ∧ row.tenantId = inv.tenantId ∧
    row.payload.lookup "invitation_id" = some inv.invitationId

/-- The schema of the outbox, and what its writers keep: an event of the administration is
delivered exactly when the ledger has it, and no invitation is without its event. -/
structure OutboxTables.Sound (t : OutboxTables) (clock : Int) : Prop where
  eventIds : (t.adminOutbox.map OutboxRow.eventId).Nodup
  known : ∀ l ∈ t.deliveries, ∃ row ∈ t.adminOutbox, row.eventId = l.eventId
  ledger : ∀ row ∈ t.adminOutbox, isAdminEvent row.eventType = true →
    (row.deliveredAt ≠ none ↔ ∃ l ∈ t.deliveries, l.eventId = row.eventId)
  available : ∀ row ∈ t.adminOutbox, isAdminEvent row.eventType = true →
    row.availableAt ≤ clock + putOff row.attempts
  invited : ∀ inv ∈ t.invitations, ∃ row ∈ t.adminOutbox, inv.announcedBy row

theorem isAdminEvent_created : isAdminEvent staffInvitationCreated = true := by decide

namespace OutboxTables

variable {t : OutboxTables} {clock : Int}

theorem Sound.later (h : t.Sound clock) {clock' : Int} (hle : clock ≤ clock') : t.Sound clock' :=
  ⟨h.eventIds, h.known, h.ledger,
    fun row hrow hadmin => Int.le_trans (h.available row hrow hadmin) (Int.add_le_add_right hle _),
    h.invited⟩

theorem Sound.enqueue (h : t.Sound clock) {eventId : String} (hfree : t.free eventId = true)
    (tenantId eventType : String) (payload : List (String × String)) :
    (enqueueAdminOutboxEvent clock eventId tenantId eventType payload t).Sound clock := by
  have hfree : ∀ row ∈ t.adminOutbox, row.eventId ≠ eventId := fun row hrow =>
    of_decide_eq_true (all_eq_true.mp hfree row hrow)
  refine ⟨nodup_key_insert h.eventIds hfree, ?_, ?_, ?_, ?_⟩
  · intro l hl
    obtain ⟨row, hrow, hid⟩ := h.known l hl
    exact ⟨row, mem_append_left _ hrow, hid⟩
  · intro row hrow hadmin
    rcases mem_inserted hrow with hold | rfl
    · exact h.ledger row hold hadmin
    · refine iff_of_false (not_not.mpr rfl) ?_
      rintro ⟨l, hl, hid⟩
      obtain ⟨row, hold, hkey⟩ := h.known l hl
      exact hfree row hold (hkey.trans hid)
  · intro row hrow hadmin
    rcases mem_inserted hrow with hold | rfl
    · exact h.available row hold hadmin
    · unfold putOff
      dsimp only
      omega
  · intro inv hinv
    obtain ⟨row, hrow, hannounced⟩ := h.invited inv hinv
    exact ⟨row, mem_append_left _ hrow, hannounced⟩

theorem createStaffInvitation_cases {w : InvitationWorld} {now : Int}
    {input : CreateStaffInvitationInput} {out : Except String StaffInvitation}
    (h : createStaffInvitation w now input t = .ok (out, t')) :
    t' = t ∨ ∃ inv : StaffInvitation, out = .ok inv ∧ inv.tenantId = input.tenantId ∧
      ∃ mutations, t' = { enqueueAdminOutboxEvent now w.newEventId input.tenantId
        staffInvitationCreated [("invitation_id", inv.invitationId)] t with
          invitations := t.invitations ++ [inv]
          mutations := mutations } := by
  unfold createStaffInvitation at h
  dsimp only at h
  generalize (if input.scopeLevel.getD "tenant" = "tenant" then none else input.scopeId) =
    scopeId at h
  split at h
  · cases h
    exact .inl rfl
  split at h
  · cases h
    exact .inl rfl
  split at h
  · cases h
    exact .inl rfl
  obtain ⟨actor, -, h⟩ := bind_eq_ok.mp h
  split at h
  · cases h
    exact .inl rfl
  split at h
  · cases h
    exact .inl rfl
  split at h
  · cases h
    exact .inl rfl
  split at h
  · cases h
  · cases h
    exact .inr ⟨_, rfl, rfl, _, rfl⟩

theorem Sound.createStaffInvitation (h : t.Sound clock) (w : InvitationWorld)
    (input : CreateStaffInvitationInput) (hfree : t.free w.newEventId = true) :
    (committed t (createStaffInvitation w clock input t)).Sound clock := by
  refine committed_induction (P := fun t : OutboxTables => t.Sound clock) h ?_
  intro out t' hok
  rcases createStaffInvitation_cases hok with rfl | ⟨inv, -, htenant, mutations, rfl⟩
  · exact h
  · have hrows := h.enqueue hfree input.tenantId staffInvitationCreated
      [("invitation_id", inv.invitationId)]
    refine ⟨hrows.eventIds, hrows.known, hrows.ledger, hrows.available, ?_⟩
    intro other hother
    rcases mem_inserted hother with hold | rfl
    · exact hrows.invited other hold
    · refine ⟨_, mem_append_right _ (mem_singleton.mpr rfl), rfl, htenant.symm, ?_⟩
      exact List.lookup_cons_self

theorem revokeStaffInvitation_cases {access : Access} {actor tenantId invitationId : String}
    {version : Option Nat}
    (h : revokeStaffInvitation access actor tenantId invitationId t = .ok (version, t')) :
    t'.adminOutbox = t.adminOutbox ∧ t'.deliveries = t.deliveries ∧
      ∀ inv' ∈ t'.invitations, ∃ inv ∈ t.invitations, inv'.tenantId = inv.tenantId ∧
        inv'.invitationId = inv.invitationId := by
  obtain ⟨actor, -, h⟩ := bind_eq_ok.mp h
  split at h
  · cases h
    exact ⟨rfl, rfl, fun inv hinv => ⟨inv, hinv, rfl, rfl⟩⟩
  cases h
  refine ⟨rfl, rfl, ?_⟩
  intro inv' hinv'
  rcases updateWhere_cases hinv' with ⟨hold, -⟩ | ⟨inv, hinv, -, rfl⟩
  · exact ⟨inv', hold, rfl, rfl⟩
  · exact ⟨inv, hinv, rfl, rfl⟩

theorem Sound.revokeStaffInvitation (h : t.Sound clock) (access : Access)
    (actor tenantId invitationId : String) :
    (committed t (revokeStaffInvitation access actor tenantId invitationId t)).Sound clock := by
  refine committed_induction (P := fun t : OutboxTables => t.Sound clock) h ?_
  intro version t' hok
  obtain ⟨hrows, hledger, hinvitations⟩ := revokeStaffInvitation_cases hok
  refine ⟨hrows ▸ h.eventIds, ?_, ?_, hrows ▸ h.available, ?_⟩
  · rw [hrows, hledger]
    exact h.known
  · rw [hrows, hledger]
    exact h.ledger
  · intro inv' hinv'
    obtain ⟨inv, hinv, htenant, hid⟩ := hinvitations inv' hinv'
    rw [hrows]
    obtain ⟨row, hrow, htype, htenant', hpayload⟩ := h.invited inv hinv
    exact ⟨row, hrow, htype, htenant'.trans htenant.symm, hpayload.trans (by rw [hid])⟩

/-- An update that leaves what the events announce keeps everything but what is said of the
ledger and the clock. -/
theorem Sound.update (h : t.Sound clock) {q : OutboxRow → Prop} [DecidablePred q]
    {f : OutboxRow → OutboxRow} {ledger : List DeliveryRow}
    (hf : ∀ row, (f row).eventId = row.eventId ∧ (f row).eventType = row.eventType ∧
      (f row).tenantId = row.tenantId ∧ (f row).payload = row.payload)
    (hknown : ∀ l ∈ ledger, ∃ row ∈ t.adminOutbox, row.eventId = l.eventId)
    (hledger : ∀ row ∈ updateWhere q f t.adminOutbox, isAdminEvent row.eventType = true →
      (row.deliveredAt ≠ none ↔ ∃ l ∈ ledger, l.eventId = row.eventId))
    (havailable : ∀ row ∈ updateWhere q f t.adminOutbox, isAdminEvent row.eventType = true →
      row.availableAt ≤ clock + putOff row.attempts) :
    Sound { t with adminOutbox := updateWhere q f t.adminOutbox, deliveries := ledger } clock := by
  have hmoved : ∀ r ∈ t.adminOutbox, ∃ r' ∈ updateWhere q f t.adminOutbox,
      r'.eventId = r.eventId ∧ r'.eventType = r.eventType ∧ r'.tenantId = r.tenantId ∧
        r'.payload = r.payload := by
    intro r hr
    by_cases hq : q r
    · exact ⟨_, mem_updateWhere_of_pos hr hq, hf r⟩
    · exact ⟨r, mem_updateWhere_of_neg hr hq, rfl, rfl, rfl, rfl⟩
  refine ⟨?_, ?_, hledger, havailable, ?_⟩
  · exact nodup_map_updateWhere h.eventIds fun r _ => (hf r).1
  · intro l hl
    obtain ⟨r, hr, hid⟩ := hknown l hl
    obtain ⟨r', hr', hid', -⟩ := hmoved r hr
    exact ⟨r', hr', hid'.trans hid⟩
  · intro inv hinv
    obtain ⟨r, hr, htype, htenant, hpayload⟩ := h.invited inv hinv
    obtain ⟨r', hr', -, htype', htenant', hpayload'⟩ := hmoved r hr
    exact ⟨r', hr', htype'.trans htype, htenant'.trans htenant, hpayload' ▸ hpayload⟩

theorem Sound.commitDelivery (h : t.Sound clock) {row : OutboxRow} (hrow : row ∈ t.adminOutbox)
    (hadmin : isAdminEvent row.eventType = true) (now : Int) (sink : String) :
    (t.commitDelivery now row.eventId sink true).Sound clock := by
  have horigin : ∀ r' ∈ (t.commitDelivery now row.eventId sink true).adminOutbox,
      (r' ∈ t.adminOutbox ∧ r'.eventId ≠ row.eventId) ∨ r' = row.deliver now := by
    exact fun r' hr' => (mem_updateWhere_key h.eventIds hrow fun _ => Iff.rfl).mp hr'
  refine h.update (fun r => ⟨rfl, rfl, rfl, rfl⟩) ?_ ?_ ?_
  · exact forall_mem_append.mpr ⟨h.known, forall_mem_singleton.mpr ⟨row, hrow, rfl⟩⟩
  · intro r' hr' hadmin'
    rcases horigin r' hr' with ⟨hold, hother⟩ | rfl
    · rw [h.ledger r' hold hadmin']
      constructor
      · rintro ⟨l, hl, hid⟩
        exact ⟨l, mem_append_left _ hl, hid⟩
      · rintro ⟨l, hl, hid⟩
        rcases mem_inserted hl with hl | rfl
        · exact ⟨l, hl, hid⟩
        · exact absurd hid.symm hother
    · exact iff_of_true nofun ⟨_, mem_append_right _ (mem_singleton.mpr rfl), rfl⟩
  · intro r' hr' hadmin'
    rcases horigin r' hr' with ⟨hold, -⟩ | rfl
    · exact h.available r' hold hadmin'
    · exact Int.le_trans (h.available row hrow hadmin)
        (Int.add_le_add_left (putOff_mono (Nat.le_succ _)) _)

theorem Sound.book (h : t.Sound clock) {now : Int} (hnow : now ≤ clock) (eventId message : String) :
    (t.book now eventId message).Sound clock := by
  refine h.update (fun r => ⟨rfl, rfl, rfl, rfl⟩) h.known ?_ ?_
  · intro r' hr' hadmin
    rcases updateWhere_cases hr' with ⟨hold, -⟩ | ⟨r, hr, -, rfl⟩
    · exact h.ledger r' hold hadmin
    · exact h.ledger r hr hadmin
  · intro r' hr' hadmin
    rcases updateWhere_cases hr' with ⟨hold, -⟩ | ⟨r, hr, -, rfl⟩
    · exact h.available r' hold hadmin
    · exact Int.add_le_add_right hnow _

end OutboxTables

/-! ## Passes -/

/-- The row an attempt is about, while it runs and while its failure is booked. -/
def PassStage.row : PassStage → Option OutboxRow
  | .claimed _ row | .recorded _ row | .delivering _ row _ | .unmarked _ row _ | .marked _ row _
  | .failed row _ | .booking _ row _ => some row
  | .looking | .begun _ | .drained => none

/-- The instant the transaction under way began at. -/
def PassStage.instant : PassStage → Option Int
  | .begun now | .claimed now _ | .recorded now _ | .delivering now _ _ | .unmarked now _ _
  | .marked now _ _ | .booking now _ _ => some now
  | .looking | .failed _ _ | .drained => none

/-- The attempt found its event in the ledger. -/
def PassStage.repeated : PassStage → Bool
  | .unmarked _ _ false | .marked _ _ false => true
  | .looking | .begun _ | .claimed _ _ | .recorded _ _ | .delivering _ _ _ | .unmarked _ _ true
  | .marked _ _ true | .failed _ _ | .booking _ _ _ | .drained => false

/-- A pass against the tables: what it holds is there, undelivered, and an event of the
administration. -/
structure Pass.Fits (p : Pass) (t : OutboxTables) (clock : Int) : Prop where
  held : ∀ row ∈ p.stage.held, row ∈ t.adminOutbox ∧ row.deliveredAt = none
  admin : ∀ row ∈ p.stage.row, isAdminEvent row.eventType = true ∧
    ∃ r ∈ t.adminOutbox, r.eventId = row.eventId ∧ r.eventType = row.eventType
  first : p.stage.repeated = false
  delivery : ∀ now row delivery, p.stage = .delivering now row delivery →
    delivery.eventId = row.eventId
  instant : ∀ now ∈ p.stage.instant, p.startedAt ≤ now ∧ now ≤ clock
  started : p.startedAt ≤ clock

theorem PassStage.row_of_held {stage : PassStage} {row : OutboxRow} (h : row ∈ stage.held) :
    row ∈ stage.row := by
  cases stage with
  | claimed | recorded | delivering | unmarked | marked => exact h
  | looking | begun | failed | booking | drained => cases h

/-- A pass fits tables in which events have moved, as long as what it holds is as it was. -/
theorem Pass.Fits.onward {clock clock' : Int} (h : p.Fits t clock) (ht : t.Onward t')
    (hle : clock ≤ clock') (hheld : ∀ row ∈ p.stage.held, row ∈ t'.adminOutbox) :
    p.Fits t' clock' where
  held := fun row hrow => ⟨hheld row hrow, (h.held row hrow).2⟩
  admin := by
    intro row hrow
    obtain ⟨hadmin, r, hr, hid, htype⟩ := h.admin row hrow
    obtain ⟨r', hr', honward⟩ := ht r hr
    exact ⟨hadmin, r', hr', honward.eventId.trans hid, honward.eventType.trans htype⟩
  first := h.first
  delivery := h.delivery
  instant := fun now hnow => ⟨(h.instant now hnow).1, Int.le_trans (h.instant now hnow).2 hle⟩
  started := Int.le_trans h.started hle

/-- The tables and the passes over them; no row is held twice. -/
structure Outbox.Sound (m : Outbox) : Prop where
  tables : m.tables.Sound m.clock
  passIds : (m.passes.map Pass.passId).Nodup
  fits : ∀ p ∈ m.passes, p.Fits m.tables m.clock
  apart : ∀ p ∈ m.passes, ∀ q ∈ m.passes, ∀ row ∈ p.stage.held, ∀ row' ∈ q.stage.held,
    row.eventId = row'.eventId → p = q

namespace Outbox

variable {m : Outbox} {p' : Pass}

theorem locked_iff {eventId : String} : m.locked eventId = true ↔
    ∃ p ∈ m.passes, ∃ row ∈ p.stage.held, row.eventId = eventId := by
  simp [locked, Option.any_eq_true]

theorem mem_claimable {now : Int} {row : OutboxRow} : row ∈ m.claimable now ↔
    row ∈ m.tables.adminOutbox ∧ row.deliveredAt = none ∧ row.availableAt ≤ now ∧
      isAdminEvent row.eventType = true ∧ m.locked row.eventId = false := by
  simp [claimable, OutboxRow.due, and_assoc]

/-- A statement that leaves the held rows alone keeps everything. -/
theorem Sound.move (h : m.Sound) {clock' : Int} (ht' : t'.Sound clock')
    (honward : m.tables.Onward t') (hle : m.clock ≤ clock')
    (hheld : ∀ p ∈ m.passes, ∀ row ∈ p.stage.held, row ∈ t'.adminOutbox)
    (accepted orphans : List AdminOutboxDelivery) :
    Sound ⟨clock', t', m.passes, accepted, orphans⟩ where
  tables := ht'
  passIds := h.passIds
  fits := fun p hp => (h.fits p hp).onward honward hle (hheld p hp)
  apart := h.apart

/-- A pass that goes on keeps everything when it fits the tables as they are and holds nothing
another pass holds. -/
theorem Sound.setPass (h : m.Sound) (hid : p'.passId = p.passId) (hfits : p'.Fits m.tables m.clock)
    (halone : ∀ row ∈ p'.stage.held, ∀ q ∈ m.passes, q ≠ p → ∀ row' ∈ q.stage.held,
      row.eventId ≠ row'.eventId) : (m.setPass p.passId p').Sound where
  tables := h.tables
  passIds := by
    have hkeys : (m.setPass p.passId p').passes.map Pass.passId = m.passes.map Pass.passId :=
      map_updateWhere fun r hr => hid.trans hr.symm
    rw [hkeys]
    exact h.passIds
  fits := by
    intro q hq
    rcases updateWhere_cases hq with ⟨hold, -⟩ | ⟨r, -, -, rfl⟩
    · exact h.fits q hold
    · exact hfits
  apart := by
    intro q hq r hr row hrow row' hrow' hsame
    rcases updateWhere_cases hq with ⟨hold, hother⟩ | ⟨_, -, -, rfl⟩
    · rcases updateWhere_cases hr with ⟨hold', hother'⟩ | ⟨_, -, -, rfl⟩
      · exact h.apart q hold r hold' row hrow row' hrow' hsame
      · refine absurd hsame.symm (halone row' hrow' q hold ?_ row hrow)
        exact fun heq => hother (heq ▸ rfl)
    · rcases updateWhere_cases hr with ⟨hold', hother'⟩ | ⟨_, -, -, rfl⟩
      · refine absurd hsame (halone row hrow r hold' ?_ row' hrow')
        exact fun heq => hother' (heq ▸ rfl)
      · rfl

theorem Sound.goesOn (h : m.Sound) (hp : p ∈ m.passes) (hid : p'.passId = p.passId)
    (hfits : p'.Fits m.tables m.clock) (hheld : ∀ row ∈ p'.stage.held, row ∈ p.stage.held) :
    (m.setPass p.passId p').Sound := by
  refine h.setPass hid hfits ?_
  intro row hrow q hq hne row' hrow' hsame
  exact hne (h.apart p hp q hq row (hheld row hrow) row' hrow' hsame).symm

theorem Sound.letsGo (h : m.Sound) (hp : p ∈ m.passes) (hid : p'.passId = p.passId)
    (hfits : p'.Fits m.tables m.clock) (hfree : p'.stage.held = none) :
    (m.setPass p.passId p').Sound := by
  refine h.goesOn hp hid hfits ?_
  rw [hfree]
  exact nofun

theorem fits_idle {t : OutboxTables} {clock : Int} (h : p.Fits t clock)
    (hstarted : p'.startedAt = p.startedAt) (hrow : p'.stage.row = none)
    (hinstant : ∀ now ∈ p'.stage.instant, now = clock) : p'.Fits t clock where
  held := by
    intro row hheld
    have := PassStage.row_of_held hheld
    rw [hrow] at this
    cases this
  admin := by
    intro row habout
    rw [hrow] at habout
    cases habout
  first := by
    cases hstage : p'.stage with
    | looking | begun | failed | booking | drained | claimed | recorded | delivering => rfl
    | unmarked | marked =>
      rw [hstage] at hrow
      cases hrow
  delivery := by
    intro now row delivery hstage
    rw [hstage] at hrow
    cases hrow
  instant := by
    intro now hnow
    rw [hinstant now hnow, hstarted]
    exact ⟨h.started, Int.le_refl _⟩
  started := hstarted ▸ h.started

theorem fits_same {t : OutboxTables} {clock : Int} (h : p.Fits t clock)
    (hstarted : p'.startedAt = p.startedAt) (hrow : p'.stage.row = p.stage.row)
    (hheld : ∀ row ∈ p'.stage.held, row ∈ p.stage.held) (hfirst : p'.stage.repeated = false)
    (hdelivery : ∀ now row delivery, p'.stage = .delivering now row delivery →
      delivery.eventId = row.eventId)
    (hinstant : ∀ now ∈ p'.stage.instant, now ∈ p.stage.instant ∨ now = clock) :
    p'.Fits t clock where
  held := fun row hrow => h.held row (hheld row hrow)
  admin := by
    rw [hrow]
    exact h.admin
  first := hfirst
  delivery := hdelivery
  instant := by
    intro now hnow
    rw [hstarted]
    rcases hinstant now hnow with hsame | rfl
    · exact h.instant now hsame
    · exact ⟨h.started, Int.le_refl _⟩
  started := hstarted ▸ h.started

theorem of_pass {passId : Nat} (h : m.pass passId = some p) : p ∈ m.passes ∧ p.passId = passId :=
  of_find?_eq_some h

theorem Sound.holdsOn (h : m.Sound) (hp : p ∈ m.passes) (hid : p'.passId = p.passId)
    (hstarted : p'.startedAt = p.startedAt) (hheld : p'.stage.held = p.stage.held)
    (hrow : p'.stage.row = p.stage.row) (hinstant : p'.stage.instant = p.stage.instant)
    (hfirst : p'.stage.repeated = false)
    (hdelivery : ∀ now row delivery, p'.stage = .delivering now row delivery →
      delivery.eventId = row.eventId) : (m.setPass p.passId p').Sound := by
  have hkept : ∀ row ∈ p'.stage.held, row ∈ p.stage.held := fun row hr => hheld ▸ hr
  refine h.goesOn hp hid (fits_same (h.fits p hp) hstarted hrow hkept hfirst hdelivery ?_) hkept
  exact fun now hnow => .inl (hinstant ▸ hnow)

/-! ## One event -/

theorem Sound.with_log (h : m.Sound) (accepted orphans : List AdminOutboxDelivery) :
    Sound { m with accepted := accepted, orphans := orphans } :=
  h.move h.tables (fun row hrow => ⟨row, hrow, .refl row⟩) (Int.le_refl _)
    (fun p hp row hrow => ((h.fits p hp).held row hrow).1) accepted orphans

theorem Sound.settle (h : m.Sound) (hp : p ∈ m.passes) (p' : Pass) (hid : p'.passId = p.passId)
    (hfits : p'.Fits m.tables m.clock) (hfree : p'.stage.held = none) (ht' : t'.Sound m.clock)
    (honward : m.tables.Onward t')
    (hheld : ∀ q ∈ m.passes, q.passId ≠ p.passId → ∀ row ∈ q.stage.held, row ∈ t'.adminOutbox) :
    Sound ({ m with tables := t' }.setPass p.passId p') := by
  refine (h.letsGo hp hid hfits hfree).move ht' honward (Int.le_refl _) ?_ m.accepted m.orphans
  intro q hq row hrow
  rcases updateWhere_cases hq with ⟨hold, hother⟩ | ⟨_, -, -, rfl⟩
  · exact hheld q hold hother row hrow
  · rw [hfree] at hrow
    cases hrow

theorem Sound.commitDelivery (h : m.Sound) (hp : p ∈ m.passes) (p' : Pass)
    (hid : p'.passId = p.passId) (hfits : p'.Fits m.tables m.clock) (hfree : p'.stage.held = none)
    {now : Int} {row : OutboxRow} {firstDelivery : Bool}
    (hstage : p.stage = .marked now row firstDelivery) : firstDelivery = true ∧
      m.tables.Onward (m.tables.commitDelivery now row.eventId p.sink firstDelivery) ∧
      Sound ({ m with
        tables := m.tables.commitDelivery now row.eventId p.sink firstDelivery }.setPass
          p.passId p') := by
  have hheld : row ∈ p.stage.held := by rw [hstage]; rfl
  obtain ⟨hrow, hundelivered⟩ := (h.fits p hp).held row hheld
  obtain ⟨hadmin, -⟩ := (h.fits p hp).admin row (PassStage.row_of_held hheld)
  have hfirst : firstDelivery = true := by
    have := (h.fits p hp).first
    rw [hstage] at this
    cases firstDelivery with
    | true => rfl
    | false => cases this
  subst hfirst
  have honward : m.tables.Onward (m.tables.commitDelivery now row.eventId p.sink true) := by
    refine .of_updateWhere (q := fun r : OutboxRow => r.eventId = row.eventId)
      (f := OutboxRow.deliver now) rfl ?_
    intro r hr hkey
    rw [eq_of_key h.tables.eventIds hr hrow hkey]
    exact OutboxRow.onward_deliver hundelivered now
  refine ⟨rfl, honward, h.settle hp p' hid hfits hfree
    (h.tables.commitDelivery hrow hadmin now p.sink) honward ?_⟩
  intro q hq hother r hr
  refine mem_updateWhere_of_neg ((h.fits q hq).held r hr).1 ?_
  intro hsame
  exact hother (congrArg Pass.passId (h.apart q hq p hp r hr row hheld hsame))

theorem Sound.turned (h : m.Sound) (hp : p ∈ m.passes) {turn : Turn} {m' : Outbox}
    (hturn : m.Turned p turn m' p') :
    (m'.setPass p.passId p').Sound ∧ m.tables.Onward m'.tables := by
  have hfits := h.fits p hp
  have hrefl : m.tables.Onward m.tables := fun row hrow => ⟨row, hrow, .refl row⟩
  have hfail : ∀ row message, p.stage.row = some row → (p.failWith row message).Fits m.tables
      m.clock := by
    intro row message hrow
    refine fits_same hfits rfl hrow.symm ?_ rfl ?_ ?_
    · intro r hr
      cases hr
    · intro _ _ _ hstage
      cases hstage
    · intro now hnow
      cases hnow
  have hidle : ∀ q : Pass, q.startedAt = p.startedAt → q.stage = .looking →
      q.Fits m.tables m.clock := by
    intro q hstarted hstage
    refine fits_idle hfits hstarted (by rw [hstage]; rfl) ?_
    rw [hstage]
    exact nofun
  cases hturn with
  | begins stage more =>
    refine ⟨h.letsGo hp rfl (fits_idle hfits rfl rfl ?_) rfl, hrefl⟩
    intro now hnow
    cases hnow
    rfl
  | @claims now row stage mem first =>
    obtain ⟨hmem, hundelivered, -, hadmin, hlocked⟩ := mem_claimable.mp mem
    refine ⟨h.setPass rfl ⟨?_, ?_, rfl, ?_, ?_, hfits.started⟩ ?_, hrefl⟩
    · intro r hr
      cases hr
      exact ⟨hmem, hundelivered⟩
    · intro r hr
      cases hr
      exact ⟨hadmin, row, hmem, rfl, rfl⟩
    · intro _ _ _ hstage
      cases hstage
    · intro instant hinstant
      cases hinstant
      exact hfits.instant now (by rw [stage]; rfl)
    · intro r hr q hq _ row' hrow' hsame
      cases hr
      have hheld := locked_iff.mpr ⟨q, hq, row', hrow', hsame.symm⟩
      rw [hlocked] at hheld
      cases hheld
  | drains stage none => exact ⟨h.letsGo hp rfl (fits_idle hfits rfl rfl nofun) rfl, hrefl⟩
  | @finds now row stage found =>
    have hheld : row ∈ p.stage.held := by rw [stage]; rfl
    obtain ⟨hrow, hundelivered⟩ := hfits.held row hheld
    obtain ⟨hadmin, -⟩ := hfits.admin row (PassStage.row_of_held hheld)
    exact absurd hundelivered ((h.tables.ledger row hrow hadmin).mpr found)
  | records stage =>
    refine ⟨h.holdsOn hp rfl rfl (stage ▸ rfl) (stage ▸ rfl) (stage ▸ rfl) rfl ?_, hrefl⟩
    intro _ _ _ hstage
    cases hstage
  | hands stage =>
    refine ⟨h.holdsOn hp rfl rfl (stage ▸ rfl) (stage ▸ rfl) (stage ▸ rfl) rfl ?_, hrefl⟩
    intro _ _ _ hstage
    cases hstage
    rfl
  | @accepts now row delivery stage =>
    refine ⟨(h.with_log (m.accepted ++ [delivery]) m.orphans).holdsOn hp rfl rfl (stage ▸ rfl)
      (stage ▸ rfl) (stage ▸ rfl) rfl ?_, hrefl⟩
    intro _ _ _ hstage
    cases hstage
  | @refuses now row delivery message stage =>
    exact ⟨h.letsGo hp rfl (hfail row message (by rw [stage]; rfl)) rfl, hrefl⟩
  | @marks now row firstDelivery stage =>
    refine ⟨h.holdsOn hp rfl rfl (stage ▸ rfl) (stage ▸ rfl) (stage ▸ rfl) ?_ ?_, hrefl⟩
    · have hfirst := hfits.first
      rw [stage] at hfirst
      cases firstDelivery with
      | true => rfl
      | false => cases hfirst
    · intro _ _ _ hstage
      cases hstage
  | @commits now row firstDelivery stage =>
    obtain ⟨-, honward, hsound⟩ := h.commitDelivery hp (p.countCommitted firstDelivery).goOn rfl
      (hidle _ rfl rfl) rfl stage
    exact ⟨hsound, honward⟩
  | @commitsUnheard now row firstDelivery message stage =>
    obtain ⟨-, honward, hsound⟩ := h.commitDelivery hp (p.failWith row message) rfl
      (hfail row message (by rw [stage]; rfl)) rfl stage
    exact ⟨hsound, honward⟩
  | failsEarly message stage => exact ⟨h.letsGo hp rfl (hidle _ rfl rfl) rfl, hrefl⟩
  | @fails row message stage =>
    exact ⟨h.letsGo hp rfl (hfail row message (PassStage.row_of_held stage)) rfl, hrefl⟩
  | @abandons now row delivery message stage =>
    exact ⟨(h.with_log m.accepted (m.orphans ++ [delivery])).letsGo hp rfl
      (hfail row message (by rw [stage]; rfl)) rfl, hrefl⟩
  | @beginsBooking row message stage =>
    have hbegun : Pass.Fits { p with stage := .booking m.clock row message } m.tables m.clock := by
      refine fits_same hfits rfl (by rw [stage]; rfl) ?_ rfl ?_ ?_
      · intro r hr
        cases hr
      · intro _ _ _ hstage
        cases hstage
      · intro now hnow
        cases hnow
        exact .inr rfl
    exact ⟨h.letsGo hp rfl hbegun rfl, hrefl⟩
  | @books now row message stage free =>
    have hnow : now ≤ m.clock := (hfits.instant now (by rw [stage]; rfl)).2
    have honward : m.tables.Onward (m.tables.book now row.eventId message) :=
      .of_updateWhere (q := fun r : OutboxRow => r.eventId = row.eventId ∧ r.deliveredAt = none)
        (f := OutboxRow.book now message) rfl fun r _ _ => r.onward_book now message
    refine ⟨h.settle hp p.goOn rfl (hidle _ rfl rfl) rfl
      (h.tables.book hnow row.eventId message) honward ?_, honward⟩
    intro q hq _ r hr
    refine mem_updateWhere_of_neg ((h.fits q hq).held r hr).1 ?_
    intro hbooked
    have hheld := locked_iff.mpr ⟨q, hq, r, hr, hbooked.1⟩
    rw [free] at hheld
    cases hheld
  | bookingFails stage => exact ⟨h.letsGo hp rfl (hidle _ rfl rfl) rfl, hrefl⟩

theorem enqueue_onward (t : OutboxTables) (now : Int) (eventId tenantId eventType : String)
    (payload : List (String × String)) (invitations : List StaffInvitation)
    (mutations : List MutationRecord) :
    t.Onward { enqueueAdminOutboxEvent now eventId tenantId eventType payload t with
      invitations := invitations, mutations := mutations } :=
  .of_sublist fun _ hrow => mem_append_left _ hrow

theorem Sound.elsewhere (h : m.Sound) (row : OutboxRow) (delivery : Option String) :
    (m.elsewhere row delivery).Sound ∧ m.tables.Onward (m.elsewhere row delivery).tables := by
  unfold Outbox.elsewhere
  split
  · exact ⟨h, fun r hr => ⟨r, hr, .refl r⟩⟩
  rename_i hother
  have hkeeps : ∀ r ∈ m.tables.adminOutbox, isAdminEvent r.eventType = true →
      ¬ (r.eventId = row.eventId ∧ r.eventType = row.eventType) := by
    rintro r - hadmin ⟨-, htype⟩
    exact hother (htype ▸ hadmin)
  generalize hledger : (m.tables.deliveries ++ _ : List DeliveryRow) = ledger
  have hextends : ∀ l ∈ ledger, l ∈ m.tables.deliveries ∨
      l.eventId = row.eventId ∧ ∃ old ∈ m.tables.adminOutbox, old.eventId = row.eventId ∧
        old.eventType = row.eventType := by
    subst hledger
    intro l hl
    rcases mem_append.mp hl with hl | hl
    · exact .inl hl
    · split at hl
      · split at hl
        · rename_i hcondition
          rw [Bool.and_eq_true, any_eq_true] at hcondition
          obtain ⟨⟨old, hold, hsame⟩, -⟩ := hcondition
          rw [Bool.and_eq_true, decide_eq_true_eq, decide_eq_true_eq] at hsame
          rw [mem_singleton] at hl
          subst hl
          exact .inr ⟨rfl, old, hold, hsame⟩
        · cases hl
      · cases hl
  have hgrows : ∀ l ∈ m.tables.deliveries, l ∈ ledger := by
    subst hledger
    exact fun l hl => mem_append_left _ hl
  have honward : m.tables.Onward { m.tables with
      adminOutbox := updateWhere
        (fun old : OutboxRow => old.eventId = row.eventId ∧ old.eventType = row.eventType)
        (fun _ => row) m.tables.adminOutbox
      deliveries := ledger } := by
    refine .of_updateWhere
      (q := fun old : OutboxRow => old.eventId = row.eventId ∧ old.eventType = row.eventType)
      (f := fun _ => row) rfl ?_
    intro r hr hmatch
    exact ⟨hmatch.1.symm, hmatch.2.symm, fun hadmin => absurd hmatch (hkeeps r hr hadmin)⟩
  refine ⟨h.move ⟨?_, ?_, ?_, ?_, ?_⟩ honward (Int.le_refl _) ?_ m.accepted m.orphans, honward⟩
  · have hkeys : (updateWhere
        (fun old : OutboxRow => old.eventId = row.eventId ∧ old.eventType = row.eventType)
        (fun _ => row) m.tables.adminOutbox).map OutboxRow.eventId =
        m.tables.adminOutbox.map OutboxRow.eventId :=
      map_updateWhere fun r hmatch => hmatch.1.symm
    rw [hkeys]
    exact h.tables.eventIds
  · intro l hl
    rcases hextends l hl with hold | ⟨hid, old, hold, hmatch⟩
    · obtain ⟨r, hr, hid⟩ := h.tables.known l hold
      obtain ⟨r', hr', hon⟩ := honward r hr
      exact ⟨r', hr', hon.eventId.trans hid⟩
    · obtain ⟨r', hr', hon⟩ := honward old hold
      exact ⟨r', hr', hon.eventId.trans (hmatch.1.trans hid.symm)⟩
  · intro r' hr' hadmin
    rcases updateWhere_cases hr' with ⟨hold, hmissed⟩ | ⟨r, -, -, rfl⟩
    · rw [h.tables.ledger r' hold hadmin]
      constructor
      · rintro ⟨l, hl, hid⟩
        exact ⟨l, hgrows l hl, hid⟩
      · rintro ⟨l, hl, hid⟩
        rcases hextends l hl with hl | ⟨hkey, old, hmem, hmatch⟩
        · exact ⟨l, hl, hid⟩
        · have hsame : old = r' := eq_of_key h.tables.eventIds hmem hold
            (hmatch.1.trans (hkey.symm.trans hid))
          exact absurd (hsame ▸ hmatch) hmissed
    · exact absurd hadmin hother
  · intro r' hr' hadmin
    rcases updateWhere_cases hr' with ⟨hold, -⟩ | ⟨r, -, -, rfl⟩
    · exact h.tables.available r' hold hadmin
    · exact absurd hadmin hother
  · intro inv hinv
    obtain ⟨r, hr, hannounced⟩ := h.tables.invited inv hinv
    refine ⟨r, mem_updateWhere_of_neg hr (hkeeps r hr ?_), hannounced⟩
    rw [hannounced.1]
    exact isAdminEvent_created
  · intro p hp r hr
    refine mem_updateWhere_of_neg ((h.fits p hp).held r hr).1 (hkeeps r ((h.fits p hp).held r hr).1 ?_)
    exact ((h.fits p hp).admin r (PassStage.row_of_held hr)).1

theorem Sound.step (h : m.Sound) (e : OutboxEvent) :
    (m.step e).Sound ∧ m.tables.Onward (m.step e).tables := by
  have hrefl : m.tables.Onward m.tables := fun row hrow => ⟨row, hrow, .refl row⟩
  have hheld : ∀ p ∈ m.passes, ∀ row ∈ p.stage.held, row ∈ m.tables.adminOutbox :=
    fun p hp row hrow => ((h.fits p hp).held row hrow).1
  cases e with
  | tick elapsed =>
    have hle : m.clock ≤ m.clock + elapsed := by omega
    exact ⟨h.move (h.tables.later hle) hrefl hle hheld m.accepted m.orphans, hrefl⟩
  | invite w input =>
    simp only [Outbox.step]
    split
    · rename_i hfree
      have honward : m.tables.Onward
          (committed m.tables (createStaffInvitation w m.clock input m.tables)) := by
        refine committed_induction (P := m.tables.Onward) hrefl ?_
        intro out t' hok
        rcases OutboxTables.createStaffInvitation_cases hok with
          rfl | ⟨inv, -, -, mutations, rfl⟩
        · exact hrefl
        · exact enqueue_onward m.tables _ _ _ _ _ _ _
      refine ⟨h.move (h.tables.createStaffInvitation w input hfree) honward (Int.le_refl _) ?_
        m.accepted m.orphans, honward⟩
      intro p hp row hrow
      refine committed_induction (P := fun t : OutboxTables => row ∈ t.adminOutbox)
        (hheld p hp row hrow) ?_
      intro out t' hok
      rcases OutboxTables.createStaffInvitation_cases hok with
        rfl | ⟨inv, -, -, mutations, rfl⟩
      · exact hheld p hp row hrow
      · exact mem_append_left _ (hheld p hp row hrow)
    · exact ⟨h, hrefl⟩
  | revokeInvitation access actor tenantId invitationId =>
    have hsame : (committed m.tables
        (revokeStaffInvitation access actor tenantId invitationId m.tables)).adminOutbox =
        m.tables.adminOutbox := by
      refine committed_induction
        (P := fun t : OutboxTables => t.adminOutbox = m.tables.adminOutbox) rfl ?_
      intro version t' hok
      exact (OutboxTables.revokeStaffInvitation_cases hok).1
    have honward : m.tables.Onward (committed m.tables
        (revokeStaffInvitation access actor tenantId invitationId m.tables)) :=
      .of_sublist fun row hrow => hsame ▸ hrow
    exact ⟨h.move (h.tables.revokeStaffInvitation access actor tenantId invitationId) honward
      (Int.le_refl _) (fun p hp row hrow => hsame ▸ hheld p hp row hrow) m.accepted m.orphans,
      honward⟩
  | enqueue newEventId tenantId eventType payload =>
    simp only [Outbox.step]
    split
    · rename_i hfree
      have honward := enqueue_onward m.tables m.clock newEventId tenantId eventType payload
        m.tables.invitations m.tables.mutations
      exact ⟨h.move (h.tables.enqueue hfree tenantId eventType payload) honward (Int.le_refl _)
        (fun p hp row hrow => mem_append_left _ (hheld p hp row hrow)) m.accepted m.orphans,
        honward⟩
    · exact ⟨h, hrefl⟩
  | elsewhere row delivery => exact h.elsewhere row delivery
  | dispatch passId limit sink =>
    simp only [Outbox.step]
    split
    · exact ⟨h, hrefl⟩
    rename_i hnew
    refine ⟨⟨h.tables, ?_, ?_, ?_⟩, hrefl⟩
    · refine nodup_key_insert h.passIds ?_
      intro p hp hid
      refine hnew (.inl ?_)
      rw [pass, find?_isSome]
      exact ⟨p, hp, decide_eq_true hid⟩
    · intro p hp
      rcases mem_inserted hp with hold | rfl
      · exact h.fits p hold
      · refine ⟨nofun, nofun, rfl, ?_, nofun, Int.le_refl _⟩
        intro _ _ _ hstage
        cases hstage
    · intro p hp q hq row hrow row' hrow' hsame
      rcases mem_inserted hp with hp | rfl
      · rcases mem_append.mp hq with hq | hq
        · exact h.apart p hp q hq row hrow row' hrow' hsame
        · obtain rfl := mem_singleton.mp hq
          cases hrow'
      · cases hrow
  | turn passId turn =>
    simp only [Outbox.step]
    split
    · exact ⟨h, hrefl⟩
    rename_i p hpass
    obtain ⟨hp, rfl⟩ := of_pass hpass
    split
    · exact ⟨h, hrefl⟩
    · rename_i m' p' hturn
      exact h.turned hp (Outbox.turned hturn)
  | orphanAccepted delivery =>
    simp only [Outbox.step]
    split
    · exact ⟨h.with_log _ _, hrefl⟩
    · exact ⟨h, hrefl⟩

theorem start_sound (clock : Int) : (start clock).Sound :=
  ⟨⟨nodup_nil, forall_mem_nil _, forall_mem_nil _, forall_mem_nil _,
    forall_mem_nil _⟩, nodup_nil, forall_mem_nil _, forall_mem_nil _⟩

theorem run_onward (h : m.Sound) (es : List OutboxEvent) :
    m.tables.Onward (run Outbox.step m es).tables := by
  induction es generalizing m with
  | nil => exact fun row hrow => ⟨row, hrow, .refl row⟩
  | cons e es ih =>
    obtain ⟨hsound, honward⟩ := h.step e
    intro row hrow
    obtain ⟨row₁, hrow₁, hfirst⟩ := honward row hrow
    obtain ⟨row₂, hrow₂, hrest⟩ := ih hsound row₁ hrow₁
    exact ⟨row₂, hrow₂, hfirst.trans hrest⟩

end Outbox

end Dealership.Identity
