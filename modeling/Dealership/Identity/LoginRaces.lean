import Dealership.Identity.LoginMoves
import Dealership.Library.Census

/-!
# Logins side by side

Callbacks, successes, failures and sweeps race for the row of a login.  Each locks the
row before it judges it, or judges it in the statement that writes it, so whatever it
commits it does to the row as it is when it commits.

An id is drawn by the database and handed out with the commit that opens the login, so
no callback names a login that is still being opened.
-/

namespace Dealership.Identity

open Library List

/-! ## The contract -/

/-- What a transaction relies on: the rows it has locked, that ids whose index entries it
has taken stay free, and that the login it names, if there is none, is not opened. -/
structure Kept (c : LoginCall) (held : List LoginLock) (d d' : LoginStore) : Prop where
  rows : ∀ x, .row x ∈ held → ∀ t, loginTransaction x d = some t → loginTransaction x d' = some t
  entries : ∀ x, .entry x ∈ held → NewLogin x d → NewLogin x d'
  unseen : ∀ x, c.handle = some x → NewLogin x d → NewLogin x d'

theorem Kept.refl (c : LoginCall) (held : List LoginLock) (d : LoginStore) : Kept c held d d :=
  ⟨fun _ _ _ h => h, fun _ _ h => h, fun _ _ h => h⟩

theorem Kept.trans {c : LoginCall} {held : List LoginLock} {a b e : LoginStore}
    (hab : Kept c held a b) (hbe : Kept c held b e) : Kept c held a e :=
  ⟨fun x hx t h => hbe.rows x hx t (hab.rows x hx t h),
    fun x hx h => hbe.entries x hx (hab.entries x hx h),
    fun x hx h => hbe.unseen x hx (hab.unseen x hx h)⟩

def logins : Contract LoginCall LoginStore LoginLock Raise LoginAnswer where
  inv := Recorded
  rely := Kept
  finds := fun _ _ _ => True
  ensures := fun c held answer d d' => LoginMoves held c answer d d'
  mayRaise := fun _ _ => True

instance {c : LoginCall} : logins.Tolerant c := ⟨fun _ => trivial⟩

def Apart (a b : LoginCall) : Prop := ∀ x ∈ a.opens, b.handle ≠ some x

instance (a b : LoginCall) : Decidable (Apart a b) :=
  inferInstanceAs (Decidable (∀ x ∈ a.opens, b.handle ≠ some x))

section Calls

variable {B : Type} {g : B → LoginAnswer} {c : LoginCall} {held : List LoginLock} {d : LoginStore}
  {b : B}

theorem sound_moves {pending : LoginStore → LoginStore}
    (h : ∀ d', Kept c held d d' → Recorded d' → LoginMoves held c (g b) d' (pending d')) :
    (logins.onAnswers g).Sound c (pure b) held pending d := by
  intro d' hr hi _
  have hmoves := h d' hr hi
  exact ⟨hi.moves hmoves, hmoves⟩

theorem sound_idle (idle : (g b).idle = true) (unseen : ∀ x, c.handle = some x → NewLogin x d) :
    (logins.onAnswers g).Sound c (pure b) held (fun x => x) d :=
  sound_moves fun _ hr _ => .idles idle fun x hx => hr.unseen x hx (unseen x hx)

theorem sound_audit {t : LoginTransaction} {f : LoginTransaction → LoginTransaction}
    {tenantId userLinkId : Option String} {eventType : LoginEventType} {purpose : LoginPurpose}
    {reason : Option FailureReason} {id : String} (lock : .row t.loginTxnId ∈ held)
    (found : loginTransaction t.loginTxnId d = some t)
    (move : ∀ d' more, .row t.loginTxnId ∈ more → loginTransaction t.loginTxnId d' = some t →
      LoginMoves more c (g b) d' (d'.advance t.loginTxnId f
        ⟨id, tenantId.getD nilTenant, userLinkId, eventType, purpose, none, reason⟩)) :
    (logins.onAnswers g).Sound c
      (auditLogin id tenantId userLinkId eventType purpose none reason >>= fun _ => pure b) held
      (fun x => x.setRow t.loginTxnId f) d := by
  refine sound_execute_bind fun d₁ more hsub _ hr _ _ _ => ?_
  refine sound_moves fun d₂ hr₂ _ => ?_
  exact move d₂ more (hsub _ lock) (hr₂.rows _ (hsub _ lock) _ (hr.rows _ lock _ found))

theorem sound_fail {b : Bool → B} {t : LoginTransaction} {now : Int} {reason : FailureReason}
    (lock : .row t.loginTxnId ∈ held) (found : loginTransaction t.loginTxnId d = some t)
    (live : t.status.live = true) (fails : Fails c (g (b true)) t reason) :
    (logins.onAnswers g).Sound c
      (failLoginTransactionWithin now t.loginTxnId reason >>= fun r => pure (b r)) held
      (fun x => x) d := by
  unfold failLoginTransactionWithin updateOne
  rw [Script.bind_assoc]
  refine sound_execute_bind fun d₁ more hsub _ hr hi _ _ => ?_
  have hfound := hr.rows _ lock _ found
  have hpick : d₁.transactions.find? (fun u =>
      u.loginTxnId = t.loginTxnId && u.status.live) = some t := by
    refine find?_of_imp hfound (by simp [live]) fun u hu => ?_
    rw [Bool.and_eq_true] at hu
    exact hu.1
  dsimp only
  rw [hpick]
  exact sound_audit (hsub _ lock) hfound fun d' more' hlock hfound' =>
    .fails hlock hfound' live fails

end Calls

/-! ## Each call keeps the contract -/

theorem startLoginTransaction_sound (w : StartWorld) (input : StartInput) (d : LoginStore) :
    (logins.onAnswers .started).Sound (.start w input) (startLoginTransaction w input) []
      (fun x => x) d := by
  unfold startLoginTransaction
  refine sound_execute_bind fun d₁ held₁ _ hlocks₁ _ _ _ haccepts => ?_
  have hlock : LoginLock.entry w.newLoginTxnId ∈ held₁ := hlocks₁ _ mem_cons_self
  have hnew : NewLogin w.newLoginTxnId d₁ := by
    intro u hu hid
    rw [Bool.and_eq_true, all_eq_true] at haccepts
    have hother := haccepts.2 u hu
    rw [Bool.and_eq_true, decide_eq_true_eq] at hother
    exact hother.1 hid
  refine sound_execute_bind fun d₂ held₂ hsub₂ _ hr₂ _ _ _ => ?_
  refine sound_moves fun d₃ hr₃ _ => ?_
  exact .starts (hsub₂ _ hlock) (hr₃.entries _ (hsub₂ _ hlock) (hr₂.entries _ hlock hnew))

theorem failLoginTransaction_sound (now : Int) (id : String) (reason : FailureReason)
    (d : LoginStore) :
    (logins.onAnswers .failure).Sound (.fail now id reason) (failLoginTransaction now id reason)
      [] (fun x => x) d := by
  unfold failLoginTransaction failLoginTransactionWithin updateOne
  refine sound_execute_bind fun d₁ held₁ _ hlocks₁ _ hi₁ _ _ => ?_
  dsimp only at hlocks₁ ⊢
  cases hpick : d₁.transactions.find? fun t => t.loginTxnId = id && t.status.live with
  | none => exact sound_idle rfl fun _ h => nomatch h
  | some t =>
    rw [hpick] at hlocks₁
    have hcond := find?_some hpick
    simp only [Bool.and_eq_true, decide_eq_true_eq] at hcond
    obtain ⟨rfl, hlive⟩ := hcond
    exact sound_audit (hlocks₁ _ mem_cons_self)
      (hi₁.found (mem_of_find?_eq_some hpick)) fun d' more hlock hfound =>
        .fails hlock hfound hlive .reported

theorem mem_of_oldest {ts : List LoginTransaction} {t : LoginTransaction}
    (h : best (fun a b : LoginTransaction => a.expiresAt < b.expiresAt) ts = some t) : t ∈ ts := by
  have htrans : ∀ x y z : LoginTransaction, decide (x.expiresAt < y.expiresAt) = true →
      decide (y.expiresAt < z.expiresAt) = true → decide (x.expiresAt < z.expiresAt) = true := by
    intro x y z hxy hyz
    rw [decide_eq_true_eq] at hxy hyz ⊢
    exact Int.lt_trans hxy hyz
  have hirrefl : ∀ x : LoginTransaction, decide (x.expiresAt < x.expiresAt) = false :=
    fun x => decide_eq_false (Int.lt_irrefl x.expiresAt)
  have hspec := best_spec htrans hirrefl ts
  rw [h] at hspec
  exact hspec.1

theorem ageOne_sound (sweep : Nat) (now : Int) (locked : List String) (d : LoginStore) :
    (logins.onAnswers .aged).Sound (.age sweep now locked) (ageOne now locked) [] (fun x => x)
      d := by
  unfold ageOne updateOne
  refine sound_execute_bind fun d₁ held₁ _ hlocks₁ _ hi₁ _ _ => ?_
  dsimp only at hlocks₁ ⊢
  cases hbest : best (fun a b : LoginTransaction => a.expiresAt < b.expiresAt)
      (staleTransactions now locked d₁) with
  | none => exact sound_idle rfl fun _ h => nomatch h
  | some t =>
    rw [hbest] at hlocks₁
    obtain ⟨ht, hstale⟩ := mem_filter.mp (mem_of_oldest hbest)
    simp only [Bool.and_eq_true, decide_eq_true_eq] at hstale
    exact sound_audit (hlocks₁ _ mem_cons_self) (hi₁.found ht)
      fun d' more hlock hfound => .fails hlock hfound hstale.1.1 (.aged hstale.1.2)

theorem succeedLoginTransaction_sound (w : SuccessWorld) (input : AdmittedLoginIdentity)
    (d : LoginStore) :
    (logins.onAnswers .success).Sound (.succeed w input) (succeedLoginTransaction w input) []
      (fun x => x) d := by
  unfold succeedLoginTransaction succeedLoginTransactionWithin
  intro d₁ _ hi₁ _
  dsimp only
  cases hpick : d₁.transactions.find? (input.completes w) with
  | none =>
    refine sound_select_bind fun d₂ _ _ _ => ?_
    exact sound_idle rfl fun _ h => nomatch h
  | some t =>
    have hcompletes := find?_some hpick
    have hid : t.loginTxnId = input.loginTxnId := by
      simp only [AdmittedLoginIdentity.completes, Bool.and_eq_true, decide_eq_true_eq] at hcompletes
      exact hcompletes.1.1.1.1
    dsimp only
    split
    · exact trivial
    refine sound_audit mem_cons_self (hi₁.found (mem_of_find?_eq_some hpick)) ?_
    intro d' more hlock hfound
    rw [← hid]
    exact .succeeds hlock hfound hcompletes

theorem claimLoginTransactionAtomically_sound (now : Int) (input : LoginClaim) (d : LoginStore) :
    (logins.onAnswers .claim).Sound (.claim now input)
      (claimLoginTransactionAtomically now input) [] (fun x => x) d := by
  unfold claimLoginTransactionAtomically
  split
  · rename_i hnot
    refine sound_idle rfl fun x hx => ?_
    rw [LoginCall.handle, if_neg hnot] at hx
    cases hx
  rename_i huuid
  rw [not_not] at huuid
  refine sound_selectLocking_bind fun d₁ held₁ _ hlocks₁ _ hi₁ _ => ?_
  cases hfound : loginTransaction input.named d₁ with
  | none =>
    refine sound_idle rfl fun x hx => ?_
    rw [LoginCall.handle, if_pos huuid] at hx
    cases hx
    exact loginTransaction_none.mp hfound
  | some t =>
    rw [hfound] at hlocks₁
    have hlock : LoginLock.row t.loginTxnId ∈ held₁ := hlocks₁ _ mem_cons_self
    obtain ⟨ht, hid⟩ := loginTransaction_some hfound
    have hrow := hi₁.found ht
    dsimp only
    split
    · rename_i hspent
      refine sound_execute_bind fun d₂ held₂ hsub₂ _ hr₂ _ _ _ => ?_
      refine sound_moves fun d₃ hr₃ _ => ?_
      refine .replays huuid ?_ hspent
      rw [← hid]
      exact hr₃.rows _ (hsub₂ _ hlock) _ (hr₂.rows _ hlock _ hrow)
    rename_i hpending
    rw [not_not] at hpending
    have hlive : t.status.live = true := by
      rw [hpending]
      rfl
    split
    · rename_i hexpired
      refine sound_fail hlock hrow hlive (.callback huuid hid hpending ?_)
      rw [LoginClaim.verdict, if_pos hexpired]
    rename_i hfresh
    have hverdict : input.verdict now t = input.mismatch t := by
      rw [LoginClaim.verdict, if_neg hfresh]
    cases hmismatch : input.mismatch t with
    | some reason =>
      exact sound_fail hlock hrow hlive (.callback huuid hid hpending (hverdict.trans hmismatch))
    | none =>
      rw [hmismatch] at hverdict
      -- Every clause of the conditional claim has just been compared.
      unfold LoginClaim.mismatch at hmismatch
      split at hmismatch
      · cases hmismatch
      split at hmismatch
      · cases hmismatch
      split at hmismatch
      · cases hmismatch
      split at hmismatch
      · cases hmismatch
      split at hmismatch
      · cases hmismatch
      rename_i hpurpose hstate hnonce hverifier hredirect
      rw [not_or, not_not, not_not] at hpurpose
      rw [not_not, Option.map_eq_some_iff] at hstate hnonce hverifier
      obtain ⟨state, hs, hstate⟩ := hstate
      obtain ⟨nonce, hn, hnonce⟩ := hnonce
      obtain ⟨codeVerifier, hv, hverifier⟩ := hverifier
      unfold claimLoginTransaction updateOne
      rw [hs, hn, hv]
      dsimp only
      rw [Script.bind_assoc]
      refine sound_execute_bind fun d₂ held₂ hsub₂ _ hr₂ hi₂ _ _ => ?_
      have hrow₂ := hr₂.rows _ hlock _ hrow
      have hpick : d₂.transactions.find? (fun u =>
          u.loginTxnId = input.named && u.stateHash = sha256hex state &&
            u.purpose = input.purpose && u.nonceHash = sha256hex nonce &&
            u.codeVerifierHash = sha256hex codeVerifier &&
            u.redirectUri = input.redirectUri && u.status = .pending &&
            now < u.expiresAt) = some t := by
        refine find?_of_imp hrow₂ ?_ fun u hu => ?_
        · simp only [Bool.and_eq_true, decide_eq_true_eq]
          exact ⟨⟨⟨⟨⟨⟨⟨hid, hstate.symm⟩, hpurpose.1⟩, hnonce.symm⟩, hverifier.symm⟩,
            not_not.mp hredirect⟩, hpending⟩, Int.not_le.mp hfresh⟩
        · simp only [Bool.and_eq_true, decide_eq_true_eq] at hu
          rw [decide_eq_true_eq, hid]
          exact hu.1.1.1.1.1.1.1
      rw [hpick]
      exact sound_audit (hsub₂ _ hlock) hrow₂ fun d' more hmore hfound' =>
        .claims hmore hfound' huuid hid hpending hverdict

theorem LoginCall.program_sound (c : LoginCall) (d : LoginStore) :
    logins.Sound c c.program [] (fun x => x) d := by
  cases c with
  | start w input => exact .of_onAnswers (startLoginTransaction_sound w input d)
  | claim now input => exact .of_onAnswers (claimLoginTransactionAtomically_sound now input d)
  | succeed w input => exact .of_onAnswers (succeedLoginTransaction_sound w input d)
  | fail now id reason => exact .of_onAnswers (failLoginTransaction_sound now id reason d)
  | age sweep now locked => exact .of_onAnswers (ageOne_sound sweep now locked d)

/-! ## Side by side -/

theorem loginTransaction_advance {x y : String} (hxy : x ≠ y)
    {f : LoginTransaction → LoginTransaction}
    (hf : ∀ t : LoginTransaction, (f t).loginTxnId = t.loginTxnId) (e : LoginEvent)
    (d : LoginStore) : loginTransaction y (d.advance x f e) = loginTransaction y d := by
  refine find?_updateWhere fun t _ ht => ?_
  rw [hf, ht]
  exact ⟨decide_eq_false hxy, decide_eq_false hxy⟩

theorem newLogin_advance {x y : String} {f : LoginTransaction → LoginTransaction}
    (hf : ∀ t : LoginTransaction, (f t).loginTxnId = t.loginTxnId) {e : LoginEvent}
    {d : LoginStore} (h : NewLogin y d) : NewLogin y (d.advance x f e) := by
  intro t ht
  rcases mem_advance ht with ⟨ht, -⟩ | ⟨u, hu, -, rfl⟩
  · exact h t ht
  · rw [hf]
    exact h u hu

theorem LoginMoves.kept {c b : LoginCall} {held more : List LoginLock} {answer : LoginAnswer}
    {d d' : LoginStore} (hm : LoginMoves held c answer d d')
    (hclear : ∀ k ∈ held, ∀ l ∈ more, k.conflicts l = false) (hapart : Apart c b) :
    Kept b more d d' := by
  have hrewrites : ∀ {x : String} {f : LoginTransaction → LoginTransaction} {e : LoginEvent},
      .row x ∈ held → (∀ t : LoginTransaction, (f t).loginTxnId = t.loginTxnId) →
        Kept b more d (d.advance x f e) := by
    intro x f e hx hf
    refine ⟨fun y hy t ht => ?_, fun y _ h => newLogin_advance hf h,
      fun y _ h => newLogin_advance hf h⟩
    rw [loginTransaction_advance ?_ hf]
    · exact ht
    · rintro rfl
      exact absurd (hclear _ hx _ hy) (by simp [LoginLock.conflicts])
  cases hm with
  | idles => exact .refl b more d
  | @starts w input s _ lock new =>
    refine ⟨fun y hy t ht => ?_, fun y hy h => ?_, fun y hy h => ?_⟩
    · change (d.transactions ++ _).find? _ = some t
      rw [find?_append]
      exact Option.or_eq_some_iff.mpr (.inl ht)
    · intro t ht
      rcases mem_inserted ht with ht | rfl
      · exact h t ht
      · rintro rfl
        exact absurd (hclear _ lock _ hy) (by simp [LoginLock.conflicts, newLoginTransaction])
    · intro t ht
      rcases mem_inserted ht with ht | rfl
      · exact h t ht
      · rintro rfl
        exact hapart _ rfl hy
  | replays => exact ⟨fun _ _ _ h => h, fun _ _ h => h, fun _ _ h => h⟩
  | claims lock => exact hrewrites lock fun _ => rfl
  | fails lock => exact hrewrites lock fun _ => rfl
  | succeeds lock => exact hrewrites lock fun _ => rfl

def sweepAnswers (sweep : Nat) (es : List (Ending LoginCall LoginStore Raise LoginAnswer)) :
    List (Option String) :=
  es.filterMap fun
    | .committed (.age s _ _) (.aged id) _ _ => if s = sweep then some id else none
    | _ => none

def LoginCall.sweeps (sweep : Nat) : LoginCall → Bool
  | .age s _ _ => s = sweep
  | _ => false

abbrev LoginServer := Server LoginCall LoginStore LoginLock Raise LoginAnswer

/-- The loop of a sweep begins another transaction: all it has begun have answered, and
after these answers it goes on. -/
def SweepContinues (limits : Nat → Option Requested) (sweep : Nat) (S : LoginServer) : Prop :=
  begun (LoginCall.sweeps sweep) S = (sweepAnswers sweep S.history).length ∧
    expireStaleLoginTransactions (limits sweep) (sweepAnswers sweep S.history) = .ok .another

instance (limits : Nat → Option Requested) (sweep : Nat) (S : LoginServer) :
    Decidable (SweepContinues limits sweep S) :=
  inferInstanceAs (Decidable (_ = _ ∧ _ = _))

/-- Who calls: a callback holds a handle the start handed out, so it names no login that is
still being opened, and a sweep is a loop, asked for `limits`. -/
def Called (limits : Nat → Option Requested) (S : LoginServer) : Event LoginCall → Prop
  | .arrive c => (∀ s ∈ S.underWay, Apart s.call c ∧ Apart c s.call) ∧
      match c with
      | .age sweep _ _ => SweepContinues limits sweep S
      | _ => True
  | .turn _ => True
  | .abort _ => True

instance (limits : Nat → Option Requested) (S : LoginServer) : ∀ e, Decidable (Called limits S e)
  | .arrive (.age sweep _ _) =>
    inferInstanceAs (Decidable (_ ∧ SweepContinues limits sweep S))
  | .arrive (.start ..) | .arrive (.claim ..) | .arrive (.succeed ..) | .arrive (.fail ..) =>
    inferInstanceAs (Decidable (_ ∧ True))
  | .turn _ | .abort _ => .isTrue trivial

theorem logins_cooperates (limits : Nat → Option Requested) :
    logins.Cooperates LoginLock.conflicts LoginCall.program Apart (Called limits) where
  refl := Kept.refl
  trans := fun _ _ _ _ _ => .trans
  symm := fun k l => by simp only [LoginLock.conflicts, eq_comm]
  begins := fun S c _ _ => c.program_sound S.committed
  sets_apart := fun _ _ _ _ ha hs => ha.1 _ (mem_underWay hs)
  finds := fun _ _ _ _ _ => trivial
  respects := by
    intro S i j s t a _ _ _ _ _ hbeside _ hmoves
    exact LoginMoves.kept hmoves hbeside.2 hbeside.1

end Dealership.Identity
