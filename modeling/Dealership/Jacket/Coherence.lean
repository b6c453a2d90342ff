import Dealership.Jacket.Moves

/-!
# Coherence

Packages, ceremonies and signers move together.  A ceremony's state and its
package's state are one of nine pairs, the signatures of a ceremony say which of
its states it can be in, and a jacket has at most one package that stands.  Every
move keeps this.
-/

namespace Dealership.Jacket

open Library List

variable {p : Package} {c : Ceremony} {a : PackageState} {db : Cabinet}

/-! ## Keys -/

def Package.key (p : Package) : String × String := (p.package_id, p.jacket_id)

def Ceremony.key (c : Ceremony) : String × String × String :=
  (c.ceremony_id, c.package_id, c.jacket_id)

def Signer.key (s : Signer) : String × String := (s.signer_id, s.ceremony_id)

/-- The primary, unique and foreign keys, as properties of the key columns. -/
structure KeysHold (js : List String) (ps : List (String × String))
    (cs : List (String × String × String)) (ss : List (String × String)) : Prop where
  jackets : js.Nodup
  packages : (ps.map (·.1)).Nodup
  ceremonies : (cs.map (·.1)).Nodup
  onePerPackage : (cs.map (·.2.1)).Nodup
  signers : (ss.map (·.1)).Nodup
  packageJacket : ps.map (·.2) ⊆ js
  ceremonyPackage : cs.map (·.2) ⊆ ps
  signerCeremony : ss.map (·.2) ⊆ cs.map (·.1)

def Cabinet.Keyed (db : Cabinet) : Prop :=
  KeysHold (db.deal_jackets.map (·.jacket_id)) (db.jacket_packages.map (·.key))
    (db.signing_ceremonies.map (·.key)) (db.ceremony_signers.map (·.key))

namespace Cabinet.Keyed

variable {db : Cabinet} (h : db.Keyed)
include h

theorem package_unique {q : Package} (hp : p ∈ db.jacket_packages) (hq : q ∈ db.jacket_packages)
    (e : p.package_id = q.package_id) : p = q := by
  have hnodup := h.packages
  rw [map_map] at hnodup
  exact eq_of_key hnodup hp hq e

theorem ceremony_unique {d : Ceremony} (hc : c ∈ db.signing_ceremonies)
    (hd : d ∈ db.signing_ceremonies) (e : c.ceremony_id = d.ceremony_id) : c = d := by
  have hnodup := h.ceremonies
  rw [map_map] at hnodup
  exact eq_of_key hnodup hc hd e

theorem ceremony_unique_of_package {d : Ceremony} (hc : c ∈ db.signing_ceremonies)
    (hd : d ∈ db.signing_ceremonies) (e : c.package_id = d.package_id) : c = d := by
  have hnodup := h.onePerPackage
  rw [map_map] at hnodup
  exact eq_of_key hnodup hc hd e

theorem signer_unique {s r : Signer} (hs : s ∈ db.ceremony_signers) (hr : r ∈ db.ceremony_signers)
    (e : s.signer_id = r.signer_id) : s = r := by
  have hnodup := h.signers
  rw [map_map] at hnodup
  exact eq_of_key hnodup hs hr e

theorem jacket_unique {j k : DealJacket} (hj : j ∈ db.deal_jackets) (hk : k ∈ db.deal_jackets)
    (e : j.jacket_id = k.jacket_id) : j = k := eq_of_key h.jackets hj hk e

theorem exists_jacket (hp : p ∈ db.jacket_packages) :
    ∃ j ∈ db.deal_jackets, j.jacket_id = p.jacket_id :=
  mem_map.mp (h.packageJacket (mem_map.mpr ⟨p.key, mem_map.mpr ⟨p, hp, rfl⟩, rfl⟩))

theorem exists_package (hc : c ∈ db.signing_ceremonies) :
    ∃ p ∈ db.jacket_packages, p.package_id = c.package_id ∧ p.jacket_id = c.jacket_id := by
  obtain ⟨p, hp, e⟩ := mem_map.mp (h.ceremonyPackage
    (mem_map.mpr ⟨c.key, mem_map.mpr ⟨c, hc, rfl⟩, rfl⟩))
  exact ⟨p, hp, (Prod.mk.inj e).1, (Prod.mk.inj e).2⟩

theorem exists_ceremony {s : Signer} (hs : s ∈ db.ceremony_signers) :
    ∃ c ∈ db.signing_ceremonies, c.ceremony_id = s.ceremony_id := by
  have hmem := h.signerCeremony (mem_map.mpr ⟨s.key, mem_map.mpr ⟨s, hs, rfl⟩, rfl⟩)
  rw [map_map] at hmem
  exact mem_map.mp hmem

end Cabinet.Keyed

namespace KeysHold

variable {js : List String} {ps : List (String × String)} {cs : List (String × String × String)}
  {ss : List (String × String)} (h : KeysHold js ps cs ss)
include h

theorem of_columns {db : Cabinet} (hj : db.deal_jackets.map (·.jacket_id) = js)
    (hp : db.jacket_packages.map (·.key) = ps) (hc : db.signing_ceremonies.map (·.key) = cs)
    (hs : db.ceremony_signers.map (·.key) = ss) : db.Keyed := by
  rw [Cabinet.Keyed, hj, hp, hc, hs]
  exact h

theorem insertJacket {j : String} (fresh : ∀ r ∈ js, r ≠ j) : KeysHold (js ++ [j]) ps cs ss :=
  { h with
    jackets := by
      have hnodup : (js.map id).Nodup := by simpa using h.jackets
      simpa using nodup_key_insert hnodup fresh
    packageJacket := subset_append_of_subset_left _ h.packageJacket }

theorem insertPackage {p : String × String} (fresh : ∀ r ∈ ps, r.1 ≠ p.1) (hj : p.2 ∈ js) :
    KeysHold js (ps ++ [p]) cs ss :=
  { h with
    packages := nodup_key_insert h.packages fresh
    packageJacket := by
      rw [map_append, append_subset]
      exact ⟨h.packageJacket, by simpa using hj⟩
    ceremonyPackage := subset_append_of_subset_left _ h.ceremonyPackage }

theorem insertCeremony {c : String × String × String} (fresh : ∀ r ∈ cs, r.1 ≠ c.1)
    (first : ∀ r ∈ cs, r.2.1 ≠ c.2.1) (hp : c.2 ∈ ps) : KeysHold js ps (cs ++ [c]) ss :=
  { h with
    ceremonies := nodup_key_insert h.ceremonies fresh
    onePerPackage := nodup_key_insert h.onePerPackage first
    ceremonyPackage := by
      rw [map_append, append_subset]
      exact ⟨h.ceremonyPackage, by simpa using hp⟩
    signerCeremony := by
      rw [map_append]
      exact subset_append_of_subset_left _ h.signerCeremony }

theorem insertSigners {new : List (String × String)} (hkeys : ((ss ++ new).map (·.1)).Nodup)
    (hc : ∀ s ∈ new, s.2 ∈ cs.map (·.1)) : KeysHold js ps cs (ss ++ new) :=
  { h with
    signers := hkeys
    signerCeremony := by
      rw [map_append, append_subset]
      refine ⟨h.signerCeremony, ?_⟩
      intro x hx
      obtain ⟨s, hs, rfl⟩ := mem_map.mp hx
      exact hc s hs }

end KeysHold

/-! ## States -/

def paired : CeremonyState → PackageState → Bool
  | .sent, .sent => true
  | .in_progress, .partially_signed => true
  | .completed, .signed_complete => true
  | .completed, .superseded => true
  | .declined, .voided => true
  | .expired, .expired => true
  | .voided, .voided => true
  | .voided, .superseded => true
  | _, _ => false

def SomeSigned (signers : List Signer) (ceremonyId : String) : Prop :=
  ∃ s ∈ signers, s.ceremony_id = ceremonyId ∧ s.state = .signed

def SomeUnsigned (signers : List Signer) (ceremonyId : String) : Prop :=
  ∃ s ∈ signers, s.ceremony_id = ceremonyId ∧ s.state ≠ .signed

theorem someUnsigned_iff_not_allSigned {signers : List Signer} {ceremonyId : String} :
    SomeUnsigned signers ceremonyId ↔ ¬ AllSigned signers ceremonyId := by
  simp only [SomeUnsigned, AllSigned, not_forall, exists_prop]

def Tallied (state : CeremonyState) (someSigned someUnsigned : Prop) : Prop :=
  match state with
  | .created => False
  | .sent => ¬ someSigned ∧ someUnsigned
  | .in_progress => someSigned ∧ someUnsigned
  | .completed => someSigned ∧ ¬ someUnsigned
  | .declined | .expired | .voided => someUnsigned

def OneStanding (packages : List Package) : Prop :=
  ∀ p ∈ packages, ∀ q ∈ packages, p.jacket_id = q.jacket_id →
    p.state.standing = true → q.state.standing = true → p = q

def PairedUp (ceremonies : List Ceremony) (packages : List Package) : Prop :=
  ∀ c ∈ ceremonies, ∀ p ∈ packages, p.package_id = c.package_id → paired c.state p.state = true

def TalliedUp (ceremonies : List Ceremony) (signers : List Signer) : Prop :=
  ∀ c ∈ ceremonies,
    Tallied c.state (SomeSigned signers c.ceremony_id) (SomeUnsigned signers c.ceremony_id)

structure Coherent (db : Cabinet) : Prop where
  keyed : db.Keyed
  oneStanding : OneStanding db.jacket_packages
  paired : PairedUp db.signing_ceremonies db.jacket_packages
  tallied : TalliedUp db.signing_ceremonies db.ceremony_signers
  consented : ∀ s ∈ db.ceremony_signers, s.state = .signed → s.consented_at.isSome = true
  items : (db.jacket_checklist_items.map (·.item_id)).Nodup

theorem Coherent.empty : Coherent Cabinet.empty where
  keyed := by constructor <;> simp [Cabinet.empty]
  oneStanding := fun p hp => absurd hp not_mem_nil
  paired := fun c hc => absurd hc not_mem_nil
  tallied := fun c hc => absurd hc not_mem_nil
  consented := fun s hs => absurd hs not_mem_nil
  items := nodup_nil

theorem Coherent.packages_nodup (h : Coherent db) : db.jacket_packages.Nodup := by
  have hkeys := h.keyed.packages
  rw [map_map] at hkeys
  exact hkeys.of_map

theorem isOpen_eq_signable {c : CeremonyState} {p : PackageState} (h : paired c p = true) :
    c.isOpen = p.signable := by
  cases c <;> cases p <;> first | rfl | exact absurd h (by decide)

theorem unfinished_eq_live {c : CeremonyState} {p : PackageState} (h : paired c p = true) :
    c.unfinished = p.live := by
  cases c <;> cases p <;> first | rfl | exact absurd h (by decide)

theorem paired_superseded {c : CeremonyState} {p : PackageState} (h : paired c p = true)
    (hp : p.standing = true) : paired (if c.unfinished then .voided else c) .superseded = true := by
  cases c <;> cases p <;>
    first | rfl | exact absurd h Bool.false_ne_true | exact absurd hp Bool.false_ne_true

/-! ## Statements -/

section Statements

variable {ps : List Package} {cs : List Ceremony} {ss : List Signer}

theorem OneStanding.updateWhere (h : OneStanding ps) {hit : Package → Prop} [DecidablePred hit]
    {f : Package → Package} (hid : ∀ k, (f k).jacket_id = k.jacket_id)
    (hst : ∀ k ∈ ps, hit k → (f k).state.standing = true → k.state.standing = true) :
    OneStanding (updateWhere hit f ps) := by
  have hrow : ∀ k ∈ ps, (if hit k then f k else k).jacket_id = k.jacket_id ∧
      ((if hit k then f k else k).state.standing = true → k.state.standing = true) := by
    intro k hk
    by_cases hh : hit k
    · rw [if_pos hh]
      exact ⟨hid k, hst k hk hh⟩
    · rw [if_neg hh]
      exact ⟨rfl, id⟩
  intro p' hp' q' hq' hj hsp hsq
  obtain ⟨p, hp, rfl⟩ := mem_updateWhere.mp hp'
  obtain ⟨q, hq, rfl⟩ := mem_updateWhere.mp hq'
  rw [(hrow p hp).1, (hrow q hq).1] at hj
  rw [h p hp q hq hj ((hrow p hp).2 hsp) ((hrow q hq).2 hsq)]

theorem OneStanding.append (h : OneStanding ps)
    (hp : p.state.standing = true → ∀ k ∈ ps, k.jacket_id = p.jacket_id → k.state.standing = false)
    : OneStanding (ps ++ [p]) := by
  intro a ha b hb hj hsa hsb
  rcases mem_append.mp ha with ha' | ha' <;> rcases mem_append.mp hb with hb' | hb'
  · exact h a ha' b hb' hj hsa hsb
  · rw [mem_singleton.mp hb'] at hj hsb
    rw [hp hsb a ha' hj] at hsa
    exact absurd hsa Bool.false_ne_true
  · rw [mem_singleton.mp ha'] at hj hsa
    rw [hp hsa b hb' hj.symm] at hsb
    exact absurd hsb Bool.false_ne_true
  · rw [mem_singleton.mp ha', mem_singleton.mp hb']

theorem PairedUp.updateWhere (h : PairedUp cs ps) {hc : Ceremony → Prop} [DecidablePred hc]
    {hp : Package → Prop} [DecidablePred hp] {fc : Ceremony → Ceremony} {fp : Package → Package}
    (hcid : ∀ c, (fc c).package_id = c.package_id) (hpid : ∀ p, (fp p).package_id = p.package_id)
    (hboth : ∀ c ∈ cs, ∀ p ∈ ps, p.package_id = c.package_id → paired c.state p.state = true →
      paired (if hc c then fc c else c).state (if hp p then fp p else p).state = true) :
    PairedUp (updateWhere hc fc cs) (updateWhere hp fp ps) := by
  intro c' hc' p' hp' hid
  obtain ⟨c, hcm, rfl⟩ := mem_updateWhere.mp hc'
  obtain ⟨p, hpm, rfl⟩ := mem_updateWhere.mp hp'
  have hcid' : (if hc c then fc c else c).package_id = c.package_id := by
    split
    · exact hcid c
    · rfl
  have hpid' : (if hp p then fp p else p).package_id = p.package_id := by
    split
    · exact hpid p
    · rfl
  rw [hcid', hpid'] at hid
  exact hboth c hcm p hpm hid (h c hcm p hpm hid)

theorem PairedUp.append_package (h : PairedUp cs ps) (hp : ∀ c ∈ cs, c.package_id ≠ p.package_id) :
    PairedUp cs (ps ++ [p]) := by
  intro c hc k hk hid
  rcases mem_inserted hk with hk | rfl
  · exact h c hc k hk hid
  · exact absurd hid.symm (hp c hc)

theorem TalliedUp.of_signers (h : TalliedUp cs ss) {ss' : List Signer}
    (hsigned : ∀ c ∈ cs, SomeSigned ss' c.ceremony_id ↔ SomeSigned ss c.ceremony_id)
    (hunsigned : ∀ c ∈ cs, SomeUnsigned ss' c.ceremony_id ↔ SomeUnsigned ss c.ceremony_id) :
    TalliedUp cs ss' := by
  intro c hc
  rw [propext (hsigned c hc), propext (hunsigned c hc)]
  exact h c hc

/-- A statement on signers that moves nobody to or from `signed`. -/
theorem TalliedUp.updateSigners (h : TalliedUp cs ss) {hit : Signer → Prop} [DecidablePred hit]
    {f : Signer → Signer} (hid : ∀ s, (f s).ceremony_id = s.ceremony_id)
    (hst : ∀ s ∈ ss, hit s → ((f s).state = .signed ↔ s.state = .signed)) :
    TalliedUp cs (updateWhere hit f ss) := by
  refine h.of_signers (fun c _ => ?_) (fun c _ => ?_)
  · exact exists_mem_updateWhere fun s hs hh => by rw [hid, hst s hs hh]
  · exact exists_mem_updateWhere fun s hs hh => by rw [hid, ne_eq, hst s hs hh]

theorem TalliedUp.updateCeremonies (h : TalliedUp cs ss) {hit : Ceremony → Prop}
    [DecidablePred hit] {f : Ceremony → Ceremony} (hid : ∀ c, (f c).ceremony_id = c.ceremony_id)
    (hst : ∀ c ∈ cs, hit c → Tallied c.state (SomeSigned ss c.ceremony_id)
      (SomeUnsigned ss c.ceremony_id) → Tallied (f c).state (SomeSigned ss c.ceremony_id)
        (SomeUnsigned ss c.ceremony_id)) :
    TalliedUp (updateWhere hit f cs) ss := by
  intro c' hc'
  obtain ⟨c, hc, rfl⟩ := mem_updateWhere.mp hc'
  by_cases hh : hit c
  · rw [if_pos hh, hid]
    exact hst c hc hh (h c hc)
  · rw [if_neg hh]
    exact h c hc

theorem TalliedUp.append (h : TalliedUp cs ss) {new : List Signer} (isSent : c.state = .sent)
    (someone : new ≠ []) (invited : ∀ s ∈ new, s.ceremony_id = c.ceremony_id ∧ s.state = .invited)
    (fresh : ∀ r ∈ cs, r.ceremony_id ≠ c.ceremony_id)
    (others : ∀ s ∈ ss, s.ceremony_id ≠ c.ceremony_id) : TalliedUp (cs ++ [c]) (ss ++ new) := by
  intro d hd
  rcases mem_inserted hd with hd | rfl
  · have hcount : ∀ Q : Signer → Prop, (∃ s ∈ ss ++ new, s.ceremony_id = d.ceremony_id ∧ Q s) ↔
        ∃ s ∈ ss, s.ceremony_id = d.ceremony_id ∧ Q s := by
      intro Q
      constructor
      · rintro ⟨s, hs, hsd, hq⟩
        rcases mem_append.mp hs with hs | hs
        · exact ⟨s, hs, hsd, hq⟩
        · exact absurd (hsd.symm.trans (invited s hs).1) (fresh d hd)
      · rintro ⟨s, hs, hsd, hq⟩
        exact ⟨s, mem_append_left _ hs, hsd, hq⟩
    rw [SomeSigned, SomeUnsigned, propext (hcount fun s => s.state = .signed),
      propext (hcount fun s => s.state ≠ .signed)]
    exact h d hd
  · obtain ⟨s, hs⟩ := exists_mem_of_ne_nil new someone
    rw [isSent]
    refine ⟨?_, s, mem_append_right _ hs, (invited s hs).1, ?_⟩
    · rintro ⟨r, hr, hrd, hsigned⟩
      rcases mem_append.mp hr with hr | hr
      · exact others r hr hrd
      · rw [(invited r hr).2] at hsigned
        cases hsigned
    · rw [(invited s hs).2]
      exact SignerState.noConfusion

end Statements

/-! ## Versions that step aside -/

theorem someUnsigned_of_unfinished {state : CeremonyState} {someSigned someUnsigned : Prop}
    (h : Tallied state someSigned someUnsigned) (ho : state.unfinished = true) : someUnsigned := by
  cases state with
  | created => exact h.elim
  | sent => exact h.2
  | in_progress => exact h.2
  | completed | declined | expired | voided => exact absurd ho Bool.false_ne_true

theorem unfinished_of_isOpen {state : CeremonyState} (h : state.isOpen = true) :
    state.unfinished = true := by
  cases state <;> first | rfl | exact absurd h Bool.false_ne_true

theorem TalliedUp.ended {cs : List Ceremony} {ss : List Signer} (h : TalliedUp cs ss)
    {hit : Ceremony → Prop} [DecidablePred hit] {target : CeremonyState}
    (htarget : target = .declined ∨ target = .expired ∨ target = .voided)
    (hun : ∀ c ∈ cs, hit c → c.state.unfinished = true) :
    TalliedUp (updateWhere hit (Ceremony.moved target) cs) ss := by
  refine h.updateCeremonies (fun _ => rfl) fun c hc hh ht => ?_
  have hsome := someUnsigned_of_unfinished ht (hun c hc hh)
  rcases htarget with rfl | rfl | rfl <;> exact hsome

section Retiring

variable {db : Cabinet} (h : Coherent db) {jacketId : String} {predecessor : Option Package}
  (reason : Option String)

theorem retired_oneStanding {ps : List Package} (ho : OneStanding ps) :
    OneStanding (retired predecessor reason ps) :=
  ho.updateWhere (fun _ => rfl) fun _ _ _ hst => absurd hst Bool.false_ne_true

include h

theorem standing_of_predecessor (hpred : IsPredecessor db jacketId predecessor)
    (hp : p ∈ db.jacket_packages) (hid : some p.package_id = predecessor.map (·.package_id)) :
    p.state.standing = true ∧ p.jacket_id = jacketId := by
  cases predecessor with
  | none => cases hid
  | some q =>
    obtain ⟨hq, hjacket, hstanding⟩ := hpred
    rw [h.keyed.package_unique hp hq (Option.some.inj hid)]
    exact ⟨hstanding, hjacket⟩

theorem retired_not_standing (hpred : IsPredecessor db jacketId predecessor) :
    ∀ k ∈ retired predecessor reason db.jacket_packages, k.jacket_id = jacketId →
      k.state.standing = false := by
  intro k hk hjacket
  rcases updateWhere_cases hk with ⟨hmem, hmiss⟩ | ⟨r, _, _, rfl⟩
  · cases predecessor with
    | none => exact hpred k hmem hjacket
    | some q =>
      obtain ⟨hq, hqjacket, hstanding⟩ := hpred
      rw [← Bool.not_eq_true]
      intro hk'
      have heq := h.oneStanding k hmem q hq (hjacket.trans hqjacket.symm) hk' hstanding
      exact hmiss (by rw [heq]; rfl)
  · rfl

theorem retired_paired (hpred : IsPredecessor db jacketId predecessor) :
    PairedUp (retiredCeremonies predecessor db.signing_ceremonies)
      (retired predecessor reason db.jacket_packages) := by
  refine h.paired.updateWhere (fun _ => rfl) (fun _ => rfl) fun c _ p hp hid hpair => ?_
  rw [hid]
  by_cases hhit : some c.package_id = predecessor.map (·.package_id)
  · have hstanding := (standing_of_predecessor h hpred hp (hid ▸ hhit)).1
    simp only [hhit, true_and, if_true, apply_ite Ceremony.state]
    exact paired_superseded hpair hstanding
  · simp only [hhit, false_and, if_false]
    exact hpair

theorem retired_tallied :
    TalliedUp (retiredCeremonies predecessor db.signing_ceremonies) db.ceremony_signers :=
  h.tallied.ended (.inr (.inr rfl)) fun _ _ hh => hh.2

end Retiring

/-! ## A ceremony and its package -/

section Together

variable {db : Cabinet} (h : Coherent db) {s : Signer} {instant : Int}
include h

theorem paired_together (hc : c ∈ db.signing_ceremonies) {hit : Package → Prop} [DecidablePred hit]
    {fc : Ceremony → Ceremony} {fp : Package → Package}
    (hcid : ∀ r, (fc r).package_id = r.package_id) (hpid : ∀ k, (fp k).package_id = k.package_id)
    (hhit : ∀ k, hit k → k.package_id = c.package_id)
    (hstates : ∀ k ∈ db.jacket_packages, k.package_id = c.package_id →
      paired (fc c).state (if hit k then fp k else k).state = true) :
    PairedUp (updateWhere (fun r => decide (r.ceremony_id = c.ceremony_id) = true) fc
      db.signing_ceremonies) (updateWhere hit fp db.jacket_packages) := by
  refine h.paired.updateWhere hcid hpid fun r hr k hk hid hpair => ?_
  by_cases hrc : r.ceremony_id = c.ceremony_id
  · obtain rfl := h.keyed.ceremony_unique hr hc hrc
    rw [if_pos (decide_eq_true rfl)]
    exact hstates k hk hid
  · have hmiss : ¬ hit k := by
      intro hh
      have heq := h.keyed.ceremony_unique_of_package hr hc (hid.symm.trans (hhit k hh))
      exact hrc (congrArg Ceremony.ceremony_id heq)
    rw [if_neg (by simpa using hrc), if_neg hmiss]
    exact hpair

theorem signable_of_isOpen (hc : c ∈ db.signing_ceremonies) (ho : c.state.isOpen = true)
    (hp : p ∈ db.jacket_packages) (hid : p.package_id = c.package_id) :
    p.state.signable = true := by
  rw [← isOpen_eq_signable (h.paired c hc p hp hid)]
  exact ho

theorem paired_ended (hc : c ∈ db.signing_ceremonies) (ho : c.state.isOpen = true)
    {packageId : String} (hpackage : packageId = c.package_id)
    {ctarget : CeremonyState} {ptarget : PackageState} (htargets : paired ctarget ptarget = true)
    (reason : Option String) :
    PairedUp (updateWhere (fun r => decide (r.ceremony_id = c.ceremony_id) = true)
        (Ceremony.moved ctarget) db.signing_ceremonies)
      (updateWhere (fun k => (k.package_id = packageId && k.state.signable) = true)
        (Package.moved ptarget reason) db.jacket_packages) := by
  refine paired_together h hc (fun _ => rfl) (fun _ => rfl) (fun k hk => ?_) fun k hk hid => ?_
  · rw [Bool.and_eq_true, decide_eq_true_iff] at hk
    exact hk.1.trans hpackage
  · have hsignable := signable_of_isOpen h hc ho hk hid
    rw [if_pos (by simp [hid, hpackage, hsignable])]
    exact htargets

theorem signersAfter_elsewhere (hs : s ∈ db.ceremony_signers) {ceremonyId : String}
    (hne : ceremonyId ≠ s.ceremony_id) :
    (SomeSigned (signersAfter db s c instant) ceremonyId ↔
      SomeSigned db.ceremony_signers ceremonyId) ∧
    (SomeUnsigned (signersAfter db s c instant) ceremonyId ↔
      SomeUnsigned db.ceremony_signers ceremonyId) := by
  have hother : ∀ r ∈ db.ceremony_signers, decide (r.signer_id = s.signer_id) = true →
      r.ceremony_id ≠ ceremonyId := by
    intro r hr hid hrc
    rw [h.keyed.signer_unique hr hs (of_decide_eq_true hid)] at hrc
    exact hne hrc.symm
  constructor
  · refine exists_mem_updateWhere fun r hr hid => ?_
    exact iff_of_false (fun hq => hother r hr hid hq.1) fun hq => hother r hr hid hq.1
  · refine exists_mem_updateWhere fun r hr hid => ?_
    exact iff_of_false (fun hq => hother r hr hid hq.1) fun hq => hother r hr hid hq.1

theorem tallied_signed (hs : s ∈ db.ceremony_signers) (hc : c ∈ db.signing_ceremonies)
    (hsc : c.ceremony_id = s.ceremony_id) {fc : Ceremony → Ceremony}
    (hid : ∀ r, (fc r).ceremony_id = r.ceremony_id)
    (hst : Tallied (fc c).state (SomeSigned (signersAfter db s c instant) c.ceremony_id)
      (SomeUnsigned (signersAfter db s c instant) c.ceremony_id)) :
    TalliedUp (updateWhere (fun r => decide (r.ceremony_id = c.ceremony_id) = true) fc
      db.signing_ceremonies) (signersAfter db s c instant) := by
  intro r' hr'
  rcases updateWhere_cases hr' with ⟨hr, hmiss⟩ | ⟨r, hr, hhit, rfl⟩
  · have hne : r'.ceremony_id ≠ s.ceremony_id := by
      intro hrs
      exact hmiss (decide_eq_true (hrs.trans hsc.symm))
    rw [propext (signersAfter_elsewhere h hs hne).1, propext (signersAfter_elsewhere h hs hne).2]
    exact h.tallied r' hr
  · obtain rfl := h.keyed.ceremony_unique hr hc (of_decide_eq_true hhit)
    rw [hid]
    exact hst

omit h in
theorem someSigned_signersAfter (hs : s ∈ db.ceremony_signers)
    (hsc : c.ceremony_id = s.ceremony_id) :
    SomeSigned (signersAfter db s c instant) c.ceremony_id :=
  ⟨_, mem_updateWhere_of_pos hs (decide_eq_true rfl), hsc.symm, rfl⟩

end Together

/-! ## Every move keeps the rows coherent -/

namespace Coherent

variable {db : Cabinet} (h : Coherent db) {hit : Package → Bool} {reason : Option String}

include h

theorem jackets (hit : DealJacket → Prop) [DecidablePred hit] (f : DealJacket → DealJacket)
    (hid : ∀ j, (f j).jacket_id = j.jacket_id) :
    Coherent { db with deal_jackets := updateWhere hit f db.deal_jackets } :=
  { h with keyed := h.keyed.of_columns (map_updateWhere fun j _ => hid j) rfl rfl rfl }

theorem version {j : DealJacket} {predecessor : Option Package} {f : DealJacket → DealJacket}
    (hj : j ∈ db.deal_jackets) (hofJacket : p.jacket_id = j.jacket_id)
    (hpred : IsPredecessor db j.jacket_id predecessor)
    (hfresh : ∀ k ∈ db.jacket_packages, k.package_id ≠ p.package_id)
    (hf : ∀ r, (f r).jacket_id = r.jacket_id) {items : List ChecklistItem}
    (hitems : (items.map (·.item_id)).Nodup) {pf bl docs ev} : Coherent
      ⟨updateWhere (fun r => r.jacket_id = j.jacket_id) f db.deal_jackets, items,
        retired predecessor reason db.jacket_packages ++ [p], pf, bl, docs,
        retiredCeremonies predecessor db.signing_ceremonies, db.ceremony_signers, ev⟩ where
  keyed := by
    have hkeys := h.keyed.insertPackage (p := p.key)
      (fun r hr => by
        obtain ⟨k, hk, rfl⟩ := mem_map.mp hr
        exact hfresh k hk)
      (mem_map.mpr ⟨j, hj, hofJacket.symm⟩)
    refine hkeys.of_columns (map_updateWhere fun _ _ => hf _) ?_ (map_updateWhere fun _ _ => rfl) rfl
    rw [map_append, retired, map_updateWhere fun _ _ => by rfl]
    rfl
  oneStanding := (retired_oneStanding reason h.oneStanding).append fun _ k hk hjk =>
    retired_not_standing h reason hpred k hk (hjk.trans hofJacket)
  paired := by
    refine (retired_paired h reason hpred).append_package fun c hc hid => ?_
    obtain ⟨r, hr, rfl⟩ := mem_updateWhere.mp hc
    obtain ⟨k, hk, hkid, -⟩ := h.keyed.exists_package hr
    refine hfresh k hk (hkid.trans (Eq.trans ?_ hid))
    split <;> rfl
  tallied := retired_tallied h
  consented := h.consented
  items := hitems

theorem readied (draft : ∀ k ∈ db.jacket_packages, hit k = true →
    k.state = .draft) {pf bl ev} :
    Coherent ⟨db.deal_jackets, db.jacket_checklist_items,
      updateWhere (fun k => hit k = true) (Package.moved .review_ready none) db.jacket_packages,
      pf, bl, db.package_documents, db.signing_ceremonies, db.ceremony_signers, ev⟩ where
  keyed := h.keyed.of_columns rfl (map_updateWhere fun _ _ => rfl) rfl rfl
  oneStanding := h.oneStanding.updateWhere (fun _ => rfl) fun k hk hh _ => by
    rw [draft k hk hh]
    rfl
  paired := by
    intro c hc k' hk' hid
    rcases updateWhere_cases hk' with ⟨hk, -⟩ | ⟨k, hk, hh, rfl⟩
    · exact h.paired c hc k' hk hid
    · -- a draft has no ceremony
      have hpair := h.paired c hc k hk hid
      rw [draft k hk hh] at hpair
      cases hc : c.state <;> rw [hc] at hpair <;> exact absurd hpair Bool.false_ne_true
  tallied := h.tallied
  consented := h.consented
  items := h.items

theorem sent {signers : List Signer} (hp : p ∈ db.jacket_packages) (hits : hit p = true)
    (ready : ∀ k ∈ db.jacket_packages, hit k = true →
      k.package_id = p.package_id ∧ k.state = .review_ready)
    (first : ∀ r ∈ db.signing_ceremonies, r.package_id ≠ p.package_id)
    (fresh : ∀ r ∈ db.signing_ceremonies, r.ceremony_id ≠ c.ceremony_id)
    (ofPackage : c.package_id = p.package_id) (ofJacket : c.jacket_id = p.jacket_id)
    (isSent : c.state = .sent) (someone : signers ≠ [])
    (keys : ((db.ceremony_signers ++ signers).map (·.signer_id)).Nodup)
    (invited : ∀ s ∈ signers, s.ceremony_id = c.ceremony_id ∧ s.state = .invited ∧
      s.viewed_at = none ∧ s.consented_at = none)
    {pf bl ev} : Coherent ⟨db.deal_jackets, db.jacket_checklist_items,
      updateWhere (fun k => hit k = true) (Package.moved .sent none) db.jacket_packages,
      pf, bl, db.package_documents, db.signing_ceremonies ++ [c],
      db.ceremony_signers ++ signers, ev⟩ where
  keyed := by
    have hceremony := h.keyed.insertCeremony (c := c.key)
      (fun r hr => by
        obtain ⟨d, hd, rfl⟩ := mem_map.mp hr
        exact fresh d hd)
      (fun r hr => by
        obtain ⟨d, hd, rfl⟩ := mem_map.mp hr
        exact fun e => first d hd (e.trans ofPackage))
      (mem_map.mpr ⟨p, hp, Prod.ext ofPackage.symm ofJacket.symm⟩)
    have hsigners : (((db.ceremony_signers.map (·.key)) ++ signers.map (·.key)).map (·.1)).Nodup := by
      rw [← map_append, map_map]
      exact keys
    refine (hceremony.insertSigners hsigners fun s hs => ?_).of_columns rfl
      (map_updateWhere fun _ _ => rfl) map_append map_append
    obtain ⟨r, hr, rfl⟩ := mem_map.mp hs
    rw [map_append]
    exact mem_append_right _ (mem_singleton.mpr (invited r hr).1)
  oneStanding := h.oneStanding.updateWhere (fun _ => rfl) fun k hk hh _ => by
    rw [(ready k hk hh).2]
    rfl
  paired := by
    intro d hd k' hk' hid
    obtain ⟨k, hk, rfl⟩ := mem_updateWhere.mp hk'
    have hkid : k.package_id = d.package_id := by
      rw [← hid]
      split <;> rfl
    rcases mem_inserted hd with hd | rfl
    · have hmiss : ¬ hit k = true := fun hh => first d hd (hkid.symm.trans (ready k hk hh).1)
      rw [if_neg hmiss]
      exact h.paired d hd k hk hkid
    · obtain rfl := h.keyed.package_unique hk hp (hkid.trans ofPackage)
      rw [if_pos hits, isSent]
      rfl
  tallied := by
    refine h.tallied.append isSent someone (fun s hs => ?_) fresh fun s hs hsc => ?_
    · exact ⟨(invited s hs).1, (invited s hs).2.1⟩
    · obtain ⟨r, hr, hrs⟩ := h.keyed.exists_ceremony hs
      exact fresh r hr (hrs.trans hsc)
  consented := by
    intro s hs hsigned
    rcases mem_append.mp hs with hs | hs
    · exact h.consented s hs hsigned
    · rw [(invited s hs).2.1] at hsigned
      cases hsigned
  items := h.items

theorem signers (hit : Signer → Bool) (f : Signer → Signer) (hkey : ∀ s, (f s).key = s.key)
    (hst : ∀ s ∈ db.ceremony_signers, hit s = true → s.state ≠ .signed ∧ (f s).state ≠ .signed)
    {pf bl ev} :
    Coherent ⟨db.deal_jackets, db.jacket_checklist_items, db.jacket_packages, pf, bl,
      db.package_documents, db.signing_ceremonies,
      updateWhere (fun s => hit s = true) f db.ceremony_signers, ev⟩ where
  keyed := h.keyed.of_columns rfl rfl rfl (map_updateWhere fun s _ => hkey s)
  oneStanding := h.oneStanding
  paired := h.paired
  tallied := by
    refine h.tallied.updateSigners (fun s => congrArg Prod.snd (hkey s)) fun s hs hh => ?_
    exact iff_of_false (hst s hs hh).2 (hst s hs hh).1
  consented := by
    intro s' hs' hsigned
    rcases updateWhere_cases hs' with ⟨hs, -⟩ | ⟨s, hs, hh, rfl⟩
    · exact h.consented s' hs hsigned
    · exact absurd hsigned (hst s hs hh).2
  items := h.items

theorem signed {s : Signer} {instant : Int} (sg : Signable db s c p instant)
    (fc : Ceremony → Ceremony) (hit : Package → Bool) (fp : Package → Package)
    (hfc : ∀ r, (fc r).key = r.key) (hfp : ∀ k, (fp k).key = k.key)
    (hhit : ∀ k, hit k = true → k.package_id = p.package_id)
    (hpaired : ∀ k : Package, k.state.signable = true → k.package_id = p.package_id →
      Jacket.paired (fc c).state (if hit k = true then fp k else k).state = true)
    (htallied : Tallied (fc c).state (SomeSigned (signersAfter db s c instant) c.ceremony_id)
      (SomeUnsigned (signersAfter db s c instant) c.ceremony_id))
    {pf bl ev} : Coherent ⟨db.deal_jackets, db.jacket_checklist_items,
      updateWhere (fun k => hit k = true) fp db.jacket_packages, pf, bl, db.package_documents,
      updateWhere (fun r => decide (r.ceremony_id = c.ceremony_id) = true) fc db.signing_ceremonies,
      signersAfter db s c instant, ev⟩ where
  keyed := h.keyed.of_columns rfl (map_updateWhere fun k _ => hfp k)
    (map_updateWhere fun r _ => hfc r) (map_updateWhere fun _ _ => rfl)
  oneStanding := by
    refine h.oneStanding.updateWhere (fun k => congrArg Prod.snd (hfp k)) fun k hk hh _ => ?_
    have hsignable := signable_of_isOpen h sg.ceremony sg.isOpen hk ((hhit k hh).trans sg.ofPackage)
    cases hks : k.state <;> rw [hks] at hsignable <;>
      first | rfl | exact absurd hsignable Bool.false_ne_true
  paired := by
    refine paired_together h sg.ceremony (fun r => congrArg (·.2.1) (hfc r))
      (fun k => congrArg Prod.fst (hfp k)) (fun k hh => (hhit k hh).trans sg.ofPackage) ?_
    intro k hk hid
    exact hpaired k (signable_of_isOpen h sg.ceremony sg.isOpen hk hid) (hid.trans sg.ofPackage.symm)
  tallied := tallied_signed h sg.signer sg.ceremony sg.ofCeremony
    (fun r => congrArg Prod.fst (hfc r)) htallied
  consented := by
    intro r' hr' hsigned
    rcases updateWhere_cases hr' with ⟨hr, -⟩ | ⟨r, hr, hh, rfl⟩
    · exact h.consented r' hr hsigned
    · obtain ⟨t, ht, -⟩ := sg.consented
      obtain rfl := h.keyed.signer_unique hr sg.signer (of_decide_eq_true hh)
      exact Option.isSome_iff_exists.mpr ⟨t, ht⟩
  items := h.items

theorem ended {packageId : String} {ctarget : CeremonyState} {ptarget : PackageState}
    (hc : c ∈ db.signing_ceremonies) (ho : c.state.isOpen = true)
    (hpackage : packageId = c.package_id)
    (hctarget : ctarget = .declined ∨ ctarget = .expired ∨ ctarget = .voided)
    (htargets : Jacket.paired ctarget ptarget = true) (hstanding : ptarget.standing = false) :
    Coherent
      { db with
        jacket_packages :=
          updateWhere (fun k => (k.package_id = packageId && k.state.signable) = true)
            (Package.moved ptarget reason) db.jacket_packages
        signing_ceremonies :=
          updateWhere (fun r => decide (r.ceremony_id = c.ceremony_id) = true)
            (Ceremony.moved ctarget) db.signing_ceremonies } where
  keyed := h.keyed.of_columns rfl (map_updateWhere fun _ _ => rfl) (map_updateWhere fun _ _ => rfl)
    rfl
  oneStanding := h.oneStanding.updateWhere (fun _ => rfl) fun _ _ _ hst =>
    absurd (hstanding.symm.trans hst) Bool.false_ne_true
  paired := paired_ended h hc ho hpackage htargets reason
  tallied := h.tallied.ended hctarget fun r hr hh => by
    rw [h.keyed.ceremony_unique hr hc (of_decide_eq_true hh)]
    exact unfinished_of_isOpen ho
  consented := h.consented
  items := h.items

theorem voidedPackage (hp : p ∈ db.jacket_packages) (hits : hit p = true)
    (hlive : ∀ k ∈ db.jacket_packages, hit k = true →
      k.package_id = p.package_id ∧ k.state.live = true)
    {pf bl ev} : Coherent ⟨db.deal_jackets, db.jacket_checklist_items,
      updateWhere (fun k => hit k = true) (Package.moved .voided reason) db.jacket_packages,
      pf, bl, db.package_documents,
      updateWhere (fun c => (c.package_id = p.package_id && c.state.unfinished) = true)
        (Ceremony.moved .voided) db.signing_ceremonies, db.ceremony_signers, ev⟩ where
  keyed := h.keyed.of_columns rfl (map_updateWhere fun _ _ => rfl) (map_updateWhere fun _ _ => rfl)
    rfl
  oneStanding := h.oneStanding.updateWhere (fun _ => rfl) fun _ _ _ hst =>
    absurd hst Bool.false_ne_true
  paired := by
    refine h.paired.updateWhere (fun _ => rfl) (fun _ => rfl) fun c _ k hk hid hpair => ?_
    by_cases hkp : k.package_id = p.package_id
    · obtain rfl := h.keyed.package_unique hk hp hkp
      have hunfinished := (unfinished_eq_live hpair).trans (hlive k hk hits).2
      rw [if_pos hits, if_pos (by simp [← hid, hunfinished])]
      rfl
    · have hmiss : ¬ hit k = true := fun hh => hkp (hlive k hk hh).1
      rw [if_neg hmiss, if_neg (by simp [← hid, hkp])]
      exact hpair
  tallied := h.tallied.ended (.inr (.inr rfl)) fun c _ hh => (Bool.and_eq_true_iff.mp hh).2
  consented := h.consented
  items := h.items

end Coherent

theorem Move.coherent {db' : Cabinet} {l : Label} (h : Coherent db) (m : Move db l db') :
    Coherent db' := by
  cases m with
  | opened j items pf bl ev fresh isOpen kept =>
    have hkeys := h.keyed.insertJacket (j := j.jacket_id) fun r hr => by
      obtain ⟨k, hk, rfl⟩ := mem_map.mp hr
      exact fresh k hk
    exact
      { h with
        keyed := hkeys.of_columns map_append rfl rfl rfl
        items := kept.keys h.items }
  | evidenced items pf bl ev kept => exact { h with items := kept.keys h.items }
  | waived item f pf bl ev stands keeps =>
    refine { h with items := ?_ }
    exact nodup_map_updateWhere h.items fun i _ => (keeps i).1
  | failed j predecessor reason p bump pf bl ev jacket ofJacket stands fresh isVoided bumped =>
    exact h.version jacket ofJacket stands fresh (fun r => (bumped r).1) h.items
  | assembled j predecessor reason p documents items pf bl ev jacket ofJacket stands fresh isDraft
      ofPackage unreviewed kept =>
      exact h.version (f := DealJacket.moved .open) jacket ofJacket stands fresh (fun _ => rfl)
        (kept.keys h.items)
  | readied hit pf bl ev draft => exact h.readied draft
  | reviewed hit actor now pf bl ev =>
    exact
      { h with
        keyed := h.keyed.of_columns rfl (map_updateWhere fun _ _ => rfl) rfl rfl
        oneStanding := h.oneStanding.updateWhere (fun _ => rfl) fun _ _ _ hst => hst
        paired := by
          intro c hc k' hk' hid
          rcases updateWhere_cases hk' with ⟨hk, -⟩ | ⟨k, hk, -, rfl⟩
          · exact h.paired c hc k' hk hid
          · exact h.paired c hc k hk hid }
  | sent p hit c signers pf bl ev package hits ready first fresh ofPackage ofJacket isSent someone
      keys invited =>
      exact h.sent package hits ready first fresh ofPackage ofJacket isSent someone keys invited
  | viewed s now pf bl ev signer unviewed early =>
    refine h.signers _ (Signer.looked now) (fun _ => rfl) fun r hr hh =>
      ⟨?_, SignerState.noConfusion⟩
    rw [h.keyed.signer_unique hr signer (of_decide_eq_true hh)]
    rcases early with he | he <;> rw [he] <;> exact SignerState.noConfusion
  | consented s now version c pf bl ev signer ceremony ofCeremony isOpen unconsented =>
    refine h.signers _ (Signer.agreed version now) (fun _ => rfl) fun r hr hh =>
      ⟨?_, SignerState.noConfusion⟩
    obtain rfl := h.keyed.signer_unique hr signer (of_decide_eq_true hh)
    intro hsigned
    have hconsented := h.consented r hr hsigned
    rw [unconsented] at hconsented
    exact Bool.false_ne_true hconsented
  | progressed s c p instant pf bl ev signable more =>
    refine h.signed signable (Ceremony.moved .in_progress)
      (fun k => k.package_id = p.package_id && k.state = .sent)
      (Package.moved .partially_signed none) (fun _ => rfl) (fun _ => rfl) (fun k hh => ?_)
      (fun k hk hid => ?_) ⟨?_, someUnsigned_iff_not_allSigned.mpr more⟩
    · exact of_decide_eq_true (Bool.and_eq_true_iff.mp hh).1
    · rw [hid]
      cases hks : k.state <;> rw [hks] at hk <;>
        first
          | exact absurd hk Bool.false_ne_true
          | simp [hks, Package.moved, Ceremony.moved, paired]
    · exact someSigned_signersAfter signable.signer signable.ofCeremony
  | completed s c p instant sha256 pf bl ev signable last certified =>
    refine (h.signed signable (Ceremony.completedAt instant sha256)
      (fun k => k.package_id = p.package_id) (Package.moved .signed_complete none)
      (fun _ => rfl) (fun _ => rfl) (fun k hh => of_decide_eq_true hh) (fun k _ hid => ?_)
      ⟨?_, fun hun => someUnsigned_iff_not_allSigned.mp hun last⟩).jackets _
        (DealJacket.moved .signed_complete) fun _ => rfl
    · rw [if_pos (decide_eq_true hid)]
      rfl
    · exact someSigned_signersAfter signable.signer signable.ofCeremony
  | declined s c p reason now pf bl ev signer ceremony ofCeremony ofPackage isOpen unsigned =>
    refine (h.ended ceremony isOpen ofPackage (.inl rfl) rfl rfl).signers
      (fun r => decide (r.signer_id = s.signer_id)) (Signer.refuse reason now) (fun _ => rfl) ?_
    intro r hr hh
    obtain rfl := h.keyed.signer_unique hr signer (of_decide_eq_true hh)
    exact ⟨unsigned, SignerState.noConfusion⟩
  | voidedPackage p hit reason pf bl ev package hits isLive =>
    exact h.voidedPackage package hits isLive
  | voidedJacket jacketId pf bl ev =>
    exact { h.jackets (·.jacket_id = jacketId) (DealJacket.moved .voided) fun _ => rfl with }
  | expired c reason pf bl ev ceremony isOpen =>
    refine (h.ended ceremony isOpen rfl (.inr (.inl rfl)) rfl rfl).signers
      (fun s => s.ceremony_id = c.ceremony_id && s.state.outstanding) (Signer.moved .expired)
      (fun _ => rfl) ?_
    intro s hs hh
    refine ⟨?_, SignerState.noConfusion⟩
    intro hsigned
    rw [hsigned, Bool.and_eq_true] at hh
    exact Bool.false_ne_true hh.2

/-! ## What a package can still become -/

/-- Every package is still there, in a state its own allows. -/
def PackagesPersist (before after : List Package) : Prop :=
  ∀ p ∈ before, ∃ q ∈ after, q.package_id = p.package_id ∧ freezeAllows p.state q.state = true

theorem freezeAllows_refl (s : PackageState) : freezeAllows s s = true := by
  cases s <;> rfl

theorem freezeAllows_trans {b c : PackageState} (hab : freezeAllows a b = true)
    (hbc : freezeAllows b c = true) : freezeAllows a c = true := by
  cases a <;> cases b <;>
    first
      | rfl
      | exact hbc
      | exact absurd hab Bool.false_ne_true
      | (cases c <;> first | rfl | exact absurd hbc Bool.false_ne_true)

theorem freezeAllows_of_live (h : a.live = true) (b : PackageState) : freezeAllows a b = true := by
  cases a <;> first | rfl | exact absurd h Bool.false_ne_true

theorem freezeAllows_superseded (h : a.standing = true) : freezeAllows a .superseded = true := by
  cases a <;> first | rfl | exact absurd h Bool.false_ne_true

theorem live_of_signable (h : a.signable = true) : a.live = true := by
  cases a <;> first | rfl | exact absurd h Bool.false_ne_true

theorem standing_of_live (h : a.live = true) : a.standing = true := by
  cases a <;> first | rfl | exact absurd h Bool.false_ne_true

theorem PackagesPersist.refl (ps : List Package) : PackagesPersist ps ps :=
  fun p hp => ⟨p, hp, rfl, freezeAllows_refl p.state⟩

theorem PackagesPersist.trans {as bs cs : List Package} (hab : PackagesPersist as bs)
    (hbc : PackagesPersist bs cs) : PackagesPersist as cs := by
  intro a ha
  obtain ⟨b, hb, hid, hst⟩ := hab a ha
  obtain ⟨c, hc, hid', hst'⟩ := hbc b hb
  exact ⟨c, hc, hid'.trans hid, freezeAllows_trans hst hst'⟩

theorem PackagesPersist.updateWhere {ps : List Package} {hit : Package → Prop} [DecidablePred hit]
    {f : Package → Package} (hid : ∀ k, (f k).package_id = k.package_id)
    (hst : ∀ k ∈ ps, hit k → freezeAllows k.state (f k).state = true) :
    PackagesPersist ps (updateWhere hit f ps) := by
  intro k hk
  by_cases hh : hit k
  · exact ⟨f k, mem_updateWhere_of_pos hk hh, hid k, hst k hk hh⟩
  · exact ⟨k, mem_updateWhere_of_neg hk hh, rfl, freezeAllows_refl k.state⟩

theorem PackagesPersist.append {ps qs : List Package} (h : PackagesPersist ps qs) (p : Package) :
    PackagesPersist ps (qs ++ [p]) := by
  intro k hk
  obtain ⟨q, hq, hid, hst⟩ := h k hk
  exact ⟨q, mem_append_left _ hq, hid, hst⟩

theorem retired_persist (h : Coherent db) {jacketId : String} {predecessor : Option Package}
    (reason : Option String) (hpred : IsPredecessor db jacketId predecessor) :
    PackagesPersist db.jacket_packages (retired predecessor reason db.jacket_packages) :=
  PackagesPersist.updateWhere (fun _ => rfl) fun _ hk hid =>
    freezeAllows_superseded (standing_of_predecessor h hpred hk hid).1

theorem Move.packagesPersist {db' : Cabinet} {l : Label} (h : Coherent db) (m : Move db l db') :
    PackagesPersist db.jacket_packages db'.jacket_packages := by
  cases m with
  | opened | evidenced | waived | viewed | consented | voidedJacket => exact .refl _
  | failed _ _ reason p _ _ _ _ _ _ stands => exact (retired_persist h reason stands).append p
  | assembled _ _ reason p _ _ _ _ _ _ _ stands => exact (retired_persist h reason stands).append p
  | readied hit _ _ _ draft =>
    refine PackagesPersist.updateWhere (fun _ => rfl) fun k hk hh => ?_
    rw [draft k hk hh]
    rfl
  | reviewed =>
    exact PackagesPersist.updateWhere (fun _ => rfl) fun k _ _ => freezeAllows_refl k.state
  | sent p hit c signers _ _ _ _ _ ready =>
    refine PackagesPersist.updateWhere (fun _ => rfl) fun k hk hh => ?_
    rw [(ready k hk hh).2]
    rfl
  | progressed s c p =>
    refine PackagesPersist.updateWhere (fun _ => rfl) fun k _ hh => ?_
    rw [Bool.and_eq_true, decide_eq_true_iff, decide_eq_true_iff] at hh
    rw [hh.2]
    rfl
  | completed s c p instant _ _ _ _ signable =>
    refine PackagesPersist.updateWhere (fun _ => rfl) fun k hk hh => ?_
    have hid := (of_decide_eq_true hh).trans signable.ofPackage
    exact freezeAllows_of_live
      (live_of_signable (signable_of_isOpen h signable.ceremony signable.isOpen hk hid)) _
  | declined | expired =>
    refine PackagesPersist.updateWhere (fun _ => rfl) fun k _ hh => ?_
    exact freezeAllows_of_live (live_of_signable (Bool.and_eq_true_iff.mp hh).2) _
  | voidedPackage p hit _ _ _ _ _ _ isLive =>
    exact PackagesPersist.updateWhere (fun _ => rfl) fun k hk hh =>
      freezeAllows_of_live (isLive k hk hh).2 _

end Dealership.Jacket
