import Dealership.Policy.Decisions

/-!
# Decisions and the order of rows

No query of the engine asks for an order, so the bindings and the support
sessions may come back in any.  The dealership branch and the support authority
pick by a rule of their own and are not moved by it.  The control plane takes the
first binding and a delegation the first session, and `decide_row_order` says when
that shows: exactly when a second row could have been taken.
-/

namespace Dealership.Policy

open Library List

variable {place : Option OrganizationNodeRef} {engine : PolicyEngine} {catalog : ActionCatalog}
  {db : Tables} {now : Int} {ids : EvidenceIds} {input : PolicyInput} {d : ActionDefinition}
  {t : String} {rbs : List RoleBinding} {ss : List SupportAccessSession} {b : RoleBinding}

/-- The same rows, the bindings and the support sessions in another order. -/
def Tables.reordered (db : Tables) (rbs : List RoleBinding) (ss : List SupportAccessSession) :
    Tables :=
  { db with roleBindings := rbs, supportSessions := ss }

/-! ## What is not moved -/

theorem Tables.binding_reordered (hdb : db.Sound) (hrbs : rbs.Perm db.roleBindings) (id : String) :
    (db.reordered rbs ss).binding id = db.binding id :=
  Library.find?_perm_of_key hdb.bindingKey hrbs id

theorem Tables.supportSession_reordered (hdb : db.Sound) (hss : ss.Perm db.supportSessions)
    (id : String) : (db.reordered rbs ss).supportSession id = db.supportSession id :=
  Library.find?_perm_of_key hdb.supportSessionKey hss id

/-- The evidence tables look rows up by their keys, so their rules are not moved either. -/
theorem EvidenceRow.refusal_reordered (hdb : db.Sound) (hrbs : rbs.Perm db.roleBindings)
    (hss : ss.Perm db.supportSessions) (row : EvidenceRow) :
    row.refusal (db.reordered rbs ss) now = row.refusal db now := by
  have hb : (db.reordered rbs ss).binding = db.binding := funext (Tables.binding_reordered hdb hrbs)
  have hs : (db.reordered rbs ss).supportSession = db.supportSession :=
    funext (Tables.supportSession_reordered hdb hss)
  have happlicable : row.bindingIsApplicable (db.reordered rbs ss) now
      = row.bindingIsApplicable db now := by
    funext m
    simp only [bindingIsApplicable, hb]
    rfl
  have hreaches : row.bindingReachesResource (db.reordered rbs ss) now
      = row.bindingReachesResource db now := by
    funext m
    simp only [bindingReachesResource, hb]
    rfl
  have hversion : bindingVersionIsReachable (db.reordered rbs ss)
      = bindingVersionIsReachable db := by
    funext m
    simp only [bindingVersionIsReachable, hb]
  have hbelongs : row.bindingBelongsToTheActor (db.reordered rbs ss)
      = row.bindingBelongsToTheActor db := by
    funext m
    simp only [bindingBelongsToTheActor, hb]
  have htriggers : row.triggerRules (db.reordered rbs ss) now = row.triggerRules db now := by
    simp only [triggerRules, supportEvidenceIsTheApproval, supportSessionIsLive,
      supportWindowIsTheSessions, supportAuthorityIsLive, hb, hs]
    rfl
  have hchecks : row.checkRules (db.reordered rbs ss) = row.checkRules db := rfl
  have hkeys : row.keyRules (db.reordered rbs ss) = row.keyRules db := by
    simp only [keyRules, supportEvidenceIsTheSessions, hb, hs]
    rfl
  rw [refusal, refusal, rules, rules, htriggers, hchecks, hkeys, matchRules, matchRules,
    happlicable, hreaches, hversion, hbelongs]

theorem EvidenceRow.refusal_of_matched_perm {row : EvidenceRow} {ms : List MatchedBinding}
    (hp : ms.Perm row.matched) : ({ row with matched := ms }).refusal db now
      = row.refusal db now := by
  have hall : ∀ f : MatchedBinding → Bool, ms.all f = row.matched.all f := fun f => hp.all_eq
  have hempty : ms.isEmpty = row.matched.isEmpty := hp.isEmpty_eq
  have hdistinct : decide (ms.map MatchedBinding.roleBindingId).Nodup
      = decide (row.matched.map MatchedBinding.roleBindingId).Nodup :=
    decide_eq_decide.mpr (hp.map _).nodup_iff
  have hchecks : ({ row with matched := ms }).checkRules db = row.checkRules db := by
    simp only [checkRules, hempty]
    rfl
  have hmatches : ({ row with matched := ms }).matchRules db now = row.matchRules db now := by
    simp only [matchRules, hall, hdistinct]
    rfl
  rw [refusal, refusal, rules, rules, hchecks, hmatches]
  rfl

/-! ## What the engine reads -/

theorem loadBindings_reordered (now : Int) (input : PolicyInput)
    (hrbs : rbs.Perm db.roleBindings) :
    (loadBindings (db.reordered rbs ss) now input).Perm (loadBindings db now input) :=
  hrbs.filter _

theorem liveSessions_reordered (now : Int) (input : PolicyInput) (t : String)
    (hss : ss.Perm db.supportSessions) :
    (liveSessions (db.reordered rbs ss) now input t).Perm (liveSessions db now input t) :=
  hss.filterMap _

theorem coveringBindings_reordered (hrbs : rbs.Perm db.roleBindings)
    (ancestry : Option (List OrganizationNodeRef)) :
    (coveringBindings (db.reordered rbs ss) now input d ancestry).Perm
      (coveringBindings db now input d ancestry) :=
  (loadBindings_reordered now input hrbs).filter _

theorem binding_eq_of_id (hdb : db.Sound) {b' : RoleBinding} (hb : b ∈ loadBindings db now input)
    (hb' : b' ∈ loadBindings db now input) (h : b.roleBindingId = b'.roleBindingId) : b = b' :=
  Library.eq_of_key hdb.bindingKey (mem_of_mem_filter hb) (mem_of_mem_filter hb') h

theorem narrowestBinding_reordered (hdb : db.Sound) (hrbs : rbs.Perm db.roleBindings)
    (ancestry : Option (List OrganizationNodeRef)) :
    narrowestBinding (coveringBindings (db.reordered rbs ss) now input d ancestry)
      = narrowestBinding (coveringBindings db now input d ancestry) := by
  refine (best_perm narrower_trans narrower_irrefl ?_
    (coveringBindings_reordered hrbs ancestry).symm).symm
  intro b hb b' hb' hbb' hb'b
  refine binding_eq_of_id hdb (mem_of_mem_filter hb) (mem_of_mem_filter hb') ?_
  have hdepth : scopeDepth b.scopeLevel = scopeDepth b'.scopeLevel := by
    by_contra hne
    rcases Nat.lt_or_gt_of_ne hne with hlt | hgt
    · exact Bool.false_ne_true (hb'b.symm.trans (narrower_iff.mpr (.inl hlt)))
    · exact Bool.false_ne_true (hbb'.symm.trans (narrower_iff.mpr (.inl hgt)))
  simp only [narrower, hdepth, lt_irrefl, decide_false, decide_true, Bool.false_or,
    Bool.true_and] at hbb' hb'b
  exact jsLt_connected hbb' hb'b

theorem supportAuthority_reordered (hdb : db.Sound) (hrbs : rbs.Perm db.roleBindings) :
    supportAuthority (db.reordered rbs ss) now input = supportAuthority db now input := by
  refine (best_perm (fun (a b c : RoleBinding) => jsLt_trans (a := a.roleBindingId)
    (b := b.roleBindingId)) (fun a => jsLt_irrefl a.roleBindingId) ?_
    ((loadBindings_reordered now input hrbs).filter _).symm).symm
  intro b hb b' hb' hbb' hb'b
  exact binding_eq_of_id hdb (mem_of_mem_filter hb) (mem_of_mem_filter hb')
    (jsLt_connected hbb' hb'b)

/-! ## Two answers to one question -/

/-- A binding a platform actor's control-plane request may rest on. -/
structure ControlPlaneCandidate (db : Tables) (now : Int) (input : PolicyInput)
    (d : ActionDefinition) (b : RoleBinding) : Prop where
  binding : InForce db now input none b
  scope : b.scopeLevel = .platform
  role : b.role ∈ d.allowedRoles

/-- A request that reaches the first binding on the control plane. -/
structure ControlPlaneRequest (catalog : ActionCatalog) (input : PolicyInput)
    (d : ActionDefinition) : Prop where
  published : catalog.get input.action = some d
  plane : actionPlane d = .controlPlane
  actor : input.actor.actorScope = .platform
  noResource : input.resource = none
  noHint : input.scopeHint = none

/-- A support session a request may rest on. -/
structure DelegationCandidate (db : Tables) (now : Int) (input : PolicyInput)
    (d : ActionDefinition) (t : String) (place : Option OrganizationNodeRef)
    (s : DelegatedSession) : Prop where
  live : LiveDelegation db now input t s
  approves : Approves db d t place s

/-- A request that reaches the first session of a tenant. -/
structure DelegationRequest (catalog : ActionCatalog) (db : Tables) (now : Int)
    (input : PolicyInput) (d : ActionDefinition) (t : String)
    (place : Option OrganizationNodeRef) (authority : RoleBinding) : Prop where
  published : catalog.get input.action = some d
  plane : actionPlane d = .tenant
  actor : input.actor.actorScope = .platform
  target : input.target = some t
  tenant : db.tenantEffective now t = true
  lands : LandsOn db input d t place
  fit : Fit db now t place
  support : supportAuthority db now input = some authority

/-- How the allowance found in one order relates to the one found in another. -/
inductive Reordering (catalog : ActionCatalog) (db : Tables) (now : Int) (input : PolicyInput) :
    Allowance → Allowance → Prop where
  /-- A dealership actor's: the same, but for the order of what matched. -/
  | member {a : Allowance} {ms : List MatchedBinding} (support : a.support = none)
      (perm : ms.Perm a.matched) : Reordering catalog db now input a { a with matched := ms }
  | controlPlane {d : ActionDefinition} {b b' : RoleBinding}
      (request : ControlPlaneRequest catalog input d)
      (first : ControlPlaneCandidate db now input d b)
      (first' : ControlPlaneCandidate db now input d b') :
      Reordering catalog db now input (platformAllowance input d b) (platformAllowance input d b')
  | delegated {d : ActionDefinition} {t : String} {place : Option OrganizationNodeRef}
      {authority : RoleBinding} {s s' : DelegatedSession}
      (request : DelegationRequest catalog db now input d t place authority)
      (first : DelegationCandidate db now input d t place s)
      (first' : DelegationCandidate db now input d t place s') :
      Reordering catalog db now input (delegatedAllowance input d t authority s)
        (delegatedAllowance input d t authority s')

/-- The rule gives the same denial in any order, or allows in both. -/
def SameRule (catalog : ActionCatalog) (db : Tables) (now : Int) (input : PolicyInput) :
    Except Denial Allowance → Except Denial Allowance → Prop
  | .error e, .error e' => e = e'
  | .ok a, .ok a' => Reordering catalog db now input a a'
  | _, _ => False

theorem find?_isSome_perm {α : Type} {p : α → Bool} {xs ys : List α} (hp : xs.Perm ys) :
    (xs.find? p).isSome = (ys.find? p).isSome := by
  rw [Bool.eq_iff_iff, find?_isSome, find?_isSome]
  simp only [hp.mem_iff]

theorem dealershipAllowance_reordered (hdb : db.Sound) (hrbs : rbs.Perm db.roleBindings)
    (ancestry : Option (List OrganizationNodeRef)) :
    SameRule catalog db now input (dealershipAllowance db now input d ancestry)
      (dealershipAllowance (db.reordered rbs ss) now input d ancestry) := by
  unfold dealershipAllowance
  dsimp only
  rw [narrowestBinding_reordered hdb hrbs]
  cases narrowestBinding (coveringBindings db now input d ancestry) with
  | none => rfl
  | some b =>
    exact .member (a := memberAllowance input d (coveringBindings db now input d ancestry) b)
      rfl ((coveringBindings_reordered hrbs ancestry).map RoleBinding.asMatched)

theorem controlPlaneAllowance_reordered (hrbs : rbs.Perm db.roleBindings)
    (hrequest : ControlPlaneRequest catalog input d) :
    SameRule catalog db now input (controlPlaneAllowance db now input d)
      (controlPlaneAllowance (db.reordered rbs ss) now input d) := by
  have hperm : (loadBindings (db.reordered rbs ss) now input).Perm (loadBindings db now input) :=
    loadBindings_reordered now input hrbs
  have hcandidate : ∀ b, b ∈ loadBindings db now input → authorizes input d none b = true →
      ControlPlaneCandidate db now input d b := by
    intro b hb hauth
    rw [mem_loadBindings, hrequest.actor] at hb
    rw [authorizes, Bool.and_eq_true, covers_controlPlane hrequest.plane,
      decide_eq_true_eq] at hauth
    exact ⟨hb, hauth.2, hauth.1⟩
  have hsome := find?_isSome_perm (p := authorizes input d none) hperm
  unfold controlPlaneAllowance
  cases hb : (loadBindings db now input).find? (authorizes input d none) with
  | none =>
    rw [hb, Option.isSome_none, Option.isSome_eq_false_iff, Option.isNone_iff_eq_none] at hsome
    rw [hsome]
    rfl
  | some b =>
    rw [hb, Option.isSome_some] at hsome
    obtain ⟨b', hb'⟩ := Option.isSome_iff_exists.mp hsome
    rw [hb']
    exact .controlPlane hrequest (hcandidate b (mem_of_find?_eq_some hb)
      (find?_some hb)) (hcandidate b' (hperm.mem_iff.mp (mem_of_find?_eq_some hb'))
      (find?_some hb'))

theorem supportAllowance_reordered (hdb : db.Sound) (hrbs : rbs.Perm db.roleBindings)
    (hss : ss.Perm db.supportSessions) {ancestry : Option (List OrganizationNodeRef)}
    (hresolved : Resolved db now t place ancestry)
    (hrequest : ∀ authority, supportAuthority db now input = some authority →
      DelegationRequest catalog db now input d t place authority) :
    SameRule catalog db now input (supportAllowance db now input d t ancestry)
      (supportAllowance (db.reordered rbs ss) now input d t ancestry) := by
  have hperm : (liveSessions (db.reordered rbs ss) now input t).Perm (liveSessions db now input t) :=
    liveSessions_reordered now input t hss
  have hcandidate : ∀ s, s ∈ liveSessions db now input t → sessionCovers d ancestry s = true →
      DelegationCandidate db now input d t place s := fun s hs hcov =>
    ⟨mem_liveSessions.mp hs, (sessionCovers_iff hresolved).mp hcov⟩
  have hsome := find?_isSome_perm (p := sessionCovers d ancestry) hperm
  unfold supportAllowance
  rw [supportAuthority_reordered hdb hrbs]
  cases hauth : supportAuthority db now input with
  | none => rfl
  | some authority =>
    dsimp only
    cases hs : (liveSessions db now input t).find? (sessionCovers d ancestry) with
    | none =>
      rw [hs, Option.isSome_none, Option.isSome_eq_false_iff, Option.isNone_iff_eq_none] at hsome
      rw [hsome]
      rfl
    | some s =>
      rw [hs, Option.isSome_some] at hsome
      obtain ⟨s', hs'⟩ := Option.isSome_iff_exists.mp hsome
      rw [hs']
      exact .delegated (hrequest authority hauth)
        (hcandidate s (mem_of_find?_eq_some hs) (find?_some hs))
        (hcandidate s' (hperm.mem_iff.mp (mem_of_find?_eq_some hs')) (find?_some hs'))

theorem examine_reordered (hdb : db.Sound) (hrbs : rbs.Perm db.roleBindings)
    (hss : ss.Perm db.supportSessions) :
    SameRule catalog db now input (examine catalog db now input)
      (examine catalog (db.reordered rbs ss) now input) := by
  have htarget : targetTenant (db.reordered rbs ss) now input = targetTenant db now input := rfl
  have hacted : actedOn (db.reordered rbs ss) now input = actedOn db now input := rfl
  unfold examine
  rw [htarget, hacted]
  cases hpub : publishedAction catalog input with
  | error e => rfl
  | ok d =>
    obtain ⟨hget, hpayload⟩ := publishedAction_eq_ok.mp hpub
    simp only [bind, Except.bind]
    cases hown : ownTenant input d with
    | error e => rfl
    | ok u =>
      dsimp only
      cases hplane : actionPlane d with
      | controlPlane =>
        rw [if_pos rfl]
        cases hactor : input.actor.actorScope with
        | dealership => exact dealershipAllowance_reordered hdb hrbs none
        | platform =>
          exact controlPlaneAllowance_reordered hrbs
            ⟨hget, hplane, hactor, (hpayload hplane).1, (hpayload hplane).2⟩
      | tenant =>
        rw [if_neg (by decide)]
        cases ht : targetTenant db now input d with
        | error e => rfl
        | ok t =>
          dsimp only
          cases hanc : actedOn db now input d t with
          | error e => rfl
          | ok ancestry =>
            obtain ⟨place, hlands, hresolved⟩ := actedOn_eq_ok.mp hanc
            obtain ⟨htgt, heff⟩ := targetTenant_eq_ok.mp ht
            dsimp only
            cases hactor : input.actor.actorScope with
            | dealership => exact dealershipAllowance_reordered hdb hrbs ancestry
            | platform =>
              exact supportAllowance_reordered hdb hrbs hss hresolved
                fun authority hauth => ⟨hget, hplane, hactor, htgt, heff, hlands,
                  hresolved.fit, hauth⟩

/-! ## The evidence -/

/-- Two decisions leave the same evidence: the answer, its reason, the scope recorded, the
bindings matched with their versions, the delegated facts and the supporting binding. -/
structure SameEvidence (x y : PolicyDecisionResult × EvidenceRow) : Prop where
  decision : x.1.decision = y.1.decision
  reasonCode : x.1.reasonCode = y.1.reasonCode
  scope : x.2.scopeLevel = y.2.scopeLevel ∧ x.2.scopeId = y.2.scopeId
  matched : ∀ m, m ∈ x.2.matched ↔ m ∈ y.2.matched
  support : x.1.support = y.1.support
  authority : x.2.supportAuthority = y.2.supportAuthority

/-- Two questions are answered alike.  A decision that fails answers nothing, whichever
rule refused its evidence. -/
def SameOutcome : Except String (PolicyDecisionResult × EvidenceRow) →
    Except String (PolicyDecisionResult × EvidenceRow) → Prop
  | .ok x, .ok y => SameEvidence x y
  | .error _, .error _ => True
  | _, _ => False

/-- No order of the bindings and the support sessions changes the answer. -/
def RowOrderFree (engine : PolicyEngine) (db : Tables) (now : Int) (ids : EvidenceIds)
    (input : PolicyInput) : Prop :=
  ∀ rbs ss, rbs.Perm db.roleBindings → ss.Perm db.supportSessions →
    SameOutcome (engine.decide db now ids input) (engine.decide (db.reordered rbs ss) now ids input)

/-- What the evidence of a control-plane allowance asks of its request. -/
def ControlPlaneStored (db : Tables) (now : Int) (input : PolicyInput) : Prop :=
  (∃ s, presentedSession db now input.actor.userLinkId input.sessionId = some s) ∧
    (∃ ul, db.link input.actor.userLinkId = some ul ∧ ul.actorScope = .platform) ∧
    (∀ t, input.target = some t →
      (db.organization.tenants.any fun r => decide (r.tenantId = t)) = true) ∧
    EvidenceRow.namedPlatform input.action = true

/-- What the evidence of a delegation asks of its request and its session. -/
def DelegationStored (db : Tables) (now : Int) (input : PolicyInput) (t : String)
    (s : DelegatedSession) : Prop :=
  (∃ s, presentedSession db now input.actor.userLinkId input.sessionId = some s) ∧
    (∀ ul, db.link input.actor.userLinkId = some ul → ul.status = .activated) ∧
    s.session.grantedAt ≤ now ∧
    ∀ r, input.resource = some r → ∃ leaf, ResourceStands db now t r leaf ∧
      ApprovalReaches db t s.request leaf

/-- No second row could have been taken where taking it shows. -/
structure SoleCandidate (catalog : ActionCatalog) (db : Tables) (now : Int)
    (input : PolicyInput) : Prop where
  binding : ∀ d b b', ControlPlaneRequest catalog input d → ControlPlaneStored db now input →
    ControlPlaneCandidate db now input d b → ControlPlaneCandidate db now input d b' → b = b'
  session : ∀ d t place authority s s',
    DelegationRequest catalog db now input d t place authority →
    DelegationCandidate db now input d t place s → DelegationCandidate db now input d t place s' →
    DelegationStored db now input t s → s = s'

theorem ControlPlaneCandidate.accepted_iff (hdb : db.Sound)
    (hrequest : ControlPlaneRequest catalog input d) (hb : ControlPlaneCandidate db now input d b) :
    ((platformAllowance input d b).row db now ids input).refusal db now = none ↔
      ControlPlaneStored db now input :=
  platform_accepted_iff hdb hrequest.published hrequest.actor hb.binding hb.scope

theorem DelegationCandidate.accepted_iff (hdb : db.Sound) {authority : RoleBinding}
    {s : DelegatedSession} (hrequest : DelegationRequest catalog db now input d t place authority)
    (hs : DelegationCandidate db now input d t place s) :
    ((delegatedAllowance input d t authority s).row db now ids input).refusal db now = none ↔
      DelegationStored db now input t s := by
  have hspec := supportAuthority_spec db now input
  rw [hrequest.support] at hspec
  obtain ⟨hload, hscope, hrole⟩ := hspec
  rw [mem_loadBindings, hrequest.actor] at hload
  exact delegated_accepted_iff hdb hrequest.published hrequest.actor hrequest.tenant hrequest.fit
    hload hscope hrole hs.live hs.approves

theorem SameEvidence.refl (x : PolicyDecisionResult × EvidenceRow) : SameEvidence x x :=
  ⟨rfl, rfl, ⟨rfl, rfl⟩, fun _ => Iff.rfl, rfl, rfl⟩

theorem SameOutcome.refl (x : Except String (PolicyDecisionResult × EvidenceRow)) :
    SameOutcome x x := by
  cases x with
  | error e => trivial
  | ok x => exact SameEvidence.refl x

theorem sameOutcome_record {row row' : EvidenceRow} {result result' : PolicyDecisionResult}
    (hiff : row.refusal db now = none ↔ row'.refusal db now = none)
    (hsame : row.refusal db now = none → SameEvidence (result, row) (result', row')) :
    SameOutcome (record db now row result) (record db now row' result') := by
  unfold record
  cases hrow : row.refusal db now with
  | none =>
    rw [hiff.mp hrow]
    exact hsame hrow
  | some e =>
    cases hrow' : row'.refusal db now with
    | none =>
      rw [hiff.mpr hrow'] at hrow
      cases hrow
    | some e' => trivial

theorem Allowance.row_reordered (hdb : db.Sound) (hss : ss.Perm db.supportSessions)
    (a : Allowance) : a.row (db.reordered rbs ss) now ids input = a.row db now ids input := by
  have hs : (db.reordered rbs ss).supportSession = db.supportSession :=
    funext (Tables.supportSession_reordered hdb hss)
  simp only [Allowance.row, hs]
  rfl

theorem record_reordered (hdb : db.Sound) (hrbs : rbs.Perm db.roleBindings)
    (hss : ss.Perm db.supportSessions) (row : EvidenceRow) (result : PolicyDecisionResult) :
    record (db.reordered rbs ss) now row result = record db now row result := by
  rw [record, EvidenceRow.refusal_reordered hdb hrbs hss, record]

theorem decide_reordered (hdb : db.Sound) (hrbs : rbs.Perm db.roleBindings)
    (hss : ss.Perm db.supportSessions) (engine : PolicyEngine) :
    engine.decide (db.reordered rbs ss) now ids input =
      match examine engine.catalog (db.reordered rbs ss) now input with
      | .error e => record db now (e.row db now ids input) e.result
      | .ok a => record db now (a.row db now ids input) a.result := by
  unfold PolicyEngine.decide
  cases examine engine.catalog (db.reordered rbs ss) now input with
  | error e => exact record_reordered hdb hrbs hss _ _
  | ok a =>
    show record (db.reordered rbs ss) now (a.row (db.reordered rbs ss) now ids input) a.result
      = record db now (a.row db now ids input) a.result
    rw [record_reordered hdb hrbs hss, Allowance.row_reordered hdb hss]

theorem Reordering.sameOutcome (hdb : db.Sound) (hsole : SoleCandidate catalog db now input)
    {a a' : Allowance} (h : Reordering catalog db now input a a') :
    SameOutcome (record db now (a.row db now ids input) a.result)
      (record db now (a'.row db now ids input) a'.result) := by
  cases h with
  | member hsupport hperm =>
    rename_i ms
    have hrow : ({ a with matched := ms } : Allowance).row db now ids input
        = { a.row db now ids input with matched := ms } := rfl
    rw [hrow]
    refine sameOutcome_record ?_ fun _ => ⟨rfl, rfl, ⟨rfl, rfl⟩, fun m => ?_, rfl, rfl⟩
    · rw [EvidenceRow.refusal_of_matched_perm
        (show ms.Perm (a.row db now ids input).matched from hperm)]
    · exact hperm.symm.mem_iff
  | controlPlane hrequest hb hb' =>
    refine sameOutcome_record ?_ fun hrow => ?_
    · rw [hb.accepted_iff hdb hrequest, hb'.accepted_iff hdb hrequest]
    · obtain rfl := hsole.binding _ _ _ hrequest ((hb.accepted_iff hdb hrequest).mp hrow) hb hb'
      exact SameEvidence.refl _
  | delegated hrequest hs hs' =>
    have hfrom := hsole.session _ _ _ _ _ _ hrequest hs hs'
    have hback := hsole.session _ _ _ _ _ _ hrequest hs' hs
    refine sameOutcome_record ?_ fun hrow => ?_
    · rw [hs.accepted_iff hdb hrequest, hs'.accepted_iff hdb hrequest]
      constructor
      · exact fun hstored => hfrom hstored ▸ hstored
      · exact fun hstored => hback hstored ▸ hstored
    · obtain rfl := hfrom ((hs.accepted_iff hdb hrequest).mp hrow)
      exact SameEvidence.refl _

theorem rowOrderFree_of_sole (hdb : db.Sound) (hsole : SoleCandidate engine.catalog db now input) :
    RowOrderFree engine db now ids input := by
  intro rbs ss hrbs hss
  have hrule : SameRule engine.catalog db now input (examine engine.catalog db now input)
      (examine engine.catalog (db.reordered rbs ss) now input) := examine_reordered hdb hrbs hss
  rw [decide_reordered hdb hrbs hss, PolicyEngine.decide]
  cases hex : examine engine.catalog db now input with
  | error e =>
    rw [hex] at hrule
    cases hex' : examine engine.catalog (db.reordered rbs ss) now input with
    | error e' =>
      rw [hex'] at hrule
      obtain rfl : e = e' := hrule
      exact SameOutcome.refl _
    | ok a' => rw [hex'] at hrule; cases hrule
  | ok a =>
    rw [hex] at hrule
    cases hex' : examine engine.catalog (db.reordered rbs ss) now input with
    | error e' => rw [hex'] at hrule; cases hrule
    | ok a' =>
      rw [hex'] at hrule
      exact Reordering.sameOutcome hdb hsole hrule

/-! ## Putting a row first -/

/-- Where an action lands is not read from a binding or a support session. -/
theorem LandsOn.reordered (h : LandsOn db input d t place) :
    LandsOn (db.reordered rbs ss) input d t place := by
  cases h with
  | tenantWide hd hh => exact .tenantWide hd hh
  | hint hd hh => exact .hint hd hh
  | resource hd hr hleaf => exact .resource hd hr hleaf

theorem decide_of_binding_first (hdb : db.Sound) (ids : EvidenceIds)
    (hrequest : ControlPlaneRequest engine.catalog input d)
    (hb : ControlPlaneCandidate db now input d b) (hstored : ControlPlaneStored db now input) :
    ∃ rbs, rbs.Perm db.roleBindings ∧
      engine.decide (db.reordered rbs db.supportSessions) now ids input
        = .ok ((platformAllowance input d b).result,
            (platformAllowance input d b).row db now ids input) := by
  have hperm : (b :: db.roleBindings.erase b).Perm db.roleBindings :=
    (perm_cons_erase hb.binding.mem).symm
  refine ⟨_, hperm, ?_⟩
  have hauth : authorizes input d none b = true := by
    rw [authorizes, Bool.and_eq_true, covers_controlPlane hrequest.plane, decide_eq_true_eq]
    exact ⟨hb.role, hb.scope⟩
  have hfirst : (loadBindings (db.reordered (b :: db.roleBindings.erase b) db.supportSessions)
      now input).find? (authorizes input d none) = some b := by
    have hkept : (decide (b.userLinkId = input.actor.userLinkId) && b.effective now &&
        decide (b.tenantId = none)) = true := by
      simp [hb.binding.own, hb.binding.effective, hb.binding.home]
    rw [loadBindings, hrequest.actor]
    dsimp only [Tables.reordered]
    rw [filter_cons, if_pos hkept, find?_cons_of_pos hauth]
  have hallow : examine engine.catalog
      (db.reordered (b :: db.roleBindings.erase b) db.supportSessions) now input
        = .ok (platformAllowance input d b) := by
    refine examine_eq_ok.mpr ⟨d, publishedAction_eq_ok.mpr
      ⟨hrequest.published, fun _ => ⟨hrequest.noResource, hrequest.noHint⟩⟩,
      ownTenant_eq_ok.mpr fun h => ?_, .inl ⟨hrequest.plane, ?_⟩⟩
    · rw [hrequest.actor] at h
      cases h
    · rw [controlPlaneBranch, hrequest.actor]
      exact controlPlaneAllowance_eq_ok.mpr ⟨b, hfirst, rfl⟩
  rw [decide_reordered hdb hperm (.refl _), hallow]
  dsimp only
  rw [record, (hb.accepted_iff hdb hrequest).mpr hstored]
  rfl

theorem decide_of_session_first (hdb : db.Sound) (ids : EvidenceIds) {authority : RoleBinding}
    {s : DelegatedSession}
    (hrequest : DelegationRequest engine.catalog db now input d t place authority)
    (hs : DelegationCandidate db now input d t place s) : ∃ ss, ss.Perm db.supportSessions ∧
      engine.decide (db.reordered db.roleBindings ss) now ids input
        = record db now ((delegatedAllowance input d t authority s).row db now ids input)
            (delegatedAllowance input d t authority s).result := by
  have hperm : (s.session :: db.supportSessions.erase s.session).Perm db.supportSessions :=
    (perm_cons_erase hs.live.mem).symm
  refine ⟨_, hperm, ?_⟩
  obtain ⟨ancestry, hresolved⟩ := hrequest.fit.resolved
  have hcov : sessionCovers d ancestry s = true := (sessionCovers_iff hresolved).mpr hs.approves
  have hfirst : (liveSessions (db.reordered db.roleBindings
      (s.session :: db.supportSessions.erase s.session)) now input t).find?
        (sessionCovers d ancestry) = some s := by
    have hreq : (db.reordered db.roleBindings
        (s.session :: db.supportSessions.erase s.session)).supportRequest s.session.requestId
          = some s.request := hs.live.request
    rw [liveSessions]
    dsimp only [Tables.reordered] at hreq ⊢
    rw [filterMap_cons, hreq]
    dsimp only
    rw [if_pos ⟨hs.live.own, hs.live.tenant, hs.live.unrevoked, hs.live.unexpired,
      hs.live.approved⟩]
    exact find?_cons_of_pos hcov
  have hallow : examine engine.catalog (db.reordered db.roleBindings
      (s.session :: db.supportSessions.erase s.session)) now input
        = .ok (delegatedAllowance input d t authority s) := by
    refine examine_eq_ok.mpr ⟨d, publishedAction_eq_ok.mpr ⟨hrequest.published, fun h => ?_⟩,
      ownTenant_eq_ok.mpr fun h => ?_, .inr ⟨hrequest.plane, t, ancestry,
        targetTenant_eq_ok.mpr ⟨hrequest.target, hrequest.tenant⟩,
        actedOn_eq_ok.mpr ⟨place, hrequest.lands.reordered, hresolved⟩, ?_⟩⟩
    · rw [hrequest.plane] at h
      cases h
    · rw [hrequest.actor] at h
      cases h
    · rw [tenantBranch, hrequest.actor]
      exact supportAllowance_eq_ok.mpr ⟨authority, s,
        (supportAuthority_reordered hdb (.refl _)).trans hrequest.support, hfirst, rfl⟩
  rw [decide_reordered hdb (.refl _) hperm, hallow]

/-- Where no order changes the answer, no second row could have been taken. -/
theorem sole_of_rowOrderFree (hdb : db.Sound) (hfree : RowOrderFree engine db now ids input) :
    SoleCandidate engine.catalog db now input := by
  constructor
  · intro d b b' hrequest hstored hb hb'
    obtain ⟨rbs, hrbs, hfirst⟩ := decide_of_binding_first hdb ids hrequest hb hstored
    obtain ⟨rbs', hrbs', hfirst'⟩ := decide_of_binding_first hdb ids hrequest hb' hstored
    have h := hfree rbs _ hrbs (.refl _)
    have h' := hfree rbs' _ hrbs' (.refl _)
    rw [hfirst] at h
    rw [hfirst'] at h'
    cases hdecide : engine.decide db now ids input with
    | error e => rw [hdecide] at h; cases h
    | ok x =>
      rw [hdecide] at h h'
      have hmem : b.asMatched ∈ x.2.matched := (h.matched _).mpr (mem_singleton_self _)
      have heq : b.asMatched = b'.asMatched := mem_singleton.mp ((h'.matched _).mp hmem)
      exact Library.eq_of_key hdb.bindingKey hb.binding.mem hb'.binding.mem
        (congrArg MatchedBinding.roleBindingId heq)
  · intro d t place authority s s' hrequest hs hs' hstored
    obtain ⟨ss, hss, hfirst⟩ := decide_of_session_first hdb ids hrequest hs
    obtain ⟨ss', hss', hfirst'⟩ := decide_of_session_first hdb ids hrequest hs'
    have h := hfree _ ss (.refl _) hss
    have h' := hfree _ ss' (.refl _) hss'
    rw [hfirst, record, (hs.accepted_iff hdb hrequest).mpr hstored] at h
    rw [hfirst'] at h'
    cases hdecide : engine.decide db now ids input with
    | error e => rw [hdecide] at h; cases h
    | ok x =>
      rw [hdecide] at h h'
      have hx : x.1.support = some (s.facts input t) := h.support
      unfold record at h'
      split at h'
      · cases h'
      · have hx' : x.1.support = some (s'.facts input t) := h'.support
        rw [hx, Option.some.injEq] at hx'
        have hsession : s.session = s'.session :=
          Library.eq_of_key hdb.supportSessionKey hs.live.mem hs'.live.mem
            (congrArg SupportAccessFacts.supportSessionId hx')
        have hreq : some s.request = some s'.request := by
          rw [← hs.live.request, ← hs'.live.request, hsession]
        obtain ⟨session, request⟩ := s
        obtain ⟨session', request'⟩ := s'
        cases hsession
        cases hreq
        rfl

/-! ## What a dealership allow records -/

/-- A matched binding's node is at or above the recorded one, which is at or above the node
acted on.  A single resource is below every node. -/
def RecordedBelow (db : Tables) (t : String) (place : Option OrganizationNodeRef)
    (row : EvidenceRow) (rb : RoleBinding) : Prop :=
  row.scopeLevel = some .resource ∧
      (rb.scopeLevel = .resource ∨ ReachesPlace db t place rb.scopeLevel rb.scopeId) ∨
    ∃ level i j, row.scopeLevel = some level ∧ row.scopeId = some i ∧ rb.scopeId = some j ∧
      db.organization.AtOrAbove t ⟨rb.scopeLevel, j⟩ ⟨level, i⟩ ∧
      db.organization.AtOrAbove t ⟨level, i⟩ (judgedAt t place)

/-- Everything a dealership allow matched is above what it records. -/
def RecordsNarrowest (engine : PolicyEngine) (db : Tables) (now : Int) (ids : EvidenceIds)
    (input : PolicyInput) : Prop :=
  ∀ x, input.actor.actorScope = .dealership → engine.decide db now ids input = .ok x →
    x.1.decision = .allow → ∃ d t place, engine.catalog.get input.action = some d ∧
      input.target = some t ∧ LandsOn db input d t place ∧
      ∀ m ∈ x.2.matched, ∃ rb, db.binding m.roleBindingId = some rb ∧
        RecordedBelow db t place x.2 rb

theorem resource_of_depth {level : ScopeLevel} (h : 6 ≤ scopeDepth level) : level = .resource := by
  cases level <;> simp [scopeDepth] at h ⊢

theorem recordsNarrowest (hdb : db.Sound) (engine : PolicyEngine) :
    RecordsNarrowest engine db now ids input := by
  intro x hactor hx hallow
  obtain ⟨a, ha, hnone⟩ : ∃ a, examine engine.catalog db now input = .ok a ∧
      (a.row db now ids input).refusal db now = none := allows_iff.mp ⟨x, hx, hallow⟩
  rw [PolicyEngine.decide, ha] at hx
  dsimp only at hx
  rw [record, hnone] at hx
  obtain rfl : (a.result, a.row db now ids input) = x := Except.ok.inj hx
  obtain ⟨d, hpub, hown, ⟨hplane, hbranch⟩ | ⟨hplane, t, ancestry, ht, hacted, hbranch⟩⟩ :=
    examine_eq_ok.mp ha
  · rw [controlPlaneBranch, hactor] at hbranch
    obtain ⟨b, hb, -⟩ := dealershipAllowance_eq_ok.mp hbranch
    obtain ⟨rb, hrb⟩ := exists_narrowestBinding.mp ⟨b, hb⟩
    exact absurd hrb (dealership_off_controlPlane hdb hactor
      (ownTenant_eq_ok.mp hown hactor).1 hplane)
  · rw [tenantBranch, hactor] at hbranch
    obtain ⟨b, hb, rfl⟩ := dealershipAllowance_eq_ok.mp hbranch
    obtain ⟨htarget, -⟩ := targetTenant_eq_ok.mp ht
    obtain ⟨place, hlands, hresolved⟩ := actedOn_eq_ok.mp hacted
    refine ⟨d, t, place, (publishedAction_eq_ok.mp hpub).1, htarget, hlands, fun m hm => ?_⟩
    obtain ⟨rb, hrb, rfl⟩ := mem_map.mp hm
    have hspec := narrowestBinding_spec (coveringBindings db now input d ancestry)
    rw [hb] at hspec
    have hreach : ∀ rb ∈ coveringBindings db now input d ancestry, rb.scopeLevel ≠ .resource →
        ReachesPlace db t place rb.scopeLevel rb.scopeId := fun rb h hne =>
      (covers_iff hplane htarget hresolved hne).mp (mem_coveringBindings.mp h).2.2
    refine ⟨rb, Tables.binding_of_mem hdb
      (mem_loadBindings.mp (mem_coveringBindings.mp hrb).1).mem, ?_⟩
    by_cases hbres : b.scopeLevel = .resource
    · refine .inl ⟨congrArg some hbres, ?_⟩
      by_cases hres : rb.scopeLevel = .resource
      · exact .inl hres
      · exact .inr (hreach rb hrb hres)
    · -- A binding of a resource would be deeper than the narrowest.
      have hres : rb.scopeLevel ≠ .resource := by
        intro hres
        have hle := hspec.2 rb hrb
        rw [hres] at hle
        exact hbres (resource_of_depth hle)
      obtain ⟨j, hj, haj⟩ := reachesPlace_iff.mp (hreach rb hrb hres)
      obtain ⟨i, hi, hai⟩ := reachesPlace_iff.mp (hreach b hspec.1 hbres)
      exact .inr ⟨b.scopeLevel, i, j, rfl, hi, hj,
        Organization.AtOrAbove.of_depth_le haj hai (hspec.2 rb hrb), hai⟩

/-! ## The evidence and the order -/

/-- The evidence does not depend on the order of the rows, and records what is below all it
matched, exactly when no second row could have been taken. -/
theorem decide_row_order (engine : PolicyEngine) (db : Database) (now : Int) (ids : EvidenceIds)
    (input : PolicyInput) :
    RowOrderFree engine db.toTables now ids input ∧
        RecordsNarrowest engine db.toTables now ids input ↔
      SoleCandidate engine.catalog db.toTables now input :=
  ⟨fun h => sole_of_rowOrderFree db.sound h.1,
    fun h => ⟨rowOrderFree_of_sole db.sound h, recordsNarrowest db.sound engine⟩⟩

namespace OneRooftop

def supportBinding : RoleBinding :=
  ⟨"b3", none, "admin", "platform_support", .platform, none, none, none, .active, always, 1⟩

def twoRoles : Database where
  toTables := { tables with roleBindings := tables.roleBindings ++ [supportBinding] }
  sound := {
    database.sound with
    bindingKey := by decide
    bindingPlatform := by decide
    bindingScoped := by decide
    bindingVersion := by decide
    bindingLink := forall_mem_append.mpr ⟨database.sound.bindingLink,
      forall_mem_singleton.mpr ⟨_, rfl, by decide⟩⟩ }

/-- The administrator asks for support access to the tenant. -/
def requestSupport : PolicyInput where
  actor := ⟨"admin", .platform, none⟩
  action := "platform.support.request"
  targetTenantId := some "t"
  resource := none
  scopeHint := none
  supportRequestId := none
  sessionId := some "s2"

def matchedOf (x : Except String (PolicyDecisionResult × EvidenceRow)) : List MatchedBinding :=
  match x with
  | .error _ => []
  | .ok r => r.2.matched

end OneRooftop

open OneRooftop in
/-- Of two platform roles that allow the request, the evidence names the one that came first. -/
theorem matched_depends_on_order :
    ¬ (RowOrderFree policies twoRoles.toTables 100 oneRequest requestSupport ∧
      RecordsNarrowest policies twoRoles.toTables 100 oneRequest requestSupport) := by
  rintro ⟨hfree, -⟩
  have h := hfree (supportBinding :: tables.roleBindings) [] (by decide) (by decide)
  have hfirst : matchedOf (policies.decide twoRoles.toTables 100 oneRequest requestSupport)
      = [⟨"b2", 1⟩] := by decide +kernel
  have hsecond : matchedOf (policies.decide (twoRoles.reordered
      (supportBinding :: tables.roleBindings) []) 100 oneRequest requestSupport)
        = [⟨"b3", 1⟩] := by decide +kernel
  cases hx : policies.decide twoRoles.toTables 100 oneRequest requestSupport with
  | error e => rw [hx] at hfirst; cases hfirst
  | ok x =>
    cases hy : policies.decide (twoRoles.reordered
        (supportBinding :: tables.roleBindings) []) 100 oneRequest requestSupport with
    | error e => rw [hy] at hsecond; cases hsecond
    | ok y =>
      rw [hx] at h hfirst
      rw [hy] at h hsecond
      have hmem := (h.matched ⟨"b2", 1⟩).mp
        (by rw [show x.2.matched = [⟨"b2", 1⟩] from hfirst]; exact mem_singleton_self _)
      rw [show y.2.matched = [⟨"b3", 1⟩] from hsecond] at hmem
      exact absurd hmem (by decide)

end Dealership.Policy
