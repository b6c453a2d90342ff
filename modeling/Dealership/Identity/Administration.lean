import Dealership.Identity.SessionMoves

/-!
# Administering identities

The owned mutations of tenants, provider connections and user links.  Each names an actor who
exists, moves the version of the row it changes and leaves one audit row; what the schema
refuses changes nothing.
-/

namespace Dealership.Identity

open Library

/-! ## Plumbing -/

/-- The access tables as far as a mutation asks them. -/
def Store.access (d : Store) : Access where
  userLinkExists := fun userLinkId => (d.link userLinkId).isSome
  reaches := fun _ _ => false

/-- `recordMutation`. -/
def Store.recordMutation (d : Store) (entityType entityId : String) (tenantId : Option String)
    (eventType actor : String) (authorizationVersion : Nat) : Store :=
  { d with
    mutations := d.mutations ++
      [⟨entityType, entityId, tenantId.getD nilTenant, eventType, actor, authorizationVersion⟩] }

def openWindow (now : Int) : Policy.EffectiveWindow := ⟨now, none⟩

def identityProviderWorkos : String := "workos"

/-! ## Tenants -/

def createOrganization (now : Int) (newTenantId : String) (actingUserLinkId : String)
    (tenantId : Option String) (status : Option Policy.OrgStatus) (d : Store) :
    Except Raise (Option Nat × Store) := do
  let actor ← requireActor d.access actingUserLinkId
  let row : Tenant :=
    { tenantId := tenantId.getD newTenantId
      status := status.getD .pendingConfiguration
      window := openWindow now
      authorizationVersion := 1 }
  let d ← d.write fun d => { d with tenants := d.tenants ++ [row] }
  pure (some row.authorizationVersion,
    d.recordMutation "tenant" row.tenantId (some row.tenantId) "identity.organization.created"
      actor row.authorizationVersion)

def changeOrganizationStatus (actingUserLinkId tenantId : String) (status : Policy.OrgStatus)
    (d : Store) : Except Raise (Option Nat × Store) := do
  let actor ← requireActor d.access actingUserLinkId
  match d.tenants.find? fun t => t.tenantId = tenantId ∧ t.status ≠ status with
  | none => pure (none, d)
  | some t =>
    let d ← d.write fun d =>
      { d with
        tenants := updateWhere (fun t : Tenant => t.tenantId = tenantId ∧ t.status ≠ status)
          (fun t => { t with status := status, authorizationVersion := t.authorizationVersion + 1 })
          d.tenants }
    pure (some (t.authorizationVersion + 1),
      d.recordMutation "tenant" tenantId (some tenantId) "identity.organization.status_changed"
        actor (t.authorizationVersion + 1))

/-! ## Connections -/

def createProviderMapping (now : Int) (newConnectionId actingUserLinkId : String)
    (tenantId : Option String) (providerOrganizationId issuer : String)
    (provider : Option String) (d : Store) : Except Raise (Option Nat × Store) := do
  let actor ← requireActor d.access actingUserLinkId
  let row : Connection :=
    { connectionId := newConnectionId
      tenantId := tenantId
      mfaPolicyCertified := false
      mfaPolicyCertifiedAt := none
      mfaPolicyCertificationExpiresAt := none
      mfaPolicyCertificationRevokedAt := none
      provider := provider.getD identityProviderWorkos
      providerOrganizationId := providerOrganizationId
      issuer := issuer
      active := true
      window := openWindow now
      authorizationVersion := 1 }
  let d ← d.write fun d => { d with connections := d.connections ++ [row] }
  pure (some row.authorizationVersion,
    d.recordMutation "identity_provider_connection" newConnectionId tenantId
      "identity.provider_connection.created" actor row.authorizationVersion)

/-- The statement every later mutation of a connection is: the row under the key that meets
the condition is changed and its version moves. -/
def mutateConnection (actingUserLinkId connectionId eventType : String)
    (changes : Connection → Bool) (change : Connection → Connection) (d : Store) :
    Except Raise (Option Nat × Store) := do
  let actor ← requireActor d.access actingUserLinkId
  match d.connections.find? fun c => c.connectionId = connectionId ∧ changes c = true with
  | none => pure (none, d)
  | some c =>
    let d ← d.write fun d =>
      { d with
        connections := updateWhere
          (fun c : Connection => c.connectionId = connectionId ∧ changes c = true)
          (fun c => { change c with authorizationVersion := c.authorizationVersion + 1 })
          d.connections }
    pure (some (c.authorizationVersion + 1),
      d.recordMutation "identity_provider_connection" connectionId c.tenantId eventType actor
        (c.authorizationVersion + 1))

def remapProviderConnection (actingUserLinkId connectionId : String)
    (providerOrganizationId : Option String) (active : Option Bool) (d : Store) :
    Except Raise (Option Nat × Store) :=
  mutateConnection actingUserLinkId connectionId "identity.provider_connection.remapped"
    (fun _ => true)
    (fun c =>
      { c with
        providerOrganizationId := providerOrganizationId.getD c.providerOrganizationId
        active := active.getD c.active }) d

def changeProviderIssuer (actingUserLinkId connectionId issuer : String) (d : Store) :
    Except Raise (Option Nat × Store) :=
  mutateConnection actingUserLinkId connectionId "identity.provider_connection.issuer_changed"
    (fun c => decide (c.issuer ≠ issuer)) (fun c => { c with issuer := issuer }) d

def defaultMfaCertificationValiditySeconds : Int := 90 * 24 * 3600

def maxMfaCertificationValiditySeconds : Int := 365 * 24 * 3600

/-- `requireCertificationAuthority` for a connection that exists; `authorized` is what the
bindings and the tenant of the connection say of the actor. -/
def requireCertificationAuthority (authorized : Bool) (actingUserLinkId connectionId : String)
    (d : Store) : Except Raise Unit := do
  let _ ← requireActor d.access actingUserLinkId
  if ((d.connection connectionId).isSome && !authorized) = true then
    throw (.unattributable
      "certifying an organization MFA policy requires administrative authority")
  else pure ()

def certifyProviderMfaPolicy (now : Int) (authorized : Bool)
    (actingUserLinkId connectionId : String) (certified : Bool) (validForSeconds : Option Int)
    (d : Store) : Except Raise (Option Nat × Store) := do
  let validFor := validForSeconds.getD defaultMfaCertificationValiditySeconds
  if validFor ≤ 0 ∨ maxMfaCertificationValiditySeconds < validFor then
    throw (.rangeError "an MFA certification validity window must be positive and bounded")
  else
    requireCertificationAuthority authorized actingUserLinkId connectionId d
    mutateConnection actingUserLinkId connectionId
      "identity.provider_connection.mfa_policy_certified" (fun _ => true)
      (fun c =>
        { c with
          mfaPolicyCertified := certified
          mfaPolicyCertifiedAt := if certified then some now else none
          mfaPolicyCertificationExpiresAt := if certified then some (now + 1000 * validFor) else none
          mfaPolicyCertificationRevokedAt :=
            if certified then none else c.mfaPolicyCertificationRevokedAt }) d

def revokeProviderMfaPolicyCertification (now : Int) (authorized : Bool)
    (actingUserLinkId connectionId : String) (d : Store) : Except Raise (Option Nat × Store) := do
  requireCertificationAuthority authorized actingUserLinkId connectionId d
  mutateConnection actingUserLinkId connectionId
    "identity.provider_connection.mfa_policy_certification_revoked" (fun _ => true)
    (fun c =>
      { c with
        mfaPolicyCertified := false
        mfaPolicyCertifiedAt := none
        mfaPolicyCertificationExpiresAt := none
        mfaPolicyCertificationRevokedAt := some now }) d

/-! ## User links -/

def provisionUserLink (now : Int) (newUserLinkId provisionedByUserLinkId : String)
    (tenantId : Option String) (provider : Option String) (providerUserId : String) (d : Store) :
    Except Raise (Option Nat × Store) := do
  let actor ← requireActor d.access provisionedByUserLinkId
  let row : UserLink :=
    { userLinkId := newUserLinkId
      actorScope := if tenantId.isSome then .dealership else .platform
      tenantId := tenantId
      status := .pending
      window := openWindow now
      provider := provider.getD identityProviderWorkos
      providerUserId := providerUserId
      connectionId := none
      providerOrganizationId := none
      issuer := none
      authorizationVersion := 1 }
  let d ← d.write fun d => { d with userLinks := d.userLinks ++ [row] }
  pure (some row.authorizationVersion,
    d.recordMutation "user_link" newUserLinkId tenantId "identity.user_link.provisioned" actor
      row.authorizationVersion)

/-- The row of a link rewritten, its version moved. -/
def mutateLink (actor userLinkId eventType : String) (change : UserLink → UserLink)
    (ul : UserLink) (d : Store) : Except Raise (Option Nat × Store) := do
  let d ← d.write fun d =>
    { d with
      userLinks := updateWhere (fun ul : UserLink => ul.userLinkId = userLinkId)
        (fun ul => { change ul with authorizationVersion := ul.authorizationVersion + 1 })
        d.userLinks }
  pure (some (ul.authorizationVersion + 1),
    d.recordMutation "user_link" userLinkId ul.tenantId eventType actor
      (ul.authorizationVersion + 1))

def UserLink.bindTo (c : Connection) (ul : UserLink) : UserLink :=
  { ul with
    connectionId := some c.connectionId
    issuer := some c.issuer
    providerOrganizationId := some c.providerOrganizationId }

def Store.activeConnections (d : Store) (ul : UserLink) : List Connection :=
  d.connections.filter fun c =>
    decide (c.tenantId = ul.tenantId) && decide (c.provider = ul.provider) && c.active

def activateUserLink (now : Int) (userLinkId activatedByUserLinkId : String) (d : Store) :
    Except Raise (Option Nat × Store) := do
  let actor ← requireActor d.access activatedByUserLinkId
  match d.userLinks.find? fun ul => ul.userLinkId = userLinkId ∧ ul.status = .pending with
  | none => pure (none, d)
  | some ul =>
    match d.activeConnections ul with
    | [c] =>
      if c.window.covers now then
        mutateLink actor userLinkId "identity.user_link.activated"
          (fun ul => { ul.bindTo c with status := .activated }) ul d
      else pure (none, d)
    | _ => pure (none, d)

def deactivateUserLink (deactivatedByUserLinkId userLinkId : String) (d : Store) :
    Except Raise (Option Nat × Store) := do
  let actor ← requireActor d.access deactivatedByUserLinkId
  match d.userLinks.find? fun ul => ul.userLinkId = userLinkId ∧ ul.status ≠ .deactivated with
  | none => pure (none, d)
  | some ul =>
    mutateLink actor userLinkId "identity.user_link.deactivated"
      (fun ul => { ul with status := .deactivated }) ul d

/-- `relinkUserLink`: another active connection of the same home. -/
def relinkUserLink (now : Int) (userLinkId connectionId relinkedByUserLinkId : String)
    (d : Store) : Except Raise (Option Nat × Store) := do
  let actor ← requireActor d.access relinkedByUserLinkId
  match d.link userLinkId with
  | none => pure (none, d)
  | some ul =>
    match d.connection connectionId with
    | none => pure (none, d)
    | some c =>
      if c.effective now && decide (c.tenantId = ul.tenantId) &&
          decide (c.provider = ul.provider) && decide (ul.status ≠ .deactivated) &&
          decide (ul.connectionId ≠ some connectionId) then
        mutateLink actor userLinkId "identity.user_link.relinked" (UserLink.bindTo c) ul d
      else pure (none, d)

/-! ## All of them -/

/-- A call of an owned mutation, with the instant and the identifier it is given. -/
inductive Mutation where
  | createOrganization (now : Int) (newTenantId actingUserLinkId : String)
      (tenantId : Option String) (status : Option Policy.OrgStatus)
  | changeOrganizationStatus (actingUserLinkId tenantId : String) (status : Policy.OrgStatus)
  | createProviderMapping (now : Int) (newConnectionId actingUserLinkId : String)
      (tenantId : Option String) (providerOrganizationId issuer : String)
      (provider : Option String)
  | remapProviderConnection (actingUserLinkId connectionId : String)
      (providerOrganizationId : Option String) (active : Option Bool)
  | changeProviderIssuer (actingUserLinkId connectionId issuer : String)
  | certifyProviderMfaPolicy (now : Int) (authorized : Bool)
      (actingUserLinkId connectionId : String) (certified : Bool) (validForSeconds : Option Int)
  | revokeProviderMfaPolicyCertification (now : Int) (authorized : Bool)
      (actingUserLinkId connectionId : String)
  | provisionUserLink (now : Int) (newUserLinkId provisionedByUserLinkId : String)
      (tenantId : Option String) (provider : Option String) (providerUserId : String)
  | activateUserLink (now : Int) (userLinkId activatedByUserLinkId : String)
  | deactivateUserLink (deactivatedByUserLinkId userLinkId : String)
  | relinkUserLink (now : Int) (userLinkId connectionId relinkedByUserLinkId : String)

def Mutation.call : Mutation → Store → Except Raise (Option Nat × Store)
  | .createOrganization now newId actor tenantId status =>
    Identity.createOrganization now newId actor tenantId status
  | .changeOrganizationStatus actor tenantId status =>
    Identity.changeOrganizationStatus actor tenantId status
  | .createProviderMapping now newId actor tenantId org issuer provider =>
    Identity.createProviderMapping now newId actor tenantId org issuer provider
  | .remapProviderConnection actor connectionId org active =>
    Identity.remapProviderConnection actor connectionId org active
  | .changeProviderIssuer actor connectionId issuer =>
    Identity.changeProviderIssuer actor connectionId issuer
  | .certifyProviderMfaPolicy now authorized actor connectionId certified validFor =>
    Identity.certifyProviderMfaPolicy now authorized actor connectionId certified validFor
  | .revokeProviderMfaPolicyCertification now authorized actor connectionId =>
    Identity.revokeProviderMfaPolicyCertification now authorized actor connectionId
  | .provisionUserLink now newId actor tenantId provider subject =>
    Identity.provisionUserLink now newId actor tenantId provider subject
  | .activateUserLink now userLinkId actor => Identity.activateUserLink now userLinkId actor
  | .deactivateUserLink actor userLinkId => Identity.deactivateUserLink actor userLinkId
  | .relinkUserLink now userLinkId connectionId actor =>
    Identity.relinkUserLink now userLinkId connectionId actor

/-! ## What they leave alone -/

/-- A step that keeps the schema and touches neither sessions nor the trail of sessions. -/
structure Store.Aside (d d' : Store) : Prop where
  sessions : d'.sessions = d.sessions
  events : d'.events = d.events
  lawful : d'.Lawful

theorem Store.Aside.refl {d : Store} (h : d.Lawful) : d.Aside d := ⟨rfl, rfl, h⟩

section Aside

variable {d d' : Store} {version : Option Nat}

theorem recorded_aside {f : Store → Store} {entityType entityId eventType actor : String}
    {tenantId : Option String} {v : Option Nat} {n : Nat} (h : (d.write f >>= fun d => pure (v,
      d.recordMutation entityType entityId tenantId eventType actor n)) = .ok (version, d'))
    (hs : (f d).sessions = d.sessions := by rfl) (he : (f d).events = d.events := by rfl) :
    d.Aside d' := by
  obtain ⟨d₁, hwrite, h⟩ := bind_eq_ok.mp h
  obtain ⟨hlawful, rfl⟩ := Store.write_eq_ok.mp hwrite
  cases h
  exact ⟨hs, he, hlawful.trail _ _ _⟩

theorem mutateConnection_aside (hd : d.Lawful) {actingUserLinkId connectionId eventType : String}
    {changes : Connection → Bool} {change : Connection → Connection}
    (h : mutateConnection actingUserLinkId connectionId eventType changes change d =
      .ok (version, d')) : d.Aside d' := by
  obtain ⟨actor, -, h⟩ := bind_eq_ok.mp h
  split at h
  · cases h
    exact .refl hd
  · exact recorded_aside h

theorem mutateLink_aside {actor userLinkId eventType : String} {change : UserLink → UserLink}
    {ul : UserLink} (h : mutateLink actor userLinkId eventType change ul d = .ok (version, d')) :
    d.Aside d' :=
  recorded_aside h

/-- An owned mutation of tenants, connections and links leaves the sessions alone. -/
theorem Mutation.aside (hd : d.Lawful) {m : Mutation} (h : m.call d = .ok (version, d')) :
    d.Aside d' := by
  cases m with
  | createOrganization now newId actor tenantId status =>
    obtain ⟨actor', -, h⟩ := bind_eq_ok.mp h
    exact recorded_aside h
  | changeOrganizationStatus actor tenantId status =>
    obtain ⟨actor', -, h⟩ := bind_eq_ok.mp h
    split at h
    · cases h
      exact .refl hd
    · exact recorded_aside h
  | createProviderMapping now newId actor tenantId org issuer provider =>
    obtain ⟨actor', -, h⟩ := bind_eq_ok.mp h
    exact recorded_aside h
  | remapProviderConnection actor connectionId org active => exact mutateConnection_aside hd h
  | changeProviderIssuer actor connectionId issuer => exact mutateConnection_aside hd h
  | certifyProviderMfaPolicy now authorized actor connectionId certified validFor =>
    simp only [call, Identity.certifyProviderMfaPolicy] at h
    split at h
    · cases h
    · obtain ⟨_, -, h⟩ := bind_eq_ok.mp h
      exact mutateConnection_aside hd h
  | revokeProviderMfaPolicyCertification now authorized actor connectionId =>
    obtain ⟨_, -, h⟩ := bind_eq_ok.mp h
    exact mutateConnection_aside hd h
  | provisionUserLink now newId actor tenantId provider subject =>
    obtain ⟨actor', -, h⟩ := bind_eq_ok.mp h
    exact recorded_aside h
  | activateUserLink now userLinkId actor =>
    obtain ⟨actor', -, h⟩ := bind_eq_ok.mp h
    split at h
    · cases h
      exact .refl hd
    split at h
    · split at h
      · exact mutateLink_aside h
      · cases h
        exact .refl hd
    · cases h
      exact .refl hd
  | deactivateUserLink actor userLinkId =>
    obtain ⟨actor', -, h⟩ := bind_eq_ok.mp h
    split at h
    · cases h
      exact .refl hd
    · exact mutateLink_aside h
  | relinkUserLink now userLinkId connectionId actor =>
    obtain ⟨actor', -, h⟩ := bind_eq_ok.mp h
    split at h
    · cases h
      exact .refl hd
    split at h
    · cases h
      exact .refl hd
    split at h
    · exact mutateLink_aside h
    · cases h
      exact .refl hd

end Aside

end Dealership.Identity
