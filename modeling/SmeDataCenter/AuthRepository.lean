import SmeDataCenter.AuthTables

/-!
# The transactions of the logins

Each function is one transaction of the API's repository, of the browser sessions, or of the
operator's command line: a function of the store that computes an answer and the store after
it, or throws and leaves the store. Events for the security log are not stored here.
Ids of created rows are given. A transaction that updates rows under a condition and counts
them reads the count from the store as it is then.
-/

namespace SmeDataCenter

/-! ### Inputs and answers -/

structure LoginIdentityRecord where
  owner : LoginOwner
  passwordHash : Option String
  disabled : Bool
  employeeDisabled : Bool
  failedAttemptCount : ℕ
  cooldownLevel : ℕ
  cooldownUntil : Option ℕ

structure OnboardInput where
  orgId : String
  normalizedEmail : String
  displayName : String
  role : EmployeeRole
  clearance : ℕ
  grantTokenHash : String
  grantExpiresAt : ℕ
  now : ℕ

structure ResetPasswordInput where
  employeeId : String
  grantTokenHash : String
  grantExpiresAt : ℕ
  now : ℕ

structure ReplaceGrantInput where
  identityId : String
  purpose : PasswordSetupPurpose
  tokenHash : String
  expiresAt : ℕ
  now : ℕ

structure ExchangeGrantInput where
  grantTokenHash : String
  sessionHash : String
  expiresAt : ℕ
  now : ℕ

structure ConsumeSetupInput where
  sessionHash : String
  passwordHash : String
  now : ℕ

structure DeviceAuthorizationInput where
  deviceCodeHash : String
  userCodeHash : String
  clientId : String
  instanceName : String
  instanceHostname : String
  expiresAt : ℕ
  now : ℕ

inductive DeviceCodeRedemption where
  | redeemed (owner : LoginOwner)
  | authorizationPending
  | expired
  | invalid
  deriving DecidableEq

structure SessionBundleInput where
  owner : LoginOwner
  credentialHash : String
  accessTokenHash : String
  absoluteExpiresAt : ℕ
  accessTokenExpiresAt : ℕ
  now : ℕ

structure RotateCredentialInput where
  presentedCredentialHash : String
  replacementCredentialHash : String
  accessTokenHash : String
  accessTokenExpiresAt : ℕ
  now : ℕ

inductive RotateCredentialResult where
  | rotated (sessionId : String) (owner : LoginOwner)
  | replayed (sessionId : String)
  | invalid
  deriving DecidableEq

structure AccessAuthenticationRecord where
  owner : LoginOwner
  organizationName : String
  displayName : String
  email : String
  role : EmployeeRole
  clearance : ℕ
  identityDisabled : Bool
  employeeDisabled : Bool
  deriving DecidableEq

/-- What reading an access token comes to. -/
inductive AccessTokenRead where
  | refused
  /-- Its session has outlived its lifetime and is going to be ended. -/
  | elapsed (sessionId : String)
  | accepted (record : AccessAuthenticationRecord)
  deriving DecidableEq

structure BrowserSessionInput where
  owner : LoginOwner
  credentialFingerprint : String
  secretHash : String
  expiresAt : ℕ
  now : ℕ

structure BrowserSessionRecord where
  owner : LoginOwner
  expiresAt : ℕ
  revokedAt : Option ℕ
  credentialFingerprint : String
  currentCredentialFingerprint : String
  organizationName : String
  displayName : String
  email : String
  role : EmployeeRole
  clearance : ℕ
  disabled : Bool

/-! ### Failed logins -/

/-- The minutes of a cooldown. -/
def cooldownMinutes : ℕ → ℕ
  | 1 => 5
  | 2 => 10
  | 3 => 20
  | 4 => 40
  | _ => 60

/-- Is the cooldown of an identity running? -/
def LoginIdentity.coolingDown (identity : LoginIdentity) (now : ℕ) : Bool :=
  identity.cooldownUntil.any (now < ·)

/-- The columns are set from left to right, the deadline first: it is computed from the counters
as they were. -/
def LoginIdentity.afterFailure (identity : LoginIdentity) (now : ℕ) : LoginIdentity :=
  { identity with
    cooldownUntil := if identity.failedAttemptCount + 1 < 5 then none
      else some (now + 60000 * cooldownMinutes (min (identity.cooldownLevel + 1) 5))
    cooldownLevel := if 5 ≤ identity.failedAttemptCount + 1
      then min (identity.cooldownLevel + 1) 5 else identity.cooldownLevel
    failedAttemptCount := identity.failedAttemptCount + 1 }

/-- The counters of a new identity. -/
def LoginIdentity.withoutFailures (identity : LoginIdentity) : LoginIdentity :=
  { identity with failedAttemptCount := 0, cooldownLevel := 0, cooldownUntil := none }

namespace AuthStore

def findLoginIdentityByEmail (store : AuthStore) (normalizedEmail : String) :
    Option LoginIdentityRecord :=
  (store.loginIdentities.findMany fun _ identity =>
    identity.normalizedEmail = normalizedEmail).head?.bind fun (identityId, identity) =>
  (store.employees.lookup identity.employeeId).map fun employee =>
    { owner := ⟨identityId, identity.employeeId, identity.orgId⟩
      passwordHash := identity.passwordHash, disabled := identity.disabled
      employeeDisabled := employee.disabled
      failedAttemptCount := identity.failedAttemptCount
      cooldownLevel := identity.cooldownLevel, cooldownUntil := identity.cooldownUntil }

/-- The answer is what the row says afterwards, whether it was written or not. -/
def recordLoginFailure (store : AuthStore) (identityId : String) (now : ℕ) :
    Option ℕ × AuthStore :=
  let loginIdentities := store.loginIdentities.updateMany
    (fun id identity => id = identityId && identity.cooldownUntil.all (· ≤ now))
    fun identity => identity.afterFailure now
  ((loginIdentities.lookup identityId).bind (·.cooldownUntil), { store with loginIdentities })

def resetLoginFailures (store : AuthStore) (identityId : String) : AuthStore :=
  { store with
    loginIdentities := store.loginIdentities.update identityId LoginIdentity.withoutFailures }

/-! ### Grants and setup sessions -/

/-- Every setup session and every grant of an identity that is live is revoked. -/
def revokePasswordSetup (store : AuthStore) (identityId : String) (now : ℕ) : AuthStore :=
  { store with
    passwordSetupSessions := store.passwordSetupSessions.updateMany
      (fun _ setup => setup.identityId = identityId && setup.isLive)
      fun setup => { setup with revokedAt := some now }
    passwordSetupGrants := store.passwordSetupGrants.updateMany
      (fun _ grant => grant.identityId = identityId && grant.isLive)
      fun grant => { grant with revokedAt := some now } }

def createGrant (store : AuthStore) (tokenHash : String) (grant : PasswordSetupGrant) :
    Except WorkerError AuthStore := do
  let passwordSetupGrants ← createOrThrow store.passwordSetupGrants tokenHash grant
  return { store with passwordSetupGrants }

def replacePasswordSetupGrant (store : AuthStore) (input : ReplaceGrantInput) :
    Except WorkerError AuthStore := do
  let _ ← findUniqueOrThrow store.loginIdentities input.identityId
  (store.revokePasswordSetup input.identityId input.now).createGrant input.tokenHash
    { identityId := input.identityId, purpose := input.purpose, expiresAt := input.expiresAt
      createdAt := input.now }

/-- The grant is claimed: found live and ahead of its end once more, and used. -/
def exchangePasswordSetupGrant (store : AuthStore) (input : ExchangeGrantInput) :
    Except WorkerError (Option (String × PasswordSetupPurpose) × AuthStore) :=
  match store.passwordSetupGrants.lookup input.grantTokenHash with
  | none => .ok (none, store)
  | some grant =>
    if grant.usedAt.isSome || grant.revokedAt.isSome || grant.expiresAt ≤ input.now then
      .ok (none, store)
    else
      let claimed (tokenHash : String) (grant : PasswordSetupGrant) : Bool :=
        tokenHash = input.grantTokenHash && grant.isLive && input.now < grant.expiresAt
      if (store.passwordSetupGrants.findMany claimed).length ≠ 1 then .ok (none, store)
      else do
        let passwordSetupSessions ←
          createOrThrow store.passwordSetupSessions input.sessionHash
            { identityId := grant.identityId, grantTokenHash := input.grantTokenHash
              expiresAt := input.expiresAt, createdAt := input.now }
        let _ ← findUniqueOrThrow store.loginIdentities grant.identityId
        return (some (grant.identityId, grant.purpose), { store with
          passwordSetupGrants := store.passwordSetupGrants.updateMany claimed
            fun grant => { grant with usedAt := some input.now }
          passwordSetupSessions })

def consumePasswordSetupSession (store : AuthStore) (input : ConsumeSetupInput) :
    Except WorkerError (Bool × AuthStore) :=
  match store.passwordSetupSessions.lookup input.sessionHash with
  | none => .ok (false, store)
  | some setup =>
    if setup.consumedAt.isSome || setup.revokedAt.isSome || setup.expiresAt ≤ input.now then
      .ok (false, store)
    else
      let claimed (sessionHash : String) (setup : PasswordSetupSession) : Bool :=
        sessionHash = input.sessionHash && setup.isLive && input.now < setup.expiresAt
      if (store.passwordSetupSessions.findMany claimed).length ≠ 1 then .ok (false, store)
      else do
        let loginIdentities ← updateOrThrow store.loginIdentities setup.identityId
          fun identity =>
            { identity.withoutFailures with passwordHash := some input.passwordHash }
        let store := { store with
          loginIdentities
          passwordSetupSessions := store.passwordSetupSessions.updateMany claimed
            fun setup => { setup with consumedAt := some input.now } }
        return (true, (store.revokeBrowserSessions setup.identityId input.now).revokeActiveFamilies
          setup.identityId "password_reset" input.now)

/-! ### The operator's command line -/

/-- `refused` is what the clearance, the organization and the initial permissions throw. -/
def onboard (store : AuthStore) (input : OnboardInput) (employeeId identityId : String)
    (refused : Option String) : Except WorkerError ((String × String) × AuthStore) :=
  match refused with
  | some message => .error (.thrown message)
  | none =>
    if (store.employees.findMany fun _ employee =>
        employee.email = input.normalizedEmail).isEmpty = false ∨
        (store.loginIdentities.findMany fun _ identity =>
          identity.normalizedEmail = input.normalizedEmail).isEmpty = false then
      .error (.thrown "P2002")
    else do
      let employees ← createOrThrow store.employees employeeId
        { orgId := input.orgId, email := input.normalizedEmail, displayName := input.displayName
          role := input.role, clearance := input.clearance }
      let loginIdentities ← createOrThrow store.loginIdentities identityId
        { orgId := input.orgId, employeeId, normalizedEmail := input.normalizedEmail }
      let store ← { store with employees, loginIdentities }.createGrant input.grantTokenHash
        { identityId, purpose := .initialSetup, expiresAt := input.grantExpiresAt
          createdAt := input.now }
      return ((employeeId, identityId), store)

def resetPassword (store : AuthStore) (input : ResetPasswordInput) :
    Except WorkerError (Option (String × String) × AuthStore) :=
  match (store.loginIdentities.findMany fun _ identity =>
      identity.employeeId = input.employeeId && !identity.disabled).take 2 with
  | [] => .ok (none, store)
  | [(identityId, identity)] => do
    let store ← ((store.revokeBrowserSessions identityId input.now).revokePasswordSetup
      identityId input.now).createGrant input.grantTokenHash
        { identityId, purpose := .passwordReset, expiresAt := input.grantExpiresAt
          createdAt := input.now }
    return (some (identity.employeeId, identityId), store)
  | _ => .error (.thrown "Employee has multiple active local-password Login Identities.")

/-! ### Device authorizations -/

/-- A new authorization takes the place of the pending ones of the same instance. -/
def createDeviceAuthorization (store : AuthStore) (input : DeviceAuthorizationInput) :
    Except WorkerError AuthStore := do
  let superseded := store.deviceAuthorizations.updateMany
    (fun _ record => record.clientId = input.clientId &&
      record.instanceName = input.instanceName &&
      record.instanceHostname = input.instanceHostname && record.status = .pending)
    fun record => { record with status := .revoked, revokedAt := some input.now }
  if (store.deviceAuthorizations.findMany fun _ record =>
      record.userCodeHash = input.userCodeHash).isEmpty = false then
    throw (.thrown "P2002")
  else do
    let deviceAuthorizations ← createOrThrow superseded input.deviceCodeHash
      { clientId := input.clientId, userCodeHash := input.userCodeHash
        instanceName := input.instanceName, instanceHostname := input.instanceHostname
        expiresAt := input.expiresAt, createdAt := input.now }
    return { store with deviceAuthorizations }

/-- The identity of a login is there, its own and its employee's, and neither is disabled. -/
def ownerActive (store : AuthStore) (owner : LoginOwner) : Bool :=
  (store.loginIdentities.lookup owner.identityId).any fun identity =>
    (store.employees.lookup identity.employeeId).any fun employee =>
      !identity.disabled && !employee.disabled && identity.employeeId = owner.employeeId &&
        identity.orgId = owner.orgId && employee.orgId = owner.orgId

def completeDeviceAuthorization (store : AuthStore) (userCodeHash : String) (owner : LoginOwner)
    (now : ℕ) : Bool × AuthStore :=
  match (store.deviceAuthorizations.findMany fun _ record =>
      record.userCodeHash = userCodeHash).head? with
  | none => (false, store)
  | some (deviceCodeHash, record) =>
    if record.status ≠ .pending ∨ record.expiresAt ≤ now then (false, store)
    else if !store.ownerActive owner then (false, store)
    else
      let completed (hash : String) (record : DeviceAuthorization) : Bool :=
        hash = deviceCodeHash && record.status = .pending && now < record.expiresAt
      if (store.deviceAuthorizations.findMany completed).length ≠ 1 then (false, store)
      else (true, { store with
        deviceAuthorizations := store.deviceAuthorizations.updateMany completed fun record =>
          { record with status := .completed, owner := some owner, completedAt := some now } })

def redeemDeviceAuthorization (store : AuthStore) (deviceCodeHash clientId : String) (now : ℕ) :
    DeviceCodeRedemption × AuthStore :=
  match (store.deviceAuthorizations.lookup deviceCodeHash).filter (·.clientId = clientId) with
  | none => (.invalid, store)
  | some record =>
    match record.status with
    | .pending =>
      if record.expiresAt ≤ now then
        (.expired, { store with
          deviceAuthorizations := store.deviceAuthorizations.updateMany
            (fun hash record => hash = deviceCodeHash && record.status = .pending)
            fun record => { record with status := .expired } })
      else (.authorizationPending, store)
    | .completed =>
      if record.expiresAt ≤ now then (.expired, store)
      else match record.owner with
      | none => (.invalid, store)
      | some owner =>
        let consumed (hash : String) (record : DeviceAuthorization) : Bool :=
          hash = deviceCodeHash && record.status = .completed && record.redeemedAt.isNone &&
            now < record.expiresAt
        if record.redeemedAt.isSome ∨
            (store.deviceAuthorizations.findMany consumed).length ≠ 1 then (.invalid, store)
        else (.redeemed owner, { store with
          deviceAuthorizations := store.deviceAuthorizations.updateMany consumed
            fun record => { record with redeemedAt := some now } })
    | _ => (.invalid, store)

/-! ### Sessions -/

/-- A generation of a session is there once. -/
def createCredential (store : AuthStore) (credentialHash : String)
    (credential : DurableCredential) : Except WorkerError AuthStore :=
  if (store.durableCredentials.findMany fun _ other =>
      other.sessionId = credential.sessionId &&
        other.generation = credential.generation).isEmpty = false then
    .error (.thrown "P2002")
  else do
    let durableCredentials ← createOrThrow store.durableCredentials credentialHash credential
    return { store with durableCredentials }

def createAccessToken (store : AuthStore) (tokenHash : String) (token : OAuthAccessToken) :
    Except WorkerError AuthStore := do
  let oAuthAccessTokens ← createOrThrow store.oAuthAccessTokens tokenHash token
  return { store with oAuthAccessTokens }

def createSessionBundle (store : AuthStore) (input : SessionBundleInput) (sessionId : String) :
    Except WorkerError AuthStore :=
  if !store.ownerActive input.owner then .error (.thrown "Login Identity is not active.")
  else do
    let authSessions ← createOrThrow store.authSessions sessionId
      { owner := input.owner, absoluteExpiresAt := input.absoluteExpiresAt
        createdAt := input.now }
    let store ← { store with authSessions }.createCredential input.credentialHash
      { sessionId, generation := 1, createdAt := input.now }
    store.createAccessToken input.accessTokenHash
      { sessionId, owner := input.owner, expiresAt := input.accessTokenExpiresAt
        createdAt := input.now }

/-- The next generation of a session. -/
def replaceCredential (store : AuthStore) (input : RotateCredentialInput)
    (credential : DurableCredential) (owner : LoginOwner) : Except WorkerError AuthStore := do
  let durableCredentials := store.durableCredentials.updateMany
    (fun hash (other : DurableCredential) =>
      hash = input.presentedCredentialHash && other.status = .active)
    fun other => { other with status := .consumed, consumedAt := some input.now }
  let store := { store with durableCredentials }
  let store ← store.createCredential input.replacementCredentialHash
    { sessionId := credential.sessionId, generation := credential.generation + 1
      createdAt := input.now }
  store.createAccessToken input.accessTokenHash
    { sessionId := credential.sessionId, owner, expiresAt := input.accessTokenExpiresAt
      createdAt := input.now }

def rotateDurableCredential (store : AuthStore) (input : RotateCredentialInput) :
    Except WorkerError (RotateCredentialResult × AuthStore) :=
  match store.durableCredentials.lookup input.presentedCredentialHash with
  | none => .ok (.invalid, store)
  | some credential =>
    match store.authSessions.lookup credential.sessionId with
    -- a credential has its session: `session_id` is a foreign key
    | none => .ok (.invalid, store)
    | some session =>
      let replayed := (RotateCredentialResult.replayed credential.sessionId,
        store.revokeSessionFamily credential.sessionId "credential_replay" input.now)
      if credential.status ≠ .active then .ok replayed
      else if session.status ≠ .active then .ok (.invalid, store)
      else if session.absoluteExpiresAt ≤ input.now then
        .ok (.invalid,
          store.revokeSessionFamily credential.sessionId "session_expired" input.now)
      else if (store.durableCredentials.findMany fun hash other =>
          hash = input.presentedCredentialHash && other.status = .active).length ≠ 1 then
        .ok replayed
      else do
        let store ← store.replaceCredential input credential session.owner
        return (.rotated credential.sessionId session.owner, store)

/-- The first part of `authenticateAccessToken`: a session that has outlived its lifetime is
ended in a transaction of its own. -/
def readAccessToken (store : AuthStore) (tokenHash : String) (now : ℕ) : AccessTokenRead :=
  match store.oAuthAccessTokens.lookup tokenHash with
  | none => .refused
  | some token =>
    match store.authSessions.lookup token.sessionId,
        store.loginIdentities.lookup token.owner.identityId,
        store.employees.lookup token.owner.employeeId with
    | some session, some identity, some employee =>
      if token.revokedAt.isSome || token.expiresAt ≤ now || session.status ≠ .active then .refused
      else if session.absoluteExpiresAt ≤ now then .elapsed token.sessionId
      else .accepted
        { owner := token.owner
          organizationName := (store.organizations.lookup employee.orgId).getD ""
          displayName := employee.displayName, email := employee.email, role := employee.role
          clearance := employee.clearance, identityDisabled := identity.disabled
          employeeDisabled := employee.disabled }
    -- the columns are foreign keys
    | _, _, _ => .refused

def revokeSessionByDurableCredential (store : AuthStore) (credentialHash reason : String)
    (now : ℕ) : Bool × AuthStore :=
  match store.durableCredentials.lookup credentialHash with
  | none => (false, store)
  | some credential => (true, store.revokeSessionFamily credential.sessionId reason now)

def revokeIdentitySessions (store : AuthStore) (identityId reason : String) (now : ℕ) :
    ℕ × AuthStore :=
  let store := store.revokeBrowserSessions identityId now
  ((store.activeSessions identityId).length, store.revokeActiveFamilies identityId reason now)

/-! ### Browser sessions -/

section

-- the hex digest of a text
variable (hashOpaqueSecret : String → String)

/-- A browser session is issued for the password that was verified, while it is the password of
the identity. -/
def createBrowserSession (store : AuthStore) (input : BrowserSessionInput) :
    Except WorkerError (Bool × AuthStore) :=
  if store.ownerActive input.owner &&
      ((store.loginIdentities.lookup input.owner.identityId).bind (·.password)).any
        (hashOpaqueSecret · = input.credentialFingerprint) then do
    let browserSessions ← createOrThrow store.browserSessions input.secretHash
      { owner := input.owner, credentialFingerprint := input.credentialFingerprint
        expiresAt := input.expiresAt, createdAt := input.now }
    return (true, { store with browserSessions })
  else .ok (false, store)

def findBrowserSession (store : AuthStore) (secretHash : String) : Option BrowserSessionRecord := do
  let browser ← store.browserSessions.lookup secretHash
  let identity ← store.loginIdentities.lookup browser.owner.identityId
  let employee ← store.employees.lookup identity.employeeId
  let passwordHash ← identity.password
  let record : BrowserSessionRecord :=
    { owner := browser.owner, expiresAt := browser.expiresAt, revokedAt := browser.revokedAt
      credentialFingerprint := browser.credentialFingerprint
      currentCredentialFingerprint := hashOpaqueSecret passwordHash
      organizationName := (store.organizations.lookup employee.orgId).getD ""
      displayName := employee.displayName, email := employee.email, role := employee.role
      clearance := employee.clearance, disabled := employee.disabled }
  if identity.disabled || employee.disabled || browser.owner.employeeId ≠ identity.employeeId ||
      browser.owner.orgId ≠ identity.orgId || browser.owner.orgId ≠ employee.orgId then none
  else some record

/-- `BrowserSessions.authenticate`, of a secret that has the form of one. -/
def authenticateBrowserSession (store : AuthStore) (secretHash : String) (now : ℕ) :
    Option BrowserSessionRecord :=
  (store.findBrowserSession hashOpaqueSecret secretHash).filter fun record =>
    record.revokedAt.isNone && now < record.expiresAt && !record.disabled &&
      record.credentialFingerprint = record.currentCredentialFingerprint

end

/-- `revoke` of a browser session. -/
def revokeBrowserSession (store : AuthStore) (secretHash : String) (now : ℕ) : AuthStore :=
  { store with
    browserSessions := store.browserSessions.updateMany
      (fun hash browser => hash = secretHash && browser.revokedAt.isNone)
      fun browser => { browser with revokedAt := some now } }

end AuthStore
end SmeDataCenter
