import SmeDataCenter.WorkerTables

/-!
# The tables of the logins

What the API and the operator's command line store about logins: identities with their failure
counters, grants and sessions for setting a password, device authorizations, and the sessions
that come from logins. A session of an instance is a family: one row, its durable credentials
by generation, and its access tokens. A row that answers to a secret stands under the hash of
the secret, which is unique; times are milliseconds.
-/

namespace SmeDataCenter

inductive EmployeeRole where
  | admin
  | employee
  deriving DecidableEq

structure Employee where
  orgId : String
  email : String
  displayName : String
  role : EmployeeRole
  clearance : ℕ
  disabled : Bool := false
  deriving DecidableEq

/-- The only provider is `local_password`. -/
structure LoginIdentity where
  orgId : String
  employeeId : String
  normalizedEmail : String
  passwordHash : Option String := none
  disabled : Bool := false
  failedAttemptCount : ℕ := 0
  cooldownLevel : ℕ := 0
  cooldownUntil : Option ℕ := none

/-- The stored hash of the password; an empty text is none. -/
def LoginIdentity.password (identity : LoginIdentity) : Option String :=
  identity.passwordHash.filter (· ≠ "")

/-! ### Setting a password -/

inductive PasswordSetupPurpose where
  | initialSetup
  | passwordReset
  deriving DecidableEq

structure PasswordSetupGrant where
  identityId : String
  purpose : PasswordSetupPurpose
  expiresAt : ℕ
  usedAt : Option ℕ := none
  revokedAt : Option ℕ := none
  createdAt : ℕ

/-- Neither used nor revoked. -/
def PasswordSetupGrant.isLive (grant : PasswordSetupGrant) : Bool :=
  grant.usedAt.isNone && grant.revokedAt.isNone

structure PasswordSetupSession where
  identityId : String
  /-- The hash of the grant it was exchanged for. -/
  grantTokenHash : String
  expiresAt : ℕ
  consumedAt : Option ℕ := none
  revokedAt : Option ℕ := none
  createdAt : ℕ

/-- Neither consumed nor revoked. -/
def PasswordSetupSession.isLive (setup : PasswordSetupSession) : Bool :=
  setup.consumedAt.isNone && setup.revokedAt.isNone

/-! ### Device authorizations -/

inductive DeviceAuthorizationStatus where
  | pending
  | completed
  | expired
  | revoked
  deriving DecidableEq

/-- Who a login is. -/
structure LoginOwner where
  identityId : String
  employeeId : String
  orgId : String
  deriving DecidableEq

structure DeviceAuthorization where
  clientId : String
  userCodeHash : String
  status : DeviceAuthorizationStatus := .pending
  instanceName : String
  instanceHostname : String
  /-- The three columns are written together. -/
  owner : Option LoginOwner := none
  expiresAt : ℕ
  completedAt : Option ℕ := none
  redeemedAt : Option ℕ := none
  revokedAt : Option ℕ := none
  createdAt : ℕ

/-! ### Sessions -/

inductive AuthSessionStatus where
  | active
  | revoked
  | expired
  deriving DecidableEq

structure AuthSession where
  owner : LoginOwner
  status : AuthSessionStatus := .active
  absoluteExpiresAt : ℕ
  revokedAt : Option ℕ := none
  revocationReason : Option String := none
  createdAt : ℕ

inductive DurableCredentialStatus where
  | active
  | consumed
  | revoked
  deriving DecidableEq

structure DurableCredential where
  sessionId : String
  generation : ℕ
  status : DurableCredentialStatus := .active
  consumedAt : Option ℕ := none
  revokedAt : Option ℕ := none
  createdAt : ℕ

structure OAuthAccessToken where
  sessionId : String
  owner : LoginOwner
  expiresAt : ℕ
  revokedAt : Option ℕ := none
  createdAt : ℕ
  deriving DecidableEq

structure BrowserSession where
  owner : LoginOwner
  credentialFingerprint : String
  expiresAt : ℕ
  revokedAt : Option ℕ := none
  createdAt : ℕ

/-- Grants, setup sessions, device authorizations, credentials, tokens and browser sessions are
found by the hash of their secret, the other rows by their id. -/
structure AuthStore where
  /-- The names of the organizations. -/
  organizations : Table String String := ∅
  employees : Table String Employee := ∅
  loginIdentities : Table String LoginIdentity := ∅
  passwordSetupGrants : Table String PasswordSetupGrant := ∅
  passwordSetupSessions : Table String PasswordSetupSession := ∅
  deviceAuthorizations : Table String DeviceAuthorization := ∅
  authSessions : Table String AuthSession := ∅
  durableCredentials : Table String DurableCredential := ∅
  oAuthAccessTokens : Table String OAuthAccessToken := ∅
  browserSessions : Table String BrowserSession := ∅

namespace AuthStore

/-! ### Families -/

/-- What a session says when its family is revoked. -/
def endedSession (reason : String) (now : ℕ) (session : AuthSession) : AuthSession :=
  { session with
    status := if reason = "session_expired" then .expired else .revoked
    revokedAt := some now, revocationReason := some reason }

def revokeSessionFamily (store : AuthStore) (sessionId reason : String) (now : ℕ) : AuthStore :=
  { store with
    authSessions := store.authSessions.updateMany
      (fun id session => id = sessionId && session.status = .active) (endedSession reason now)
    durableCredentials := store.durableCredentials.updateMany
      (fun _ credential => credential.sessionId = sessionId && credential.status ≠ .revoked)
      fun credential => { credential with status := .revoked, revokedAt := some now }
    oAuthAccessTokens := store.oAuthAccessTokens.updateMany
      (fun _ token => token.sessionId = sessionId && token.revokedAt.isNone)
      fun token => { token with revokedAt := some now } }

/-- The active sessions of an identity. -/
def activeSessions (store : AuthStore) (identityId : String) : List String :=
  (store.authSessions.findMany fun _ session =>
    session.owner.identityId = identityId && session.status = .active).map (·.1)

/-- The loop over the active sessions of an identity that revokes their families. -/
def revokeActiveFamilies (store : AuthStore) (identityId reason : String) (now : ℕ) : AuthStore :=
  (store.activeSessions identityId).foldl
    (fun store sessionId => store.revokeSessionFamily sessionId reason now) store

def revokeBrowserSessions (store : AuthStore) (identityId : String) (now : ℕ) : AuthStore :=
  { store with
    browserSessions := store.browserSessions.updateMany
      (fun _ browser => browser.owner.identityId = identityId && browser.revokedAt.isNone)
      fun browser => { browser with revokedAt := some now } }

end AuthStore
end SmeDataCenter
