import Mathlib.Logic.Function.Basic
import SmeDataCenter.CriticalSections

/-!
# Launcher sessions

The session of the local launcher: a durable credential in a secure store that all launcher
processes of a service share, and in each process an access token that was issued with it. Every
call that writes the record does so under one lock, which every process takes. The store is there
and can be read, so that the record in memory is never used; a write that fails leaves it as it
was. The access token lasts until a minute before it expires.
-/

namespace SmeDataCenter
namespace LauncherSession

open CriticalSections

/-! ### Records -/

inductive LauncherErrorCode where
  | authenticationRequired
  | authenticationPending
  | serviceUnavailable
  | forbidden
  | launcherUpgradeRequired
  deriving DecidableEq

/-- What is thrown: a typed error, or another one, whose message names the network (`network`,
`fetch`, `timeout`) or does not. -/
inductive Thrown where
  | typed (code : LauncherErrorCode)
  | other (namesNetwork : Bool)
  deriving DecidableEq

def asTypedError : Thrown → LauncherErrorCode
  | .typed code => code
  | .other true => .serviceUnavailable
  | .other false => .authenticationRequired

inductive Role where
  | admin
  | employee
  deriving DecidableEq

structure CachedUserProfile where
  displayName : String
  email : String
  role : Role
  clearance : ℕ
  organizationName : String

structure SessionRecord where
  origin : String
  durableCredential : String
  profile : Option CachedUserProfile

/-- The reply to a refresh. -/
structure Refreshed where
  accessToken : String
  refreshToken : String
  expiresAt : Option ℕ

/-- The access token of a process, and the credential it was issued with. -/
structure Cache where
  accessToken : Option String := none
  accessTokenExpiresAt : ℕ := 0
  accessTokenCredential : Option String := none

/-- The access token while it lasts. -/
def Cache.usable (cache : Cache) (now : ℕ) : Option String :=
  cache.accessToken.filter fun _ => now + 60000 < cache.accessTokenExpiresAt

/-! ### Requests -/

/-- What the calls ask for, one at a time. -/
inductive Request where
  /-- The look at the cache that a call may return from without the lock. -/
  | cachedToken
  /-- The cache, and the time. -/
  | cache
  | setCache (cache : Cache)
  /-- Is a login waited for? From now on it is not. -/
  | takePendingLogin
  | waitForLogin
  | awaitLogin
  | get
  /-- `signIn` is the access token that a login comes with. -/
  | set (record : SessionRecord) (signIn : Option String)
  | delete
  | refresh (refreshCredential : String)
  | revoke (refreshCredential : String)
  | resolve (accessToken : String)

def Request.Reply : Request → Type
  | .cachedToken => Option String
  | .cache => Cache × ℕ
  | .takePendingLogin | .set .. => Bool
  | .setCache _ | .waitForLogin | .awaitLogin | .delete => Unit
  | .get => Option SessionRecord
  | .refresh _ => Except Thrown Refreshed
  | .revoke _ => Option Bool
  | .resolve _ => Except Thrown CachedUserProfile

abbrev Session := ExceptT Thrown (Prog Request Request.Reply)

def ask (r : Request) : Session r.Reply := ExceptT.lift (Prog.request r)

/-- `acquireRecordLock`, what is done under the lock, and its release. -/
def withRecordLock {α : Type} (body : Session α) : Session α :=
  ExceptT.mk (.acquire fun acquired =>
    if acquired then body.run.bind fun result => .release (.done result)
    else .done (.error (.other false)))

/-! ### The parts of a call -/

variable (origin : String)

def readRecord : Session (Option SessionRecord) := do
  let record ← ask .get
  return record.filter fun r => r.origin = origin && r.durableCredential ≠ ""

def readCredential : Session (Option String) := do
  let record ← readRecord origin
  return record.map (·.durableCredential)

def storeRecord (durableCredential : String) (profile : Option CachedUserProfile)
    (signIn : Option String) : Session Unit := do
  let stored : Bool ← ask (.set ⟨origin, durableCredential, profile⟩ signIn)
  if stored then return () else throw (.other false)

/-- A failure to delete is ignored. -/
def deleteRecord : Session Unit := ask .delete

def invalidateLocked : Session Unit := do
  ask (.setCache {})
  deleteRecord

/-- Store a credential and read it back. -/
def storeVerified (durableCredential : String) (profile : Option CachedUserProfile)
    (signIn : Option String) : Session Unit := do
  storeRecord origin durableCredential profile signIn
  let credential ← readCredential origin
  if credential = some durableCredential then return () else throw (.other false)

/-- A credential that could not be stored is revoked, and the record deleted. -/
def abandon {α : Type} (durableCredential : String) : Session α := do
  ask (.setCache {})
  let _ ← ask (.revoke durableCredential)
  deleteRecord
  throw (.typed .authenticationRequired)

def waitForPendingLogin : Session Unit := do
  let (cache, now) ← ask .cache
  if (cache.usable now).isSome then return ()
  else
    let pending : Bool ← ask .takePendingLogin
    if pending then
      ask .awaitLogin
      let (cache, now) ← ask .cache
      if (cache.usable now).isSome then return ()
      else if cache.accessToken.isSome then return ()
      else
        let credential ← readCredential origin
        if credential = none then throw (.typed .authenticationPending) else return ()
    else return ()

/-- The credential of the record is refreshed, and the new one stored. -/
def refreshRecord (record : SessionRecord) : Session String := do
  let result ← ask (.refresh record.durableCredential)
  match result with
  | .error thrown =>
    if asTypedError thrown = .authenticationRequired then invalidateLocked
    throw (.typed (asTypedError thrown))
  | .ok refreshed =>
    tryCatch (storeVerified origin refreshed.refreshToken record.profile none) fun _ =>
      abandon refreshed.refreshToken
    let (_, now) ← ask .cache
    ask (.setCache ⟨some refreshed.accessToken, refreshed.expiresAt.getD (now + 9 * 60000),
      some refreshed.refreshToken⟩)
    return refreshed.accessToken

def ensureAccessTokenLocked : Session String := do
  let found ← readRecord origin
  match found with
  | none => throw (.typed .authenticationRequired)
  | some record =>
    let (cache, now) ← ask .cache
    match (cache.usable now).filter fun _ =>
        cache.accessTokenCredential = some record.durableCredential with
    | some token => return token
    | none => refreshRecord origin record

/-- What `ensureAccessTokenLocked` does with the record and the cache that it has read. -/
def tokenOf (record : SessionRecord) (cache : Cache) (now : ℕ) : Session String :=
  match (cache.usable now).filter fun _ =>
      cache.accessTokenCredential = some record.durableCredential with
  | some token => return token
  | none => refreshRecord origin record

/-! ### Calls -/

def ensureAccessToken : Session String := do
  let cached ← ask .cachedToken
  match cached with
  | some token => return token
  | none =>
    waitForPendingLogin origin
    withRecordLock (ensureAccessTokenLocked origin)

def refreshAccessToken : Session String :=
  withRecordLock do
    let (cache, _) ← ask .cache
    ask (.setCache { cache with accessToken := none, accessTokenExpiresAt := 0 })
    ensureAccessTokenLocked origin

def establish (accessToken refreshCredential : String) (expiresAt : ℕ) : Session Unit :=
  withRecordLock <| tryCatch
    (do
      storeVerified origin refreshCredential none (some accessToken)
      ask (.setCache ⟨some accessToken, expiresAt, some refreshCredential⟩))
    fun _ => abandon refreshCredential

/-- Was the credential revoked, and is the record removed? -/
def logout : Session (Bool × Bool) :=
  withRecordLock do
    let refreshCredential ← readCredential origin
    ask (.setCache {})
    let remoteRevocationConfirmed ← match refreshCredential with
      | some credential => do
        let confirmed ← ask (.revoke credential)
        pure (confirmed.getD false)
      | none => pure true
    deleteRecord
    return (remoteRevocationConfirmed, true)

def invalidate : Session Unit := withRecordLock invalidateLocked

/-- The profile of the record, or the one the service gives for an access token. -/
def resolveProfileLocked : Session CachedUserProfile := do
  let record ← readRecord origin
  let (cache, _) ← ask .cache
  if cache.accessTokenCredential ≠ record.map (·.durableCredential) then ask (.setCache {})
  match record.bind (·.profile) with
  | some profile => return profile
  | none =>
    let token ← ensureAccessTokenLocked origin
    let resolved ← ask (.resolve token)
    match resolved with
    | .error thrown => throw thrown
    | .ok profile =>
      let credential ← readCredential origin
      match credential with
      | none => throw (.typed .authenticationRequired)
      | some credential =>
        storeRecord origin credential (some profile) none
        return profile

/-- What `resolveProfileLocked` does with the record that it has read. -/
def profileOf (record : Option SessionRecord) : Session CachedUserProfile :=
  match record.bind (·.profile) with
  | some profile => return profile
  | none => do
    let token ← ensureAccessTokenLocked origin
    let resolved ← ask (.resolve token)
    match resolved with
    | .error thrown => throw thrown
    | .ok profile =>
      let credential ← readCredential origin
      match credential with
      | none => throw (.typed .authenticationRequired)
      | some credential =>
        storeRecord origin credential (some profile) none
        return profile

def resolveProfile : Session CachedUserProfile := do
  waitForPendingLogin origin
  withRecordLock <| tryCatch (resolveProfileLocked origin) fun thrown => do
    if thrown = .typed .authenticationRequired then invalidateLocked
    throw thrown

/-- `validated` is the profile, when it is one. -/
def storeProfile (validated : Option CachedUserProfile) : Session Unit :=
  match validated with
  | none => throw (.other false)
  | some profile => withRecordLock do
    let found ← readRecord origin
    match found with
    | none => throw (.typed .authenticationRequired)
    | some record => storeRecord origin record.durableCredential (some profile) none

inductive Method where
  | ensureAccessToken
  | refreshAccessToken
  | establish (accessToken refreshCredential : String) (expiresAt : ℕ)
  | logout
  | invalidate
  | resolveProfile
  | storeProfile (validated : Option CachedUserProfile)
  | waitForLogin

inductive Outcome where
  | token (accessToken : String)
  | profile (profile : CachedUserProfile)
  | signedOut (remoteRevocationConfirmed localCredentialRemoved : Bool)
  | finished

def call : Method → Session Outcome
  | .ensureAccessToken => do return .token (← ensureAccessToken origin)
  | .refreshAccessToken => do return .token (← refreshAccessToken origin)
  | .establish accessToken refreshCredential expiresAt => do
    establish origin accessToken refreshCredential expiresAt
    return .finished
  | .logout => do
    let result ← logout origin
    return .signedOut result.1 result.2
  | .invalidate => do
    invalidate
    return .finished
  | .resolveProfile => do return .profile (← resolveProfile origin)
  | .storeProfile validated => do
    storeProfile origin validated
    return .finished
  | .waitForLogin => do
    ask .waitForLogin
    return .finished

/-! ### Processes -/

/-- A credential that was issued, with the access token that came with it and the login it goes
back to. -/
structure Issue where
  credential : String
  accessToken : Option String
  session : ℕ

/-- What the lock protects: the store, and the cache of each process; and what has happened,
the latest first: the credentials issued, the logins so far, the login of the record, and the
credentials passed to `refresh` with whether it returned successfully. -/
structure Shared (Process : Type) where
  store : Option SessionRecord
  caches : Process → Cache := fun _ => {}
  issued : List Issue := []
  sessions : ℕ := 0
  session : Option ℕ := none
  refreshes : List (String × Bool) := []

/-- What is answered: the time, whether a write succeeds, what the token service and the profile
service reply. -/
inductive Answer where
  | now (time : ℕ)
  | nothing
  | written (ok : Bool)
  | refreshed (result : Except Thrown Refreshed)
  | revoked (confirmed : Option Bool)
  | resolved (result : Except Thrown CachedUserProfile)

namespace Shared

variable {Process : Type}

def setCache [DecidableEq Process] (s : Shared Process) (p : Process) (cache : Cache) :
    Shared Process :=
  { s with caches := Function.update s.caches p cache }

/-- A record is stored; that of a login begins a session. -/
def stored (s : Shared Process) (record : SessionRecord) (signIn : Option String) :
    Shared Process :=
  match signIn with
  | none => { s with store := some record }
  | some accessToken =>
    { s with
      store := some record
      issued := ⟨record.durableCredential, some accessToken, s.sessions⟩ :: s.issued
      sessions := s.sessions + 1
      session := some s.sessions }

def deleted (s : Shared Process) : Shared Process := { s with store := none, session := none }

/-- A credential was passed to `refresh`; a new one belongs to the same session. -/
def afterRefresh (s : Shared Process) (credential : String) :
    Except Thrown Refreshed → Shared Process
  | .error _ => { s with refreshes := (credential, false) :: s.refreshes }
  | .ok refreshed =>
    { s with
      issued := ⟨refreshed.refreshToken, some refreshed.accessToken, s.session.getD 0⟩ :: s.issued
      refreshes := (credential, true) :: s.refreshes }

end Shared

variable {Process : Type} [DecidableEq Process]

/-- What a request of a process does. Which processes wait for a login is not protected. -/
def exec (p : Process) : (r : Request) → Answer → Shared Process → (Process → Bool) →
    Option (r.Reply × Shared Process × (Process → Bool))
  | .cachedToken, .now time, s, waiting => some ((s.caches p).usable time, s, waiting)
  | .cache, .now time, s, waiting => some ((s.caches p, time), s, waiting)
  | .setCache cache, .nothing, s, waiting => some ((), s.setCache p cache, waiting)
  | .takePendingLogin, .nothing, s, waiting =>
    some (waiting p, s, Function.update waiting p false)
  | .waitForLogin, .nothing, s, waiting => some ((), s, Function.update waiting p true)
  | .awaitLogin, .nothing, s, waiting => some ((), s, waiting)
  | .get, .nothing, s, waiting => some (s.store, s, waiting)
  | .set record signIn, .written ok, s, waiting =>
    some (ok, if ok then s.stored record signIn else s, waiting)
  | .delete, .written ok, s, waiting => some ((), if ok then s.deleted else s, waiting)
  | .refresh credential, .refreshed result, s, waiting =>
    some (result, s.afterRefresh credential result, waiting)
  | .revoke _, .revoked confirmed, s, waiting => some (confirmed, s, waiting)
  | .resolve _, .resolved result, s, waiting => some (result, s, waiting)
  | _, _, _, _ => none

/-- The launcher processes, each for its origin. -/
def launchers (origin : Process → String) :
    Machine Process Method Answer (Shared Process) (Process → Bool) (Except Thrown Outcome)
      Request Request.Reply where
  program p method := (call (origin p) method).run
  exec := exec

end LauncherSession
end SmeDataCenter
