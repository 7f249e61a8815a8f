import SmeDataCenter.AuthRepository
import SmeDataCenter.Fallible
import SmeDataCenter.Runs

/-!
# Runs of the login transactions

A request is one transaction with its input. A system is a store with the log of what every
request was answered; it takes requests in any order, from any clients, one transaction after
the other, and one that throws leaves the store. What the transactions do to families is said
once: `Ends` is the effect of revoking some of them.
-/

namespace SmeDataCenter

/-- A transaction of the logins. -/
inductive AuthRequest where
  | recordFailure (identityId : String) (now : ℕ)
  | resetFailures (identityId : String)
  | replaceGrant (input : ReplaceGrantInput)
  | exchangeGrant (input : ExchangeGrantInput)
  | consumeSetup (input : ConsumeSetupInput)
  | onboard (input : OnboardInput) (employeeId identityId : String) (refused : Option String)
  | resetPassword (input : ResetPasswordInput)
  | createDevice (input : DeviceAuthorizationInput)
  | completeDevice (userCodeHash : String) (owner : LoginOwner) (now : ℕ)
  | redeemDevice (deviceCodeHash clientId : String) (now : ℕ)
  | createSession (input : SessionBundleInput) (sessionId : String)
  | rotate (input : RotateCredentialInput)
  | readToken (tokenHash : String) (now : ℕ)
  /-- The second transaction of a read that found a session past its lifetime. -/
  | endElapsed (sessionId : String) (now : ℕ)
  | logout (credentialHash reason : String) (now : ℕ)
  | revokeIdentity (identityId reason : String) (now : ℕ)
  | createBrowser (input : BrowserSessionInput)
  | revokeBrowser (secretHash : String) (now : ℕ)

/-- Requests that are made within a login or with its result. -/
def AuthRequest.ofLogin : AuthRequest → Bool
  | .recordFailure .. | .resetFailures .. | .completeDevice .. | .redeemDevice ..
  | .createSession .. | .createBrowser .. => true
  | _ => false

inductive AuthAnswer where
  | done
  | thrown (error : WorkerError)
  | cooldown (cooldownUntil : Option ℕ)
  | exchanged (setup : Option (String × PasswordSetupPurpose))
  | consumed (accepted : Bool)
  | onboarded (employeeId identityId : String)
  | reset (account : Option (String × String))
  | completed (accepted : Bool)
  | redeemed (redemption : DeviceCodeRedemption)
  | rotation (result : RotateCredentialResult)
  | read (access : AccessTokenRead)
  | loggedOut (found : Bool)
  | revoked (count : ℕ)
  | issued (created : Bool)
  deriving DecidableEq

namespace AuthStore

/-- One transaction. -/
def transact (hashOpaqueSecret : String → String) (store : AuthStore) :
    AuthRequest → Except WorkerError (AuthAnswer × AuthStore)
  | .recordFailure identityId now =>
    let (cooldownUntil, store) := store.recordLoginFailure identityId now
    .ok (.cooldown cooldownUntil, store)
  | .resetFailures identityId => .ok (.done, store.resetLoginFailures identityId)
  | .replaceGrant input => do return (.done, ← store.replacePasswordSetupGrant input)
  | .exchangeGrant input => do
    let (setup, store) ← store.exchangePasswordSetupGrant input
    return (.exchanged setup, store)
  | .consumeSetup input => do
    let (accepted, store) ← store.consumePasswordSetupSession input
    return (.consumed accepted, store)
  | .onboard input employeeId identityId refused => do
    let (_, store) ← store.onboard input employeeId identityId refused
    return (.onboarded employeeId identityId, store)
  | .resetPassword input => do
    let (account, store) ← store.resetPassword input
    return (.reset account, store)
  | .createDevice input => do return (.done, ← store.createDeviceAuthorization input)
  | .completeDevice userCodeHash owner now =>
    let (accepted, store) := store.completeDeviceAuthorization userCodeHash owner now
    .ok (.completed accepted, store)
  | .redeemDevice deviceCodeHash clientId now =>
    let (redemption, store) := store.redeemDeviceAuthorization deviceCodeHash clientId now
    .ok (.redeemed redemption, store)
  | .createSession input sessionId => do return (.done, ← store.createSessionBundle input sessionId)
  | .rotate input => do
    let (result, store) ← store.rotateDurableCredential input
    return (.rotation result, store)
  | .readToken tokenHash now => .ok (.read (store.readAccessToken tokenHash now), store)
  | .endElapsed sessionId now =>
    .ok (.done, store.revokeSessionFamily sessionId "session_expired" now)
  | .logout credentialHash reason now =>
    let (found, store) := store.revokeSessionByDurableCredential credentialHash reason now
    .ok (.loggedOut found, store)
  | .revokeIdentity identityId reason now =>
    let (count, store) := store.revokeIdentitySessions identityId reason now
    .ok (.revoked count, store)
  | .createBrowser input => do
    let (created, store) ← store.createBrowserSession hashOpaqueSecret input
    return (.issued created, store)
  | .revokeBrowser secretHash now => .ok (.done, store.revokeBrowserSession secretHash now)

end AuthStore

/-- A store and what every request so far was answered. -/
structure AuthSystem where
  store : AuthStore := {}
  log : List (AuthRequest × AuthAnswer) := []

namespace AuthSystem

/-- One request. -/
def step (hashOpaqueSecret : String → String) (s : AuthSystem) (request : AuthRequest) :
    AuthSystem :=
  match s.store.transact hashOpaqueSecret request with
  | .ok (answer, store) => ⟨store, s.log ++ [(request, answer)]⟩
  | .error error => { s with log := s.log ++ [(request, .thrown error)] }

/-- The system after some requests. -/
def after (hashOpaqueSecret : String → String) (s : AuthSystem) (requests : List AuthRequest) :
    AuthSystem :=
  Runs.run (step hashOpaqueSecret) s requests

lemma step_of_ok {hashOpaqueSecret : String → String} {s : AuthSystem} {request : AuthRequest}
    {answer : AuthAnswer} {store : AuthStore}
    (h : s.store.transact hashOpaqueSecret request = .ok (answer, store)) :
    s.step hashOpaqueSecret request = ⟨store, s.log ++ [(request, answer)]⟩ := by
  unfold step
  rw [h]

lemma step_cases {hashOpaqueSecret : String → String} (s : AuthSystem) (request : AuthRequest) :
    (∃ answer store, s.store.transact hashOpaqueSecret request = .ok (answer, store) ∧
        s.step hashOpaqueSecret request = ⟨store, s.log ++ [(request, answer)]⟩) ∨
      ∃ error, s.step hashOpaqueSecret request =
        ⟨s.store, s.log ++ [(request, .thrown error)]⟩ := by
  cases h : s.store.transact hashOpaqueSecret request with
  | ok result =>
    obtain ⟨answer, store⟩ := result
    exact .inl ⟨answer, store, rfl, step_of_ok h⟩
  | error error =>
    refine .inr ⟨error, ?_⟩
    unfold step
    rw [h]

/-- How many requests so far were answered in a way. -/
def answered (s : AuthSystem) (p : AuthRequest × AuthAnswer → Bool) : ℕ := s.log.countP p

lemma answered_append (store store' : AuthStore) (log : List (AuthRequest × AuthAnswer))
    (entry : AuthRequest × AuthAnswer) (p : AuthRequest × AuthAnswer → Bool) :
    answered ⟨store', log ++ [entry]⟩ p =
      answered ⟨store, log⟩ p + if p entry = true then 1 else 0 := by
  simp [answered, List.countP_append, List.countP_singleton]

end AuthSystem

namespace AuthStore

/-! ### Ending families -/

/-- What a credential says when its family is revoked. -/
def revokedCredential (now : ℕ) (credential : DurableCredential) : DurableCredential :=
  if credential.status = .revoked then credential
  else { credential with status := .revoked, revokedAt := some now }

/-- What a token says when its family is revoked. -/
def revokedToken (now : ℕ) (token : OAuthAccessToken) : OAuthAccessToken :=
  if token.revokedAt.isNone then { token with revokedAt := some now } else token

/-- The second store is the first with the families of some sessions revoked. -/
structure Ends (ids : List String) (reason : String) (now : ℕ) (store store' : AuthStore) :
    Prop where
  sessions : ∀ id, store'.authSessions.lookup id = (store.authSessions.lookup id).map fun session =>
    if id ∈ ids ∧ session.status = .active then endedSession reason now session else session
  credentials : ∀ hash, store'.durableCredentials.lookup hash =
    (store.durableCredentials.lookup hash).map fun credential =>
      if credential.sessionId ∈ ids then revokedCredential now credential else credential
  tokens : ∀ hash, store'.oAuthAccessTokens.lookup hash =
    (store.oAuthAccessTokens.lookup hash).map fun token =>
      if token.sessionId ∈ ids then revokedToken now token else token

lemma endedSession_status_ne (reason : String) (now : ℕ) (session : AuthSession) :
    (endedSession reason now session).status ≠ .active := by
  unfold endedSession
  split_ifs <;> simp_all

@[simp] lemma revokedCredential_sessionId (now : ℕ) (credential : DurableCredential) :
    (revokedCredential now credential).sessionId = credential.sessionId := by
  unfold revokedCredential
  split_ifs <;> rfl

@[simp] lemma revokedCredential_status (now : ℕ) (credential : DurableCredential) :
    (revokedCredential now credential).status = .revoked := by
  unfold revokedCredential
  split_ifs with h
  · exact h
  · rfl

@[simp] lemma revokedToken_sessionId (now : ℕ) (token : OAuthAccessToken) :
    (revokedToken now token).sessionId = token.sessionId := by
  unfold revokedToken
  split_ifs <;> rfl

lemma revokedToken_revoked (now : ℕ) (token : OAuthAccessToken) :
    (revokedToken now token).revokedAt.isSome = true := by
  unfold revokedToken
  split_ifs with h
  · rfl
  · exact Option.isSome_iff_ne_none.mpr fun hnone => h (by rw [hnone]; rfl)

@[simp] lemma revokedCredential_twice (now : ℕ) (credential : DurableCredential) :
    revokedCredential now (revokedCredential now credential) = revokedCredential now credential :=
  if_pos (revokedCredential_status now credential)

@[simp] lemma revokedToken_twice (now : ℕ) (token : OAuthAccessToken) :
    revokedToken now (revokedToken now token) = revokedToken now token := by
  have h := revokedToken_revoked now token
  rw [Option.isSome_iff_ne_none] at h
  exact if_neg fun hnone => h (Option.isNone_iff_eq_none.mp hnone)

lemma ends_revokeSessionFamily (store : AuthStore) (sessionId reason : String) (now : ℕ) :
    Ends [sessionId] reason now store (store.revokeSessionFamily sessionId reason now) where
  sessions id := by
    simp [revokeSessionFamily]
  credentials hash := by
    simp only [revokeSessionFamily, Table.lookup_updateMany, List.mem_singleton]
    congr 1
    funext credential
    by_cases hid : credential.sessionId = sessionId <;>
      by_cases hstatus : credential.status = .revoked <;>
        simp [revokedCredential, hid, hstatus]
  tokens hash := by
    simp only [revokeSessionFamily, Table.lookup_updateMany, List.mem_singleton]
    congr 1
    funext token
    by_cases hid : token.sessionId = sessionId <;> simp [revokedToken, hid]

lemma Ends.cons {id reason : String} {ids : List String} {now : ℕ} {store store₁ store' : AuthStore}
    (h : Ends [id] reason now store store₁) (hrest : Ends ids reason now store₁ store') :
    Ends (id :: ids) reason now store store' where
  sessions k := by
    rw [hrest.sessions, h.sessions, Option.map_map]
    congr 1
    funext session
    have hended := endedSession_status_ne reason now session
    by_cases hk : k = id <;> by_cases hids : k ∈ ids <;>
      by_cases hactive : session.status = .active <;> simp_all
  credentials hash := by
    rw [hrest.credentials, h.credentials, Option.map_map]
    congr 1
    funext credential
    by_cases hk : credential.sessionId = id <;> by_cases hids : credential.sessionId ∈ ids <;>
      simp_all
  tokens hash := by
    rw [hrest.tokens, h.tokens, Option.map_map]
    congr 1
    funext token
    by_cases hk : token.sessionId = id <;> by_cases hids : token.sessionId ∈ ids <;>
      simp_all

lemma Ends.nil (reason : String) (now : ℕ) (store : AuthStore) : Ends [] reason now store store where
  sessions id := by simp
  credentials hash := by simp
  tokens hash := by simp

lemma ends_foldl (ids : List String) (reason : String) (now : ℕ) (store : AuthStore) :
    Ends ids reason now store
      (ids.foldl (fun store sessionId => store.revokeSessionFamily sessionId reason now) store) := by
  induction ids generalizing store with
  | nil => exact .nil reason now store
  | cons id ids ih => exact (ends_revokeSessionFamily store id reason now).cons (ih _)

lemma mem_activeSessions {store : AuthStore} {identityId id : String} :
    id ∈ store.activeSessions identityId ↔ ∃ session, store.authSessions.lookup id = some session ∧
      session.owner.identityId = identityId ∧ session.status = .active := by
  unfold activeSessions
  rw [List.mem_map]
  constructor
  · rintro ⟨⟨id', session⟩, hmem, rfl⟩
    obtain ⟨hrow, hp⟩ := Table.mem_findMany.mp hmem
    exact ⟨session, hrow, by simpa using hp⟩
  · rintro ⟨session, hrow, hp⟩
    exact ⟨(id, session), Table.mem_findMany.mpr ⟨hrow, by simpa using hp⟩, rfl⟩

lemma ends_revokeActiveFamilies (store : AuthStore) (identityId reason : String) (now : ℕ) :
    Ends (store.activeSessions identityId) reason now store
      (store.revokeActiveFamilies identityId reason now) := ends_foldl ..

lemma Ends.congr_left {ids : List String} {reason : String} {now : ℕ}
    {store store₁ store' : AuthStore} (h : Ends ids reason now store₁ store')
    (hs : store₁.authSessions = store.authSessions)
    (hc : store₁.durableCredentials = store.durableCredentials)
    (ht : store₁.oAuthAccessTokens = store.oAuthAccessTokens) :
    Ends ids reason now store store' where
  sessions id := by rw [h.sessions, hs]
  credentials hash := by rw [h.credentials, hc]
  tokens hash := by rw [h.tokens, ht]

lemma foldl_revokeSessionFamily_eq (ids : List String) (reason : String) (now : ℕ)
    (store : AuthStore) :
    let store' := ids.foldl
      (fun store sessionId => store.revokeSessionFamily sessionId reason now) store
    store'.loginIdentities = store.loginIdentities ∧ store'.employees = store.employees ∧
      store'.passwordSetupGrants = store.passwordSetupGrants ∧
      store'.passwordSetupSessions = store.passwordSetupSessions ∧
      store'.deviceAuthorizations = store.deviceAuthorizations ∧
      store'.browserSessions = store.browserSessions := by
  induction ids generalizing store with
  | nil => exact ⟨rfl, rfl, rfl, rfl, rfl, rfl⟩
  | cons id ids ih => exact ih (store.revokeSessionFamily id reason now)

lemma revokeActiveFamilies_eq (store : AuthStore) (identityId reason : String) (now : ℕ) :
    let store' := store.revokeActiveFamilies identityId reason now
    store'.loginIdentities = store.loginIdentities ∧ store'.employees = store.employees ∧
      store'.passwordSetupGrants = store.passwordSetupGrants ∧
      store'.passwordSetupSessions = store.passwordSetupSessions ∧
      store'.deviceAuthorizations = store.deviceAuthorizations ∧
      store'.browserSessions = store.browserSessions :=
  foldl_revokeSessionFamily_eq ..

end AuthStore
end SmeDataCenter
