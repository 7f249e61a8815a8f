import SmeDataCenter.AuthTransactions

/-!
# What the login transactions do

One lemma for each transaction that can be refused or throw: what was found when it answered,
and what it wrote. Proofs about runs use these, and not the definitions.
-/

namespace SmeDataCenter

/-- The tables of the logins, by what they are about. -/
inductive AuthTables where
  | identities | setups | devices | families | browsers
  deriving DecidableEq

/-- What a request may write. -/
def AuthRequest.writes : AuthRequest → List AuthTables
  | .recordFailure .. | .resetFailures .. => [.identities]
  | .replaceGrant .. | .exchangeGrant .. => [.setups]
  | .consumeSetup .. => [.identities, .setups, .families, .browsers]
  | .onboard .. => [.identities, .setups]
  | .resetPassword .. => [.setups, .browsers]
  | .createDevice .. | .completeDevice .. | .redeemDevice .. => [.devices]
  | .createSession .. | .rotate .. | .endElapsed .. | .logout .. => [.families]
  | .readToken .. => []
  | .revokeIdentity .. => [.families, .browsers]
  | .createBrowser .. | .revokeBrowser .. => [.browsers]

def AuthRequest.isRotate : AuthRequest → Bool
  | .rotate _ => true
  | _ => false

def AuthAnswer.isRotation : AuthAnswer → Bool
  | .rotation _ => true
  | _ => false

namespace AuthStore

open Fallible (bind_ok pure_ok)

variable {store store' : AuthStore}

/-! ### Grants and setup sessions -/

lemma createGrant_ok {tokenHash : String} {grant : PasswordSetupGrant} :
    store.createGrant tokenHash grant = .ok store' ↔
      ∃ grants, store.passwordSetupGrants.create tokenHash grant = some grants ∧
        store' = { store with passwordSetupGrants := grants } := by
  unfold createGrant
  constructor
  · intro h
    obtain ⟨grants, hgrants, h⟩ := bind_ok.mp h
    cases h
    exact ⟨grants, createOrThrow_eq_ok.mp hgrants, rfl⟩
  · rintro ⟨grants, hgrants, rfl⟩
    exact bind_ok.mpr ⟨grants, createOrThrow_eq_ok.mpr hgrants, rfl⟩

lemma replacePasswordSetupGrant_ok {input : ReplaceGrantInput}
    (h : store.replacePasswordSetupGrant input = .ok store') :
    ∃ grants, (store.revokePasswordSetup input.identityId input.now).passwordSetupGrants.create
        input.tokenHash
        { identityId := input.identityId, purpose := input.purpose
          expiresAt := input.expiresAt, createdAt := input.now } = some grants ∧
      (∃ identity, store.loginIdentities.lookup input.identityId = some identity) ∧
      store' = { store.revokePasswordSetup input.identityId input.now with
        passwordSetupGrants := grants } := by
  obtain ⟨identity, hidentity, h⟩ := bind_ok.mp h
  obtain ⟨grants, hgrants, rfl⟩ := createGrant_ok.mp h
  exact ⟨grants, hgrants, ⟨identity, findUniqueOrThrow_eq_ok.mp hidentity⟩, rfl⟩

/-- The grant as it is claimed. -/
def claimedGrant (tokenHash : String) (now : ℕ) (hash : String) (grant : PasswordSetupGrant) :
    Bool :=
  hash = tokenHash && grant.isLive && now < grant.expiresAt

lemma exchangePasswordSetupGrant_ok {input : ExchangeGrantInput}
    {setup : Option (String × PasswordSetupPurpose)}
    (h : store.exchangePasswordSetupGrant input = .ok (setup, store')) :
    (setup = none ∧ store' = store) ∨
      ∃ grant sessions, store.passwordSetupGrants.lookup input.grantTokenHash = some grant ∧
        grant.isLive = true ∧ input.now < grant.expiresAt ∧
        store.passwordSetupSessions.create input.sessionHash
          { identityId := grant.identityId, grantTokenHash := input.grantTokenHash
            expiresAt := input.expiresAt, createdAt := input.now } = some sessions ∧
        setup = some (grant.identityId, grant.purpose) ∧
        store' = { store with
          passwordSetupGrants := store.passwordSetupGrants.updateMany
            (claimedGrant input.grantTokenHash input.now)
            fun grant => { grant with usedAt := some input.now }
          passwordSetupSessions := sessions } := by
  unfold exchangePasswordSetupGrant at h
  cases hgrant : store.passwordSetupGrants.lookup input.grantTokenHash with
  | none =>
    rw [hgrant] at h
    cases h
    exact .inl ⟨rfl, rfl⟩
  | some grant =>
    rw [hgrant] at h
    dsimp only at h
    split_ifs at h with hover hcount
    · cases h
      exact .inl ⟨rfl, rfl⟩
    · cases h
      exact .inl ⟨rfl, rfl⟩
    · obtain ⟨sessions, hsessions, h⟩ := bind_ok.mp h
      obtain ⟨identity, -, h⟩ := bind_ok.mp h
      cases h
      simp only [Bool.or_eq_true, decide_eq_true_eq, not_or, not_le, Bool.not_eq_true,
        Option.isSome_eq_false_iff] at hover
      obtain ⟨⟨hused, hrevoked⟩, hexpires⟩ := hover
      refine .inr ⟨grant, sessions, rfl, ?_, hexpires, createOrThrow_eq_ok.mp hsessions, rfl, rfl⟩
      simp [PasswordSetupGrant.isLive, hused, hrevoked]

/-- The setup session as it is claimed. -/
def claimedSetup (sessionHash : String) (now : ℕ) (hash : String) (setup : PasswordSetupSession) :
    Bool :=
  hash = sessionHash && setup.isLive && now < setup.expiresAt

/-- The store when a claimed setup session has set the password of its identity, before the
families of the identity are revoked. -/
def passwordSet (store : AuthStore) (identityId : String) (input : ConsumeSetupInput) :
    AuthStore :=
  { store with
    loginIdentities := store.loginIdentities.update identityId fun identity =>
      { identity.withoutFailures with passwordHash := some input.passwordHash }
    passwordSetupSessions := store.passwordSetupSessions.updateMany
      (claimedSetup input.sessionHash input.now)
      fun setup => { setup with consumedAt := some input.now } }.revokeBrowserSessions
    identityId input.now

lemma consumePasswordSetupSession_ok {input : ConsumeSetupInput} {accepted : Bool}
    (h : store.consumePasswordSetupSession input = .ok (accepted, store')) :
    (accepted = false ∧ store' = store) ∨
      ∃ setup identity, store.passwordSetupSessions.lookup input.sessionHash = some setup ∧
        setup.isLive = true ∧ input.now < setup.expiresAt ∧
        store.loginIdentities.lookup setup.identityId = some identity ∧
        accepted = true ∧
        store' = (store.passwordSet setup.identityId input).revokeActiveFamilies
          setup.identityId "password_reset" input.now := by
  unfold consumePasswordSetupSession at h
  cases hsetup : store.passwordSetupSessions.lookup input.sessionHash with
  | none =>
    rw [hsetup] at h
    cases h
    exact .inl ⟨rfl, rfl⟩
  | some setup =>
    rw [hsetup] at h
    dsimp only at h
    split_ifs at h with hover hcount
    · cases h
      exact .inl ⟨rfl, rfl⟩
    · cases h
      exact .inl ⟨rfl, rfl⟩
    · obtain ⟨identities, hidentities, h⟩ := bind_ok.mp h
      obtain ⟨⟨identity, hidentity⟩, rfl⟩ := updateOrThrow_eq_ok.mp hidentities
      cases h
      simp only [Bool.or_eq_true, decide_eq_true_eq, not_or, not_le, Bool.not_eq_true,
        Option.isSome_eq_false_iff] at hover
      obtain ⟨⟨hconsumed, hrevoked⟩, hexpires⟩ := hover
      refine .inr ⟨setup, identity, rfl, ?_, hexpires, hidentity, rfl, rfl⟩
      simp [PasswordSetupSession.isLive, hconsumed, hrevoked]

/-! ### The operator's command line -/

lemma onboard_ok {input : OnboardInput} {employeeId identityId : String}
    {refused : Option String} {ids : String × String}
    (h : store.onboard input employeeId identityId refused = .ok (ids, store')) :
    ∃ employees identities grants,
      store.employees.create employeeId
        { orgId := input.orgId, email := input.normalizedEmail, displayName := input.displayName
          role := input.role, clearance := input.clearance } = some employees ∧
      store.loginIdentities.create identityId
        { orgId := input.orgId, employeeId
          normalizedEmail := input.normalizedEmail } = some identities ∧
      store.passwordSetupGrants.create input.grantTokenHash
        { identityId, purpose := .initialSetup, expiresAt := input.grantExpiresAt
          createdAt := input.now } = some grants ∧
      store' = { store with
        employees, loginIdentities := identities, passwordSetupGrants := grants } := by
  unfold onboard at h
  cases refused with
  | some message => cases h
  | none =>
    dsimp only at h
    split_ifs at h with htaken
    obtain ⟨employees, hemployees, h⟩ := bind_ok.mp h
    obtain ⟨identities, hidentities, h⟩ := bind_ok.mp h
    obtain ⟨store₁, hgrant, h⟩ := bind_ok.mp h
    obtain ⟨grants, hgrants, rfl⟩ := createGrant_ok.mp hgrant
    cases h
    exact ⟨employees, identities, grants, createOrThrow_eq_ok.mp hemployees,
      createOrThrow_eq_ok.mp hidentities, hgrants, rfl⟩

lemma resetPassword_ok {input : ResetPasswordInput} {account : Option (String × String)}
    (h : store.resetPassword input = .ok (account, store')) :
    (account = none ∧ store' = store) ∨
      ∃ identityId grants,
        (store.revokePasswordSetup identityId input.now).passwordSetupGrants.create
          input.grantTokenHash
          { identityId, purpose := .passwordReset, expiresAt := input.grantExpiresAt
            createdAt := input.now } = some grants ∧
        (∃ identity, store.loginIdentities.lookup identityId = some identity) ∧
        store' = { (store.revokeBrowserSessions identityId input.now).revokePasswordSetup
          identityId input.now with passwordSetupGrants := grants } := by
  unfold resetPassword at h
  rcases hfound : (store.loginIdentities.findMany fun _ identity =>
      identity.employeeId = input.employeeId && !identity.disabled).take 2 with
    _ | ⟨⟨identityId, identity⟩, _ | ⟨other, rest⟩⟩
  · rw [hfound] at h
    cases h
    exact .inl ⟨rfl, rfl⟩
  · rw [hfound] at h
    obtain ⟨store₁, hgrant, h⟩ := bind_ok.mp h
    obtain ⟨grants, hgrants, rfl⟩ := createGrant_ok.mp hgrant
    cases h
    have hmem : (identityId, identity) ∈ store.loginIdentities.findMany fun _ identity =>
        identity.employeeId = input.employeeId && !identity.disabled :=
      List.mem_of_mem_take (hfound ▸ List.mem_cons_self)
    exact .inr ⟨identityId, grants, hgrants, ⟨identity, (Table.mem_findMany.mp hmem).1⟩, rfl⟩
  · rw [hfound] at h
    cases h

/-! ### Device authorizations -/

lemma createDeviceAuthorization_ok {input : DeviceAuthorizationInput}
    (h : store.createDeviceAuthorization input = .ok store') :
    ∃ devices, (store.deviceAuthorizations.updateMany
        (fun _ record => record.clientId = input.clientId &&
          record.instanceName = input.instanceName &&
          record.instanceHostname = input.instanceHostname && record.status = .pending)
        fun record => { record with status := .revoked, revokedAt := some input.now }).create
          input.deviceCodeHash
          { clientId := input.clientId, userCodeHash := input.userCodeHash
            instanceName := input.instanceName, instanceHostname := input.instanceHostname
            expiresAt := input.expiresAt, createdAt := input.now } = some devices ∧
      store' = { store with deviceAuthorizations := devices } := by
  unfold createDeviceAuthorization at h
  dsimp only at h
  split_ifs at h with htaken
  obtain ⟨devices, hdevices, h⟩ := bind_ok.mp h
  cases h
  exact ⟨devices, createOrThrow_eq_ok.mp hdevices, rfl⟩

/-- The device authorization under a user code. -/
def deviceOfUserCode (store : AuthStore) (userCodeHash : String) : Option String :=
  (store.deviceAuthorizations.findMany fun _ record =>
    record.userCodeHash = userCodeHash).head?.map (·.1)

lemma completeDeviceAuthorization_cases (store : AuthStore) (userCodeHash : String)
    (owner : LoginOwner) (now : ℕ) :
    store.completeDeviceAuthorization userCodeHash owner now = (false, store) ∨
      ∃ deviceCodeHash record, store.deviceOfUserCode userCodeHash = some deviceCodeHash ∧
        store.deviceAuthorizations.lookup deviceCodeHash = some record ∧
        record.status = .pending ∧
        store.completeDeviceAuthorization userCodeHash owner now = (true, { store with
          deviceAuthorizations := store.deviceAuthorizations.updateMany
            (fun hash record => hash = deviceCodeHash && record.status = .pending &&
              now < record.expiresAt)
            fun record =>
              { record with
                status := .completed, owner := some owner, completedAt := some now } }) := by
  unfold completeDeviceAuthorization
  rcases hfound : (store.deviceAuthorizations.findMany fun _ record =>
      record.userCodeHash = userCodeHash).head? with _ | ⟨deviceCodeHash, record⟩
  · exact .inl rfl
  · dsimp only
    split_ifs with hpending howner hcount
    · exact .inl rfl
    · exact .inl rfl
    · exact .inl rfl
    · have hmem := List.mem_of_mem_head? (hfound ▸ rfl :
        (deviceCodeHash, record) ∈ (store.deviceAuthorizations.findMany fun _ record =>
          record.userCodeHash = userCodeHash).head?)
      rw [not_or, not_not] at hpending
      have hdevice : store.deviceOfUserCode userCodeHash = some deviceCodeHash := by
        rw [deviceOfUserCode, hfound]
        rfl
      exact .inr ⟨deviceCodeHash, record, hdevice, (Table.mem_findMany.mp hmem).1, hpending.1,
        rfl⟩

lemma redeemDeviceAuthorization_cases (store : AuthStore) (deviceCodeHash clientId : String)
    (now : ℕ) :
    (∃ redemption, store.redeemDeviceAuthorization deviceCodeHash clientId now =
        (redemption, store) ∧ ∀ owner, redemption ≠ .redeemed owner) ∨
      store.redeemDeviceAuthorization deviceCodeHash clientId now = (.expired, { store with
          deviceAuthorizations := store.deviceAuthorizations.updateMany
            (fun hash record => hash = deviceCodeHash && record.status = .pending)
            fun record => { record with status := .expired } }) ∨
      ∃ record owner, store.deviceAuthorizations.lookup deviceCodeHash = some record ∧
        record.status = .completed ∧ record.owner = some owner ∧
        store.redeemDeviceAuthorization deviceCodeHash clientId now = (.redeemed owner, { store with
          deviceAuthorizations := store.deviceAuthorizations.updateMany
            (fun hash record => hash = deviceCodeHash && record.status = .completed &&
              record.redeemedAt.isNone && now < record.expiresAt)
            fun record => { record with redeemedAt := some now } }) := by
  unfold redeemDeviceAuthorization
  cases hfound : (store.deviceAuthorizations.lookup deviceCodeHash).filter
      (·.clientId = clientId) with
  | none => exact .inl ⟨.invalid, rfl, by simp⟩
  | some record =>
    have hlookup : store.deviceAuthorizations.lookup deviceCodeHash = some record :=
      (Option.filter_eq_some_iff.mp hfound).1
    dsimp only
    cases hstatus : record.status with
    | pending =>
      dsimp only
      split_ifs with hexpired
      · exact .inr (.inl rfl)
      · exact .inl ⟨.authorizationPending, rfl, by simp⟩
    | completed =>
      dsimp only
      by_cases hexpired : record.expiresAt ≤ now
      · rw [if_pos hexpired]
        exact .inl ⟨.expired, rfl, by simp⟩
      · rw [if_neg hexpired]
        cases howner : record.owner with
        | none => exact .inl ⟨.invalid, rfl, by simp⟩
        | some owner =>
          dsimp only
          split_ifs with hused
          · exact .inl ⟨.invalid, rfl, by simp⟩
          · exact .inr (.inr ⟨record, owner, hlookup, hstatus, howner, rfl⟩)
    | expired => exact .inl ⟨.invalid, rfl, by simp⟩
    | revoked => exact .inl ⟨.invalid, rfl, by simp⟩

/-! ### Sessions -/

lemma createCredential_ok {credentialHash : String} {credential : DurableCredential}
    (h : store.createCredential credentialHash credential = .ok store') :
    ∃ credentials, store.durableCredentials.create credentialHash credential = some credentials ∧
      store' = { store with durableCredentials := credentials } := by
  unfold createCredential at h
  split_ifs at h
  obtain ⟨credentials, hcredentials, h⟩ := bind_ok.mp h
  cases h
  exact ⟨credentials, createOrThrow_eq_ok.mp hcredentials, rfl⟩

lemma createAccessToken_ok {tokenHash : String} {token : OAuthAccessToken}
    (h : store.createAccessToken tokenHash token = .ok store') :
    ∃ tokens, store.oAuthAccessTokens.create tokenHash token = some tokens ∧
      store' = { store with oAuthAccessTokens := tokens } := by
  obtain ⟨tokens, htokens, h⟩ := bind_ok.mp h
  cases h
  exact ⟨tokens, createOrThrow_eq_ok.mp htokens, rfl⟩

lemma createSessionBundle_ok {input : SessionBundleInput} {sessionId : String}
    (h : store.createSessionBundle input sessionId = .ok store') :
    ∃ sessions credentials tokens,
      store.authSessions.create sessionId
        { owner := input.owner, absoluteExpiresAt := input.absoluteExpiresAt
          createdAt := input.now } = some sessions ∧
      store.durableCredentials.create input.credentialHash
        { sessionId, generation := 1, createdAt := input.now } = some credentials ∧
      store.oAuthAccessTokens.create input.accessTokenHash
        { sessionId, owner := input.owner, expiresAt := input.accessTokenExpiresAt
          createdAt := input.now } = some tokens ∧
      store.ownerActive input.owner = true ∧
      store' = { store with
        authSessions := sessions, durableCredentials := credentials
        oAuthAccessTokens := tokens } := by
  unfold createSessionBundle at h
  split_ifs at h with hactive
  obtain ⟨sessions, hsessions, h⟩ := bind_ok.mp h
  obtain ⟨store₁, hcredential, h⟩ := bind_ok.mp h
  obtain ⟨credentials, hcredentials, rfl⟩ := createCredential_ok hcredential
  obtain ⟨tokens, htokens, rfl⟩ := createAccessToken_ok h
  exact ⟨sessions, credentials, tokens, createOrThrow_eq_ok.mp hsessions, hcredentials, htokens,
    by simpa using hactive, rfl⟩

/-- A rotation is refused and leaves the store, ends the family of the credential, or replaces
the credential, which was the active one of an active session. -/
lemma rotateDurableCredential_ok {input : RotateCredentialInput} {result : RotateCredentialResult}
    (h : store.rotateDurableCredential input = .ok (result, store')) :
    (result = .invalid ∧ store' = store) ∨
      (∃ credential reason,
        store.durableCredentials.lookup input.presentedCredentialHash = some credential ∧
        (result = .replayed credential.sessionId ∨ result = .invalid) ∧
        store' = store.revokeSessionFamily credential.sessionId reason input.now) ∨
      ∃ credential session credentials tokens,
        store.durableCredentials.lookup input.presentedCredentialHash = some credential ∧
        credential.status = .active ∧
        store.authSessions.lookup credential.sessionId = some session ∧
        session.status = .active ∧ input.now < session.absoluteExpiresAt ∧
        (store.durableCredentials.updateMany
          (fun hash other => hash = input.presentedCredentialHash && other.status = .active)
          fun other =>
            { other with status := .consumed, consumedAt := some input.now }).create
          input.replacementCredentialHash
          { sessionId := credential.sessionId, generation := credential.generation + 1
            createdAt := input.now } = some credentials ∧
        store.oAuthAccessTokens.create input.accessTokenHash
          { sessionId := credential.sessionId, owner := session.owner
            expiresAt := input.accessTokenExpiresAt, createdAt := input.now } = some tokens ∧
        result = .rotated credential.sessionId session.owner ∧
        store' = { store with
          durableCredentials := credentials, oAuthAccessTokens := tokens } := by
  unfold rotateDurableCredential at h
  cases hcredential : store.durableCredentials.lookup input.presentedCredentialHash with
  | none =>
    rw [hcredential] at h
    cases h
    exact .inl ⟨rfl, rfl⟩
  | some credential =>
    cases hsession : store.authSessions.lookup credential.sessionId with
    | none =>
      rw [hcredential] at h
      simp only [hsession] at h
      cases h
      exact .inl ⟨rfl, rfl⟩
    | some session =>
      rw [hcredential] at h
      simp only [hsession] at h
      split_ifs at h with hreplay hended hexpired hcount
      · cases h
        exact .inr (.inl ⟨credential, _, rfl, .inl rfl, rfl⟩)
      · cases h
        exact .inl ⟨rfl, rfl⟩
      · cases h
        exact .inr (.inl ⟨credential, _, rfl, .inr rfl, rfl⟩)
      · cases h
        exact .inr (.inl ⟨credential, _, rfl, .inl rfl, rfl⟩)
      · obtain ⟨store₁, hreplace, h⟩ := bind_ok.mp h
        cases h
        obtain ⟨store₂, hnext, htoken⟩ := bind_ok.mp hreplace
        obtain ⟨credentials, hcredentials, rfl⟩ := createCredential_ok hnext
        obtain ⟨tokens, htokens, rfl⟩ := createAccessToken_ok htoken
        exact .inr (.inr ⟨credential, session, credentials, tokens, rfl, not_not.mp hreplay,
          hsession, not_not.mp hended, not_le.mp hexpired, hcredentials, htokens, rfl, rfl⟩)

/-! ### Browser sessions -/

lemma createBrowserSession_ok {hashOpaqueSecret : String → String} {input : BrowserSessionInput}
    {created : Bool}
    (h : store.createBrowserSession hashOpaqueSecret input = .ok (created, store')) :
    (created = false ∧ store' = store) ∨
      ∃ identity password browsers,
        store.loginIdentities.lookup input.owner.identityId = some identity ∧
        identity.password = some password ∧
        hashOpaqueSecret password = input.credentialFingerprint ∧
        store.browserSessions.create input.secretHash
          { owner := input.owner, credentialFingerprint := input.credentialFingerprint
            expiresAt := input.expiresAt, createdAt := input.now } = some browsers ∧
        created = true ∧ store' = { store with browserSessions := browsers } := by
  unfold createBrowserSession at h
  split_ifs at h with hpassword
  · obtain ⟨browsers, hbrowsers, h⟩ := bind_ok.mp h
    cases h
    rw [Bool.and_eq_true, Option.any_eq_true] at hpassword
    obtain ⟨-, password, hpassword, hfingerprint⟩ := hpassword
    obtain ⟨identity, hidentity, hpassword⟩ := Option.bind_eq_some_iff.mp hpassword
    exact .inr ⟨identity, password, browsers, hidentity, hpassword,
      of_decide_eq_true hfingerprint, createOrThrow_eq_ok.mp hbrowsers, rfl, rfl⟩
  · cases h
    exact .inl ⟨rfl, rfl⟩

/-! ### Tables that are left alone -/

/-- The store with nothing in some tables. -/
def outside (store : AuthStore) (tables : List AuthTables) : AuthStore where
  loginIdentities := if .identities ∈ tables then ∅ else store.loginIdentities
  passwordSetupGrants := if .setups ∈ tables then ∅ else store.passwordSetupGrants
  passwordSetupSessions := if .setups ∈ tables then ∅ else store.passwordSetupSessions
  deviceAuthorizations := if .devices ∈ tables then ∅ else store.deviceAuthorizations
  authSessions := if .families ∈ tables then ∅ else store.authSessions
  durableCredentials := if .families ∈ tables then ∅ else store.durableCredentials
  oAuthAccessTokens := if .families ∈ tables then ∅ else store.oAuthAccessTokens
  browserSessions := if .browsers ∈ tables then ∅ else store.browserSessions

/-- A request that answers leaves the tables alone that it does not write, and only a rotation is
answered as one. -/
lemma transact_outside {hashOpaqueSecret : String → String} {request : AuthRequest}
    {answer : AuthAnswer} (h : store.transact hashOpaqueSecret request = .ok (answer, store')) :
    store'.outside request.writes = store.outside request.writes ∧
      answer.isRotation = request.isRotate := by
  cases request with
  | recordFailure | resetFailures | readToken | endElapsed | revokeBrowser =>
    cases h
    exact ⟨rfl, rfl⟩
  | replaceGrant input =>
    obtain ⟨store₁, hstore, h⟩ := bind_ok.mp h
    cases h
    obtain ⟨grants, -, -, rfl⟩ := replacePasswordSetupGrant_ok hstore
    exact ⟨rfl, rfl⟩
  | exchangeGrant input =>
    obtain ⟨⟨setup, store₁⟩, hstore, h⟩ := bind_ok.mp h
    cases h
    rcases exchangePasswordSetupGrant_ok hstore with
      ⟨-, rfl⟩ | ⟨grant, sessions, -, -, -, -, -, rfl⟩
    all_goals exact ⟨rfl, rfl⟩
  | consumeSetup input =>
    obtain ⟨⟨accepted, store₁⟩, hstore, h⟩ := bind_ok.mp h
    cases h
    rcases consumePasswordSetupSession_ok hstore with
      ⟨-, rfl⟩ | ⟨setup, identity, -, -, -, -, -, rfl⟩
    · exact ⟨rfl, rfl⟩
    · obtain ⟨-, -, -, -, hdevices, -⟩ := revokeActiveFamilies_eq
        (store.passwordSet setup.identityId input) setup.identityId "password_reset" input.now
      refine ⟨?_, rfl⟩
      simp only [outside, hdevices]
      rfl
  | onboard input employeeId identityId refused =>
    obtain ⟨⟨ids, store₁⟩, hstore, h⟩ := bind_ok.mp h
    cases h
    obtain ⟨employees, identities, grants, -, -, -, rfl⟩ := onboard_ok hstore
    exact ⟨rfl, rfl⟩
  | resetPassword input =>
    obtain ⟨⟨account, store₁⟩, hstore, h⟩ := bind_ok.mp h
    cases h
    rcases resetPassword_ok hstore with ⟨-, rfl⟩ | ⟨identityId, grants, -, -, rfl⟩
    all_goals exact ⟨rfl, rfl⟩
  | createDevice input =>
    obtain ⟨store₁, hstore, h⟩ := bind_ok.mp h
    cases h
    obtain ⟨devices, -, rfl⟩ := createDeviceAuthorization_ok hstore
    exact ⟨rfl, rfl⟩
  | completeDevice userCodeHash owner now =>
    rcases completeDeviceAuthorization_cases store userCodeHash owner now with
      heq | ⟨deviceCodeHash, record, -, -, -, heq⟩
    all_goals
      simp only [transact, heq] at h
      cases h
      exact ⟨rfl, rfl⟩
  | redeemDevice deviceCodeHash clientId now =>
    rcases redeemDeviceAuthorization_cases store deviceCodeHash clientId now with
      ⟨redemption, heq, -⟩ | heq | ⟨record, owner, -, -, -, heq⟩
    all_goals
      simp only [transact, heq] at h
      cases h
      exact ⟨rfl, rfl⟩
  | createSession input sessionId =>
    obtain ⟨store₁, hstore, h⟩ := bind_ok.mp h
    cases h
    obtain ⟨sessions, credentials, tokens, -, -, -, -, rfl⟩ := createSessionBundle_ok hstore
    exact ⟨rfl, rfl⟩
  | rotate input =>
    obtain ⟨⟨result, store₁⟩, hstore, h⟩ := bind_ok.mp h
    cases h
    rcases rotateDurableCredential_ok hstore with
      ⟨-, rfl⟩ | ⟨credential, reason, -, -, rfl⟩ |
        ⟨credential, session, credentials, tokens, -, -, -, -, -, -, -, -, rfl⟩
    all_goals exact ⟨rfl, rfl⟩
  | logout credentialHash reason now =>
    cases hfound : store.durableCredentials.lookup credentialHash
    all_goals
      simp only [transact, revokeSessionByDurableCredential, hfound] at h
      cases h
      exact ⟨rfl, rfl⟩
  | revokeIdentity identityId reason now =>
    cases h
    obtain ⟨hidentities, -, hgrants, hsetups, hdevices, -⟩ := revokeActiveFamilies_eq
      (store.revokeBrowserSessions identityId now) identityId reason now
    refine ⟨?_, rfl⟩
    simp only [outside, hidentities, hgrants, hsetups, hdevices]
    rfl
  | createBrowser input =>
    obtain ⟨⟨created, store₁⟩, hstore, h⟩ := bind_ok.mp h
    cases h
    rcases createBrowserSession_ok hstore with
      ⟨-, rfl⟩ | ⟨identity, password, browsers, -, -, -, -, -, rfl⟩
    all_goals exact ⟨rfl, rfl⟩

end AuthStore
end SmeDataCenter
