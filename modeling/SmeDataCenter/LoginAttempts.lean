import SmeDataCenter.AuthEffects

/-!
# Login attempts beside the store

A login reads its identity, looks at the clock, checks the password for a while, and then
records a failure or clears the counters: separate steps, between which anything may happen to
the store. A verified login completes a device authorization or is issued a browser session; a
device code is redeemed in one transaction, and its session created in another. The system has
the attempts and the redemptions under way beside the store, and a history: which attempt each
device authorization, redemption, session and browser session comes from, and how often the
password of an identity was set.
-/

namespace SmeDataCenter

/-- What the row of an identity said when the check of a password ended. -/
structure LoginCheck where
  time : ℕ
  cooldownUntil : Option ℕ
  deriving DecidableEq

/-- The check ended while a cooldown was running. -/
def LoginCheck.coolingDown (check : LoginCheck) : Bool := check.cooldownUntil.any (check.time < ·)

inductive LoginStage where
  /-- The identity is read, if there is one. -/
  | found
  /-- The password is checked; `now` is the time of the attempt. -/
  | verifying (now : ℕ)
  /-- A check whose result does not matter. -/
  | dummy
  | passed (check : LoginCheck)
  | mismatched (now : ℕ) (check : LoginCheck)
  | refused
  | accepted (check : LoginCheck)
  deriving DecidableEq

structure LoginAttempt where
  password : String
  /-- The identity as it was read. -/
  identity : Option LoginIdentityRecord
  /-- How often the password had been set by then. -/
  resetsSeen : ℕ
  stage : LoginStage := .found

/-- A device code that was redeemed, and has no session yet. -/
structure Redemption where
  owner : LoginOwner
  /-- The attempt that completed the device authorization. -/
  attempt : Option String

structure LoginSystem where
  store : AuthStore := {}
  clock : ℕ := 0
  attempts : Table String LoginAttempt := ∅
  redemptions : Table String Redemption := ∅
  /-- How often the password of an identity was set. -/
  resets : Table String ℕ := ∅
  /-- The attempt a device authorization was completed by. -/
  deviceLogins : Table String String := ∅
  /-- The attempt a session descends from. -/
  sessionLogins : Table String (Option String) := ∅
  /-- The attempt a browser session descends from. -/
  browserLogins : Table String String := ∅

/-- What the API adds to a redemption to create its session. -/
structure CreateSessionInput where
  sessionId : String
  credentialHash : String
  accessTokenHash : String
  absoluteExpiresAt : ℕ
  accessTokenExpiresAt : ℕ
  now : ℕ

inductive LoginStep where
  | tick (milliseconds : ℕ)
  /-- `verifyLogin` reads the identity of a normalized email. -/
  | begin (attempt normalizedEmail password : String)
  /-- The next step of `verifyLogin`. -/
  | advance (attempt : String)
  | completeDevice (attempt userCodeHash : String) (now : ℕ)
  | issueBrowser (attempt secretHash : String) (expiresAt now : ℕ)
  | redeem (redemption deviceCodeHash clientId : String) (now : ℕ)
  | createSession (redemption : String) (input : CreateSessionInput)
  /-- Any other transaction. -/
  | request (request : AuthRequest) (apart : request.ofLogin = false)

namespace LoginAttempt

/-- The password hash that was read; an empty text is none. -/
def password? (attempt : LoginAttempt) : Option String :=
  (attempt.identity.bind (·.passwordHash)).filter (· ≠ "")

/-- An identity that is disabled, has no password or is cooling down is not logged in. -/
def denied (identity : LoginIdentityRecord) (now : ℕ) : Bool :=
  identity.disabled || identity.employeeDisabled ||
    (identity.passwordHash.filter (· ≠ "")).isNone || identity.cooldownUntil.any (now < ·)

/-- Whom a login was accepted for. -/
def acceptedOwner (attempt : LoginAttempt) : Option LoginOwner :=
  match attempt.stage with
  | .accepted _ => attempt.identity.map (·.owner)
  | _ => none

end LoginAttempt

namespace LoginSystem

def resetsOf (s : LoginSystem) (identityId : String) : ℕ := (s.resets.lookup identityId).getD 0

/-- The identity of a setup session that a request presents. -/
def resetBy (s : LoginSystem) : AuthRequest → Option String
  | .consumeSetup input =>
    (s.store.passwordSetupSessions.lookup input.sessionHash).map (·.identityId)
  | _ => none

def moveTo (s : LoginSystem) (id : String) (stage : LoginStage) : LoginSystem :=
  { s with attempts := s.attempts.update id fun attempt => { attempt with stage } }

/-- The password of an identity was set once more. -/
def countReset (s : LoginSystem) (identityId : String) : LoginSystem :=
  { s with resets := s.resets.insert identityId (s.resetsOf identityId + 1) }

section

-- whether a password is the one that was hashed, and the hex digest of a text
variable (verifyPassword : String → String → Bool) (hashOpaqueSecret : String → String)

/-- `verifyLogin` after it has read the identity: the clock and the guards, the check of the
password, and the write that follows. -/
def advance (s : LoginSystem) (id : String) (attempt : LoginAttempt) : LoginSystem :=
  match attempt.stage, attempt.identity with
  | .found, none => s.moveTo id .dummy
  | .found, some identity =>
    s.moveTo id (if LoginAttempt.denied identity s.clock then .dummy else .verifying s.clock)
  | .dummy, _ => s.moveTo id .refused
  | .verifying now, some identity =>
    let check : LoginCheck := ⟨s.clock,
      (s.store.loginIdentities.lookup identity.owner.identityId).bind (·.cooldownUntil)⟩
    s.moveTo id (if attempt.password?.any (verifyPassword attempt.password) then .passed check
      else .mismatched now check)
  | .passed check, some identity =>
    { s with store := s.store.resetLoginFailures identity.owner.identityId }.moveTo id
      (.accepted check)
  | .mismatched now _, some identity =>
    { s with store := (s.store.recordLoginFailure identity.owner.identityId now).2 }.moveTo id
      .refused
  | _, _ => s

def step (s : LoginSystem) : LoginStep → LoginSystem
  | .tick milliseconds => { s with clock := s.clock + milliseconds }
  | .begin id normalizedEmail password =>
    if (s.attempts.lookup id).isSome then s
    else
      let identity := s.store.findLoginIdentityByEmail normalizedEmail
      let resetsSeen := identity.elim 0 fun identity => s.resetsOf identity.owner.identityId
      { s with attempts := s.attempts.insert id { password, identity, resetsSeen } }
  | .advance id => (s.attempts.lookup id).elim s (s.advance verifyPassword id)
  | .completeDevice id userCodeHash now =>
    match (s.attempts.lookup id).bind (·.acceptedOwner), s.store.deviceOfUserCode userCodeHash with
    | some owner, some deviceCodeHash =>
      let (accepted, store) := s.store.completeDeviceAuthorization userCodeHash owner now
      { s with
        store
        deviceLogins := if accepted then s.deviceLogins.insert deviceCodeHash id
          else s.deviceLogins }
    | _, _ => s
  | .issueBrowser id secretHash expiresAt now =>
    match s.attempts.lookup id with
    | none => s
    | some attempt =>
      match attempt.acceptedOwner, attempt.password? with
      | some owner, some passwordHash =>
        match s.store.createBrowserSession hashOpaqueSecret
          { owner, credentialFingerprint := hashOpaqueSecret passwordHash, secretHash, expiresAt
            now } with
        | .ok (created, store) =>
          { s with
            store
            browserLogins := if created then s.browserLogins.insert secretHash id
              else s.browserLogins }
        | .error _ => s
      | _, _ => s
  | .redeem id deviceCodeHash clientId now =>
    if (s.redemptions.lookup id).isSome then s
    else match s.store.redeemDeviceAuthorization deviceCodeHash clientId now with
    | (.redeemed owner, store) =>
      let attempt := s.deviceLogins.lookup deviceCodeHash
      { s with store, redemptions := s.redemptions.insert id { owner, attempt } }
    | (_, store) => { s with store }
  | .createSession id input =>
    match s.redemptions.lookup id with
    | none => s
    | some redemption =>
      match s.store.createSessionBundle
        { owner := redemption.owner, credentialHash := input.credentialHash
          accessTokenHash := input.accessTokenHash, absoluteExpiresAt := input.absoluteExpiresAt
          accessTokenExpiresAt := input.accessTokenExpiresAt, now := input.now }
        input.sessionId with
      | .ok store =>
        { s with
          store
          sessionLogins := s.sessionLogins.insert input.sessionId redemption.attempt
          redemptions := s.redemptions.deleteMany fun other _ => other = id }
      | .error _ => s
  | .request request _ =>
    match s.store.transact hashOpaqueSecret request with
    | .ok (answer, store) =>
      if answer = .consumed true then
        (s.resetBy request).elim { s with store } { s with store }.countReset
      else { s with store }
    | .error _ => s

/-- The system after some steps. -/
def after (s : LoginSystem) (steps : List LoginStep) : LoginSystem :=
  Runs.run (step verifyPassword hashOpaqueSecret) s steps

end

end LoginSystem

/-! ### What other transactions do to identities -/

open Fallible (bind_ok)

/-- A transaction apart from the logins leaves the row of an identity, or creates it, or sets
its password. -/
inductive IdentityMove (store store' : AuthStore) (answer : AuthAnswer) (id : String) : Prop where
  | same (h : store'.loginIdentities.lookup id = store.loginIdentities.lookup id) :
      IdentityMove store store' answer id
  | onboarded {row : LoginIdentity} (hfresh : store.loginIdentities.lookup id = none)
      (hnew : store'.loginIdentities.lookup id = some row) (hpassword : row.passwordHash = none)
      (hcooldown : row.cooldownUntil = none) : IdentityMove store store' answer id
  | reset {row : LoginIdentity} {passwordHash : String} (haccepted : answer = .consumed true)
      (hrow : store.loginIdentities.lookup id = some row)
      (hnew : store'.loginIdentities.lookup id =
        some { row.withoutFailures with passwordHash := some passwordHash }) :
      IdentityMove store store' answer id

section

variable {hashOpaqueSecret : String → String} {store store' : AuthStore}

lemma identities_consumed {input : ConsumeSetupInput} {accepted : Bool}
    (h : store.consumePasswordSetupSession input = .ok (accepted, store')) :
    (accepted = false ∧ store' = store) ∨
      ∃ setup row, store.passwordSetupSessions.lookup input.sessionHash = some setup ∧
        accepted = true ∧ store.loginIdentities.lookup setup.identityId = some row ∧
        ∀ id, store'.loginIdentities.lookup id =
          if id = setup.identityId then
            some { row.withoutFailures with passwordHash := some input.passwordHash }
          else store.loginIdentities.lookup id := by
  rcases AuthStore.consumePasswordSetupSession_ok h with
    ⟨rfl, rfl⟩ | ⟨setup, row, hsetup, -, -, hrow, rfl, heq⟩
  · exact .inl ⟨rfl, rfl⟩
  · refine .inr ⟨setup, row, hsetup, rfl, hrow, fun id => ?_⟩
    rw [heq, (AuthStore.revokeActiveFamilies_eq ..).1]
    simp only [AuthStore.passwordSet, AuthStore.revokeBrowserSessions, Table.lookup_update, hrow,
      Option.map_some]

/-- **What a transaction apart from the logins does to an identity.** -/
lemma identityMove_of_transact {request : AuthRequest} {answer : AuthAnswer}
    (hapart : request.ofLogin = false)
    (h : store.transact hashOpaqueSecret request = .ok (answer, store')) (id : String) :
    IdentityMove store store' answer id := by
  obtain ⟨houtside, -⟩ := AuthStore.transact_outside h
  cases request with
  | recordFailure | resetFailures | completeDevice | redeemDevice | createSession
  | createBrowser => cases hapart
  | consumeSetup input =>
    obtain ⟨⟨accepted, store₁⟩, hstore, h⟩ := bind_ok.mp h
    cases h
    rcases identities_consumed hstore with ⟨-, rfl⟩ | ⟨setup, row, -, rfl, hrow, hlookup⟩
    · exact .same rfl
    · by_cases hid : id = setup.identityId
      · subst hid
        exact .reset rfl hrow ((hlookup setup.identityId).trans (if_pos rfl))
      · exact .same ((hlookup id).trans (if_neg hid))
  | onboard input employeeId identityId refused =>
    obtain ⟨⟨ids, store₁⟩, hstore, h⟩ := bind_ok.mp h
    cases h
    obtain ⟨employees, identities, grants, -, hidentities, -, rfl⟩ := AuthStore.onboard_ok hstore
    have hlookup := Table.lookup_create hidentities id
    by_cases hid : id = identityId
    · rw [if_pos hid] at hlookup
      exact .onboarded (hid ▸ Table.create_fresh hidentities) hlookup rfl rfl
    · rw [if_neg hid] at hlookup
      exact .same hlookup
  | _ => exact .same (congrArg (·.loginIdentities.lookup id) houtside)

end

namespace LoginSystem

/-! ### What the steps do beside the attempts -/

variable (verifyPassword : String → String → Bool) (hashOpaqueSecret : String → String)

lemma completeDevice_cases (s : LoginSystem) (id userCodeHash : String) (now : ℕ) :
    s.step verifyPassword hashOpaqueSecret (.completeDevice id userCodeHash now) = s ∨
      ∃ attempt owner deviceCodeHash record, s.attempts.lookup id = some attempt ∧
        attempt.acceptedOwner = some owner ∧
        s.store.deviceAuthorizations.lookup deviceCodeHash = some record ∧
        record.status = .pending ∧
        s.step verifyPassword hashOpaqueSecret (.completeDevice id userCodeHash now) =
          { s with
            store := { s.store with
              deviceAuthorizations := s.store.deviceAuthorizations.updateMany
                (fun hash record => hash = deviceCodeHash && record.status = .pending &&
                  now < record.expiresAt)
                fun record =>
                  { record with
                    status := .completed, owner := some owner, completedAt := some now } }
            deviceLogins := s.deviceLogins.insert deviceCodeHash id } := by
  unfold step
  dsimp only
  rcases howner : (s.attempts.lookup id).bind (·.acceptedOwner) with _ | owner
  · exact .inl rfl
  · obtain ⟨attempt, hattempt, howner⟩ := Option.bind_eq_some_iff.mp howner
    rcases hdevice : s.store.deviceOfUserCode userCodeHash with _ | deviceCodeHash
    · exact .inl rfl
    · rcases s.store.completeDeviceAuthorization_cases userCodeHash owner now with
        heq | ⟨device, record, hsame, hrecord, hpending, heq⟩
      · refine .inl ?_
        dsimp only
        rw [heq]
        rfl
      · obtain rfl := Option.some.inj (hdevice.symm.trans hsame)
        refine .inr ⟨attempt, owner, deviceCodeHash, record, hattempt, howner, hrecord, hpending, ?_⟩
        dsimp only
        rw [heq]
        rfl

lemma issueBrowser_cases (s : LoginSystem) (id secretHash : String) (expiresAt now : ℕ) :
    s.step verifyPassword hashOpaqueSecret (.issueBrowser id secretHash expiresAt now) = s ∨
      ∃ attempt owner passwordHash row password browsers,
        s.attempts.lookup id = some attempt ∧ attempt.acceptedOwner = some owner ∧
        attempt.password? = some passwordHash ∧
        s.store.loginIdentities.lookup owner.identityId = some row ∧
        row.password = some password ∧
        hashOpaqueSecret password = hashOpaqueSecret passwordHash ∧
        s.store.browserSessions.create secretHash
          { owner, credentialFingerprint := hashOpaqueSecret passwordHash, expiresAt
            createdAt := now } = some browsers ∧
        s.step verifyPassword hashOpaqueSecret (.issueBrowser id secretHash expiresAt now) =
          { s with
            store := { s.store with browserSessions := browsers }
            browserLogins := s.browserLogins.insert secretHash id } := by
  unfold step
  dsimp only
  rcases hattempt : s.attempts.lookup id with _ | attempt
  · exact .inl rfl
  · dsimp only
    rcases howner : attempt.acceptedOwner with _ | owner
    · exact .inl rfl
    · rcases hpassword : attempt.password? with _ | passwordHash
      · exact .inl rfl
      · dsimp only
        rcases hcreate : s.store.createBrowserSession hashOpaqueSecret
          { owner, credentialFingerprint := hashOpaqueSecret passwordHash, secretHash, expiresAt
            now } with error | ⟨created, store⟩
        · exact .inl rfl
        · rcases AuthStore.createBrowserSession_ok hcreate with
            ⟨rfl, rfl⟩ | ⟨row, password, browsers, hrow, hset, hsame, hbrowsers, rfl, rfl⟩
          · exact .inl rfl
          · exact .inr ⟨attempt, owner, passwordHash, row, password, browsers, rfl, howner,
              hpassword, hrow, hset, hsame, hbrowsers, rfl⟩

lemma redeem_cases (s : LoginSystem) (id deviceCodeHash clientId : String) (now : ℕ) :
    (∃ devices, s.step verifyPassword hashOpaqueSecret (.redeem id deviceCodeHash clientId now) =
        { s with store := { s.store with deviceAuthorizations := devices } } ∧
      ∀ hash record, devices.lookup hash = some record → record.status = .completed →
        s.store.deviceAuthorizations.lookup hash = some record) ∨
      ∃ record owner, s.redemptions.lookup id = none ∧
        s.store.deviceAuthorizations.lookup deviceCodeHash = some record ∧
        record.status = .completed ∧ record.owner = some owner ∧
        s.step verifyPassword hashOpaqueSecret (.redeem id deviceCodeHash clientId now) =
          { s with
            store := { s.store with
              deviceAuthorizations := s.store.deviceAuthorizations.updateMany
                (fun hash record => hash = deviceCodeHash && record.status = .completed &&
                  record.redeemedAt.isNone && now < record.expiresAt)
                fun record => { record with redeemedAt := some now } }
            redemptions := s.redemptions.insert id
              { owner, attempt := s.deviceLogins.lookup deviceCodeHash } } := by
  unfold step
  dsimp only
  by_cases hused : (s.redemptions.lookup id).isSome = true
  · rw [if_pos hused]
    exact .inl ⟨s.store.deviceAuthorizations, rfl, fun _ _ h _ => h⟩
  · rw [if_neg hused]
    rcases s.store.redeemDeviceAuthorization_cases deviceCodeHash clientId now with
      ⟨redemption, heq, hnot⟩ | heq | ⟨record, owner, hrecord, hstatus, howner, heq⟩
    · refine .inl ⟨s.store.deviceAuthorizations, ?_, fun _ _ h _ => h⟩
      rw [heq]
      cases redemption with
      | redeemed owner => exact absurd rfl (hnot owner)
      | _ => rfl
    · refine .inl ⟨_, by rw [heq], fun hash record hrecord hcompleted => ?_⟩
      rw [Table.lookup_updateMany, Option.map_eq_some_iff] at hrecord
      obtain ⟨old, hold, hsame⟩ := hrecord
      split_ifs at hsame
      · rw [← hsame] at hcompleted
        cases hcompleted
      · rw [← hsame]
        exact hold
    · refine .inr ⟨record, owner, by simpa using hused, hrecord, hstatus, howner, ?_⟩
      rw [heq]

lemma createSession_cases (s : LoginSystem) (id : String) (input : CreateSessionInput) :
    s.step verifyPassword hashOpaqueSecret (.createSession id input) = s ∨
      ∃ redemption sessions credentials tokens, s.redemptions.lookup id = some redemption ∧
        s.store.ownerActive redemption.owner = true ∧
        s.store.authSessions.create input.sessionId
          { owner := redemption.owner, absoluteExpiresAt := input.absoluteExpiresAt
            createdAt := input.now } = some sessions ∧
        s.store.oAuthAccessTokens.create input.accessTokenHash
          { sessionId := input.sessionId, owner := redemption.owner
            expiresAt := input.accessTokenExpiresAt, createdAt := input.now } = some tokens ∧
        s.step verifyPassword hashOpaqueSecret (.createSession id input) =
          { s with
            store := { s.store with
              authSessions := sessions, durableCredentials := credentials
              oAuthAccessTokens := tokens }
            sessionLogins := s.sessionLogins.insert input.sessionId redemption.attempt
            redemptions := s.redemptions.deleteMany fun other _ => other = id } := by
  unfold step
  dsimp only
  rcases hredemption : s.redemptions.lookup id with _ | redemption
  · exact .inl rfl
  · dsimp only
    rcases hcreate : s.store.createSessionBundle
      { owner := redemption.owner, credentialHash := input.credentialHash
        accessTokenHash := input.accessTokenHash, absoluteExpiresAt := input.absoluteExpiresAt
        accessTokenExpiresAt := input.accessTokenExpiresAt, now := input.now }
      input.sessionId with error | store
    · exact .inl rfl
    · obtain ⟨sessions, credentials, tokens, hsessions, -, htokens, hactive, rfl⟩ :=
        AuthStore.createSessionBundle_ok hcreate
      exact .inr ⟨redemption, sessions, credentials, tokens, rfl, hactive, hsessions, htokens,
        rfl⟩

lemma request_cases (s : LoginSystem) (request : AuthRequest) (apart : request.ofLogin = false) :
    s.step verifyPassword hashOpaqueSecret (.request request apart) = s ∨
      ∃ answer store, s.store.transact hashOpaqueSecret request = .ok (answer, store) ∧
        s.step verifyPassword hashOpaqueSecret (.request request apart) =
          if answer = .consumed true then
            (s.resetBy request).elim { s with store } { s with store }.countReset
          else { s with store } := by
  unfold step
  dsimp only
  rcases h : s.store.transact hashOpaqueSecret request with error | ⟨answer, store⟩
  · exact .inl rfl
  · exact .inr ⟨answer, store, rfl, rfl⟩

/-! ### An account and a login -/

/-- An account is created and its password set. -/
def accountSteps (password : String) : List LoginStep :=
  [.request (.onboard ⟨"org", "ann@example.com", "Ann", .employee, 1, "grant", 100, 0⟩ "employee"
      "identity" none) rfl,
    .request (.exchangeGrant ⟨"grant", "setup", 50, 1⟩) rfl,
    .request (.consumeSetup ⟨"setup", password, 2⟩) rfl]

/-- A login with a password, from its beginning to its answer. -/
def loginSteps (id password : String) : List LoginStep :=
  [.begin id "ann@example.com" password, .advance id, .advance id, .advance id]

end LoginSystem
end SmeDataCenter
