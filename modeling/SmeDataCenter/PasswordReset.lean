import SmeDataCenter.LoginAttempts
import SmeDataCenter.SessionFamilies

/-!
# What a password reset ends

When a setup session sets the password of an identity, its browser sessions and its families of
sessions are revoked. A browser session is only issued while the password that was verified is
still the password, so none from before comes later. A device authorization that was completed
is not revoked, and a redemption is not asked how old its login is: so a session may be created
from a login before the reset. Where none is, everything that is accepted descends from a login
with the password as it is.
-/

namespace SmeDataCenter
namespace LoginSystem

open Fallible (bind_ok)

variable {verifyPassword : String → String → Bool} {hashOpaqueSecret : String → String}

/-! ### Descent -/

variable (verifyPassword) in
/-- An attempt was accepted for an owner, with the password that it has since it was last set:
the attempt read the identity after that. -/
def CurrentLogin (s : LoginSystem) (id : String) (owner : LoginOwner) : Prop :=
  ∃ attempt identity row passwordHash, s.attempts.lookup id = some attempt ∧
    attempt.acceptedOwner = some owner ∧ attempt.identity = some identity ∧
    identity.owner = owner ∧ attempt.resetsSeen = s.resetsOf owner.identityId ∧
    s.store.loginIdentities.lookup owner.identityId = some row ∧
    row.passwordHash = some passwordHash ∧ identity.passwordHash = some passwordHash ∧
    verifyPassword attempt.password passwordHash = true

variable (verifyPassword hashOpaqueSecret) in
/-- Whatever is accepted descends from a login since the password was last set. -/
def DescendsFromLogins (s : LoginSystem) : Prop :=
  (∀ hash token record now, s.store.oAuthAccessTokens.lookup hash = some token →
      s.store.readAccessToken hash now = .accepted record → ∃ id,
        s.sessionLogins.lookup token.sessionId = some (some id) ∧
          s.CurrentLogin verifyPassword id record.owner) ∧
    (∀ input sessionId owner store,
      s.store.rotateDurableCredential input = .ok (.rotated sessionId owner, store) → ∃ id,
        s.sessionLogins.lookup sessionId = some (some id) ∧
          s.CurrentLogin verifyPassword id owner) ∧
    ∀ hash record now, s.store.authenticateBrowserSession hashOpaqueSecret hash now =
        some record → ∃ id,
      s.browserLogins.lookup hash = some id ∧ s.CurrentLogin verifyPassword id record.owner

/-! ### The conditions on a step -/

/-- A session is created from a redemption whose login read the identity after its password was
last set. -/
def freshSession (s : LoginSystem) (redemption : String) : Bool :=
  (s.redemptions.lookup redemption).all fun redemption =>
    !s.store.ownerActive redemption.owner ||
      (redemption.attempt.bind s.attempts.lookup).all fun attempt =>
        attempt.resetsSeen = s.resetsOf redemption.owner.identityId

variable (hashOpaqueSecret) in
/-- The salt of a password makes its hash a new one. -/
def newPassword (s : LoginSystem) (passwordHash : String) : Bool :=
  s.attempts.entries.all fun entry =>
    entry.2.password?.all fun old => hashOpaqueSecret old ≠ hashOpaqueSecret passwordHash

variable (hashOpaqueSecret) in
def resetsInTime (s : LoginSystem) : LoginStep → Bool
  | .createSession redemption _ => s.freshSession redemption
  | .request (.consumeSetup input) _ => s.newPassword hashOpaqueSecret input.passwordHash
  | _ => true

variable (hashOpaqueSecret) in
/-- No session is created from a login before the last reset, and passwords get new hashes. -/
def ResetsInTime (s : LoginSystem) (op : LoginStep) : Prop :=
  s.resetsInTime hashOpaqueSecret op = true

instance (s : LoginSystem) (op : LoginStep) : Decidable (ResetsInTime hashOpaqueSecret s op) :=
  inferInstanceAs (Decidable (_ = true))

/-! ### The invariant -/

/-- An attempt was accepted for an owner. -/
def LoggedIn (s : LoginSystem) (id : String) (owner : LoginOwner) : Prop :=
  ∃ attempt, s.attempts.lookup id = some attempt ∧ attempt.acceptedOwner = some owner

/-- It read the identity after its password was last set. -/
def Fresh (s : LoginSystem) (id : String) (owner : LoginOwner) : Prop :=
  ∃ attempt, s.attempts.lookup id = some attempt ∧ attempt.acceptedOwner = some owner ∧
    attempt.resetsSeen = s.resetsOf owner.identityId

/-- What an attempt read, against the identity as it is. -/
structure SoundRead (hashOpaqueSecret : String → String) (s : LoginSystem)
    (attempt : LoginAttempt) (identity : LoginIdentityRecord) : Prop where
  seen : attempt.resetsSeen ≤ s.resetsOf identity.owner.identityId
  row : ∃ row, s.store.loginIdentities.lookup identity.owner.identityId = some row ∧
    (attempt.resetsSeen = s.resetsOf identity.owner.identityId →
      row.passwordHash = identity.passwordHash) ∧
    (attempt.resetsSeen < s.resetsOf identity.owner.identityId →
      ∀ old new, attempt.password? = some old → row.password = some new →
        hashOpaqueSecret old ≠ hashOpaqueSecret new)

variable (verifyPassword) in
/-- The password of an attempt is right from the moment it passed its check. -/
def SoundCheck (attempt : LoginAttempt) : Prop :=
  match attempt.stage with
  | .passed _ | .accepted _ => attempt.password?.any (verifyPassword attempt.password) = true
  | _ => True

variable (verifyPassword hashOpaqueSecret) in
structure SoundDescent (s : LoginSystem) : Prop where
  reads : ∀ id attempt identity, s.attempts.lookup id = some attempt →
    attempt.identity = some identity → SoundRead hashOpaqueSecret s attempt identity
  checks : ∀ id attempt, s.attempts.lookup id = some attempt → SoundCheck verifyPassword attempt
  devices : ∀ hash record owner, s.store.deviceAuthorizations.lookup hash = some record →
    record.status = .completed → record.owner = some owner →
    ∃ id, s.deviceLogins.lookup hash = some id ∧ s.LoggedIn id owner
  redemptions : ∀ id redemption, s.redemptions.lookup id = some redemption →
    ∃ attempt, redemption.attempt = some attempt ∧ s.LoggedIn attempt redemption.owner
  sessions : ∀ id session, s.store.authSessions.lookup id = some session →
    session.status = .active →
    ∃ attempt, s.sessionLogins.lookup id = some (some attempt) ∧ s.Fresh attempt session.owner
  tokens : ∀ hash token, s.store.oAuthAccessTokens.lookup hash = some token →
    ∃ session, s.store.authSessions.lookup token.sessionId = some session ∧
      session.owner = token.owner
  browsers : ∀ hash browser, s.store.browserSessions.lookup hash = some browser →
    browser.revokedAt = none →
    ∃ attempt, s.browserLogins.lookup hash = some attempt ∧ s.Fresh attempt browser.owner

lemma soundDescent_empty : SoundDescent verifyPassword hashOpaqueSecret {} where
  reads id attempt identity h := by simp at h
  checks id attempt h := by simp at h
  devices hash record owner h := by simp at h
  redemptions id redemption h := by simp at h
  sessions id session h := by simp at h
  tokens hash token h := by simp at h
  browsers hash browser h := by simp at h

variable {attempt : LoginAttempt} {owner : LoginOwner}

lemma acceptedOwner_spec (hcheck : SoundCheck verifyPassword attempt)
    (h : attempt.acceptedOwner = some owner) :
    ∃ identity passwordHash, attempt.identity = some identity ∧ identity.owner = owner ∧
      attempt.password? = some passwordHash ∧ identity.passwordHash = some passwordHash ∧
      verifyPassword attempt.password passwordHash = true := by
  unfold LoginAttempt.acceptedOwner at h
  split at h
  · next check hstage =>
    obtain ⟨identity, hidentity, howner⟩ := Option.map_eq_some_iff.mp h
    unfold SoundCheck at hcheck
    rw [hstage] at hcheck
    obtain ⟨passwordHash, hpassword, hmatch⟩ := Option.any_eq_true _ _ |>.mp hcheck
    have hread : identity.passwordHash = some passwordHash := by
      have hfound := hpassword
      rw [LoginAttempt.password?, hidentity, Option.bind_some, Option.filter_eq_some_iff] at hfound
      exact hfound.1
    exact ⟨identity, passwordHash, hidentity, howner, hpassword, hread, hmatch⟩
  · cases h

lemma SoundDescent.current {s : LoginSystem} (hs : SoundDescent verifyPassword hashOpaqueSecret s)
    {id : String} (h : s.Fresh id owner) : s.CurrentLogin verifyPassword id owner := by
  obtain ⟨attempt, hattempt, howner, hfresh⟩ := h
  obtain ⟨identity, passwordHash, hidentity, rfl, hpassword, hread, hmatch⟩ :=
    acceptedOwner_spec (hs.checks id attempt hattempt) howner
  obtain ⟨-, row, hrow, hsame, -⟩ := hs.reads id attempt identity hattempt hidentity
  exact ⟨attempt, identity, row, passwordHash, hattempt, howner, hidentity, rfl, hfresh, hrow,
    (hsame hfresh).trans hread, hread, hmatch⟩

lemma SoundDescent.descends {s : LoginSystem}
    (hs : SoundDescent verifyPassword hashOpaqueSecret s) :
    DescendsFromLogins verifyPassword hashOpaqueSecret s := by
  refine ⟨fun hash token record now htoken haccepted => ?_,
    fun input sessionId owner store hrotated => ?_, fun hash record now haccepted => ?_⟩
  · obtain ⟨session, hsession, howner⟩ := hs.tokens hash token htoken
    unfold AuthStore.readAccessToken at haccepted
    rw [htoken] at haccepted
    dsimp only at haccepted
    rw [hsession] at haccepted
    split at haccepted
    · next found identity employee hfound hidentity hemployee =>
      obtain rfl := Option.some.inj hfound
      split_ifs at haccepted with hrefused helapsed
      have hactive : session.status = .active := by
        by_contra hended
        exact hrefused (by simp [hended])
      obtain ⟨id, hid, hfresh⟩ := hs.sessions token.sessionId session hsession hactive
      rw [howner] at hfresh
      cases haccepted
      exact ⟨id, hid, hs.current hfresh⟩
    · cases haccepted
  · rcases AuthStore.rotateDurableCredential_ok hrotated with
      ⟨heq, -⟩ | ⟨_, _, -, heq, -⟩ | ⟨old, session, _, _, -, -, hsession, hactive, -, -, -, heq, -⟩
    · cases heq
    · rcases heq with heq | heq <;> cases heq
    · cases heq
      obtain ⟨id, hid, hfresh⟩ := hs.sessions old.sessionId session hsession hactive
      exact ⟨id, hid, hs.current hfresh⟩
  · obtain ⟨hfound, hgood⟩ := Option.filter_eq_some_iff.mp haccepted
    simp only [AuthStore.findBrowserSession, Option.bind_eq_bind, Option.bind_eq_some_iff] at hfound
    obtain ⟨browser, hbrowser, identity, -, employee, -, passwordHash, -, hrecord⟩ := hfound
    split_ifs at hrecord
    cases hrecord
    have hlive : browser.revokedAt = none := by
      simp only [Bool.and_eq_true, Option.isNone_iff_eq_none] at hgood
      exact hgood.1.1.1
    obtain ⟨id, hid, hfresh⟩ := hs.browsers hash browser hbrowser hlive
    exact ⟨id, hid, hs.current hfresh⟩

/-! ### What steps keep of the logins -/

/-- The attempts of a system go on in another, and no password is set in between. -/
structure KeepsLogins (s s' : LoginSystem) : Prop where
  forth : ∀ id attempt, s.attempts.lookup id = some attempt →
    ∃ attempt', s'.attempts.lookup id = some attempt' ∧
      attempt'.resetsSeen = attempt.resetsSeen ∧
      ∀ owner, attempt.acceptedOwner = some owner → attempt'.acceptedOwner = some owner
  resets : ∀ id, s'.resetsOf id = s.resetsOf id
  rows : ∀ id row, s.store.loginIdentities.lookup id = some row →
    ∃ row', s'.store.loginIdentities.lookup id = some row' ∧ row'.passwordHash = row.passwordHash

namespace KeepsLogins

variable {s s' : LoginSystem}

lemma loggedIn (h : KeepsLogins s s') {id : String} (hlogin : s.LoggedIn id owner) :
    s'.LoggedIn id owner := by
  obtain ⟨attempt, hattempt, howner⟩ := hlogin
  obtain ⟨attempt', hattempt', -, hkeep⟩ := h.forth id attempt hattempt
  exact ⟨attempt', hattempt', hkeep owner howner⟩

lemma fresh (h : KeepsLogins s s') {id : String} (hlogin : s.Fresh id owner) :
    s'.Fresh id owner := by
  obtain ⟨attempt, hattempt, howner, hseen⟩ := hlogin
  obtain ⟨attempt', hattempt', hsame, hkeep⟩ := h.forth id attempt hattempt
  exact ⟨attempt', hattempt', hkeep owner howner, by rw [hsame, hseen, h.resets]⟩

lemma soundRead (h : KeepsLogins s s') {attempt' : LoginAttempt} {identity : LoginIdentityRecord}
    (hread : SoundRead hashOpaqueSecret s attempt identity)
    (hseen : attempt'.resetsSeen = attempt.resetsSeen)
    (hidentity : attempt'.identity = attempt.identity) :
    SoundRead hashOpaqueSecret s' attempt' identity := by
  have hpassword : attempt'.password? = attempt.password? := by
    simp only [LoginAttempt.password?, hidentity]
  refine ⟨by rw [hseen, h.resets]; exact hread.seen, ?_⟩
  obtain ⟨row, hrow, hsame, hother⟩ := hread.row
  obtain ⟨row', hrow', hkept⟩ := h.rows _ row hrow
  refine ⟨row', hrow', fun heq => ?_, fun hlt old new hold hnew => ?_⟩
  · rw [hseen, h.resets] at heq
    rw [hkept, hsame heq]
  · rw [hseen, h.resets] at hlt
    rw [hpassword] at hold
    refine hother hlt old new hold ?_
    rw [LoginIdentity.password, ← hkept]
    exact hnew

lemma of_same (ha : s'.attempts = s.attempts) (hr : s'.resets = s.resets)
    (hi : s'.store.loginIdentities = s.store.loginIdentities) : KeepsLogins s s' where
  forth id attempt h := ⟨attempt, ha ▸ h, rfl, fun _ howner => howner⟩
  resets id := by rw [resetsOf, resetsOf, hr]
  rows id row h := ⟨row, hi ▸ h, rfl⟩

end KeepsLogins

variable {s s' : LoginSystem}

lemma SoundDescent.reads_of_same (hs : SoundDescent verifyPassword hashOpaqueSecret s)
    (ha : s'.attempts = s.attempts) (hr : s'.resets = s.resets)
    (hi : s'.store.loginIdentities = s.store.loginIdentities) (id : String)
    (attempt : LoginAttempt) (identity : LoginIdentityRecord)
    (h : s'.attempts.lookup id = some attempt) (hidentity : attempt.identity = some identity) :
    SoundRead hashOpaqueSecret s' attempt identity :=
  (KeepsLogins.of_same ha hr hi).soundRead (hs.reads id attempt identity (ha ▸ h) hidentity) rfl rfl

/-! ### The steps with a login's result -/

lemma soundDescent_completeDevice (hs : SoundDescent verifyPassword hashOpaqueSecret s)
    (id userCodeHash : String) (now : ℕ) :
    SoundDescent verifyPassword hashOpaqueSecret
      (s.step verifyPassword hashOpaqueSecret (.completeDevice id userCodeHash now)) := by
  rcases completeDevice_cases verifyPassword hashOpaqueSecret s id userCodeHash now with
    heq | ⟨attempt, owner, deviceCodeHash, record, hattempt, howner, hrecord, hpending, heq⟩
  · rw [heq]
    exact hs
  · rw [heq]
    refine ⟨hs.reads_of_same (by rfl) (by rfl) (by rfl), hs.checks,
      fun hash found foundOwner hfound hcompleted hfoundOwner => ?_,
      hs.redemptions, hs.sessions, hs.tokens, hs.browsers⟩
    dsimp only at hfound ⊢
    rw [Table.lookup_updateMany] at hfound
    rw [Table.lookup_insert']
    by_cases hhash : hash = deviceCodeHash
    · subst hhash
      rw [if_pos rfl]
      rw [hrecord, Option.map_some] at hfound
      by_cases hahead : now < record.expiresAt
      · rw [if_pos (by simp [hpending, hahead])] at hfound
        obtain rfl := Option.some.inj hfound
        obtain rfl := Option.some.inj hfoundOwner
        exact ⟨id, rfl, attempt, hattempt, howner⟩
      · rw [if_neg (by simp [hahead])] at hfound
        obtain rfl := Option.some.inj hfound
        rw [hpending] at hcompleted
        cases hcompleted
    · rw [if_neg hhash]
      obtain ⟨old, hold, hsame⟩ := Option.map_eq_some_iff.mp hfound
      rw [if_neg (by simp [hhash])] at hsame
      subst hsame
      exact hs.devices hash old foundOwner hold hcompleted hfoundOwner

lemma soundDescent_issueBrowser (hs : SoundDescent verifyPassword hashOpaqueSecret s)
    (id secretHash : String) (expiresAt now : ℕ) :
    SoundDescent verifyPassword hashOpaqueSecret
      (s.step verifyPassword hashOpaqueSecret (.issueBrowser id secretHash expiresAt now)) := by
  rcases issueBrowser_cases verifyPassword hashOpaqueSecret s id secretHash expiresAt now with
    heq | ⟨attempt, owner, passwordHash, row, password, browsers, hattempt, howner, hpassword,
      hrow, hset, hsame, hbrowsers, heq⟩
  · rw [heq]
    exact hs
  · have hfresh : s.Fresh id owner := by
      refine ⟨attempt, hattempt, howner, ?_⟩
      obtain ⟨identity, _, hidentity, rfl, -⟩ :=
        acceptedOwner_spec (hs.checks id attempt hattempt) howner
      obtain ⟨hseen, found, hfound, -, hother⟩ := hs.reads id attempt identity hattempt hidentity
      obtain rfl := Option.some.inj (hrow.symm.trans hfound)
      -- a password that was set since has another fingerprint
      by_contra hne
      exact hother (lt_of_le_of_ne hseen hne) passwordHash password hpassword hset hsame.symm
    rw [heq]
    refine ⟨hs.reads_of_same (by rfl) (by rfl) (by rfl), hs.checks, hs.devices, hs.redemptions,
      hs.sessions, hs.tokens, fun hash browser hbrowser hlive => ?_⟩
    dsimp only at hbrowser ⊢
    rw [Table.lookup_create hbrowsers] at hbrowser
    rw [Table.lookup_insert']
    split_ifs at hbrowser ⊢ with hhash
    · obtain rfl := Option.some.inj hbrowser
      exact ⟨id, rfl, hfresh⟩
    · exact hs.browsers hash browser hbrowser hlive

lemma soundDescent_redeem (hs : SoundDescent verifyPassword hashOpaqueSecret s)
    (id deviceCodeHash clientId : String) (now : ℕ) :
    SoundDescent verifyPassword hashOpaqueSecret
      (s.step verifyPassword hashOpaqueSecret (.redeem id deviceCodeHash clientId now)) := by
  rcases redeem_cases verifyPassword hashOpaqueSecret s id deviceCodeHash clientId now with
    ⟨devices, heq, hkept⟩ | ⟨record, owner, hunused, hrecord, hcompleted, howner, heq⟩
  · rw [heq]
    exact ⟨hs.reads_of_same (by rfl) (by rfl) (by rfl), hs.checks,
      fun hash found foundOwner hfound hdone hfoundOwner =>
        hs.devices hash found foundOwner (hkept hash found hfound hdone) hdone hfoundOwner,
      hs.redemptions, hs.sessions, hs.tokens, hs.browsers⟩
  · rw [heq]
    refine ⟨hs.reads_of_same (by rfl) (by rfl) (by rfl), hs.checks,
      fun hash found foundOwner hfound hdone hfoundOwner => ?_,
      fun other redemption hredemption => ?_, hs.sessions, hs.tokens, hs.browsers⟩
    · dsimp only at hfound
      rw [Table.lookup_updateMany, Option.map_eq_some_iff] at hfound
      obtain ⟨old, hold, hsame⟩ := hfound
      have hstatus : old.status = found.status ∧ old.owner = found.owner := by
        rw [← hsame]
        split_ifs <;> exact ⟨rfl, rfl⟩
      exact hs.devices hash old foundOwner hold (hstatus.1.trans hdone)
        (hstatus.2.trans hfoundOwner)
    · dsimp only at hredemption
      rw [Table.lookup_insert'] at hredemption
      split_ifs at hredemption
      · obtain rfl := Option.some.inj hredemption
        exact hs.devices deviceCodeHash record owner hrecord hcompleted howner
      · exact hs.redemptions other redemption hredemption

lemma soundDescent_createSession (hs : SoundDescent verifyPassword hashOpaqueSecret s)
    (id : String) (input : CreateSessionInput) (hintime : s.freshSession id = true) :
    SoundDescent verifyPassword hashOpaqueSecret
      (s.step verifyPassword hashOpaqueSecret (.createSession id input)) := by
  rcases createSession_cases verifyPassword hashOpaqueSecret s id input with
    heq | ⟨redemption, sessions, credentials, tokens, hredemption, hactive, hsessions, htokens,
      heq⟩
  · rw [heq]
    exact hs
  · obtain ⟨login, hlogin, attempt, hattempt, howner⟩ := hs.redemptions id redemption hredemption
    have hfresh : s.Fresh login redemption.owner := by
      refine ⟨attempt, hattempt, howner, ?_⟩
      simpa [freshSession, hredemption, hactive, hlogin, hattempt] using hintime
    have hlookup := Table.lookup_create hsessions
    rw [heq]
    refine ⟨hs.reads_of_same (by rfl) (by rfl) (by rfl), hs.checks, hs.devices,
      fun other found hfound => ?_, fun sessionId session hsession hlive => ?_,
      fun hash token htoken => ?_, hs.browsers⟩
    · dsimp only at hfound
      rw [Table.lookup_deleteMany, Option.filter_eq_some_iff] at hfound
      exact hs.redemptions other found hfound.1
    · dsimp only at hsession ⊢
      rw [hlookup] at hsession
      rw [Table.lookup_insert']
      split_ifs at hsession ⊢ with hid
      · obtain rfl := Option.some.inj hsession
        exact ⟨login, by rw [hlogin], hfresh⟩
      · exact hs.sessions sessionId session hsession hlive
    · dsimp only at htoken ⊢
      rw [Table.lookup_create htokens] at htoken
      split_ifs at htoken with hhash
      · obtain rfl := Option.some.inj htoken
        exact ⟨_, (hlookup input.sessionId).trans (if_pos rfl), rfl⟩
      · obtain ⟨session, hsession, hsame⟩ := hs.tokens hash token htoken
        refine ⟨session, ?_, hsame⟩
        rw [hlookup, if_neg, hsession]
        intro hid
        rw [hid, Table.create_fresh hsessions] at hsession
        cases hsession

/-! ### The steps of a login -/

lemma SoundDescent.of_keeps (hs : SoundDescent verifyPassword hashOpaqueSecret s)
    (hk : KeepsLogins s s') (identities : Table String LoginIdentity)
    (attempts : Table String LoginAttempt) (clock : ℕ)
    (hs' : s' = { s with
      store := { s.store with loginIdentities := identities }, attempts, clock })
    (hreads : ∀ id attempt identity, s'.attempts.lookup id = some attempt →
      attempt.identity = some identity → SoundRead hashOpaqueSecret s' attempt identity)
    (hchecks : ∀ id attempt, s'.attempts.lookup id = some attempt →
      SoundCheck verifyPassword attempt) :
    SoundDescent verifyPassword hashOpaqueSecret s' := by
  refine ⟨hreads, hchecks, fun hash record owner hrecord hdone howner => ?_,
    fun id redemption hredemption => ?_, fun id session hsession hlive => ?_,
    fun hash token htoken => ?_, fun hash browser hbrowser hlive => ?_⟩
  · rw [hs'] at hrecord
    obtain ⟨id, hid, hlogin⟩ := hs.devices hash record owner hrecord hdone howner
    exact ⟨id, by rw [hs']; exact hid, hk.loggedIn hlogin⟩
  · rw [hs'] at hredemption
    obtain ⟨login, hsame, hlogin⟩ := hs.redemptions id redemption hredemption
    exact ⟨login, hsame, hk.loggedIn hlogin⟩
  · rw [hs'] at hsession
    obtain ⟨login, hid, hfresh⟩ := hs.sessions id session hsession hlive
    exact ⟨login, by rw [hs']; exact hid, hk.fresh hfresh⟩
  · rw [hs'] at htoken ⊢
    exact hs.tokens hash token htoken
  · rw [hs'] at hbrowser
    obtain ⟨login, hid, hfresh⟩ := hs.browsers hash browser hbrowser hlive
    exact ⟨login, by rw [hs']; exact hid, hk.fresh hfresh⟩

variable {store : AuthStore}

lemma findLoginIdentityByEmail_some {email : String} {identity : LoginIdentityRecord}
    (h : store.findLoginIdentityByEmail email = some identity) :
    ∃ row, store.loginIdentities.lookup identity.owner.identityId = some row ∧
      row.passwordHash = identity.passwordHash := by
  obtain ⟨⟨id, row⟩, hfound, hrecord⟩ := Option.bind_eq_some_iff.mp h
  obtain ⟨employee, -, rfl⟩ := Option.map_eq_some_iff.mp hrecord
  exact ⟨row, (Table.mem_findMany.mp (List.mem_of_mem_head? hfound)).1, rfl⟩

lemma soundDescent_begin (hs : SoundDescent verifyPassword hashOpaqueSecret s)
    (id normalizedEmail password : String) :
    SoundDescent verifyPassword hashOpaqueSecret
      (s.step verifyPassword hashOpaqueSecret (.begin id normalizedEmail password)) := by
  unfold step
  dsimp only
  split_ifs with hused
  · exact hs
  · have hnew : s.attempts.lookup id = none := by simpa using hused
    have hne : ∀ other attempt, s.attempts.lookup other = some attempt → other ≠ id := by
      rintro other attempt hattempt rfl
      rw [hnew] at hattempt
      cases hattempt
    have hk : KeepsLogins s
        { s with
          attempts := s.attempts.insert id
            { password, identity := s.store.findLoginIdentityByEmail normalizedEmail
              resetsSeen :=
                (s.store.findLoginIdentityByEmail normalizedEmail).elim 0 fun identity =>
                  s.resetsOf identity.owner.identityId } } := by
      refine ⟨fun other attempt hattempt => ⟨attempt, ?_, rfl, fun _ howner => howner⟩,
        fun _ => rfl, fun _ row hrow => ⟨row, hrow, rfl⟩⟩
      exact (Table.lookup_insert' ..).trans ((if_neg (hne other attempt hattempt)).trans hattempt)
    refine hs.of_keeps hk s.store.loginIdentities _ s.clock rfl
      (fun other attempt identity hattempt hidentity => ?_) fun other attempt hattempt => ?_
    · dsimp only at hattempt
      rw [Table.lookup_insert'] at hattempt
      split_ifs at hattempt with hother
      · obtain rfl := Option.some.inj hattempt
        dsimp only at hidentity
        obtain ⟨row, hrow, hsame⟩ := findLoginIdentityByEmail_some hidentity
        have hseen : ∀ found : Option LoginIdentityRecord, found = some identity →
            (found.elim 0 fun identity => s.resetsOf identity.owner.identityId) =
              s.resetsOf identity.owner.identityId := by
          rintro _ rfl
          rfl
        refine ⟨(hseen _ hidentity).le, row, hrow, fun _ => hsame, fun hlt => ?_⟩
        exact absurd (hseen _ hidentity) (ne_of_lt hlt)
      · exact hk.soundRead (hs.reads other attempt identity hattempt hidentity) rfl rfl
    · dsimp only at hattempt
      rw [Table.lookup_insert'] at hattempt
      split_ifs at hattempt
      · obtain rfl := Option.some.inj hattempt
        trivial
      · exact hs.checks other attempt hattempt

lemma soundDescent_moveTo (hs : SoundDescent verifyPassword hashOpaqueSecret s) {id : String}
    (hattempt : s.attempts.lookup id = some attempt) {identities : Table String LoginIdentity}
    (hrows : ∀ id row, s.store.loginIdentities.lookup id = some row →
      ∃ row', identities.lookup id = some row' ∧ row'.passwordHash = row.passwordHash)
    (hopen : attempt.acceptedOwner = none) {stage : LoginStage}
    (hcheck : SoundCheck verifyPassword { attempt with stage }) :
    SoundDescent verifyPassword hashOpaqueSecret
      ({ s with store := { s.store with loginIdentities := identities } }.moveTo id stage) := by
  have hlookup : ∀ other, (s.attempts.update id fun attempt =>
      { attempt with stage }).lookup other =
        if other = id then some { attempt with stage } else s.attempts.lookup other := by
    intro other
    rw [Table.lookup_update, hattempt]
    rfl
  have hk : KeepsLogins s
      ({ s with store := { s.store with loginIdentities := identities } }.moveTo id stage) := by
    refine ⟨fun other found hfound => ?_, fun _ => rfl, hrows⟩
    by_cases hother : other = id
    · subst hother
      obtain rfl := Option.some.inj (hattempt.symm.trans hfound)
      exact ⟨_, (hlookup other).trans (if_pos rfl), rfl, fun owner howner => by
        rw [hopen] at howner
        cases howner⟩
    · exact ⟨found, (hlookup other).trans ((if_neg hother).trans hfound), rfl,
        fun _ howner => howner⟩
  refine hs.of_keeps hk identities _ s.clock rfl
    (fun other found identity hfound hidentity => ?_) fun other found hfound => ?_
  · replace hfound := (hlookup other).symm.trans hfound
    split_ifs at hfound
    · obtain rfl := Option.some.inj hfound
      exact hk.soundRead (hs.reads id attempt identity hattempt hidentity) rfl rfl
    · exact hk.soundRead (hs.reads other found identity hfound hidentity) rfl rfl
  · replace hfound := (hlookup other).symm.trans hfound
    split_ifs at hfound
    · obtain rfl := Option.some.inj hfound
      exact hcheck
    · exact hs.checks other found hfound

lemma soundDescent_advance (hs : SoundDescent verifyPassword hashOpaqueSecret s) {id : String}
    (hattempt : s.attempts.lookup id = some attempt) :
    SoundDescent verifyPassword hashOpaqueSecret (s.advance verifyPassword id attempt) := by
  have hsound := hs.checks id attempt hattempt
  have hsame : ∀ id row, s.store.loginIdentities.lookup id = some row →
      ∃ row', s.store.loginIdentities.lookup id = some row' ∧
        row'.passwordHash = row.passwordHash := fun _ row hrow => ⟨row, hrow, rfl⟩
  have hopen : ∀ stage, attempt.stage = stage → (∀ check, stage ≠ .accepted check) →
      attempt.acceptedOwner = none := by
    rintro stage hstage hnot
    unfold LoginAttempt.acceptedOwner
    split
    · next check hcheck => exact absurd (hstage.symm.trans hcheck) (hnot check)
    · rfl
  unfold advance
  rcases hstage : attempt.stage with _ | now | _ | check | ⟨now, check⟩ | _ | check <;>
    rcases hidentity : attempt.identity with _ | identity <;> dsimp only
  case found.none => exact soundDescent_moveTo hs hattempt hsame (hopen _ hstage nofun) trivial
  case found.some =>
    refine soundDescent_moveTo hs hattempt hsame (hopen _ hstage nofun) ?_
    split_ifs <;> trivial
  case verifying.none => exact hs
  case verifying.some =>
    refine soundDescent_moveTo hs hattempt hsame (hopen _ hstage nofun) ?_
    split_ifs with hmatch
    · exact hmatch
    · trivial
  case dummy.none => exact soundDescent_moveTo hs hattempt hsame (hopen _ hstage nofun) trivial
  case dummy.some => exact soundDescent_moveTo hs hattempt hsame (hopen _ hstage nofun) trivial
  case passed.none => exact hs
  case passed.some =>
    refine soundDescent_moveTo hs hattempt (fun other row hrow => ?_) (hopen _ hstage nofun) ?_
    · rw [Table.lookup_update]
      split_ifs with hother
      · rw [← hother, hrow]
        exact ⟨_, rfl, rfl⟩
      · exact ⟨row, hrow, rfl⟩
    · unfold SoundCheck at hsound
      rw [hstage] at hsound
      exact hsound
  case mismatched.none => exact hs
  case mismatched.some =>
    refine soundDescent_moveTo hs hattempt (fun other row hrow => ?_) (hopen _ hstage nofun)
      trivial
    rw [Table.lookup_updateMany, hrow]
    refine ⟨_, rfl, ?_⟩
    dsimp only
    split_ifs <;> rfl
  all_goals exact hs

/-! ### Other transactions -/

/-- A token belongs to a session of its owner. -/
def TokensOwned (store : AuthStore) : Prop :=
  ∀ hash token, store.oAuthAccessTokens.lookup hash = some token →
    ∃ session, store.authSessions.lookup token.sessionId = some session ∧
      session.owner = token.owner

variable {store' : AuthStore}

lemma tokensOwned_of_ends {ids : List String} {reason : String} {now : ℕ}
    (h : AuthStore.Ends ids reason now store store') (howned : TokensOwned store) :
    TokensOwned store' := by
  intro hash token htoken
  rw [h.tokens, Option.map_eq_some_iff] at htoken
  obtain ⟨old, hold, heq⟩ := htoken
  have hsame : token.sessionId = old.sessionId ∧ token.owner = old.owner := by
    rw [← heq]
    unfold AuthStore.revokedToken
    split_ifs <;> exact ⟨rfl, rfl⟩
  obtain ⟨session, hsession, howner⟩ := howned hash old hold
  rw [hsame.1, h.sessions, hsession]
  refine ⟨_, rfl, ?_⟩
  rw [hsame.2, ← howner]
  dsimp only
  split_ifs <;> rfl

lemma active_of_ends {ids : List String} {reason : String} {now : ℕ}
    (h : AuthStore.Ends ids reason now store store') {id : String} {session : AuthSession}
    (hsession : store'.authSessions.lookup id = some session) (hactive : session.status = .active) :
    store.authSessions.lookup id = some session ∧ id ∉ ids := by
  rw [h.sessions, Option.map_eq_some_iff] at hsession
  obtain ⟨old, hold, heq⟩ := hsession
  split_ifs at heq with hended
  · rw [← heq] at hactive
    exact absurd hactive (AuthStore.endedSession_status_ne reason now old)
  · subst heq
    exact ⟨hold, fun hid => hended ⟨hid, hactive⟩⟩

variable {request : AuthRequest} {answer : AuthAnswer}

lemma tokensOwned_of_move (h : FamilyMove store store' request answer)
    (hapart : request.ofLogin = false) (howned : TokensOwned store) : TokensOwned store' := by
  cases h with
  | stays _ hsessions _ htokens =>
    intro hash token htoken
    rw [htokens] at htoken
    rw [hsessions]
    exact howned hash token htoken
  | created hlogin =>
    rw [hapart] at hlogin
    cases hlogin
  | rotated _ _ _ hsession _ _ hsessions _ htokens =>
    intro hash token htoken
    rw [hsessions]
    rcases htokens hash token htoken with hold | ⟨hid, howner⟩
    · exact howned hash token hold
    · exact ⟨_, hid ▸ hsession, howner.symm⟩
  | ended _ hends => exact tokensOwned_of_ends hends howned

lemma active_of_move (h : FamilyMove store store' request answer) (hapart : request.ofLogin = false)
    {id : String} {session : AuthSession} (hsession : store'.authSessions.lookup id = some session)
    (hactive : session.status = .active) : store.authSessions.lookup id = some session := by
  cases h with
  | stays _ hsessions _ _ => exact hsessions ▸ hsession
  | created hlogin =>
    rw [hapart] at hlogin
    cases hlogin
  | rotated _ _ _ _ _ _ hsessions _ _ => exact hsessions ▸ hsession
  | ended _ hends => exact (active_of_ends hends hsession hactive).1

/-- No device authorization is completed and no browser session issued apart from a login. -/
structure KeepsResults (store store' : AuthStore) : Prop where
  devices : ∀ hash record, store'.deviceAuthorizations.lookup hash = some record →
    record.status = .completed → store.deviceAuthorizations.lookup hash = some record
  browsers : ∀ hash browser, store'.browserSessions.lookup hash = some browser →
    browser.revokedAt = none → store.browserSessions.lookup hash = some browser

lemma keepsResults_of_eq (hd : store'.deviceAuthorizations = store.deviceAuthorizations)
    (hb : store'.browserSessions = store.browserSessions) : KeepsResults store store' where
  devices _ _ h _ := hd ▸ h
  browsers _ _ h _ := hb ▸ h

lemma browser_of_revoked {browsers : Table String BrowserSession}
    {p : String → BrowserSession → Bool} {now : ℕ} {hash : String} {browser : BrowserSession}
    (h : (browsers.updateMany p fun browser =>
      { browser with revokedAt := some now }).lookup hash = some browser)
    (hlive : browser.revokedAt = none) :
    browsers.lookup hash = some browser ∧ p hash browser = false := by
  rw [Table.lookup_updateMany, Option.map_eq_some_iff] at h
  obtain ⟨old, hold, heq⟩ := h
  split_ifs at heq with hp
  · rw [← heq] at hlive
    cases hlive
  · subst heq
    exact ⟨hold, Bool.eq_false_iff.mpr hp⟩

lemma keepsResults_of_revoked (identityId : String) (now : ℕ)
    (hd : store'.deviceAuthorizations = store.deviceAuthorizations)
    (hb : store'.browserSessions = (store.revokeBrowserSessions identityId now).browserSessions) :
    KeepsResults store store' where
  devices _ _ h _ := hd ▸ h
  browsers hash browser h hlive := by
    rw [hb] at h
    exact (browser_of_revoked h hlive).1

lemma keepsResults_of_transact (hapart : request.ofLogin = false)
    (h : store.transact hashOpaqueSecret request = .ok (answer, store')) :
    KeepsResults store store' := by
  obtain ⟨houtside, -⟩ := AuthStore.transact_outside h
  cases request with
  | recordFailure | resetFailures | completeDevice | redeemDevice | createSession
  | createBrowser => cases hapart
  | consumeSetup input =>
    obtain ⟨⟨accepted, store₁⟩, hstore, h⟩ := bind_ok.mp h
    cases h
    rcases AuthStore.consumePasswordSetupSession_ok hstore with
      ⟨-, rfl⟩ | ⟨setup, identity, -, -, -, -, -, rfl⟩
    · exact keepsResults_of_eq rfl rfl
    · obtain ⟨-, -, -, -, hd, hb⟩ := AuthStore.revokeActiveFamilies_eq
        (store.passwordSet setup.identityId input) setup.identityId "password_reset" input.now
      exact keepsResults_of_revoked setup.identityId input.now hd hb
  | resetPassword input =>
    obtain ⟨⟨account, store₁⟩, hstore, h⟩ := bind_ok.mp h
    cases h
    rcases AuthStore.resetPassword_ok hstore with ⟨-, rfl⟩ | ⟨identityId, grants, -, -, rfl⟩
    · exact keepsResults_of_eq rfl rfl
    · exact keepsResults_of_revoked identityId input.now rfl rfl
  | createDevice input =>
    obtain ⟨store₁, hstore, h⟩ := bind_ok.mp h
    cases h
    obtain ⟨devices, hdevices, rfl⟩ := AuthStore.createDeviceAuthorization_ok hstore
    refine ⟨fun hash record hrecord hdone => ?_, fun _ _ hbrowser _ => hbrowser⟩
    dsimp only at hrecord
    rw [Table.lookup_create hdevices, Table.lookup_updateMany] at hrecord
    split_ifs at hrecord
    · obtain rfl := Option.some.inj hrecord
      cases hdone
    · obtain ⟨old, hold, heq⟩ := Option.map_eq_some_iff.mp hrecord
      split_ifs at heq
      · rw [← heq] at hdone
        cases hdone
      · exact heq ▸ hold
  | revokeIdentity identityId reason now =>
    cases h
    obtain ⟨-, -, -, -, hd, hb⟩ := AuthStore.revokeActiveFamilies_eq
      (store.revokeBrowserSessions identityId now) identityId reason now
    exact keepsResults_of_revoked identityId now hd hb
  | revokeBrowser secretHash now =>
    cases h
    exact ⟨fun _ _ hrecord _ => hrecord, fun _ _ hbrowser hlive =>
      (browser_of_revoked hbrowser hlive).1⟩
  | _ =>
    exact keepsResults_of_eq (congrArg (·.deviceAuthorizations) houtside)
      (congrArg (·.browserSessions) houtside)

lemma soundDescent_apart (hs : SoundDescent verifyPassword hashOpaqueSecret s)
    (hapart : request.ofLogin = false)
    (h : s.store.transact hashOpaqueSecret request = .ok (answer, store))
    (hnot : answer ≠ .consumed true) :
    SoundDescent verifyPassword hashOpaqueSecret { s with store } := by
  have hmove := familyMove_of_transact h
  have hresults := keepsResults_of_transact hapart h
  have hk : KeepsLogins s { s with store } := by
    refine ⟨fun _ attempt hattempt => ⟨attempt, hattempt, rfl, fun _ howner => howner⟩,
      fun _ => rfl, fun id row hrow => ?_⟩
    cases identityMove_of_transact hapart h id with
    | same hsame => exact ⟨row, hsame.trans hrow, rfl⟩
    | onboarded hfresh =>
      rw [hrow] at hfresh
      cases hfresh
    | reset haccepted => exact absurd haccepted hnot
  refine ⟨fun id attempt identity hattempt hidentity =>
      hk.soundRead (hs.reads id attempt identity hattempt hidentity) rfl rfl, hs.checks,
    fun hash record owner hrecord hdone howner => ?_, fun id redemption hredemption => ?_,
    fun id session hsession hactive => ?_, tokensOwned_of_move hmove hapart hs.tokens,
    fun hash browser hbrowser hlive => ?_⟩
  · obtain ⟨id, hid, hlogin⟩ :=
      hs.devices hash record owner (hresults.devices hash record hrecord hdone) hdone howner
    exact ⟨id, hid, hk.loggedIn hlogin⟩
  · obtain ⟨login, hid, hlogin⟩ := hs.redemptions id redemption hredemption
    exact ⟨login, hid, hk.loggedIn hlogin⟩
  · obtain ⟨login, hid, hfresh⟩ :=
      hs.sessions id session (active_of_move hmove hapart hsession hactive) hactive
    exact ⟨login, hid, hk.fresh hfresh⟩
  · obtain ⟨login, hid, hfresh⟩ :=
      hs.browsers hash browser (hresults.browsers hash browser hbrowser hlive) hlive
    exact ⟨login, hid, hk.fresh hfresh⟩

lemma resetsOf_countReset (s : LoginSystem) (store : AuthStore) (identityId id : String) :
    ({ s with store }.countReset identityId).resetsOf id =
      if id = identityId then s.resetsOf identityId + 1 else s.resetsOf id := by
  unfold countReset
  rw [resetsOf, Table.lookup_insert']
  split_ifs <;> rfl

lemma fresh_countReset {identityId id : String} (hne : owner.identityId ≠ identityId)
    (h : s.Fresh id owner) : ({ s with store }.countReset identityId).Fresh id owner := by
  obtain ⟨attempt, hattempt, howner, hseen⟩ := h
  refine ⟨attempt, hattempt, howner, ?_⟩
  rw [resetsOf_countReset, if_neg hne]
  exact hseen

/-- **A reset.** What was live of the identity is not, and the password of every login before is
another one. -/
lemma soundDescent_reset (hs : SoundDescent verifyPassword hashOpaqueSecret s)
    {input : ConsumeSetupInput}
    (h : s.store.consumePasswordSetupSession input = .ok (true, store))
    {setup : PasswordSetupSession}
    (hsetup : s.store.passwordSetupSessions.lookup input.sessionHash = some setup)
    (hnew : s.newPassword hashOpaqueSecret input.passwordHash = true) :
    SoundDescent verifyPassword hashOpaqueSecret
      ({ s with store }.countReset setup.identityId) := by
  have htransact : s.store.transact hashOpaqueSecret (.consumeSetup input) =
      .ok (.consumed true, store) := bind_ok.mpr ⟨(true, store), h, rfl⟩
  have hresults := keepsResults_of_transact rfl htransact
  rcases identities_consumed h with ⟨hfalse, -⟩ | ⟨found, row, hfound, -, hrow, hlookup⟩
  · cases hfalse
  obtain rfl := Option.some.inj (hsetup.symm.trans hfound)
  rcases AuthStore.consumePasswordSetupSession_ok h with
    ⟨hfalse, -⟩ | ⟨found, identity, hfound, -, -, -, -, hstore⟩
  · cases hfalse
  obtain rfl := Option.some.inj (hsetup.symm.trans hfound)
  refine ⟨fun id attempt read hattempt hread => ?_, hs.checks,
    fun hash record owner hrecord hdone howner =>
      hs.devices hash record owner (hresults.devices hash record hrecord hdone) hdone howner,
    hs.redemptions, fun id session hsession hactive => ?_,
    tokensOwned_of_move (familyMove_of_transact htransact) rfl hs.tokens,
    fun hash browser hbrowser hlive => ?_⟩
  · obtain ⟨hseen, old, hold, hsame, hother⟩ := hs.reads id attempt read hattempt hread
    by_cases hid : read.owner.identityId = setup.identityId
    · rw [hid] at hseen
      refine ⟨by rw [resetsOf_countReset, if_pos hid]; omega, _,
        (hlookup read.owner.identityId).trans (if_pos hid), fun heq => ?_,
        fun _ oldPassword newPassword holdPassword hnewPassword => ?_⟩
      · rw [resetsOf_countReset, if_pos hid] at heq
        omega
      · have hset : newPassword = input.passwordHash :=
          (Option.some.inj (Option.filter_eq_some_iff.mp hnewPassword).1).symm
        have hall := List.all_eq_true.mp hnew ⟨id, attempt⟩ (AList.mem_lookup_iff.mp hattempt)
        rw [holdPassword] at hall
        rw [hset]
        exact of_decide_eq_true hall
    · refine ⟨by rw [resetsOf_countReset, if_neg hid]; exact hseen, old,
        (hlookup read.owner.identityId).trans ((if_neg hid).trans hold), ?_⟩
      rw [resetsOf_countReset, if_neg hid]
      exact ⟨hsame, hother⟩
  · have hends := AuthStore.ends_revokeActiveFamilies
      (s.store.passwordSet setup.identityId input) setup.identityId "password_reset" input.now
    rw [← hstore] at hends
    obtain ⟨hbefore, hnone⟩ := active_of_ends hends hsession hactive
    obtain ⟨login, hid, hfresh⟩ := hs.sessions id session hbefore hactive
    refine ⟨login, hid, fresh_countReset (fun howner => hnone ?_) hfresh⟩
    exact AuthStore.mem_activeSessions.mpr ⟨session, hbefore, howner, hactive⟩
  · obtain ⟨-, -, -, -, -, hb⟩ := AuthStore.revokeActiveFamilies_eq
      (s.store.passwordSet setup.identityId input) setup.identityId "password_reset" input.now
    rw [← hstore] at hb
    replace hbrowser : store.browserSessions.lookup hash = some browser := hbrowser
    rw [hb] at hbrowser
    obtain ⟨hbefore, hothers⟩ := browser_of_revoked hbrowser hlive
    obtain ⟨login, hid, hfresh⟩ := hs.browsers hash browser hbefore hlive
    refine ⟨login, hid, fresh_countReset (fun howner => ?_) hfresh⟩
    simp [howner, hlive] at hothers

lemma consumeSetup_of_consumed {accepted : Bool}
    (h : store.transact hashOpaqueSecret request = .ok (.consumed accepted, store')) :
    ∃ input, request = .consumeSetup input ∧
      store.consumePasswordSetupSession input = .ok (accepted, store') := by
  cases request with
  | consumeSetup input =>
    obtain ⟨⟨found, store₁⟩, hstore, h⟩ := bind_ok.mp h
    cases h
    exact ⟨input, rfl, hstore⟩
  | replaceGrant input =>
    obtain ⟨store₁, -, h⟩ := bind_ok.mp h
    cases h
  | exchangeGrant input =>
    obtain ⟨⟨setup, store₁⟩, -, h⟩ := bind_ok.mp h
    cases h
  | onboard input employeeId identityId refused =>
    obtain ⟨⟨ids, store₁⟩, -, h⟩ := bind_ok.mp h
    cases h
  | resetPassword input =>
    obtain ⟨⟨account, store₁⟩, -, h⟩ := bind_ok.mp h
    cases h
  | createDevice input =>
    obtain ⟨store₁, -, h⟩ := bind_ok.mp h
    cases h
  | createSession input sessionId =>
    obtain ⟨store₁, -, h⟩ := bind_ok.mp h
    cases h
  | rotate input =>
    obtain ⟨⟨result, store₁⟩, -, h⟩ := bind_ok.mp h
    cases h
  | createBrowser input =>
    obtain ⟨⟨created, store₁⟩, -, h⟩ := bind_ok.mp h
    cases h
  | _ => cases h

lemma soundDescent_step (op : LoginStep) (h : ResetsInTime hashOpaqueSecret s op)
    (hs : SoundDescent verifyPassword hashOpaqueSecret s) :
    SoundDescent verifyPassword hashOpaqueSecret (s.step verifyPassword hashOpaqueSecret op) := by
  cases op with
  | tick milliseconds =>
    exact ⟨hs.reads_of_same (by rfl) (by rfl) (by rfl), hs.checks, hs.devices, hs.redemptions,
      hs.sessions, hs.tokens, hs.browsers⟩
  | begin id normalizedEmail password => exact soundDescent_begin hs id normalizedEmail password
  | advance id =>
    unfold step
    dsimp only
    cases hattempt : s.attempts.lookup id with
    | none => exact hs
    | some attempt => exact soundDescent_advance hs hattempt
  | completeDevice id userCodeHash now => exact soundDescent_completeDevice hs id userCodeHash now
  | issueBrowser id secretHash expiresAt now =>
    exact soundDescent_issueBrowser hs id secretHash expiresAt now
  | redeem id deviceCodeHash clientId now =>
    exact soundDescent_redeem hs id deviceCodeHash clientId now
  | createSession id input => exact soundDescent_createSession hs id input h
  | request request apart =>
    rcases request_cases verifyPassword hashOpaqueSecret s request apart with
      heq | ⟨answer, store, htransact, heq⟩
    · rw [heq]
      exact hs
    · rw [heq]
      by_cases haccepted : answer = .consumed true
      · rw [if_pos haccepted]
        subst haccepted
        obtain ⟨input, rfl, hconsumed⟩ := consumeSetup_of_consumed htransact
        rcases identities_consumed hconsumed with ⟨hfalse, -⟩ | ⟨setup, row, hsetup, -⟩
        · cases hfalse
        · rw [resetBy, hsetup]
          exact soundDescent_reset hs hconsumed hsetup h
      · rw [if_neg haccepted]
        exact soundDescent_apart hs apart htransact haccepted

/-- **A reset ends what came before it**: in every run in which no session is created from a
login that read the identity before its password was last set, whatever is accepted descends
from a login with the password as it is. -/
theorem descends_of_resets_in_time (steps : List LoginStep)
    (h : Runs.Along (step verifyPassword hashOpaqueSecret) (ResetsInTime hashOpaqueSecret) {}
      steps) :
    DescendsFromLogins verifyPassword hashOpaqueSecret
      (after verifyPassword hashOpaqueSecret {} steps) :=
  (Runs.run_invariant (fun _ op hintime hs => soundDescent_step op hintime hs) h
    soundDescent_empty).descends

/-! ### A device code from before a reset -/

/-- A device is authorized with a password. -/
def deviceSteps (login password : String) : List LoginStep :=
  .request (.createDevice ⟨"device", "user", "client", "laptop", "host", 100, 3⟩) rfl ::
    loginSteps login password ++ [.completeDevice login "user" 4]

/-- The operator has the password reset. -/
def resetSteps (password : String) : List LoginStep :=
  [.request (.resetPassword ⟨"employee", "new grant", 100, 5⟩) rfl,
    .request (.exchangeGrant ⟨"new grant", "new setup", 50, 6⟩) rfl,
    .request (.consumeSetup ⟨"new setup", password, 7⟩) rfl]

/-- The device code is redeemed, and its session created. -/
def deviceSessionSteps : List LoginStep :=
  [.redeem "redemption" "device" "client" 8,
    .createSession "redemption" ⟨"session", "credential", "token", 1000, 100, 9⟩]

/-- The code of a device that was authorized with the old password gets its session after the
reset, and the token of the session is accepted. -/
theorem early_device_outlives_reset :
    ¬ DescendsFromLogins (fun password passwordHash => password = passwordHash) id
      (after (fun password passwordHash => password = passwordHash) id {}
        (accountSteps "old" ++ deviceSteps "login" "old" ++ resetSteps "new" ++
          deviceSessionSteps)) := by
  obtain ⟨s, hs⟩ : ∃ s, after (fun password passwordHash => password = passwordHash) id {}
      (accountSteps "old" ++ deviceSteps "login" "old" ++ resetSteps "new" ++
        deviceSessionSteps) = s := ⟨_, rfl⟩
  have htoken : s.store.oAuthAccessTokens.lookup "token" =
      some ⟨"session", ⟨"identity", "employee", "org"⟩, 100, none, 9⟩ := by rw [← hs]; decide
  have haccepted : s.store.readAccessToken "token" 10 =
      .accepted ⟨⟨"identity", "employee", "org"⟩, "", "Ann", "ann@example.com", .employee, 1,
        false, false⟩ := by rw [← hs]; decide
  have hattempt : (s.attempts.lookup "login").map (·.resetsSeen) = some 1 := by
    rw [← hs]; decide
  have hlogin : s.sessionLogins.lookup "session" = some (some "login") := by rw [← hs]; decide
  have hresets : s.resetsOf "identity" = 2 := by rw [← hs]; decide
  rw [hs]
  intro hdescends
  obtain ⟨id, hid, attempt, identity, row, passwordHash, hfound, -, -, -, hseen, -⟩ :=
    hdescends.1 "token" _ _ 10 htoken haccepted
  obtain rfl : "login" = id := Option.some.inj (Option.some.inj (hlogin.symm.trans hid))
  rw [hfound] at hattempt
  have hone : attempt.resetsSeen = 1 := Option.some.inj hattempt
  rw [hresets, hone] at hseen
  cases hseen

/-- A device gets its session in time, and a new login follows the reset. -/
theorem descends_after_reset :
    DescendsFromLogins (fun password passwordHash => password = passwordHash) id
      (after (fun password passwordHash => password = passwordHash) id {}
        (accountSteps "old" ++ deviceSteps "login" "old" ++ deviceSessionSteps ++
          resetSteps "new" ++ loginSteps "again" "new" ++
          [.issueBrowser "again" "secret" 100 10])) :=
  descends_of_resets_in_time _ (by decide)

end LoginSystem
end SmeDataCenter
