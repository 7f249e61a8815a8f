import SmeDataCenter.AuthEffects

/-!
# Setting a password

A grant or a setup session is a key that can set the password of one identity. While it is
live it is the only one of its identity: a new one is issued after the others are revoked, or
with the identity, and a grant is exchanged for the session that takes its place. A key is
spent when it is accepted, and never accepted again.
-/

namespace SmeDataCenter

open Fallible (bind_ok)

variable {hashOpaqueSecret : String → String}

/-- The hash of a grant or of a setup session. -/
inductive SetupKey where
  | grant (tokenHash : String)
  | session (sessionHash : String)
  deriving DecidableEq

namespace AuthStore

/-- The identity whose password a key can set while it is live. -/
def liveSetup (store : AuthStore) : SetupKey → Option String
  | .grant tokenHash =>
    ((store.passwordSetupGrants.lookup tokenHash).filter (·.isLive)).map (·.identityId)
  | .session sessionHash =>
    ((store.passwordSetupSessions.lookup sessionHash).filter (·.isLive)).map (·.identityId)

/-- Was a key accepted? -/
def spentSetup (store : AuthStore) : SetupKey → Bool
  | .grant tokenHash => (store.passwordSetupGrants.lookup tokenHash).any (·.usedAt.isSome)
  | .session sessionHash =>
    (store.passwordSetupSessions.lookup sessionHash).any (·.consumedAt.isSome)

end AuthStore

/-- A request was answered that a key is accepted. -/
def acceptedSetup (key : SetupKey) (entry : AuthRequest × AuthAnswer) : Bool :=
  match entry with
  | (.exchangeGrant input, .exchanged (some _)) => key = .grant input.grantTokenHash
  | (.consumeSetup input, .consumed true) => key = .session input.sessionHash
  | _ => false

/-- What becomes of the live keys. -/
inductive LiveMove (store store' : AuthStore) : Prop where
  /-- None is new. -/
  | fewer (h : ∀ key id, store'.liveSetup key = some id → store.liveSetup key = some id) :
      LiveMove store store'
  /-- One is new, and its identity has no other, or is new. -/
  | issued {key : SetupKey} {id : String} (hkey : store'.liveSetup key = some id)
      (hthere : (store'.loginIdentities.lookup id).isSome = true)
      (h : ∀ other id', other ≠ key → store'.liveSetup other = some id' →
        store.liveSetup other = some id' ∧
          (id' ≠ id ∨ store.loginIdentities.lookup id = none)) :
      LiveMove store store'
  /-- One takes the place of another. -/
  | exchanged {old key : SetupKey} {id : String} (hold : store.liveSetup old = some id)
      (hkey : store'.liveSetup key = some id)
      (h : ∀ other id', other ≠ key → store'.liveSetup other = some id' →
        store.liveSetup other = some id' ∧ other ≠ old) :
      LiveMove store store'

/-- What a transaction does to the keys, with its request and answer. -/
structure SetupMove (store store' : AuthStore) (entry : AuthRequest × AuthAnswer) : Prop where
  identities : ∀ id, (store.loginIdentities.lookup id).isSome = true →
    (store'.loginIdentities.lookup id).isSome = true
  spent : ∀ key, store.spentSetup key = true → store'.spentSetup key = true
  accepted : ∀ key, acceptedSetup key entry = true →
    store.spentSetup key = false ∧ store'.spentSetup key = true
  live : LiveMove store store'

/-! ### The invariant -/

/-- An identity has one live key, and a key is accepted at most as often as it is spent. -/
structure SoundSetup (s : AuthSystem) : Prop where
  one_live : ∀ key key' id, s.store.liveSetup key = some id → s.store.liveSetup key' = some id →
    key = key'
  there : ∀ key id, s.store.liveSetup key = some id →
    (s.store.loginIdentities.lookup id).isSome = true
  once : ∀ key, s.answered (acceptedSetup key) ≤ (s.store.spentSetup key).toNat

lemma soundSetup_empty : SoundSetup {} where
  one_live key key' id h := by cases key <;> simp [AuthStore.liveSetup] at h
  there key id h := by cases key <;> simp [AuthStore.liveSetup] at h
  once key := Nat.zero_le _

variable {id : String}

variable {key : SetupKey}

section

variable {store store' : AuthStore} {log : List (AuthRequest × AuthAnswer)}
  {entry : AuthRequest × AuthAnswer}

lemma LiveMove.one_live (h : LiveMove store store') (hs : SoundSetup ⟨store, log⟩) {key' : SetupKey}
    (hkey : store'.liveSetup key = some id) (hkey' : store'.liveSetup key' = some id) :
    key = key' := by
  cases h with
  | fewer h => exact hs.one_live key key' id (h key id hkey) (h key' id hkey')
  | @issued new identityId hnew _ h =>
    -- a live key of the identity of the new one is the new one
    have hother : ∀ other, store'.liveSetup other = some identityId → other = new := by
      intro other hlive
      by_contra hne
      obtain ⟨hold, hid⟩ := h other identityId hne hlive
      rcases hid with hid | hid
      · exact hid rfl
      · have hthere := hs.there other identityId hold
        dsimp only at hthere
        rw [hid] at hthere
        cases hthere
    by_cases hid : id = identityId
    · subst hid
      rw [hother key hkey, hother key' hkey']
    · have hne : ∀ other, store'.liveSetup other = some id → other ≠ new := by
        rintro other hlive rfl
        exact hid (Option.some.inj (hlive.symm.trans hnew))
      exact hs.one_live key key' id (h key id (hne key hkey) hkey).1
        (h key' id (hne key' hkey') hkey').1
  | @exchanged old new identityId hold hnew h =>
    -- a live key of that identity was the old one, which is gone
    have hother : ∀ other, store'.liveSetup other = some identityId → other = new := by
      intro other hlive
      by_contra hne
      obtain ⟨hbefore, hgone⟩ := h other identityId hne hlive
      exact hgone (hs.one_live other old identityId hbefore hold)
    by_cases hid : id = identityId
    · subst hid
      rw [hother key hkey, hother key' hkey']
    · have hne : ∀ other, store'.liveSetup other = some id → other ≠ new := by
        rintro other hlive rfl
        exact hid (Option.some.inj (hlive.symm.trans hnew))
      exact hs.one_live key key' id (h key id (hne key hkey) hkey).1
        (h key' id (hne key' hkey') hkey').1

lemma SetupMove.there (h : SetupMove store store' entry) (hs : SoundSetup ⟨store, log⟩)
    (hkey : store'.liveSetup key = some id) : (store'.loginIdentities.lookup id).isSome = true := by
  cases h.live with
  | fewer hfewer => exact h.identities id (hs.there key id (hfewer key id hkey))
  | @issued new identityId hnew hthere hothers =>
    by_cases hne : key = new
    · subst hne
      obtain rfl := Option.some.inj (hkey.symm.trans hnew)
      exact hthere
    · exact h.identities id (hs.there key id (hothers key id hne hkey).1)
  | @exchanged old new identityId hold hnew hothers =>
    by_cases hne : key = new
    · subst hne
      obtain rfl := Option.some.inj (hkey.symm.trans hnew)
      exact h.identities id (hs.there old id hold)
    · exact h.identities id (hs.there key id (hothers key id hne hkey).1)

lemma soundSetup_of_move (hs : SoundSetup ⟨store, log⟩) (h : SetupMove store store' entry) :
    SoundSetup ⟨store', log ++ [entry]⟩ where
  one_live _ _ _ hkey hkey' := h.live.one_live hs hkey hkey'
  there _ _ hkey := h.there hs hkey
  once key := by
    rw [AuthSystem.answered_append store store']
    have hbefore := hs.once key
    dsimp only at hbefore ⊢
    by_cases haccepted : acceptedSetup key entry = true
    · obtain ⟨hunspent, hspent⟩ := h.accepted key haccepted
      rw [hunspent] at hbefore
      rw [if_pos haccepted, hspent]
      simpa using hbefore
    · rw [if_neg haccepted]
      have hmono := h.spent key
      cases hkey : store.spentSetup key with
      | false => simp_all
      | true => simp_all

end

/-! ### What the transactions do -/

variable {grant : PasswordSetupGrant} {setup : PasswordSetupSession}
  {grants : Table String PasswordSetupGrant} {tokenHash : String}

variable {input : ExchangeGrantInput}

namespace AuthStore

variable {store : AuthStore}

lemma liveSetup_revoked {now : ℕ} {id' : String}
    (h : (store.revokePasswordSetup id now).liveSetup key = some id') :
    store.liveSetup key = some id' ∧ id' ≠ id := by
  cases key with
  | grant tokenHash =>
    simp only [liveSetup, revokePasswordSetup, Table.lookup_updateMany, Option.map_eq_some_iff,
      Option.filter_eq_some_iff] at h ⊢
    obtain ⟨grant, ⟨⟨old, hold, heq⟩, hlive⟩, hid⟩ := h
    by_cases hrevoked : (decide (old.identityId = id) && old.isLive) = true
    · rw [if_pos hrevoked] at heq
      rw [← heq] at hlive
      simp [PasswordSetupGrant.isLive] at hlive
    · rw [if_neg hrevoked] at heq
      subst heq
      refine ⟨⟨old, ⟨hold, hlive⟩, hid⟩, ?_⟩
      rintro rfl
      exact hrevoked (by simp [hid, hlive])
  | session sessionHash =>
    simp only [liveSetup, revokePasswordSetup, Table.lookup_updateMany, Option.map_eq_some_iff,
      Option.filter_eq_some_iff] at h ⊢
    obtain ⟨setup, ⟨⟨old, hold, heq⟩, hlive⟩, hid⟩ := h
    by_cases hrevoked : (decide (old.identityId = id) && old.isLive) = true
    · rw [if_pos hrevoked] at heq
      rw [← heq] at hlive
      simp [PasswordSetupSession.isLive] at hlive
    · rw [if_neg hrevoked] at heq
      subst heq
      refine ⟨⟨old, ⟨hold, hlive⟩, hid⟩, ?_⟩
      rintro rfl
      exact hrevoked (by simp [hid, hlive])

lemma spentSetup_revoked (store : AuthStore) (id : String) (now : ℕ) (key : SetupKey) :
    (store.revokePasswordSetup id now).spentSetup key = store.spentSetup key := by
  cases key with
  | grant tokenHash =>
    simp only [spentSetup, revokePasswordSetup, Table.lookup_updateMany, Option.any_map]
    congr 1
    funext grant
    split_ifs <;> rfl
  | session sessionHash =>
    simp only [spentSetup, revokePasswordSetup, Table.lookup_updateMany, Option.any_map]
    congr 1
    funext setup
    split_ifs <;> rfl

lemma liveSetup_newGrant (h : store.passwordSetupGrants.create tokenHash grant = some grants)
    (hlive : grant.isLive = true) (key : SetupKey) :
    { store with passwordSetupGrants := grants }.liveSetup key =
      if key = .grant tokenHash then some grant.identityId else store.liveSetup key := by
  cases key with
  | grant hash =>
    simp only [liveSetup, Table.lookup_create h, SetupKey.grant.injEq]
    by_cases hhash : hash = tokenHash
    · simp [hhash, hlive]
    · simp [hhash]
  | session hash => rfl

lemma spentSetup_newGrant (h : store.passwordSetupGrants.create tokenHash grant = some grants)
    (hspent : store.spentSetup key = true) :
    { store with passwordSetupGrants := grants }.spentSetup key = true := by
  cases key with
  | grant hash =>
    have hfresh := Table.create_fresh h
    simp only [spentSetup, Table.lookup_create h] at hspent ⊢
    split_ifs with hhash
    · rw [hhash, hfresh] at hspent
      cases hspent
    · exact hspent
  | session hash => exact hspent

lemma liveSetup_exchanged {sessions : Table String PasswordSetupSession}
    (hgrant : store.passwordSetupGrants.lookup input.grantTokenHash = some grant)
    (hexpires : input.now < grant.expiresAt)
    (h : store.passwordSetupSessions.create input.sessionHash setup = some sessions)
    (hlive : setup.isLive = true) (key : SetupKey) :
    { store with
      passwordSetupGrants := store.passwordSetupGrants.updateMany
        (claimedGrant input.grantTokenHash input.now)
        fun grant => { grant with usedAt := some input.now }
      passwordSetupSessions := sessions }.liveSetup key =
      if key = .session input.sessionHash then some setup.identityId
      else if key = .grant input.grantTokenHash then none else store.liveSetup key := by
  cases key with
  | grant hash =>
    simp only [liveSetup, Table.lookup_updateMany, SetupKey.grant.injEq, reduceCtorEq, if_false]
    by_cases hhash : hash = input.grantTokenHash
    · subst hhash
      rw [hgrant, if_pos rfl, Option.map_some]
      by_cases hgrantLive : grant.isLive = true
      · have hclaimed : claimedGrant input.grantTokenHash input.now input.grantTokenHash grant =
            true := by
          simp [claimedGrant, hgrantLive, hexpires]
        rw [if_pos hclaimed]
        simp [PasswordSetupGrant.isLive]
      · simp [claimedGrant, hgrantLive]
    · simp [claimedGrant, hhash]
  | session hash =>
    simp only [liveSetup, Table.lookup_create h, SetupKey.session.injEq, reduceCtorEq, if_false]
    by_cases hhash : hash = input.sessionHash
    · simp [hhash, hlive]
    · simp [hhash]

lemma spentSetup_exchanged {sessions : Table String PasswordSetupSession}
    (hgrant : store.passwordSetupGrants.lookup input.grantTokenHash = some grant)
    (hgrantLive : grant.isLive = true) (hexpires : input.now < grant.expiresAt)
    (h : store.passwordSetupSessions.create input.sessionHash setup = some sessions)
    (hunspent : setup.consumedAt = none) (key : SetupKey) :
    { store with
      passwordSetupGrants := store.passwordSetupGrants.updateMany
        (claimedGrant input.grantTokenHash input.now)
        fun grant => { grant with usedAt := some input.now }
      passwordSetupSessions := sessions }.spentSetup key =
      (key = .grant input.grantTokenHash || store.spentSetup key) := by
  cases key with
  | grant hash =>
    simp only [spentSetup, Table.lookup_updateMany, SetupKey.grant.injEq]
    by_cases hhash : hash = input.grantTokenHash
    · subst hhash
      rw [hgrant]
      simp [claimedGrant, hgrantLive, hexpires]
    · simp [claimedGrant, hhash]
  | session hash =>
    have hfresh := Table.create_fresh h
    simp only [spentSetup, Table.lookup_create h, reduceCtorEq, decide_false, Bool.false_or]
    split_ifs with hhash
    · rw [hhash, hfresh]
      simp [hunspent]
    · rfl

lemma setup_congr {store' : AuthStore}
    (hg : store'.passwordSetupGrants = store.passwordSetupGrants)
    (hs : store'.passwordSetupSessions = store.passwordSetupSessions) (key : SetupKey) :
    store'.liveSetup key = store.liveSetup key ∧ store'.spentSetup key = store.spentSetup key := by
  cases key with
  | grant hash => simp only [liveSetup, spentSetup, hg, and_self]
  | session hash => simp only [liveSetup, spentSetup, hs, and_self]

lemma setup_consumed {store' : AuthStore} {input : ConsumeSetupInput}
    (hsetup : store.passwordSetupSessions.lookup input.sessionHash = some setup)
    (hlive : setup.isLive = true) (hexpires : input.now < setup.expiresAt)
    (hg : store'.passwordSetupGrants = store.passwordSetupGrants)
    (hs : store'.passwordSetupSessions = store.passwordSetupSessions.updateMany
      (claimedSetup input.sessionHash input.now)
      fun setup => { setup with consumedAt := some input.now }) (key : SetupKey) :
    (∀ id, store'.liveSetup key = some id → store.liveSetup key = some id) ∧
      store'.spentSetup key = (key = .session input.sessionHash || store.spentSetup key) := by
  cases key with
  | grant hash =>
    simp [liveSetup, spentSetup, hg]
  | session hash =>
    simp only [liveSetup, spentSetup, hs, Table.lookup_updateMany, SetupKey.session.injEq]
    by_cases hhash : hash = input.sessionHash
    · subst hhash
      have hclaimed : claimedSetup input.sessionHash input.now input.sessionHash setup = true := by
        simp [claimedSetup, hlive, hexpires]
      rw [hsetup, Option.map_some, if_pos hclaimed]
      simp [PasswordSetupSession.isLive]
    · simp [claimedSetup, hhash]

end AuthStore

variable {identityId : String}

section

variable {store store' : AuthStore}

lemma setupMove_of_eq {entry : AuthRequest × AuthAnswer}
    (haccepted : ∀ key, acceptedSetup key entry = false)
    (hi : ∀ id, (store.loginIdentities.lookup id).isSome = true →
      (store'.loginIdentities.lookup id).isSome = true)
    (hg : store'.passwordSetupGrants = store.passwordSetupGrants)
    (hs : store'.passwordSetupSessions = store.passwordSetupSessions) :
    SetupMove store store' entry where
  identities := hi
  spent key h := (AuthStore.setup_congr hg hs key).2 ▸ h
  accepted key h := by simp [haccepted key] at h
  live := .fewer fun key id h => (AuthStore.setup_congr hg hs key).1 ▸ h

lemma setupMove_renewed {entry : AuthRequest × AuthAnswer} {now : ℕ}
    (haccepted : ∀ key, acceptedSetup key entry = false)
    (hi : store'.loginIdentities = store.loginIdentities)
    (hthere : ∃ identity, store.loginIdentities.lookup identityId = some identity)
    (hof : grant.identityId = identityId) (hlive : grant.isLive = true)
    (h : (store.revokePasswordSetup identityId now).passwordSetupGrants.create tokenHash grant =
      some grants) (hg : store'.passwordSetupGrants = grants)
    (hs : store'.passwordSetupSessions =
      (store.revokePasswordSetup identityId now).passwordSetupSessions) :
    SetupMove store store' entry := by
  let renewed : AuthStore :=
    { store.revokePasswordSetup identityId now with passwordSetupGrants := grants }
  have hsame : ∀ key, store'.liveSetup key = renewed.liveSetup key ∧
      store'.spentSetup key = renewed.spentSetup key := AuthStore.setup_congr hg hs
  refine ⟨fun id hid => by rw [hi]; exact hid, fun key hspent => ?_,
    fun key haccept => by simp [haccepted key] at haccept, ?_⟩
  · rw [(hsame key).2]
    exact AuthStore.spentSetup_newGrant h (by rw [AuthStore.spentSetup_revoked]; exact hspent)
  · have hkeys := AuthStore.liveSetup_newGrant h hlive
    obtain ⟨identity, hidentity⟩ := hthere
    have hkey : store'.liveSetup (.grant tokenHash) = some identityId := by
      rw [(hsame _).1, hkeys, if_pos rfl, hof]
    refine .issued hkey ?_ fun other id hne hother => ?_
    · rw [hi, hidentity]
      rfl
    · rw [(hsame _).1, hkeys, if_neg hne] at hother
      obtain ⟨hold, hid⟩ := AuthStore.liveSetup_revoked hother
      exact ⟨hold, .inl hid⟩

lemma setupMove_exchange {setup : Option (String × PasswordSetupPurpose)}
    (h : store.exchangePasswordSetupGrant input = .ok (setup, store')) :
    SetupMove store store' (.exchangeGrant input, .exchanged setup) := by
  rcases AuthStore.exchangePasswordSetupGrant_ok h with
    ⟨rfl, rfl⟩ | ⟨grant, sessions, hgrant, hlive, hexpires, hsessions, rfl, rfl⟩
  · exact setupMove_of_eq (fun _ => rfl) (fun _ hid => hid) rfl rfl
  · have hspent := AuthStore.spentSetup_exchanged hgrant hlive hexpires hsessions rfl
    have hkeys := AuthStore.liveSetup_exchanged hgrant hexpires hsessions rfl
    have hold : store.liveSetup (.grant input.grantTokenHash) = some grant.identityId := by
      simp [AuthStore.liveSetup, hgrant, hlive]
    refine ⟨fun id hid => hid, fun key hkey => ?_, fun key haccepted => ?_,
      .exchanged hold (by rw [hkeys, if_pos rfl]) fun other id hne hother => ?_⟩
    · rw [hspent, hkey, Bool.or_true]
    · obtain rfl : key = .grant input.grantTokenHash := of_decide_eq_true haccepted
      have hunused : grant.usedAt = none := by
        simp only [PasswordSetupGrant.isLive, Bool.and_eq_true, Option.isNone_iff_eq_none] at hlive
        exact hlive.1
      refine ⟨?_, by simp [hspent]⟩
      simp [AuthStore.spentSetup, hgrant, hunused]
    · rw [hkeys, if_neg hne] at hother
      split_ifs at hother with hgone
      exact ⟨hother, hgone⟩

lemma setupMove_consume {input : ConsumeSetupInput} {accepted : Bool}
    (h : store.consumePasswordSetupSession input = .ok (accepted, store')) :
    SetupMove store store' (.consumeSetup input, .consumed accepted) := by
  rcases AuthStore.consumePasswordSetupSession_ok h with
    ⟨rfl, rfl⟩ | ⟨setup, identity, hsetup, hlive, hexpires, hidentity, rfl, heq⟩
  · exact setupMove_of_eq (fun _ => rfl) (fun _ hid => hid) rfl rfl
  · obtain ⟨hi, -, hg, hs, -, -⟩ := AuthStore.revokeActiveFamilies_eq
      (store.passwordSet setup.identityId input) setup.identityId "password_reset" input.now
    rw [← heq] at hi hg hs
    have hkeys := AuthStore.setup_consumed hsetup hlive hexpires hg hs
    refine ⟨fun id hid => ?_, fun key hkey => ?_, fun key haccepted => ?_,
      .fewer fun key => (hkeys key).1⟩
    · rw [hi]
      simp only [AuthStore.passwordSet, AuthStore.revokeBrowserSessions, Table.lookup_update]
      split_ifs with hsame
      · rw [hidentity]
        rfl
      · exact hid
    · rw [(hkeys key).2, hkey, Bool.or_true]
    · obtain rfl : key = .session input.sessionHash := of_decide_eq_true haccepted
      have hunused : setup.consumedAt = none := by
        simp only [PasswordSetupSession.isLive, Bool.and_eq_true,
          Option.isNone_iff_eq_none] at hlive
        exact hlive.1
      refine ⟨?_, by simp [(hkeys _).2]⟩
      simp [AuthStore.spentSetup, hsetup, hunused]

lemma setupMove_onboard {input : OnboardInput} {employeeId : String} {refused : Option String}
    {ids : String × String} {answer : AuthAnswer}
    (h : store.onboard input employeeId identityId refused = .ok (ids, store')) :
    SetupMove store store' (.onboard input employeeId identityId refused, answer) := by
  obtain ⟨employees, identities, grants, -, hidentities, hgrants, rfl⟩ := AuthStore.onboard_ok h
  let onboarded : AuthStore := { store with employees, loginIdentities := identities }
  have hkeys : ∀ key, { onboarded with passwordSetupGrants := grants }.liveSetup key =
      if key = .grant input.grantTokenHash then some identityId else store.liveSetup key :=
    AuthStore.liveSetup_newGrant hgrants rfl
  have hlookup := Table.lookup_create hidentities
  refine ⟨fun id hid => ?_, fun key hkey => ?_, nofun,
    .issued ((hkeys (.grant input.grantTokenHash)).trans (if_pos rfl)) ?_
      fun other id hne hother => ?_⟩
  · dsimp only
    rw [hlookup]
    split_ifs
    · rfl
    · exact hid
  · have hbefore : onboarded.spentSetup key = true := hkey
    exact AuthStore.spentSetup_newGrant hgrants hbefore
  · dsimp only
    rw [hlookup, if_pos rfl]
    rfl
  · have hold := (hkeys other).symm.trans hother
    rw [if_neg hne] at hold
    exact ⟨hold, .inr (Table.create_fresh hidentities)⟩

lemma isSome_updateMany {κ ρ : Type} [DecidableEq κ] {t : Table κ ρ} {p : κ → ρ → Bool}
    {f : ρ → ρ} {k : κ} (h : (t.lookup k).isSome = true) :
    ((t.updateMany p f).lookup k).isSome = true := by
  rw [Table.lookup_updateMany, Option.isSome_map]
  exact h

/-- **What a transaction does to the keys.** -/
lemma setupMove_of_transact {request : AuthRequest} {answer : AuthAnswer}
    (h : store.transact hashOpaqueSecret request = .ok (answer, store')) :
    SetupMove store store' (request, answer) := by
  obtain ⟨houtside, -⟩ := AuthStore.transact_outside h
  cases request with
  | recordFailure identityId now =>
    cases h
    exact setupMove_of_eq (fun _ => rfl) (fun _ hid => isSome_updateMany hid) rfl rfl
  | resetFailures identityId =>
    cases h
    exact setupMove_of_eq (fun _ => rfl) (fun _ hid => isSome_updateMany hid) rfl rfl
  | replaceGrant input =>
    obtain ⟨store₁, hstore, h⟩ := bind_ok.mp h
    cases h
    obtain ⟨grants, hgrants, hthere, rfl⟩ := AuthStore.replacePasswordSetupGrant_ok hstore
    exact setupMove_renewed (fun _ => rfl) rfl hthere rfl rfl hgrants rfl rfl
  | exchangeGrant input =>
    obtain ⟨⟨setup, store₁⟩, hstore, h⟩ := bind_ok.mp h
    cases h
    exact setupMove_exchange hstore
  | consumeSetup input =>
    obtain ⟨⟨accepted, store₁⟩, hstore, h⟩ := bind_ok.mp h
    cases h
    exact setupMove_consume hstore
  | onboard input employeeId identityId refused =>
    obtain ⟨⟨ids, store₁⟩, hstore, h⟩ := bind_ok.mp h
    cases h
    exact setupMove_onboard hstore
  | resetPassword input =>
    obtain ⟨⟨account, store₁⟩, hstore, h⟩ := bind_ok.mp h
    cases h
    rcases AuthStore.resetPassword_ok hstore with
      ⟨-, rfl⟩ | ⟨identityId, grants, hgrants, hthere, rfl⟩
    · exact setupMove_of_eq (fun _ => rfl) (fun _ hid => hid) rfl rfl
    · exact setupMove_renewed (fun _ => rfl) rfl hthere rfl rfl hgrants rfl rfl
  | _ =>
    refine setupMove_of_eq (fun _ => rfl) (fun id hid => ?_)
      (congrArg (·.passwordSetupGrants) houtside) (congrArg (·.passwordSetupSessions) houtside)
    exact congrArg (·.loginIdentities) houtside ▸ hid

end

/-! ### Runs -/

lemma acceptedSetup_thrown (key : SetupKey) (request : AuthRequest) (error : WorkerError) :
    acceptedSetup key (request, .thrown error) = false := by
  cases request <;> rfl

lemma soundSetup_step {s : AuthSystem} (request : AuthRequest) (hs : SoundSetup s) :
    SoundSetup (s.step hashOpaqueSecret request) := by
  rcases AuthSystem.step_cases s request with ⟨answer, store, h, heq⟩ | ⟨error, heq⟩
  · rw [heq]
    exact soundSetup_of_move hs (setupMove_of_transact h)
  · rw [heq]
    exact soundSetup_of_move hs
      (setupMove_of_eq (acceptedSetup_thrown · request error) (fun _ hid => hid) rfl rfl)

namespace AuthStore

/-- The grants of an identity that are neither used nor revoked. -/
def liveGrants (store : AuthStore) (identityId : String) : List (String × PasswordSetupGrant) :=
  store.passwordSetupGrants.findMany fun _ grant => grant.identityId = identityId && grant.isLive

/-- The setup sessions of an identity that are neither consumed nor revoked. -/
def liveSetups (store : AuthStore) (identityId : String) :
    List (String × PasswordSetupSession) :=
  store.passwordSetupSessions.findMany fun _ setup =>
    setup.identityId = identityId && setup.isLive

lemma liveSetup_of_grant {store : AuthStore} {hash : String}
    (h : (hash, grant) ∈ store.liveGrants identityId) :
    store.liveSetup (.grant hash) = some identityId := by
  obtain ⟨hrow, hp⟩ := Table.mem_findMany.mp h
  simp only [Bool.and_eq_true, decide_eq_true_eq] at hp
  simp [liveSetup, hrow, hp]

lemma liveSetup_of_session {store : AuthStore} {hash : String}
    (h : (hash, setup) ∈ store.liveSetups identityId) :
    store.liveSetup (.session hash) = some identityId := by
  obtain ⟨hrow, hp⟩ := Table.mem_findMany.mp h
  simp only [Bool.and_eq_true, decide_eq_true_eq] at hp
  simp [liveSetup, hrow, hp]

end AuthStore

lemma SoundSetup.length_le_one {s : AuthSystem} (hs : SoundSetup s) (identityId : String) :
    (s.store.liveGrants identityId).length + (s.store.liveSetups identityId).length ≤ 1 := by
  have hgrants : (s.store.liveGrants identityId).length ≤ 1 := by
    refine Table.length_findMany_le_one fun k k' g g' hg hg' hp hp' => ?_
    have heq := hs.one_live _ _ identityId
      (AuthStore.liveSetup_of_grant (Table.mem_findMany.mpr ⟨hg, hp⟩))
      (AuthStore.liveSetup_of_grant (Table.mem_findMany.mpr ⟨hg', hp'⟩))
    exact SetupKey.grant.inj heq
  have hsessions : (s.store.liveSetups identityId).length ≤ 1 := by
    refine Table.length_findMany_le_one fun k k' g g' hg hg' hp hp' => ?_
    have heq := hs.one_live _ _ identityId
      (AuthStore.liveSetup_of_session (Table.mem_findMany.mpr ⟨hg, hp⟩))
      (AuthStore.liveSetup_of_session (Table.mem_findMany.mpr ⟨hg', hp'⟩))
    exact SetupKey.session.inj heq
  rcases hl : s.store.liveGrants identityId with _ | ⟨⟨hash, grant⟩, rest⟩
  · simpa using hsessions
  · rcases hr : s.store.liveSetups identityId with _ | ⟨⟨hash', setup⟩, rest'⟩
    · rw [hl] at hgrants
      simpa using hgrants
    · have heq := hs.one_live _ _ identityId
        (AuthStore.liveSetup_of_grant (hl ▸ List.mem_cons_self))
        (AuthStore.liveSetup_of_session (hr ▸ List.mem_cons_self))
      cases heq

/-- **Setting a password has one authority**: after any requests in any order, an identity has at
most one live grant or setup session, and each grant and each setup session was accepted at most
once. -/
theorem password_setup_single (requests : List AuthRequest) :
    let s := AuthSystem.after hashOpaqueSecret {} requests
    (∀ identityId,
        (s.store.liveGrants identityId).length + (s.store.liveSetups identityId).length ≤ 1) ∧
      (∀ tokenHash, s.answered (acceptedSetup (.grant tokenHash)) ≤ 1) ∧
      ∀ sessionHash, s.answered (acceptedSetup (.session sessionHash)) ≤ 1 := by
  intro s
  have hs : SoundSetup s :=
    Runs.run_invariant' (fun _ request h => soundSetup_step request h) requests soundSetup_empty
  have honce : ∀ key, s.answered (acceptedSetup key) ≤ 1 := by
    intro key
    exact (hs.once key).trans (Bool.toNat_le _)
  exact ⟨hs.length_le_one, fun tokenHash => honce _, fun sessionHash => honce _⟩

end SmeDataCenter
