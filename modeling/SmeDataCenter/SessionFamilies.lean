import SmeDataCenter.AuthEffects

/-!
# Families of sessions

A transaction does one of four things to the sessions and their credentials: nothing, a session
with its first generation, the next generation of an active one, or the end of some families.
From this an invariant of all runs: the active credential of a session is one, it stands for as
many rotations as were answered, and it belongs to an active session. A session that has ended
stays ended, so nothing of it is accepted again, in any run.
-/

namespace SmeDataCenter

open AuthStore (Ends)
open Fallible (bind_ok)

variable {hashOpaqueSecret : String → String}

/-! ### What a transaction does to families -/

/-- A transaction answered that a session was rotated. -/
def rotatedSession (sessionId : String) (entry : AuthRequest × AuthAnswer) : Bool :=
  match entry.2 with
  | .rotation (.rotated id _) => id = sessionId
  | _ => false

/-- No session was rotated. -/
def AuthAnswer.RotatedNone (answer : AuthAnswer) : Prop :=
  ∀ sessionId owner, answer ≠ .rotation (.rotated sessionId owner)

/-- What becomes of the sessions, their credentials and their tokens. -/
inductive FamilyMove (store store' : AuthStore) (request : AuthRequest) : AuthAnswer → Prop where
  | stays {answer : AuthAnswer} (hnone : answer.RotatedNone)
      (hsessions : store'.authSessions = store.authSessions)
      (hcredentials : store'.durableCredentials = store.durableCredentials)
      (htokens : store'.oAuthAccessTokens = store.oAuthAccessTokens) :
      FamilyMove store store' request answer
  | created {sessionId hash : String} {session : AuthSession} {credential : DurableCredential}
      (hlogin : request.ofLogin = true)
      (hfresh : store.authSessions.lookup sessionId = none)
      (hnew : store.durableCredentials.lookup hash = none)
      (hof : credential.sessionId = sessionId) (hfirst : credential.generation = 1)
      (hactive : session.status = .active)
      (hsessions : ∀ id, store'.authSessions.lookup id =
        if id = sessionId then some session else store.authSessions.lookup id)
      (hcredentials : ∀ k, store'.durableCredentials.lookup k =
        if k = hash then some credential else store.durableCredentials.lookup k) :
      FamilyMove store store' request .done
  | rotated {hash hash' : String} {old : DurableCredential} {session : AuthSession} (now : ℕ)
      (hold : store.durableCredentials.lookup hash = some old) (holdActive : old.status = .active)
      (hsession : store.authSessions.lookup old.sessionId = some session)
      (hactive : session.status = .active)
      (hnew : store.durableCredentials.lookup hash' = none)
      (hsessions : store'.authSessions = store.authSessions)
      (hcredentials : ∀ k, store'.durableCredentials.lookup k =
        if k = hash' then some
          { sessionId := old.sessionId, generation := old.generation + 1, createdAt := now }
        else (store.durableCredentials.lookup k).map fun credential =>
          if k = hash then { credential with status := .consumed, consumedAt := some now }
          else credential)
      (htokens : ∀ k token, store'.oAuthAccessTokens.lookup k = some token →
        store.oAuthAccessTokens.lookup k = some token ∨
          (token.sessionId = old.sessionId ∧ token.owner = session.owner)) :
      FamilyMove store store' request (.rotation (.rotated old.sessionId session.owner))
  | ended {answer : AuthAnswer} {ids : List String} {reason : String} {now : ℕ}
      (hnone : answer.RotatedNone) (hends : Ends ids reason now store store') :
      FamilyMove store store' request answer

/-- **One transaction moves families in one of four ways.** -/
lemma familyMove_of_transact {store store' : AuthStore} {request : AuthRequest}
    {answer : AuthAnswer}
    (h : store.transact hashOpaqueSecret request = .ok (answer, store')) :
    FamilyMove store store' request answer := by
  obtain ⟨houtside, hanswer⟩ := AuthStore.transact_outside h
  cases request with
  | consumeSetup input =>
    obtain ⟨⟨accepted, store₁⟩, hstore, h⟩ := bind_ok.mp h
    cases h
    rcases AuthStore.consumePasswordSetupSession_ok hstore with
      ⟨-, rfl⟩ | ⟨setup, identity, -, -, -, -, -, rfl⟩
    · exact .stays (by rintro _ _ ⟨⟩) rfl rfl rfl
    · exact .ended (by rintro _ _ ⟨⟩) ((AuthStore.ends_revokeActiveFamilies ..).congr_left rfl rfl rfl)
  | createSession input sessionId =>
    obtain ⟨store₁, hstore, h⟩ := bind_ok.mp h
    cases h
    obtain ⟨sessions, credentials, tokens, hsessions, hcredentials, -, -, rfl⟩ :=
      AuthStore.createSessionBundle_ok hstore
    exact .created rfl (Table.create_fresh hsessions) (Table.create_fresh hcredentials) rfl rfl rfl
      (Table.lookup_create hsessions) (Table.lookup_create hcredentials)
  | rotate input =>
    obtain ⟨⟨result, store₁⟩, hstore, h⟩ := bind_ok.mp h
    cases h
    rcases AuthStore.rotateDurableCredential_ok hstore with
      ⟨rfl, rfl⟩ | ⟨credential, reason, -, hresult, rfl⟩ |
        ⟨credential, session, credentials, tokens, hold, holdActive, hsession, hactive, -,
          hcredentials, htokens, rfl, rfl⟩
    · exact .stays (by rintro _ _ ⟨⟩) rfl rfl rfl
    · refine .ended ?_ (AuthStore.ends_revokeSessionFamily ..)
      rcases hresult with rfl | rfl <;> rintro _ _ ⟨⟩
    · have hfresh := Table.create_fresh hcredentials
      rw [Table.lookup_updateMany, Option.map_eq_none_iff] at hfresh
      refine .rotated input.now hold holdActive hsession hactive hfresh rfl (fun k => ?_)
        fun k token htoken => ?_
      · rw [Table.lookup_create hcredentials, Table.lookup_updateMany]
        congr 1
        by_cases hpresented : k = input.presentedCredentialHash
        · subst hpresented
          simp [hold, holdActive]
        · simp [hpresented]
      · dsimp only at htoken
        rw [Table.lookup_create htokens] at htoken
        split_ifs at htoken
        · obtain rfl := Option.some.inj htoken
          exact .inr ⟨rfl, rfl⟩
        · exact .inl htoken
  | endElapsed sessionId now =>
    cases h
    exact .ended (by rintro _ _ ⟨⟩) (AuthStore.ends_revokeSessionFamily ..)
  | logout credentialHash reason now =>
    cases hfound : store.durableCredentials.lookup credentialHash with
    | none =>
      simp only [AuthStore.transact, AuthStore.revokeSessionByDurableCredential, hfound] at h
      cases h
      exact .stays (by rintro _ _ ⟨⟩) rfl rfl rfl
    | some credential =>
      simp only [AuthStore.transact, AuthStore.revokeSessionByDurableCredential, hfound] at h
      cases h
      exact .ended (by rintro _ _ ⟨⟩) (AuthStore.ends_revokeSessionFamily ..)
  | revokeIdentity identityId reason now =>
    cases h
    exact .ended (by rintro _ _ ⟨⟩) ((AuthStore.ends_revokeActiveFamilies ..).congr_left rfl rfl rfl)
  | _ =>
    exact .stays (fun _ _ heq => by cases heq ▸ hanswer) (congrArg (·.authSessions) houtside)
      (congrArg (·.durableCredentials) houtside) (congrArg (·.oAuthAccessTokens) houtside)

/-! ### The invariant -/

/-- The active credential of a session is one, it stands for as many rotations as were answered,
and it belongs to an active session. -/
structure SoundFamilies (s : AuthSystem) : Prop where
  has_session : ∀ hash credential, s.store.durableCredentials.lookup hash = some credential →
    ∃ session, s.store.authSessions.lookup credential.sessionId = some session
  active_session : ∀ hash credential, s.store.durableCredentials.lookup hash = some credential →
    credential.status = .active → ∃ session,
      s.store.authSessions.lookup credential.sessionId = some session ∧ session.status = .active
  one_active : ∀ hash hash' credential credential',
    s.store.durableCredentials.lookup hash = some credential →
    s.store.durableCredentials.lookup hash' = some credential' → credential.status = .active →
    credential'.status = .active → credential.sessionId = credential'.sessionId → hash = hash'
  generation : ∀ hash credential, s.store.durableCredentials.lookup hash = some credential →
    credential.status = .active →
    credential.generation = s.answered (rotatedSession credential.sessionId) + 1
  unborn : ∀ id, s.store.authSessions.lookup id = none → s.answered (rotatedSession id) = 0

lemma soundFamilies_empty : SoundFamilies {} where
  has_session hash credential h := by simp at h
  active_session hash credential h := by simp at h
  one_active hash hash' credential credential' h := by simp at h
  generation hash credential h := by simp at h
  unborn id _ := rfl

lemma rotatedSession_none {answer : AuthAnswer} (h : answer.RotatedNone) (id : String)
    (request : AuthRequest) : rotatedSession id (request, answer) = false := by
  unfold rotatedSession
  split
  · next owner heq => exact absurd heq (h _ _)
  · rfl

lemma answered_none {answer : AuthAnswer} (h : answer.RotatedNone) (store store' : AuthStore)
    (log : List (AuthRequest × AuthAnswer)) (request : AuthRequest) (id : String) :
    AuthSystem.answered ⟨store', log ++ [(request, answer)]⟩ (rotatedSession id) =
      AuthSystem.answered ⟨store, log⟩ (rotatedSession id) := by
  rw [AuthSystem.answered_append store store', rotatedSession_none h]
  rfl

variable {credential : DurableCredential}

variable {now : ℕ} {hash : String}

/-- A credential that is active after families ended was active before, and its session is not
one of them. -/
lemma AuthStore.Ends.active_before {ids : List String} {reason : String} {store store' : AuthStore}
    (h : Ends ids reason now store store')
    (hc : store'.durableCredentials.lookup hash = some credential)
    (hactive : credential.status = .active) :
    store.durableCredentials.lookup hash = some credential ∧ credential.sessionId ∉ ids := by
  rw [h.credentials, Option.map_eq_some_iff] at hc
  obtain ⟨old, hold, heq⟩ := hc
  split_ifs at heq with hid
  · subst heq
    simp at hactive
  · subst heq
    exact ⟨hold, hid⟩

variable {session : AuthSession} {id sessionId : String}

section

variable {store store' : AuthStore} {log : List (AuthRequest × AuthAnswer)}
  {request : AuthRequest} {answer : AuthAnswer}

lemma SoundFamilies.session_ne (hs : SoundFamilies ⟨store, log⟩)
    (hfresh : store.authSessions.lookup sessionId = none)
    (hc : store.durableCredentials.lookup hash = some credential)
    (hactive : credential.status = .active) : credential.sessionId ≠ sessionId := by
  rintro rfl
  obtain ⟨session, hsession, -⟩ := hs.active_session hash credential hc hactive
  dsimp only at hsession
  rw [hfresh] at hsession
  cases hsession

lemma soundFamilies_created (hs : SoundFamilies ⟨store, log⟩)
    (hfresh : store.authSessions.lookup sessionId = none) (hof : credential.sessionId = sessionId)
    (hfirst : credential.generation = 1) (hactive : session.status = .active)
    (hsessions : ∀ id, store'.authSessions.lookup id =
      if id = sessionId then some session else store.authSessions.lookup id)
    (hcredentials : ∀ k, store'.durableCredentials.lookup k =
      if k = hash then some credential else store.durableCredentials.lookup k) :
    SoundFamilies ⟨store', log ++ [(request, .done)]⟩ := by
  have hnone : AuthAnswer.done.RotatedNone := nofun
  -- an active credential is the new one, or one of another session
  have hcases : ∀ k c, store'.durableCredentials.lookup k = some c → c.status = .active →
      (k = hash ∧ c = credential) ∨
        (store.durableCredentials.lookup k = some c ∧ c.sessionId ≠ sessionId) := by
    intro k c hc hcActive
    rw [hcredentials] at hc
    split_ifs at hc with hk
    · exact .inl ⟨hk, (Option.some.inj hc).symm⟩
    · exact .inr ⟨hc, hs.session_ne hfresh hc hcActive⟩
  constructor
  · intro k c hc
    dsimp only at hc ⊢
    rw [hcredentials] at hc
    rw [hsessions]
    split_ifs at hc with hk
    · obtain rfl := Option.some.inj hc
      exact ⟨session, if_pos hof⟩
    · split_ifs with hid
      · exact ⟨session, rfl⟩
      · exact hs.has_session k c hc
  · intro k c hc hcActive
    dsimp only
    rcases hcases k c hc hcActive with ⟨-, rfl⟩ | ⟨hold, hne⟩
    · exact ⟨session, by rw [hsessions, if_pos hof], hactive⟩
    · obtain ⟨found, hfound, hlive⟩ := hs.active_session k c hold hcActive
      exact ⟨found, by rw [hsessions, if_neg hne]; exact hfound, hlive⟩
  · intro k k' c c' hc hc' hcActive hcActive' hsame
    rcases hcases k c hc hcActive with ⟨rfl, rfl⟩ | ⟨hold, hne⟩ <;>
      rcases hcases k' c' hc' hcActive' with ⟨rfl, rfl⟩ | ⟨hold', hne'⟩
    · rfl
    · exact absurd (hsame.symm.trans hof) hne'
    · exact absurd (hsame.trans hof) hne
    · exact hs.one_active k k' c c' hold hold' hcActive hcActive' hsame
  · intro k c hc hcActive
    rw [answered_none hnone store]
    rcases hcases k c hc hcActive with ⟨-, rfl⟩ | ⟨hold, -⟩
    · rw [hfirst, hof, hs.unborn sessionId hfresh]
    · exact hs.generation k c hold hcActive
  · intro id hid
    rw [answered_none hnone store]
    dsimp only at hid
    rw [hsessions] at hid
    split_ifs at hid
    exact hs.unborn id hid

lemma soundFamilies_rotated {hash' : String} {old : DurableCredential}
    (hs : SoundFamilies ⟨store, log⟩) (hold : store.durableCredentials.lookup hash = some old)
    (holdActive : old.status = .active) (hsessions : store'.authSessions = store.authSessions)
    (hcredentials : ∀ k, store'.durableCredentials.lookup k =
      if k = hash' then some
        { sessionId := old.sessionId, generation := old.generation + 1, createdAt := now }
      else (store.durableCredentials.lookup k).map fun credential =>
        if k = hash then { credential with status := .consumed, consumedAt := some now }
        else credential) :
    SoundFamilies
      ⟨store', log ++ [(request, .rotation (.rotated old.sessionId session.owner))]⟩ := by
  have hcount : ∀ id, AuthSystem.answered
      ⟨store', log ++ [(request, .rotation (.rotated old.sessionId session.owner))]⟩
      (rotatedSession id) = AuthSystem.answered ⟨store, log⟩ (rotatedSession id) +
        if old.sessionId = id then 1 else 0 := by
    intro id
    rw [AuthSystem.answered_append store store']
    simp [rotatedSession]
  -- an active credential is the next one, or one of another session
  have hcases : ∀ k c, store'.durableCredentials.lookup k = some c → c.status = .active →
      (k = hash' ∧ c = { sessionId := old.sessionId, generation := old.generation + 1,
                         createdAt := now }) ∨
        (store.durableCredentials.lookup k = some c ∧ c.sessionId ≠ old.sessionId) := by
    intro k c hc hcActive
    rw [hcredentials] at hc
    by_cases hk : k = hash'
    · rw [if_pos hk] at hc
      exact .inl ⟨hk, (Option.some.inj hc).symm⟩
    · rw [if_neg hk] at hc
      obtain ⟨c', hc', heq⟩ := Option.map_eq_some_iff.mp hc
      by_cases hpresented : k = hash
      · rw [if_pos hpresented] at heq
        subst heq
        cases hcActive
      · rw [if_neg hpresented] at heq
        subst heq
        refine .inr ⟨hc', fun hsame => hpresented ?_⟩
        exact hs.one_active k hash c' old hc' hold hcActive holdActive hsame
  constructor
  · intro k c hc
    dsimp only at hc ⊢
    rw [hsessions]
    rw [hcredentials] at hc
    by_cases hk : k = hash'
    · rw [if_pos hk] at hc
      obtain rfl := Option.some.inj hc
      exact hs.has_session hash old hold
    · rw [if_neg hk] at hc
      obtain ⟨c', hc', heq⟩ := Option.map_eq_some_iff.mp hc
      have hsame : c'.sessionId = c.sessionId := by
        rw [← heq]
        split <;> rfl
      exact hsame ▸ hs.has_session k c' hc'
  · intro k c hc hcActive
    dsimp only
    rw [hsessions]
    rcases hcases k c hc hcActive with ⟨-, rfl⟩ | ⟨hc', -⟩
    · exact hs.active_session hash old hold holdActive
    · exact hs.active_session k c hc' hcActive
  · intro k k' c c' hc hc' hcActive hcActive' hsame
    rcases hcases k c hc hcActive with ⟨rfl, rfl⟩ | ⟨hk, hne⟩ <;>
      rcases hcases k' c' hc' hcActive' with ⟨rfl, rfl⟩ | ⟨hk', hne'⟩
    · rfl
    · exact absurd hsame.symm hne'
    · exact absurd hsame hne
    · exact hs.one_active k k' c c' hk hk' hcActive hcActive' hsame
  · intro k c hc hcActive
    rw [hcount]
    rcases hcases k c hc hcActive with ⟨-, rfl⟩ | ⟨hc', hne⟩
    · rw [if_pos rfl]
      exact congrArg (· + 1) (hs.generation hash old hold holdActive)
    · rw [if_neg (Ne.symm hne)]
      exact hs.generation k c hc' hcActive
  · intro id hid
    dsimp only at hid
    rw [hsessions] at hid
    obtain ⟨found, hfound, -⟩ := hs.active_session hash old hold holdActive
    have hne : old.sessionId ≠ id := by
      rintro rfl
      dsimp only at hfound
      rw [hid] at hfound
      cases hfound
    rw [hcount, if_neg hne]
    exact hs.unborn id hid

lemma soundFamilies_of_move (hs : SoundFamilies ⟨store, log⟩)
    (hmove : FamilyMove store store' request answer) :
    SoundFamilies ⟨store', log ++ [(request, answer)]⟩ := by
  cases hmove with
  | stays hnone hsessions hcredentials _ =>
    constructor
    · intro hash credential
      dsimp only
      rw [hcredentials, hsessions]
      exact hs.has_session hash credential
    · intro hash credential
      dsimp only
      rw [hcredentials, hsessions]
      exact hs.active_session hash credential
    · intro hash hash' credential credential'
      dsimp only
      rw [hcredentials]
      exact hs.one_active hash hash' credential credential'
    · intro hash credential
      rw [answered_none hnone store]
      dsimp only
      rw [hcredentials]
      exact hs.generation hash credential
    · intro id
      rw [answered_none hnone store]
      dsimp only
      rw [hsessions]
      exact hs.unborn id
  | created _ hfresh hnew hof hfirst hactive hsessions hcredentials =>
    exact soundFamilies_created hs hfresh hof hfirst hactive hsessions hcredentials
  | rotated now hold holdActive hsession hactive hnew hsessions hcredentials _ =>
    exact soundFamilies_rotated hs hold holdActive hsessions hcredentials
  | ended hnone hends =>
    constructor
    · intro hash credential hc
      dsimp only at hc ⊢
      rw [hends.credentials, Option.map_eq_some_iff] at hc
      obtain ⟨old, hold, heq⟩ := hc
      have hsame : credential.sessionId = old.sessionId := by
        rw [← heq]
        split <;> simp
      obtain ⟨session, hsession⟩ := hs.has_session hash old hold
      dsimp only at hsession
      rw [hends.sessions, hsame, hsession]
      exact ⟨_, rfl⟩
    · intro hash credential hc hactive
      obtain ⟨hold, hid⟩ := hends.active_before hc hactive
      obtain ⟨session, hsession, hlive⟩ := hs.active_session hash credential hold hactive
      refine ⟨session, ?_, hlive⟩
      dsimp only
      rw [hends.sessions, hsession]
      simp [hid]
    · intro hash hash' credential credential' hc hc' hactive hactive'
      exact hs.one_active hash hash' credential credential' (hends.active_before hc hactive).1
        (hends.active_before hc' hactive').1 hactive hactive'
    · intro hash credential hc hactive
      rw [answered_none hnone store]
      exact hs.generation hash credential (hends.active_before hc hactive).1 hactive
    · intro id hid
      rw [answered_none hnone store]
      dsimp only at hid
      rw [hends.sessions, Option.map_eq_none_iff] at hid
      exact hs.unborn id hid

lemma FamilyMove.session_kept (hmove : FamilyMove store store' request answer)
    (h : store.authSessions.lookup id = some session) :
    ∃ session', store'.authSessions.lookup id = some session' ∧
      session'.absoluteExpiresAt = session.absoluteExpiresAt ∧
      (session.status ≠ .active → session'.status ≠ .active) := by
  cases hmove with
  | stays _ hsessions _ _ => exact ⟨session, hsessions ▸ h, rfl, fun hended => hended⟩
  | created _ hfresh _ _ _ _ hsessions _ =>
    refine ⟨session, ?_, rfl, fun hended => hended⟩
    rw [hsessions, if_neg, h]
    rintro rfl
    rw [hfresh] at h
    cases h
  | rotated _ _ _ _ _ _ hsessions _ _ => exact ⟨session, hsessions ▸ h, rfl, fun hended => hended⟩
  | ended _ hends =>
    refine ⟨_, (hends.sessions id).trans (congrArg _ h), ?_, ?_⟩
    · dsimp only
      split_ifs <;> rfl
    · intro hended
      dsimp only
      rw [if_neg fun hboth => hended hboth.2]
      exact hended

end

/-! ### Runs -/

lemma soundFamilies_step {s : AuthSystem} (request : AuthRequest) (hs : SoundFamilies s) :
    SoundFamilies (s.step hashOpaqueSecret request) := by
  rcases AuthSystem.step_cases s request with ⟨answer, store, h, heq⟩ | ⟨error, heq⟩
  · rw [heq]
    exact soundFamilies_of_move hs (familyMove_of_transact h)
  · rw [heq]
    exact soundFamilies_of_move hs (.stays nofun rfl rfl rfl)

variable (hashOpaqueSecret) in
lemma session_kept_step (s : AuthSystem) (request : AuthRequest)
    (h : s.store.authSessions.lookup id = some session) :
    ∃ session', (s.step hashOpaqueSecret request).store.authSessions.lookup id = some session' ∧
      session'.absoluteExpiresAt = session.absoluteExpiresAt ∧
      (session.status ≠ .active → session'.status ≠ .active) := by
  rcases AuthSystem.step_cases s request with ⟨answer, store, ht, heq⟩ | ⟨error, heq⟩
  · rw [heq]
    exact (familyMove_of_transact ht).session_kept h
  · rw [heq]
    exact ⟨session, h, rfl, fun hended => hended⟩

variable (hashOpaqueSecret) in
lemma session_kept_after (s : AuthSystem) (requests : List AuthRequest)
    (h : s.store.authSessions.lookup id = some session) :
    ∃ session', (s.after hashOpaqueSecret requests).store.authSessions.lookup id =
        some session' ∧
      session'.absoluteExpiresAt = session.absoluteExpiresAt ∧
      (session.status ≠ .active → session'.status ≠ .active) := by
  induction requests generalizing s session with
  | nil => exact ⟨session, h, rfl, fun hended => hended⟩
  | cons request requests ih =>
    obtain ⟨session₁, h₁, hlife₁, hended₁⟩ := session_kept_step hashOpaqueSecret s request h
    obtain ⟨session₂, h₂, hlife₂, hended₂⟩ := ih (s.step hashOpaqueSecret request) h₁
    exact ⟨session₂, h₂, hlife₂.trans hlife₁, fun hended => hended₂ (hended₁ hended)⟩

namespace AuthStore

/-- The active credentials of a session. -/
def activeCredentials (store : AuthStore) (sessionId : String) :
    List (String × DurableCredential) :=
  store.durableCredentials.findMany fun _ credential =>
    credential.sessionId = sessionId && credential.status = .active

/-- A session is not active, and no credential and no token of it is good. -/
structure FamilyEnded (store : AuthStore) (sessionId : String) : Prop where
  session : ∀ session, store.authSessions.lookup sessionId = some session →
    session.status ≠ .active
  credentials : ∀ hash credential, store.durableCredentials.lookup hash = some credential →
    credential.sessionId = sessionId → credential.status = .revoked
  tokens : ∀ hash token, store.oAuthAccessTokens.lookup hash = some token →
    token.sessionId = sessionId → token.revokedAt.isSome = true

/-- No token of a session is accepted at a time, and none of its credentials is rotated. -/
def RefusesSession (store : AuthStore) (sessionId : String) (now : ℕ) : Prop :=
  (∀ hash token, store.oAuthAccessTokens.lookup hash = some token →
      token.sessionId = sessionId → ∀ record, store.readAccessToken hash now ≠ .accepted record) ∧
    ∀ input credential, store.durableCredentials.lookup input.presentedCredentialHash =
        some credential → credential.sessionId = sessionId → input.now = now →
      ∀ id owner store', store.rotateDurableCredential input ≠ .ok (.rotated id owner, store')

lemma Ends.familyEnded {ids : List String} {reason : String} {store store' : AuthStore}
    (h : Ends ids reason now store store') (hid : id ∈ ids) :
    store'.FamilyEnded id where
  session session hsession := by
    rw [h.sessions, Option.map_eq_some_iff] at hsession
    obtain ⟨old, -, rfl⟩ := hsession
    split_ifs with hactive
    · exact endedSession_status_ne reason now old
    · exact fun hold => hactive ⟨hid, hold⟩
  credentials hash credential hc hof := by
    rw [h.credentials, Option.map_eq_some_iff] at hc
    obtain ⟨old, -, rfl⟩ := hc
    split_ifs at hof ⊢ with hold
    · exact revokedCredential_status now old
    · exact absurd (hof ▸ hid) hold
  tokens hash token ht hof := by
    rw [h.tokens, Option.map_eq_some_iff] at ht
    obtain ⟨old, -, rfl⟩ := ht
    split_ifs at hof ⊢ with hold
    · exact revokedToken_revoked now old
    · exact absurd (hof ▸ hid) hold

lemma refusesSession_of {store : AuthStore} (h : store.authSessions.lookup sessionId = some session)
    (hover : session.status ≠ .active ∨ session.absoluteExpiresAt ≤ now) :
    store.RefusesSession sessionId now := by
  constructor
  · rintro hash token htoken rfl record haccepted
    unfold readAccessToken at haccepted
    rw [htoken] at haccepted
    dsimp only at haccepted
    rw [h] at haccepted
    split at haccepted
    · next found identity employee hfound hidentity hemployee =>
      obtain rfl := Option.some.inj hfound
      split_ifs at haccepted with hrefused helapsed
      rcases hover with hended | hlate
      · simp [hended] at hrefused
      · exact helapsed hlate
    · cases haccepted
  · rintro input credential hcredential rfl rfl id owner store' hrotated
    rcases rotateDurableCredential_ok hrotated with
      ⟨heq, -⟩ | ⟨_, _, -, heq, -⟩ | ⟨old, found, _, _, hold, -, hfound, hactive, hlife, -⟩
    · cases heq
    · rcases heq with heq | heq <;> cases heq
    · rw [hcredential] at hold
      obtain rfl := Option.some.inj hold
      rw [h] at hfound
      obtain rfl := Option.some.inj hfound
      rcases hover with hended | hlate
      · exact hended hactive
      · omega

end AuthStore

/-- The credential a request presents. -/
def AuthRequest.presents : AuthRequest → Option String
  | .rotate input => some input.presentedCredentialHash
  | .logout credentialHash _ _ => some credentialHash
  | _ => none

lemma familyEnded_of_presents {s : AuthSystem} (hs : SoundFamilies s)
    (h : s.store.durableCredentials.lookup hash = some credential)
    (hstatus : credential.status ≠ .active) {request : AuthRequest}
    (hpresents : request.presents = some hash) :
    (s.step hashOpaqueSecret request).store.FamilyEnded credential.sessionId := by
  cases request with
  | rotate input =>
    obtain rfl := Option.some.inj hpresents
    obtain ⟨session, hsession⟩ := hs.has_session _ credential h
    have hrotate : s.store.rotateDurableCredential input =
        .ok (.replayed credential.sessionId, s.store.revokeSessionFamily credential.sessionId
          "credential_replay" input.now) := by
      simp [AuthStore.rotateDurableCredential, h, hsession, hstatus]
    have htransact : s.store.transact hashOpaqueSecret (.rotate input) =
        .ok (.rotation (.replayed credential.sessionId),
          s.store.revokeSessionFamily credential.sessionId "credential_replay" input.now) :=
      bind_ok.mpr ⟨_, hrotate, rfl⟩
    rw [AuthSystem.step_of_ok htransact]
    exact (AuthStore.ends_revokeSessionFamily ..).familyEnded (List.mem_singleton_self _)
  | logout credentialHash reason now =>
    obtain rfl := Option.some.inj hpresents
    have hlogout : s.store.transact hashOpaqueSecret (.logout credentialHash reason now) =
        .ok (.loggedOut true, s.store.revokeSessionFamily credential.sessionId reason now) := by
      simp [AuthStore.transact, AuthStore.revokeSessionByDurableCredential, h]
    rw [AuthSystem.step_of_ok hlogout]
    exact (AuthStore.ends_revokeSessionFamily ..).familyEnded (List.mem_singleton_self _)
  | _ => cases hpresents

/-- **Families of sessions are safe**: after any requests in any order, a session has at most one
active credential, whose generation is one more than the rotations that were answered; whoever
presents another credential of a session ends its whole family; and once a session has ended, or
outlived its lifetime, no token and no credential of it is accepted, whatever comes later. -/
theorem session_families_safe (requests : List AuthRequest) :
    let s := AuthSystem.after hashOpaqueSecret {} requests
    (∀ sessionId, (s.store.activeCredentials sessionId).length ≤ 1 ∧
      ∀ hash credential, (hash, credential) ∈ s.store.activeCredentials sessionId →
        credential.generation = s.answered (rotatedSession sessionId) + 1) ∧
    (∀ hash credential, s.store.durableCredentials.lookup hash = some credential →
      credential.status ≠ .active → ∀ request : AuthRequest, request.presents = some hash →
        (s.step hashOpaqueSecret request).store.FamilyEnded credential.sessionId) ∧
    ∀ sessionId session, s.store.authSessions.lookup sessionId = some session →
      ∀ now, session.status ≠ .active ∨ session.absoluteExpiresAt ≤ now →
        ∀ later, (s.after hashOpaqueSecret later).store.RefusesSession sessionId now := by
  intro s
  have hs : SoundFamilies s :=
    Runs.run_invariant' (fun _ request h => soundFamilies_step request h) requests
      soundFamilies_empty
  refine ⟨fun sessionId => ⟨?_, ?_⟩, fun hash credential h hstatus request hpresents =>
    familyEnded_of_presents hs h hstatus hpresents, ?_⟩
  · refine Table.length_findMany_le_one fun k k' c c' hc hc' hp hp' => ?_
    simp only [Bool.and_eq_true, decide_eq_true_eq] at hp hp'
    exact hs.one_active k k' c c' hc hc' hp.2 hp'.2 (hp.1.trans hp'.1.symm)
  · intro hash credential hmem
    obtain ⟨hc, hp⟩ := Table.mem_findMany.mp hmem
    simp only [Bool.and_eq_true, decide_eq_true_eq] at hp
    obtain ⟨rfl, hactive⟩ := hp
    exact hs.generation hash credential hc hactive
  · intro sessionId session hsession now hover later
    obtain ⟨session', hsession', hlife, hended⟩ :=
      session_kept_after hashOpaqueSecret s later hsession
    refine AuthStore.refusesSession_of hsession' ?_
    rcases hover with hover | hover
    · exact .inl (hended hover)
    · exact .inr (hlife ▸ hover)

end SmeDataCenter
