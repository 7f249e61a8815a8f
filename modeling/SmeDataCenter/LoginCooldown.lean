import SmeDataCenter.LoginAttempts

/-!
# The cooldown of a login

A login looks for a cooldown when it begins, and not again when its check has ended. If no
cooldown that began in between is still running at the end of a check that succeeds, then a
cooldown is effective in every run: no login is accepted whose check ended in one, and none
clears a counter. A check that was begun before the fifth failure and ends after it is the
exception, and the login is accepted.
-/

namespace SmeDataCenter
namespace LoginSystem

variable {verifyPassword : String → String → Bool} {hashOpaqueSecret : String → String}

/-! ### What is asked of a state and of a step -/

/-- How the check of an attempt ended. -/
def checkOf : LoginStage → Option LoginCheck
  | .passed check | .mismatched _ check | .accepted check => some check
  | _ => none

/-- The failure counter of an identity did not fall, and its cooldown is not gone. -/
def KeepsFailures (row row' : LoginIdentity) : Prop :=
  row.failedAttemptCount ≤ row'.failedAttemptCount ∧
    (row.cooldownUntil.isSome = true → row'.cooldownUntil.isSome = true)

variable (verifyPassword hashOpaqueSecret) in
/-- No login was accepted whose check ended in a cooldown, and the next step of one whose check
did clears nothing. -/
def CooldownEffective (s : LoginSystem) : Prop :=
  ∀ id attempt check, s.attempts.lookup id = some attempt → checkOf attempt.stage = some check →
    check.coolingDown = true → (∀ check, attempt.stage ≠ .accepted check) ∧
      ∀ identityId row row', s.store.loginIdentities.lookup identityId = some row →
        (s.step verifyPassword hashOpaqueSecret (.advance id)).store.loginIdentities.lookup
          identityId = some row' → KeepsFailures row row'

/-- The identity has the cooldown that was read, or one that is over. -/
def knownCooldown (s : LoginSystem) (identity : LoginIdentityRecord) : Bool :=
  (s.store.loginIdentities.lookup identity.owner.identityId).all fun row =>
    row.cooldownUntil = identity.cooldownUntil || !row.coolingDown s.clock

variable (verifyPassword) in
/-- When the check of a right password ends, no cooldown that began since is running. -/
def checksInTime (s : LoginSystem) : LoginStep → Bool
  | .advance id => (s.attempts.lookup id).all fun attempt =>
    match attempt.stage, attempt.identity with
    | .verifying _, some identity =>
      !attempt.password?.any (verifyPassword attempt.password) || s.knownCooldown identity
    | _, _ => true
  | _ => true

variable (verifyPassword) in
/-- A step that keeps to it. -/
def ChecksInTime (s : LoginSystem) (op : LoginStep) : Prop := s.checksInTime verifyPassword op = true

instance (s : LoginSystem) (op : LoginStep) : Decidable (ChecksInTime verifyPassword s op) :=
  inferInstanceAs (Decidable (_ = true))

/-! ### The invariant -/

/-- What an attempt relies on at its stage. -/
def SoundStage (clock : ℕ) (attempt : LoginAttempt) : Prop :=
  match attempt.stage with
  | .verifying now => now ≤ clock ∧ ∀ identity, attempt.identity = some identity →
      identity.cooldownUntil.all (· ≤ now) = true
  | .mismatched now check => now ≤ check.time
  | .passed check | .accepted check => check.coolingDown = false
  | _ => True

structure SoundLogins (s : LoginSystem) : Prop where
  /-- A cooldown comes with five failures. -/
  earned : ∀ id row, s.store.loginIdentities.lookup id = some row →
    row.cooldownUntil.isSome = true → 5 ≤ row.failedAttemptCount
  stages : ∀ id attempt, s.attempts.lookup id = some attempt → SoundStage s.clock attempt

variable {attempt : LoginAttempt}

lemma SoundStage.mono {clock clock' : ℕ} (h : SoundStage clock attempt) (hle : clock ≤ clock') :
    SoundStage clock' attempt := by
  unfold SoundStage at *
  split at h
  · exact ⟨h.1.trans hle, h.2⟩
  · exact h
  · exact h
  · exact h
  · trivial

lemma soundLogins_empty : SoundLogins {} where
  earned id row h := by simp at h
  stages id attempt h := by simp at h

variable {s : LoginSystem}

lemma SoundLogins.of_same {s' : LoginSystem} (hs : SoundLogins s)
    (hi : s'.store.loginIdentities = s.store.loginIdentities) (ha : s'.attempts = s.attempts)
    (hc : s.clock ≤ s'.clock) : SoundLogins s' where
  earned id row h := hs.earned id row (hi ▸ h)
  stages id attempt h := (hs.stages id attempt (ha ▸ h)).mono hc

lemma SoundLogins.moveTo (hs : SoundLogins s) {store : AuthStore} {id : String} {stage : LoginStage}
    (hattempt : s.attempts.lookup id = some attempt)
    (hearned : ∀ id row, store.loginIdentities.lookup id = some row →
      row.cooldownUntil.isSome = true → 5 ≤ row.failedAttemptCount)
    (hstage : SoundStage s.clock { attempt with stage }) :
    SoundLogins ({ s with store }.moveTo id stage) where
  earned := hearned
  stages other found h := by
    simp only [LoginSystem.moveTo, Table.lookup_update] at h
    split_ifs at h with hother
    · rw [hattempt] at h
      obtain rfl := Option.some.inj h
      exact hstage
    · exact hs.stages other found h

/-! ### The writes of a login -/

lemma lookup_recordLoginFailure (store : AuthStore) (identityId : String) (now : ℕ) (id : String) :
    (store.recordLoginFailure identityId now).2.loginIdentities.lookup id =
      (store.loginIdentities.lookup id).map fun row =>
        if id = identityId ∧ row.cooldownUntil.all (· ≤ now) = true then row.afterFailure now
        else row := by
  simp [AuthStore.recordLoginFailure]

lemma earned_afterFailure {row : LoginIdentity} {now : ℕ}
    (h : (row.afterFailure now).cooldownUntil.isSome = true) :
    5 ≤ (row.afterFailure now).failedAttemptCount := by
  simp only [LoginIdentity.afterFailure] at h ⊢
  split_ifs at h with hfew
  · cases h
  · omega

lemma keepsFailures_afterFailure {row : LoginIdentity} (now : ℕ)
    (hearned : row.cooldownUntil.isSome = true → 5 ≤ row.failedAttemptCount) :
    KeepsFailures row (row.afterFailure now) := by
  refine ⟨Nat.le_succ _, fun hcooldown => ?_⟩
  have hfive := hearned hcooldown
  simp only [LoginIdentity.afterFailure]
  rw [if_neg (by omega)]
  rfl

lemma keepsFailures_refl (row : LoginIdentity) : KeepsFailures row row := ⟨le_refl _, id⟩

/-! ### Steps -/

lemma lookup_resetLoginFailures (store : AuthStore) (identityId id : String) :
    (store.resetLoginFailures identityId).loginIdentities.lookup id =
      if id = identityId then (store.loginIdentities.lookup identityId).map
        LoginIdentity.withoutFailures
      else store.loginIdentities.lookup id := by
  simp [AuthStore.resetLoginFailures]

lemma SoundLogins.earned_record (hs : SoundLogins s) (identityId : String) (now : ℕ) (id : String)
    (row : LoginIdentity)
    (h : (s.store.recordLoginFailure identityId now).2.loginIdentities.lookup id = some row)
    (hcooldown : row.cooldownUntil.isSome = true) : 5 ≤ row.failedAttemptCount := by
  rw [lookup_recordLoginFailure, Option.map_eq_some_iff] at h
  obtain ⟨old, hold, heq⟩ := h
  split_ifs at heq
  · subst heq
    exact earned_afterFailure hcooldown
  · subst heq
    exact hs.earned id old hold hcooldown

lemma SoundLogins.earned_reset (hs : SoundLogins s) (identityId : String) (id : String)
    (row : LoginIdentity)
    (h : (s.store.resetLoginFailures identityId).loginIdentities.lookup id = some row)
    (hcooldown : row.cooldownUntil.isSome = true) : 5 ≤ row.failedAttemptCount := by
  rw [lookup_resetLoginFailures] at h
  split_ifs at h
  · obtain ⟨old, -, rfl⟩ := Option.map_eq_some_iff.mp h
    cases hcooldown
  · exact hs.earned id row h hcooldown

lemma passed_calm (hs : SoundLogins s) {id : String} {identity : LoginIdentityRecord} {now : ℕ}
    (h : ChecksInTime verifyPassword s (.advance id))
    (hattempt : s.attempts.lookup id = some attempt) (hstage : attempt.stage = .verifying now)
    (hidentity : attempt.identity = some identity)
    (hmatch : attempt.password?.any (verifyPassword attempt.password) = true) :
    LoginCheck.coolingDown ⟨s.clock, (s.store.loginIdentities.lookup
      identity.owner.identityId).bind (·.cooldownUntil)⟩ = false := by
  have hsound := hs.stages id attempt hattempt
  unfold SoundStage at hsound
  rw [hstage] at hsound
  obtain ⟨hnow, hread⟩ := hsound
  unfold LoginCheck.coolingDown
  cases hrow : s.store.loginIdentities.lookup identity.owner.identityId with
  | none => rfl
  | some row =>
    have hknown : s.knownCooldown identity = true := by
      simpa [ChecksInTime, checksInTime, hattempt, hstage, hidentity, hmatch] using h
    rw [knownCooldown, hrow, Option.all_some, Bool.or_eq_true, decide_eq_true_eq] at hknown
    rcases hknown with hsame | hover
    · -- the cooldown that was read was over when the attempt began
      rw [Option.bind_some, hsame]
      specialize hread identity hidentity
      cases hcooldown : identity.cooldownUntil with
      | none => rfl
      | some deadline =>
        rw [hcooldown] at hread
        have hdeadline : deadline ≤ now := of_decide_eq_true hread
        exact decide_eq_false (show ¬ s.clock < deadline by omega)
    · simpa [LoginIdentity.coolingDown] using hover

lemma soundLogins_advance (hs : SoundLogins s) {id : String}
    (h : ChecksInTime verifyPassword s (.advance id))
    (hattempt : s.attempts.lookup id = some attempt) :
    SoundLogins (s.advance verifyPassword id attempt) := by
  have hsound := hs.stages id attempt hattempt
  unfold advance
  rcases hstage : attempt.stage with _ | now | _ | check | ⟨now, check⟩ | _ | check <;>
    rcases hidentity : attempt.identity with _ | identity <;> dsimp only
  case found.none => exact hs.moveTo hattempt hs.earned trivial
  case found.some =>
    refine hs.moveTo hattempt hs.earned ?_
    split_ifs with hdenied
    · trivial
    · refine ⟨le_refl _, fun found hfound => ?_⟩
      obtain rfl := Option.some.inj (hidentity.symm.trans hfound)
      simp only [LoginAttempt.denied, Bool.or_eq_true, not_or, Bool.not_eq_true] at hdenied
      obtain ⟨-, hcooldown⟩ := hdenied
      cases hdeadline : identity.cooldownUntil with
      | none => rfl
      | some deadline =>
        rw [hdeadline] at hcooldown
        have hover : ¬ s.clock < deadline := of_decide_eq_false hcooldown
        exact decide_eq_true (by omega)
  case verifying.none => exact hs
  case verifying.some =>
    refine hs.moveTo hattempt hs.earned ?_
    split_ifs with hmatch
    · exact passed_calm hs h hattempt hstage hidentity hmatch
    · unfold SoundStage at hsound
      rw [hstage] at hsound
      exact hsound.1
  case dummy.none => exact hs.moveTo hattempt hs.earned trivial
  case dummy.some => exact hs.moveTo hattempt hs.earned trivial
  case passed.none => exact hs
  case passed.some =>
    refine hs.moveTo hattempt (hs.earned_reset identity.owner.identityId) ?_
    unfold SoundStage at hsound
    rw [hstage] at hsound
    exact hsound
  case mismatched.none => exact hs
  case mismatched.some =>
    exact hs.moveTo hattempt (hs.earned_record identity.owner.identityId now) trivial
  all_goals exact hs

lemma soundLogins_request (hs : SoundLogins s) {request : AuthRequest}
    (apart : request.ofLogin = false) {answer : AuthAnswer} {store : AuthStore}
    (h : s.store.transact hashOpaqueSecret request = .ok (answer, store)) :
    SoundLogins { s with store } where
  earned id row hrow hcooldown := by
    cases identityMove_of_transact apart h id with
    | same hsame => exact hs.earned id row (hsame ▸ hrow) hcooldown
    | onboarded _ hnew _ hnone =>
      obtain rfl := Option.some.inj (hnew.symm.trans hrow)
      rw [hnone] at hcooldown
      cases hcooldown
    | reset _ _ hnew =>
      obtain rfl := Option.some.inj (hnew.symm.trans hrow)
      cases hcooldown
  stages := hs.stages

lemma soundLogins_step (op : LoginStep) (h : ChecksInTime verifyPassword s op)
    (hs : SoundLogins s) : SoundLogins (s.step verifyPassword hashOpaqueSecret op) := by
  cases op with
  | tick milliseconds => exact hs.of_same rfl rfl (Nat.le_add_right _ _)
  | begin id normalizedEmail password =>
    unfold step
    dsimp only
    split_ifs with hused
    · exact hs
    · refine ⟨hs.earned, fun other attempt hattempt => ?_⟩
      dsimp only at hattempt
      rw [Table.lookup_insert'] at hattempt
      split_ifs at hattempt
      · obtain rfl := Option.some.inj hattempt
        trivial
      · exact hs.stages other attempt hattempt
  | advance id =>
    unfold step
    dsimp only
    cases hattempt : s.attempts.lookup id with
    | none => exact hs
    | some attempt => exact soundLogins_advance hs h hattempt
  | completeDevice id userCodeHash now =>
    rcases completeDevice_cases verifyPassword hashOpaqueSecret s id userCodeHash now with
      heq | ⟨_, _, _, _, -, -, -, -, heq⟩
    all_goals rw [heq]
    · exact hs
    · exact hs.of_same rfl rfl (le_refl _)
  | issueBrowser id secretHash expiresAt now =>
    rcases issueBrowser_cases verifyPassword hashOpaqueSecret s id secretHash expiresAt now with
      heq | ⟨_, _, _, _, _, _, -, -, -, -, -, -, -, heq⟩
    all_goals rw [heq]
    · exact hs
    · exact hs.of_same rfl rfl (le_refl _)
  | redeem id deviceCodeHash clientId now =>
    rcases redeem_cases verifyPassword hashOpaqueSecret s id deviceCodeHash clientId now with
      ⟨_, heq, -⟩ | ⟨_, _, -, -, -, -, heq⟩
    all_goals
      rw [heq]
      exact hs.of_same rfl rfl (le_refl _)
  | createSession id input =>
    rcases createSession_cases verifyPassword hashOpaqueSecret s id input with
      heq | ⟨_, _, _, _, -, -, -, -, heq⟩
    all_goals rw [heq]
    · exact hs
    · exact hs.of_same rfl rfl (le_refl _)
  | request request apart =>
    rcases request_cases verifyPassword hashOpaqueSecret s request apart with
      heq | ⟨answer, store, htransact, heq⟩
    · rw [heq]
      exact hs
    · have hstore := soundLogins_request hs apart htransact
      rw [heq]
      split_ifs
      · cases s.resetBy request with
        | none => exact hstore
        | some identityId => exact hstore.of_same rfl rfl (le_refl _)
      · exact hstore

lemma step_advance {id : String} (h : s.attempts.lookup id = some attempt) :
    s.step verifyPassword hashOpaqueSecret (.advance id) = s.advance verifyPassword id attempt := by
  unfold step
  dsimp only
  rw [h]
  rfl

/-! ### Runs -/

lemma SoundLogins.effective (hs : SoundLogins s) :
    CooldownEffective verifyPassword hashOpaqueSecret s := by
  intro id attempt check hattempt hcheck hcooling
  have hsound := hs.stages id attempt hattempt
  unfold SoundStage at hsound
  cases hstage : attempt.stage with
  | found => simp [checkOf, hstage] at hcheck
  | verifying now => simp [checkOf, hstage] at hcheck
  | dummy => simp [checkOf, hstage] at hcheck
  | refused => simp [checkOf, hstage] at hcheck
  | passed found =>
    rw [hstage] at hsound hcheck
    obtain rfl := Option.some.inj hcheck
    rw [hsound] at hcooling
    cases hcooling
  | accepted found =>
    rw [hstage] at hsound hcheck
    obtain rfl := Option.some.inj hcheck
    rw [hsound] at hcooling
    cases hcooling
  | mismatched now found =>
    refine ⟨nofun, fun identityId row row' hrow hrow' => ?_⟩
    rw [step_advance hattempt] at hrow'
    unfold advance at hrow'
    rw [hstage] at hrow'
    cases hidentity : attempt.identity with
    | none =>
      rw [hidentity] at hrow'
      obtain rfl := Option.some.inj (hrow.symm.trans hrow')
      exact keepsFailures_refl row
    | some identity =>
      rw [hidentity] at hrow'
      have hrecorded := lookup_recordLoginFailure s.store identity.owner.identityId now identityId
      rw [hrow, Option.map_some] at hrecorded
      obtain rfl := Option.some.inj (hrecorded.symm.trans hrow')
      split_ifs
      · exact keepsFailures_afterFailure now (hs.earned identityId row hrow)
      · exact keepsFailures_refl row

/-- **The cooldown of a login is effective where checks end in time**: in every run in which no
right password's check ends in a cooldown that began after its attempt had read the identity,
no login is accepted whose check ended in a cooldown, and none clears a counter or a cooldown. -/
theorem cooldown_effective_of_checks_in_time (steps : List LoginStep)
    (h : Runs.Along (step verifyPassword hashOpaqueSecret) (ChecksInTime verifyPassword) {}
      steps) :
    CooldownEffective verifyPassword hashOpaqueSecret
      (after verifyPassword hashOpaqueSecret {} steps) := by
  have hs : SoundLogins (after verifyPassword hashOpaqueSecret {} steps) :=
    Runs.run_invariant (fun _ op hop hsound => soundLogins_step op hop hsound) h
      soundLogins_empty
  exact hs.effective

/-! ### A login that ends in a cooldown -/

/-- A right password is being checked while five wrong ones are refused. -/
def lateLogin : List LoginStep :=
  accountSteps "right" ++ [.begin "late" "ann@example.com" "right", .advance "late"] ++
    (["1", "2", "3", "4", "5"].flatMap fun id => loginSteps id "wrong") ++
    [.advance "late", .advance "late"]

/-- It is accepted, though its check ended in the cooldown. -/
theorem late_login_is_accepted :
    ¬ CooldownEffective (fun password passwordHash => password = passwordHash) id
      (after (fun password passwordHash => password = passwordHash) id {} lateLogin) := by
  intro heffective
  have haccepted : ((after (fun password passwordHash => password = passwordHash) id {}
      lateLogin).attempts.lookup "late").map (·.stage) = some (.accepted ⟨0, some 300000⟩) := by
    decide
  obtain ⟨attempt, hattempt, hstage⟩ := Option.map_eq_some_iff.mp haccepted
  have hnot := (heffective "late" attempt ⟨0, some 300000⟩ hattempt (by rw [hstage]; rfl) rfl).1
  exact hnot _ hstage

/-- Five wrong passwords, and a right one in the cooldown that follows. -/
theorem cooldown_effective_after_five :
    CooldownEffective (fun password passwordHash => password = passwordHash) id
      (after (fun password passwordHash => password = passwordHash) id {}
        (accountSteps "right" ++ (["1", "2", "3", "4", "5"].flatMap fun id =>
          loginSteps id "wrong") ++ loginSteps "6" "right")) :=
  cooldown_effective_of_checks_in_time _ (by decide)

end LoginSystem
end SmeDataCenter
