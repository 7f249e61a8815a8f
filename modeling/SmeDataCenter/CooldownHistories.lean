import Mathlib.Tactic.IntervalCases
import SmeDataCenter.LoginCooldown

/-!
# The history of a cooldown

The statement that records a failed login sets its columns one after the other, and each of them
sees those that have been set before. What it stores is what the function that specifies the
cooldown makes of the failures that were counted.
-/

namespace SmeDataCenter
namespace CooldownHistories

/-! ### The statement -/

def setCooldownUntil (now : ℕ) (row : LoginIdentity) : LoginIdentity :=
  { row with
    cooldownUntil := if row.failedAttemptCount + 1 < 5 then none
      else some (now + 60000 * cooldownMinutes (min (row.cooldownLevel + 1) 5)) }

def setCooldownLevel (row : LoginIdentity) : LoginIdentity :=
  { row with
    cooldownLevel := if 5 ≤ row.failedAttemptCount + 1 then min (row.cooldownLevel + 1) 5
      else row.cooldownLevel }

def setFailedAttemptCount (row : LoginIdentity) : LoginIdentity :=
  { row with failedAttemptCount := row.failedAttemptCount + 1 }

/-- The columns of an `UPDATE` are set from left to right, each on the row as it is by then. -/
def update (assignments : List (LoginIdentity → LoginIdentity)) (row : LoginIdentity) :
    LoginIdentity :=
  assignments.foldl (fun row assign => assign row) row

def failureAssignments (now : ℕ) : List (LoginIdentity → LoginIdentity) :=
  [setCooldownUntil now, setCooldownLevel, setFailedAttemptCount]

inductive LoginEvent where
  | failure (now : ℕ)
  | reset

/-- What an event of an identity does to the stored identities. -/
def record (identityId : String) (store : AuthStore) : LoginEvent → AuthStore
  | .failure now =>
    { store with
      loginIdentities := store.loginIdentities.updateMany
        (fun id row => id = identityId && row.cooldownUntil.all (· ≤ now))
        (update (failureAssignments now)) }
  | .reset => store.resetLoginFailures identityId

lemma record_failure (identityId : String) (store : AuthStore) (now : ℕ) :
    record identityId store (.failure now) = (store.recordLoginFailure identityId now).2 := rfl

/-! ### The specification -/

structure CooldownAfterFailure where
  failedAttemptCount : ℕ
  cooldownLevel : ℕ
  cooldownMs : Option ℕ

def cooldownAfterFailure (failedAttemptCount cooldownLevel : ℕ) : CooldownAfterFailure :=
  let nextFailedAttemptCount := failedAttemptCount + 1
  if nextFailedAttemptCount < 5 then ⟨nextFailedAttemptCount, cooldownLevel, none⟩
  else
    let nextCooldownLevel := min (cooldownLevel + 1) 5
    let minutes := [5, 10, 20, 40, 60][nextCooldownLevel - 1]?.getD 60
    ⟨nextFailedAttemptCount, nextCooldownLevel, some (minutes * 60000)⟩

/-- What is known of the failures of an identity. -/
structure Counters where
  failedAttemptCount : ℕ := 0
  cooldownLevel : ℕ := 0
  cooldownUntil : Option ℕ := none

def counters (row : LoginIdentity) : Counters :=
  ⟨row.failedAttemptCount, row.cooldownLevel, row.cooldownUntil⟩

/-- A failure that is counted, and the cooldown from its time on. -/
def Counters.count (counters : Counters) (now : ℕ) : Counters :=
  let next := cooldownAfterFailure counters.failedAttemptCount counters.cooldownLevel
  ⟨next.failedAttemptCount, next.cooldownLevel, next.cooldownMs.map (now + ·)⟩

/-- The times of the failures that were counted since the counters were known. -/
structure History where
  start : Counters
  counted : List ℕ := []

def History.counters (history : History) : Counters := history.counted.foldl .count history.start

/-- A failure is counted unless a cooldown is running. -/
def History.next (history : History) : LoginEvent → History
  | .failure now =>
    if history.counters.cooldownUntil.any (now < ·) then history
    else { history with counted := history.counted ++ [now] }
  | .reset => ⟨{}, []⟩

/-! ### They agree -/

lemma minutes_eq {level : ℕ} (hpos : 1 ≤ level) (hle : level ≤ 5) :
    [5, 10, 20, 40, 60][level - 1]?.getD 60 = cooldownMinutes level := by
  interval_cases level <;> rfl

lemma counters_afterFailure (row : LoginIdentity) (now : ℕ) :
    counters (row.afterFailure now) = (counters row).count now := by
  have hlevel : 1 ≤ min (row.cooldownLevel + 1) 5 ∧ min (row.cooldownLevel + 1) 5 ≤ 5 := by omega
  unfold counters Counters.count cooldownAfterFailure LoginIdentity.afterFailure
  by_cases hfew : row.failedAttemptCount + 1 < 5
  · simp [hfew, not_le.mpr hfew]
  · simp only [hfew, not_lt.mp hfew, if_false, if_true, minutes_eq hlevel.1 hlevel.2,
      Option.map_some, Nat.mul_comm]

variable {identityId : String} {store : AuthStore} {row : LoginIdentity} {history : History}

/-- The step lemma. -/
lemma record_next (hrow : store.loginIdentities.lookup identityId = some row)
    (hcounters : counters row = history.counters) (event : LoginEvent) :
    ∃ row', (record identityId store event).loginIdentities.lookup identityId = some row' ∧
      counters row' = (history.next event).counters := by
  cases event with
  | failure now =>
    rw [record_failure, LoginSystem.lookup_recordLoginFailure, hrow, Option.map_some]
    refine ⟨_, rfl, ?_⟩
    have huntil : row.cooldownUntil = history.counters.cooldownUntil :=
      congrArg Counters.cooldownUntil hcounters
    by_cases hrunning : history.counters.cooldownUntil.any (now < ·) = true
    · have hnot : ¬ row.cooldownUntil.all (· ≤ now) = true := by
        rw [huntil]
        cases h : history.counters.cooldownUntil with
        | none => simp [h] at hrunning
        | some deadline => simpa [h] using hrunning
      rw [History.next, if_pos hrunning, if_neg fun h => hnot h.2, hcounters]
    · have hover : row.cooldownUntil.all (· ≤ now) = true := by
        rw [huntil]
        cases h : history.counters.cooldownUntil with
        | none => rfl
        | some deadline => simpa [h] using hrunning
      rw [History.next, if_neg hrunning, if_pos ⟨rfl, hover⟩, counters_afterFailure, hcounters]
      simp [History.counters]
  | reset => exact ⟨row.withoutFailures, by simp [record, AuthStore.resetLoginFailures, hrow], rfl⟩

/-- **The stored cooldown is the specified one**, after every sequence of failures and resets. -/
theorem stored_as_specified (hrow : store.loginIdentities.lookup identityId = some row)
    (events : List LoginEvent) :
    ∃ row', (events.foldl (record identityId) store).loginIdentities.lookup identityId =
        some row' ∧
      counters row' = (events.foldl History.next ⟨counters row, []⟩).counters := by
  have hrun : ∀ history store row, store.loginIdentities.lookup identityId = some row →
      counters row = history.counters → ∃ row',
        (events.foldl (record identityId) store).loginIdentities.lookup identityId = some row' ∧
          counters row' = (events.foldl History.next history).counters := by
    induction events with
    | nil => exact fun _ _ row hrow hcounters => ⟨row, hrow, hcounters⟩
    | cons event events ih =>
      intro history store row hrow hcounters
      obtain ⟨next, hnext, hnextCounters⟩ := record_next hrow hcounters event
      exact ih _ _ next hnext hnextCounters
  exact hrun ⟨counters row, []⟩ store row hrow rfl

def newLogin : LoginIdentity := { orgId := "org", employeeId := "emp", normalizedEmail := "a@b.c" }

/-- The fifth failure begins a cooldown, and the sixth one is not counted. -/
def sixFailures : List LoginEvent := (List.range 6).map .failure

theorem six_failures_as_specified :
    ∃ row', (sixFailures.foldl (record "id")
        { loginIdentities := (∅ : Table String LoginIdentity).insert "id" newLogin }
          ).loginIdentities.lookup "id" = some row' ∧
      counters row' = (sixFailures.foldl History.next ⟨counters newLogin, []⟩).counters :=
  stored_as_specified rfl _

end CooldownHistories
end SmeDataCenter
