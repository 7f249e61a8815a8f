import Mathlib.Data.List.Range
import Mathlib.Data.List.Perm.Subperm
import Mathlib.Tactic.Common
import SmeDataCenter.GuardedRuns

/-!
# Concurrent maps

`mapConcurrent` maps the values of a list with several workers. A worker takes the next index, waits
for the call of the mapper and goes on; a failure is remembered, and nobody begins another call. The
calls that have been started may end in any order.
-/

namespace SmeDataCenter
namespace ConcurrentMaps

open GuardedRuns (run run_append run_cons)

variable {β ε : Type}

/-- What a promise was rejected with. -/
inductive Thrown (ε : Type) where
  | undefined
  | null
  | value (error : ε)
  deriving DecidableEq

/-- `first ??= error` -/
def Thrown.assign : Thrown ε → Thrown ε → Thrown ε
  | .undefined, error | .null, error => error
  | first, _ => first

/-- How the call of the mapper for an index ends. -/
inductive Outcome (β ε : Type) where
  | completes (value : β)
  | fails (error : Thrown ε)

structure Workers (β ε : Type) where
  nextIndex : ℕ := 0
  firstError : Thrown ε := .undefined
  results : ℕ → Option β := fun _ => none
  /-- the calls that workers wait for -/
  pending : List ℕ := []
  /-- the calls of the mapper -/
  started : List ℕ := []

variable [DecidableEq ε] (count : ℕ) (outcome : ℕ → Outcome β ε)

/-- A worker at the head of its loop. -/
def Workers.resume (s : Workers β ε) : Workers β ε :=
  if s.firstError ≠ .undefined then s
  else if count ≤ s.nextIndex then { s with nextIndex := s.nextIndex + 1 }
  else
    { s with
      nextIndex := s.nextIndex + 1
      pending := s.pending ++ [s.nextIndex]
      started := s.started ++ [s.nextIndex] }

def mapConcurrent (concurrency : ℕ) : Workers β ε :=
  (List.range (min concurrency count)).foldl (fun s _ => s.resume count) {}

def Workers.ended (s : Workers β ε) (index : ℕ) : Workers β ε :=
  match outcome index with
  | .completes value =>
    { s with
      results := Function.update s.results index (some value)
      pending := s.pending.erase index }
  | .fails error =>
    { s with firstError := s.firstError.assign error, pending := s.pending.erase index }

/-- A call that is waited for ends, and its worker goes on. -/
def settle (s : Workers β ε) (index : ℕ) : Option (Workers β ε) :=
  if index ∈ s.pending then some ((s.ended outcome index).resume count) else none

/-- What is answered when every worker has returned. -/
def Workers.answer (s : Workers β ε) : Option (Except (Thrown ε) (List (Option β))) :=
  if s.pending ≠ [] then none
  else if s.firstError ≠ .undefined then some (.error s.firstError)
  else some (.ok ((List.range count).map s.results))

/-! ### The calls of a run -/

variable {count outcome} {concurrency : ℕ} {s next : Workers β ε} {order : List ℕ} {index : ℕ}

/-- What the workers know of the calls, when those of an order have ended. -/
structure Sound (count : ℕ) (outcome : ℕ → Outcome β ε) (order : List ℕ) (s : Workers β ε) :
    Prop where
  started : s.started = List.range (min s.nextIndex count)
  calls : (order ++ s.pending).Perm s.started
  results : ∀ i ∈ order, ∀ value, outcome i = .completes value → s.results i = some value
  error : s.firstError = .undefined ↔ ∀ i ∈ order, ∃ value, outcome i = .completes value

lemma resume_sound (h : Sound count outcome order s) : Sound count outcome order (s.resume count) := by
  unfold Workers.resume
  split_ifs with herror hdone
  · exact h
  · refine ⟨?_, h.calls, h.results, h.error⟩
    rw [h.started]
    congr 1
    dsimp only
    omega
  · have hstarted := h.started
    rw [min_eq_left (not_le.mp hdone).le] at hstarted
    refine ⟨?_, ?_, h.results, h.error⟩
    · dsimp only
      rw [min_eq_left (not_le.mp hdone), List.range_succ, hstarted]
    · rw [← List.append_assoc]
      exact h.calls.append_right _

lemma settle_sound (hdefined : outcome index ≠ .fails .undefined)
    (h : Sound count outcome order s) (hstep : settle count outcome s index = some next) :
    Sound count outcome (order ++ [index]) next := by
  unfold settle at hstep
  split_ifs at hstep with hpending
  cases hstep
  refine resume_sound ?_
  have hcalls : ((order ++ [index]) ++ s.pending.erase index).Perm s.started := by
    rw [List.append_assoc]
    exact ((List.perm_cons_erase hpending).symm.append_left order).trans h.calls
  have hnew : index ∉ order := by
    have hnodup := h.calls.nodup_iff.mpr (h.started ▸ List.nodup_range)
    exact fun hmem => (List.nodup_append.mp hnodup).2.2 index hmem index hpending rfl
  unfold Workers.ended
  cases houtcome : outcome index with
  | completes value =>
    refine ⟨h.started, hcalls, fun i hi found hfound => ?_, ?_⟩
    · rcases List.mem_append.mp hi with hi | hi
      · dsimp only
        rw [Function.update_of_ne (ne_of_mem_of_not_mem hi hnew), h.results i hi found hfound]
      · obtain rfl := List.mem_singleton.mp hi
        rw [houtcome] at hfound
        cases hfound
        exact Function.update_self ..
    · simp [h.error, or_imp, forall_and, houtcome]
  | fails error =>
    refine ⟨h.started, hcalls, fun i hi found hfound => ?_, ?_⟩
    · rcases List.mem_append.mp hi with hi | hi
      · exact h.results i hi found hfound
      · rw [List.mem_singleton.mp hi, houtcome] at hfound
        cases hfound
    · -- a failure stays, whatever comes after it
      have herror : error ≠ .undefined := fun he => hdefined (he ▸ houtcome)
      have hassign : s.firstError.assign error ≠ .undefined := by
        cases hfirst : s.firstError <;> simp [Thrown.assign, herror]
      simp [hassign, houtcome]

/-- As long as there is a next index and no failure, no worker has returned. -/
def Busy (count workers : ℕ) (s : Workers β ε) : Prop :=
  s.firstError = .undefined → s.nextIndex < count → s.pending.length = workers

lemma resume_busy {workers : ℕ} (h : s.firstError = .undefined → s.nextIndex < count →
    s.pending.length + 1 = workers) : Busy count workers (s.resume count) := by
  intro herror hnext
  unfold Workers.resume at herror hnext ⊢
  split_ifs at herror hnext ⊢ with hfirst hdone
  · exact absurd herror hfirst
  · dsimp only at hnext
    omega
  · rw [← h (not_not.mp hfirst) (not_le.mp hdone)]
    simp

lemma settle_busy {workers : ℕ} (hdefined : outcome index ≠ .fails .undefined)
    (h : Busy count workers s) (hstep : settle count outcome s index = some next) :
    Busy count workers next := by
  unfold settle at hstep
  split_ifs at hstep with hpending
  cases hstep
  refine resume_busy fun herror hnext => ?_
  have hpositive := List.length_pos_of_mem hpending
  have hlength := List.length_erase_of_mem hpending
  unfold Workers.ended at herror hnext ⊢
  cases houtcome : outcome index with
  | completes value =>
    rw [houtcome] at herror hnext
    have hbusy := h herror hnext
    dsimp only
    omega
  | fails error =>
    rw [houtcome] at herror hdefined
    cases hfirst : s.firstError <;> simp_all [Thrown.assign]

lemma start_eq (count : ℕ) {k : ℕ} (hk : k ≤ count) :
    (List.range k).foldl (fun s _ => s.resume count) ({} : Workers β ε) =
      { nextIndex := k, pending := List.range k, started := List.range k } := by
  induction k with
  | zero => rfl
  | succ k ih =>
    rw [List.range_succ, List.foldl_append, ih (by omega)]
    simp [Workers.resume, Nat.not_le.mpr (show k < count by omega)]

/-- A run from any state keeps what is known of the calls. -/
lemma run_sound (workers : ℕ) (before : List ℕ) {final : Workers β ε}
    (hdefined : ∀ i ∈ order, outcome i ≠ .fails .undefined)
    (hrun : run (settle count outcome) s order = some final)
    (hsound : Sound count outcome before s) (hbusy : Busy count workers s) :
    Sound count outcome (before ++ order) final ∧ Busy count workers final := by
  induction order generalizing s before with
  | nil =>
    cases hrun
    rw [List.append_nil]
    exact ⟨hsound, hbusy⟩
  | cons index order ih =>
    obtain ⟨next, hnext, hrest⟩ := run_cons.mp hrun
    have hindex := hdefined index List.mem_cons_self
    have htail := ih _ (fun i hi => hdefined i (List.mem_cons_of_mem index hi)) hrest
      (settle_sound hindex hsound hnext) (settle_busy hindex hbusy hnext)
    rwa [List.append_assoc] at htail

lemma settle_failed (hdefined : outcome index ≠ .fails .undefined)
    (hfailed : s.firstError ≠ .undefined ∨ ∃ error, outcome index = .fails error)
    (hstep : settle count outcome s index = some next) :
    next.firstError ≠ .undefined ∧ next.started = s.started := by
  unfold settle at hstep
  split_ifs at hstep
  cases hstep
  have herror : (s.ended outcome index).firstError ≠ .undefined := by
    unfold Workers.ended
    cases houtcome : outcome index with
    | completes value => simpa [houtcome] using hfailed
    | fails error =>
      rw [houtcome] at hdefined
      cases hfirst : s.firstError <;> simp_all [Thrown.assign]
  rw [Workers.resume, if_pos herror]
  refine ⟨herror, ?_⟩
  unfold Workers.ended
  cases outcome index <;> rfl

lemma run_failed {final : Workers β ε} (hdefined : ∀ i ∈ order, outcome i ≠ .fails .undefined)
    (hrun : run (settle count outcome) s order = some final)
    (hfailed : s.firstError ≠ .undefined) : final.started = s.started := by
  induction order generalizing s with
  | nil =>
    cases hrun
    rfl
  | cons index order ih =>
    obtain ⟨next, hnext, hrest⟩ := run_cons.mp hrun
    obtain ⟨herror, hsame⟩ :=
      settle_failed (hdefined index List.mem_cons_self) (.inl hfailed) hnext
    rw [ih (fun i hi => hdefined i (List.mem_cons_of_mem index hi)) hrest herror, hsame]

/-- What is said of a map whose calls have ended in an order so far. -/
structure AsStated (count : ℕ) (outcome : ℕ → Outcome β ε) (concurrency : ℕ) (order : List ℕ)
    (final : Workers β ε) : Prop where
  once : final.started = List.range final.started.length ∧ final.started.length ≤ count
  bounded : order.length ≤ count
  mapped : final.pending = [] → (∀ i ∈ order, ∃ value, outcome i = .completes value) →
    final.started = List.range count ∧ ∃ results, final.answer count = some (.ok results) ∧
      results.length = count ∧
      ∀ i < count, ∃ value, outcome i = .completes value ∧ results[i]? = some (some value)
  failed : (∃ i ∈ order, ∃ error, outcome i = .fails error) → final.answer count ≠ none →
    (∃ error, final.answer count = some (.error error)) ∧ ∀ i ∈ final.started, i ∈ order
  stopped : ∀ before i after error s, order = before ++ i :: after → outcome i = .fails error →
    run (settle count outcome) (mapConcurrent count concurrency) before = some s →
    final.started = s.started

/-- Where no call is rejected with `undefined`, the map does what is said of it. -/
theorem calls_as_stated {final : Workers β ε} (hconcurrency : 1 ≤ concurrency)
    (hdefined : ∀ i ∈ order, outcome i ≠ .fails .undefined)
    (hrun : run (settle count outcome) (mapConcurrent count concurrency) order =
      some final) :
    AsStated count outcome concurrency order final := by
  have hworkers : min concurrency count ≤ count := min_le_right ..
  have hstart := start_eq (β := β) (ε := ε) count hworkers
  obtain ⟨hsound, hbusy⟩ := run_sound (min concurrency count) [] hdefined hrun
    ⟨by simp [mapConcurrent, hstart], by simp [mapConcurrent, hstart],
      by simp, by simp [mapConcurrent, hstart]⟩ (by simp [Busy, mapConcurrent, hstart])
  rw [List.nil_append] at hsound
  have hlength : final.started.length = min final.nextIndex count := by
    rw [hsound.started, List.length_range]
  have hcalls := hsound.calls.length_eq
  rw [List.length_append] at hcalls
  refine ⟨⟨hlength ▸ hsound.started, by omega⟩, by omega, fun hpending hcompletes => ?_,
    fun hfails hanswer => ?_, fun before i after error s horder hfails hbefore => ?_⟩
  · have herror := hsound.error.mpr hcompletes
    have hdone : count ≤ final.nextIndex := by
      by_contra hnext
      have := hbusy herror (not_le.mp hnext)
      rw [hpending, List.length_nil] at this
      omega
    have hall : final.started = List.range count := by rw [hsound.started, min_eq_right hdone]
    refine ⟨hall, (List.range count).map final.results,
      by simp [Workers.answer, hpending, herror], by simp, fun i hi => ?_⟩
    have hmem : i ∈ order := by
      have := hsound.calls.mem_iff.mpr (hall ▸ List.mem_range.mpr hi)
      rwa [hpending, List.append_nil] at this
    obtain ⟨value, hvalue⟩ := hcompletes i hmem
    exact ⟨value, hvalue, by simp [hi, hsound.results i hmem value hvalue]⟩
  · have hpending : final.pending = [] := by
      by_contra hpending
      exact hanswer (if_pos hpending)
    have herror : final.firstError ≠ .undefined := fun herror => by
      obtain ⟨i, hi, error, hfail⟩ := hfails
      obtain ⟨value, hvalue⟩ := hsound.error.mp herror i hi
      rw [hvalue] at hfail
      cases hfail
    refine ⟨⟨final.firstError, by simp [Workers.answer, hpending, herror]⟩, fun i hi => ?_⟩
    have := hsound.calls.mem_iff.mpr hi
    rwa [hpending, List.append_nil] at this
  · rw [horder] at hrun hdefined
    obtain ⟨s', hs', hrest⟩ := run_append.mp hrun
    obtain rfl : s = s' := Option.some.inj (hbefore.symm.trans hs')
    obtain ⟨next, hnext, hafter⟩ := run_cons.mp hrest
    obtain ⟨herror, hsame⟩ := settle_failed (hdefined i (by simp)) (.inr ⟨error, hfails⟩) hnext
    rw [run_failed (fun j hj => hdefined j (by simp [hj])) hafter herror, hsame]

/-- Three calls by two workers: the second ends first, then the first. -/
theorem three_calls_as_stated : ∃ final : Workers ℕ ℕ,
    run (settle 3 fun i => .completes (i + 10)) (mapConcurrent 3 2) [1, 0, 2] =
      some final ∧
      AsStated 3 (fun i => .completes (i + 10)) 2 [1, 0, 2] final :=
  ⟨_, rfl, calls_as_stated (by decide) (fun _ _ h => by cases h) rfl⟩

/-- The only call is rejected with `undefined`, and the map resolves with a missing value. -/
theorem undefined_resolves : ∃ final : Workers ℕ ℕ,
    run (settle 1 fun _ => .fails .undefined) (mapConcurrent 1 1) [0] = some final ∧
      ¬ AsStated 1 (fun _ => .fails .undefined) 1 [0] final := by
  refine ⟨_, rfl, fun h => ?_⟩
  obtain ⟨⟨error, herror⟩, -⟩ := h.failed ⟨0, by simp, .undefined, rfl⟩ (by decide)
  cases herror

end ConcurrentMaps
end SmeDataCenter
