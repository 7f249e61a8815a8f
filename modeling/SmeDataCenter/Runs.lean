import Mathlib.Data.List.Basic
import Mathlib.Order.Basic

/-!
# Runs of a system

A system is a step function on its states, total because a refused operation leaves the state
as it was. A run folds the step over a list of operations. `Along` says that every step of a
run meets a condition on the state it starts from and on the operation; an invariant that such
steps preserve holds at the end of the run, and since a prefix of a run is a run, in every state
it goes through.
-/

universe u

namespace SmeDataCenter
namespace Runs

variable {σ α : Type*}

/-- The state after a list of operations. -/
def run (step : σ → α → σ) (s : σ) (ops : List α) : σ := ops.foldl step s

/-- Every step of the run from `s` meets `P`. -/
def Along (step : σ → α → σ) (P : σ → α → Prop) : σ → List α → Prop
  | _, [] => True
  | s, op :: ops => P s op ∧ Along step P (step s op) ops

variable {step : σ → α → σ} {P Q : σ → α → Prop}

@[simp] lemma run_nil (s : σ) : run step s [] = s := rfl

@[simp] lemma run_cons (s : σ) (op : α) (ops : List α) :
    run step s (op :: ops) = run step (step s op) ops := rfl

lemma run_append (s : σ) (ops ops' : List α) :
    run step s (ops ++ ops') = run step (run step s ops) ops' := List.foldl_append

@[simp] lemma along_nil (s : σ) : Along step P s [] := trivial

@[simp] lemma along_cons (s : σ) (op : α) (ops : List α) :
    Along step P s (op :: ops) ↔ P s op ∧ Along step P (step s op) ops := Iff.rfl

lemma along_append {s : σ} {ops ops' : List α} :
    Along step P s (ops ++ ops') ↔ Along step P s ops ∧ Along step P (run step s ops) ops' := by
  induction ops generalizing s with
  | nil => simp
  | cons op ops ih => simp [ih, and_assoc]

instance decidableAlong [∀ s op, Decidable (P s op)] :
    ∀ (s : σ) (ops : List α), Decidable (Along step P s ops)
  | _, [] => isTrue trivial
  | s, op :: ops =>
    have := decidableAlong (step s op) ops
    inferInstanceAs (Decidable (P s op ∧ Along step P (step s op) ops))

lemma along_iff {s : σ} {ops : List α} :
    Along step P s ops ↔
      ∀ before op after, ops = before ++ op :: after → P (run step s before) op := by
  constructor
  · rintro h before op after rfl
    exact (along_append.mp h).2.1
  · intro h
    induction ops generalizing s with
    | nil => trivial
    | cons op ops ih =>
      refine ⟨h [] op ops rfl, ih fun before op' after heq => ?_⟩
      exact h (op :: before) op' after (by rw [heq]; rfl)

/-- **The invariant rule**: what steps that meet `P` preserve holds after every run of them. -/
theorem run_invariant {Inv : σ → Prop} (hstep : ∀ s op, P s op → Inv s → Inv (step s op)) {s : σ}
    {ops : List α} (ha : Along step P s ops) (hs : Inv s) : Inv (run step s ops) := by
  induction ops generalizing s with
  | nil => exact hs
  | cons op ops ih => exact ih ha.2 (hstep s op ha.1 hs)

/-- The invariant rule without a condition on the steps. -/
theorem run_invariant' {Inv : σ → Prop} (hstep : ∀ s op, Inv s → Inv (step s op)) {s : σ}
    (ops : List α) (hs : Inv s) : Inv (run step s ops) := by
  induction ops generalizing s with
  | nil => exact hs
  | cons op ops ih => exact ih (hstep s op hs)

/-- **The monotonicity rule**: a reflexive and transitive relation that every step moves along
relates the start of a run to its end. -/
theorem run_mono {R : σ → σ → Prop} (hrefl : ∀ s, R s s)
    (htrans : ∀ s t u, R s t → R t u → R s u) (hstep : ∀ s op, R s (step s op)) {s : σ}
    (ops : List α) : R s (run step s ops) := by
  induction ops generalizing s with
  | nil => exact hrefl s
  | cons op ops ih => exact htrans _ _ _ (hstep s op) ih

/-! ### Transactions -/

section

variable {ε : Type*}

/-- The state after a transaction: what it computed, or the state before when it failed. -/
def commit (s : σ) : Except ε σ → σ
  | .ok s' => s'
  | .error _ => s

lemma commit_induction {Inv : σ → Prop} {s : σ} {x : Except ε σ} (hs : Inv s)
    (hok : ∀ s', x = .ok s' → Inv s') : Inv (commit s x) := by
  cases x with
  | ok s' => exact hok s' rfl
  | error e => exact hs

lemma bind_eq_ok {β γ : Type u} {x : Except ε β} {f : β → Except ε γ} {r : γ} :
    (x >>= f) = .ok r ↔ ∃ a, x = .ok a ∧ f a = .ok r := by
  cases x with
  | ok a => simp [bind, Except.bind]
  | error e => simp [bind, Except.bind]

end

end Runs
end SmeDataCenter
