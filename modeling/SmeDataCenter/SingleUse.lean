import Mathlib.Data.List.Induction
import SmeDataCenter.Runs

/-!
# Things that are used once

A system issues things under a name, and uses them later: what is issued was not there before,
what is used has not been used, and what has been used stays so. In every run each use goes back
to one issue, with no use of the same thing in between. A quantity that no step lowers, and that
is the same at two points of a run, is the same all the way between them.
-/

namespace SmeDataCenter

/-- A system whose steps issue and use things of type `τ` under names `ι`. -/
structure SingleUse {σ α : Type*} (step : σ → α → σ) (ι τ : Type*) where
  /-- What is under a name, and whether it has been used. -/
  find : σ → ι → Option (τ × Bool)
  Issues : σ → α → ι → τ → Prop
  Uses : σ → α → ι → τ → Prop
  origin : ∀ s a i t used, find (step s a) i = some (t, used) →
    (∃ used', find s i = some (t, used')) ∨ Issues s a i t
  spent : ∀ s a i t, find s i = some (t, true) → find (step s a) i = some (t, true)
  unused : ∀ s a i t, Uses s a i t → find s i = some (t, false)
  used : ∀ s a i t, Uses s a i t → find (step s a) i = some (t, true)

namespace SingleUse

open Runs

variable {σ α ι τ : Type*} {step : σ → α → σ} (S : SingleUse step ι τ)

lemma spent_run {s : σ} {i : ι} {t : τ} (h : S.find s i = some (t, true)) (ops : List α) :
    S.find (run step s ops) i = some (t, true) := by
  induction ops generalizing s with
  | nil => exact h
  | cons op ops ih => exact ih (S.spent s op i t h)

/-- Where nothing was at the start, what is there was issued. -/
theorem issued {s : σ} {i : ι} (hstart : S.find s i = none) {ops : List α} {t : τ} {used : Bool}
    (h : S.find (run step s ops) i = some (t, used)) :
    ∃ before op after, ops = before ++ op :: after ∧ S.Issues (run step s before) op i t := by
  induction ops using List.reverseRecOn generalizing used with
  | nil => simp [hstart] at h
  | append_singleton ops op ih =>
    rw [run_append] at h
    rcases S.origin _ op i t used h with ⟨used', hbefore⟩ | hissue
    · obtain ⟨before, op', after, rfl, hissue⟩ := ih hbefore
      exact ⟨before, op', after ++ [op], by simp, hissue⟩
    · exact ⟨ops, op, [], rfl, hissue⟩

/-- What was used before is not used again. -/
theorem not_used_again {s : σ} {i : ι} {before between : List α} {op op' : α} {t t' : τ}
    (h : S.Uses (run step s before) op i t)
    (h' : S.Uses (run step s (before ++ op :: between)) op' i t') : False := by
  have hspent := S.spent_run (S.used _ _ _ _ h) between
  have hunused := S.unused _ _ _ _ h'
  rw [run_append, run_cons, hspent] at hunused
  simp at hunused

/-- **Each use goes back to an issue**, with no other use in between. -/
theorem issued_before_use {s : σ} {i : ι} (hstart : S.find s i = none) {ops : List α} {op : α}
    {t : τ} (h : S.Uses (run step s ops) op i t) :
    ∃ before issue between, ops = before ++ issue :: between ∧
      S.Issues (run step s before) issue i t ∧
      ∀ pre op' post t', between = pre ++ op' :: post →
        ¬ S.Uses (run step s (before ++ issue :: pre)) op' i t' := by
  obtain ⟨before, issue, between, rfl, hissue⟩ := S.issued hstart (S.unused _ _ _ _ h)
  refine ⟨before, issue, between, rfl, hissue, ?_⟩
  rintro pre op' post t' rfl huse
  have hsplit : before ++ issue :: (pre ++ op' :: post) =
      (before ++ issue :: pre) ++ op' :: post := by simp
  rw [hsplit] at h
  exact S.not_used_again huse h

/-- A quantity that no step lowers, and that is the same at both ends of a run, is the same at
every point of it. -/
theorem constant_between {π : Type*} [PartialOrder π] {f : σ → π}
    (hmono : ∀ s a, f s ≤ f (step s a)) {s : σ} {pre post : List α}
    (h : f (run step s (pre ++ post)) = f s) : f (run step s pre) = f s := by
  have hle (s : σ) (ops : List α) : f s ≤ f (run step s ops) :=
    run_mono (R := fun s t => f s ≤ f t) (fun _ => le_rfl) (fun _ _ _ => le_trans) hmono ops
  have hrest := hle (run step s pre) post
  rw [← run_append, h] at hrest
  exact le_antisymm hrest (hle s pre)

end SingleUse
end SmeDataCenter
