import Mathlib.Data.List.FinRange
import Mathlib.Data.List.Perm.Basic
import Mathlib.Logic.Equiv.Defs

/-!
# Greedy matching

Every element of a list takes the first that is left of another list and fits it. In general this
may take what a later element needs. It never does when two elements which something fits are
fitted by the same: what has been taken too early can then be exchanged.
-/

namespace SmeDataCenter
namespace GreedyMatching

variable {α β : Type*}

/-- Each element takes the first that fits it, and it is no longer there for the others. -/
def greedy (fits : α → β → Bool) : List α → List β → Bool
  | [], _ => true
  | a :: as, bs =>
    match bs.findIdx? (fits a) with
    | none => false
    | some index => greedy fits as (bs.eraseIdx index)

/-- What one thing fits, and another as well, have all else in common. -/
def Exchangeable (R : α → β → Prop) (as : List α) : Prop :=
  ∀ a ∈ as, ∀ a' ∈ as, ∀ b, R a b → R a' b → ∀ b', R a b' → R a' b'

/-- The elements of one list are assigned to those of the other, each to one that it fits. -/
def Assignable (R : α → β → Prop) (as : List α) (bs : List β) : Prop :=
  ∃ σ : Fin as.length ≃ Fin bs.length, ∀ i, R (as.get i) (bs.get (σ i))

/-! ### Assignments as lists -/

variable {bs : List β} {as : List α}

lemma perm_get (σ : Fin as.length ≃ Fin bs.length) : (List.ofFn fun i => bs.get (σ i)).Perm bs := by
  have hfin : ((List.finRange as.length).map σ).Perm (List.finRange bs.length) := by
    refine (List.perm_ext_iff_of_nodup ?_ (List.nodup_finRange _)).mpr fun j => ?_
    · exact (List.nodup_finRange _).map σ.injective
    · simp only [List.mem_map, List.mem_finRange, true_and, iff_true]
      exact σ.surjective j
  calc List.ofFn (fun i => bs.get (σ i)) = ((List.finRange as.length).map σ).map bs.get := by
        rw [List.ofFn_eq_map, List.map_map]
        rfl
    _ |>.Perm ((List.finRange bs.length).map bs.get) := hfin.map bs.get
    _ |>.Perm bs := by rw [← List.ofFn_eq_map, List.ofFn_get]

/-- An assignment is another order of the second list. -/
theorem assignable_iff {R : α → β → Prop} :
    Assignable R as bs ↔ ∃ l, l.Perm bs ∧ List.Forall₂ R as l := by
  classical
  constructor
  · rintro ⟨σ, hσ⟩
    refine ⟨List.ofFn fun i => bs.get (σ i), perm_get σ, ?_⟩
    refine List.forall₂_iff_get.mpr ⟨(List.length_ofFn ..).symm, fun i hi hi' => ?_⟩
    rw [List.get_ofFn]
    exact hσ ⟨i, hi⟩
  · rintro ⟨l, hperm, hforall⟩
    obtain ⟨hlength, hget⟩ := List.forall₂_iff_get.mp hforall
    let swap : Fin l.length ≃ Fin bs.length :=
      ⟨hperm.idxBij, hperm.symm.idxBij, hperm.idxBij_symm_leftInverse_idxBij,
        hperm.idxBij_leftInverse_idxBij_symm⟩
    refine ⟨(finCongr hlength).trans swap, fun i => ?_⟩
    have hi : (i : ℕ) < l.length := hlength ▸ i.isLt
    have hat : bs.get (swap ⟨i, hi⟩) = l.get ⟨i, hi⟩ := hperm.getElem_idxBij_eq_getElem ⟨i, hi⟩
    have hfit := hget i i.isLt hi
    rw [← hat] at hfit
    exact hfit

/-! ### The greedy choice -/

lemma exchange {R : α → β → Prop} {l : List β} {b b' : β} (h : List.Forall₂ R as l) (hb : b ∈ l)
    (hR : ∀ a ∈ as, R a b → R a b') : ∃ l', List.Forall₂ R as l' ∧ (b' :: l).Perm (b :: l') := by
  induction h with
  | nil => cases hb
  | @cons a c as l hac _ ih =>
    rcases List.mem_cons.mp hb with rfl | hb
    · refine ⟨b' :: l, .cons (hR a (List.mem_cons_self ..) hac) ?_, .swap ..⟩
      assumption
    · obtain ⟨l', hl', hperm⟩ := ih hb fun a ha => hR a (List.mem_cons_of_mem _ ha)
      refine ⟨c :: l', .cons hac hl', ?_⟩
      calc (b' :: c :: l).Perm (c :: b' :: l) := .swap ..
        _ |>.Perm (c :: b :: l') := hperm.cons c
        _ |>.Perm (b :: c :: l') := .swap ..

lemma perm_eraseIdx {i : ℕ} (hi : i < bs.length) : (bs[i] :: bs.eraseIdx i).Perm bs := by
  induction bs generalizing i with
  | nil => cases hi
  | cons b bs ih =>
    cases i with
    | zero => exact .refl _
    | succ i =>
      have hi' : i < bs.length := Nat.lt_of_succ_lt_succ hi
      exact (List.Perm.swap b _ _).trans ((ih hi').cons b)

/-- The greedy choice is never wrong. -/
theorem greedy_iff {fits : α → β → Bool} (h : Exchangeable (fun a b => fits a b = true) as)
    (hlength : as.length = bs.length) :
    greedy fits as bs = true ↔ Assignable (fun a b => fits a b = true) as bs := by
  rw [assignable_iff]
  induction as generalizing bs with
  | nil =>
    obtain rfl : bs = [] := List.length_eq_zero_iff.mp hlength.symm
    exact iff_of_true rfl ⟨[], .refl _, .nil⟩
  | cons a as ih =>
    have htail : Exchangeable (fun a b => fits a b = true) as := fun a ha a' ha' =>
      h a (List.mem_cons_of_mem _ ha) a' (List.mem_cons_of_mem _ ha')
    rw [greedy]
    cases hindex : bs.findIdx? (fits a) with
    | none =>
      refine iff_of_false (by simp) ?_
      rintro ⟨_, hperm, hfit⟩
      cases hfit with
      | cons hab _ =>
        have hmem := hperm.mem_iff.mp (List.mem_cons_self ..)
        have hnone := List.findIdx?_eq_none_iff.mp hindex _ hmem
        rw [hab] at hnone
        cases hnone
    | some i =>
      obtain ⟨hi, hfit, -⟩ := List.findIdx?_eq_some_iff_getElem.mp hindex
      have hrest : as.length = (bs.eraseIdx i).length := by
        rw [List.length_eraseIdx_of_lt hi]
        rw [List.length_cons] at hlength
        omega
      have hbs := perm_eraseIdx hi
      dsimp only
      rw [ih htail hrest]
      constructor
      · rintro ⟨l, hperm, hl⟩
        exact ⟨bs[i] :: l, (hperm.cons _).trans hbs, .cons hfit hl⟩
      · rintro ⟨_, hperm, hl⟩
        cases hl with
        | @cons _ b' _ l hab' hl =>
          have hmem : bs[i] ∈ b' :: l := hperm.mem_iff.mpr (List.getElem_mem hi)
          rcases List.mem_cons.mp hmem with hfirst | hlater
          · refine ⟨l, (List.perm_cons bs[i]).mp ?_, hl⟩
            rw [hfirst]
            exact hperm.trans (hfirst ▸ hbs.symm)
          · -- a later element was given what the first takes: it gets the other in its place
            have hswap : ∀ a' ∈ as, fits a' bs[i] = true → fits a' b' = true := fun a' ha' hfit' =>
              h a (List.mem_cons_self ..) a' (List.mem_cons_of_mem _ ha') _ hfit hfit' _ hab'
            obtain ⟨l', hl', hexchanged⟩ := exchange hl hlater hswap
            exact ⟨l', (List.perm_cons bs[i]).mp
              (hexchanged.symm.trans (hperm.trans hbs.symm)), hl'⟩

end GreedyMatching
end SmeDataCenter
