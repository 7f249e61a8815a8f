import Mathlib.Data.List.Dedup
import Mathlib.Data.List.Sort

/-!
# Lists of selected rows

Rows that were selected in one order or another. A sort by a key that tells the rows apart gives
one list for all orders.
-/

namespace SmeDataCenter
namespace Selections

variable {α κ : Type}

/-! ### Sorting by a key -/

section Sorting

variable [LinearOrder κ] (key : α → κ)

/-- The rows sorted by their keys. -/
def sortBy (rows : List α) : List α := rows.insertionSort fun a b => key a ≤ key b

lemma sortBy_perm (rows : List α) : (sortBy key rows).Perm rows := List.perm_insertionSort _ rows

@[simp] lemma mem_sortBy {rows : List α} {a : α} : a ∈ sortBy key rows ↔ a ∈ rows :=
  (sortBy_perm key rows).mem_iff

lemma sortBy_sorted (rows : List α) : (sortBy key rows).Pairwise fun a b => key a ≤ key b := by
  have : Std.Total fun a b : α => key a ≤ key b := ⟨fun a b => le_total (key a) (key b)⟩
  have : IsTrans α fun a b => key a ≤ key b := ⟨fun _ _ _ => le_trans⟩
  exact List.pairwise_insertionSort _ rows

lemma eq_of_sorted {l l' : List α} (hperm : l.Perm l')
    (hl : l.Pairwise fun a b => key a ≤ key b) (hl' : l'.Pairwise fun a b => key a ≤ key b)
    (hkey : ∀ a ∈ l, ∀ b ∈ l, key a = key b → a = b) : l = l' := by
  refine List.Perm.eq_of_pairwise (fun a b ha hb hab hba => ?_) hl hl' hperm
  exact hkey a ha b (hperm.mem_iff.mpr hb) (le_antisymm hab hba)

lemma sortBy_eq {l l' : List α} (hperm : l.Perm l')
    (hkey : ∀ a ∈ l, ∀ b ∈ l, key a = key b → a = b) : sortBy key l = sortBy key l' := by
  apply eq_of_sorted key
  · exact (sortBy_perm key l).trans (hperm.trans (sortBy_perm key l').symm)
  · exact sortBy_sorted key l
  · exact sortBy_sorted key l'
  · intro a ha b hb
    exact hkey a ((mem_sortBy key).mp ha) b ((mem_sortBy key).mp hb)

end Sorting

end Selections
end SmeDataCenter
