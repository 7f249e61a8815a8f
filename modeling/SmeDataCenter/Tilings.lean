import Mathlib.Algebra.Order.Floor.Div
import Mathlib.Data.List.Basic

/-!
# Tilings of an interval

A list of intervals tiles what lies between two numbers when each begins where the one before it
ends. Blocks of one size, the last cut at the end, tile a length; read in order they give the list
they were cut from.
-/

namespace SmeDataCenter
namespace Tilings

/-- The intervals, each given by its first and last number, follow each other from `start` up to,
and without, `stop`; none is empty. -/
def Tiles : ℕ → List (ℕ × ℕ) → ℕ → Prop
  | start, [], stop => start = stop
  | start, (first, last) :: rest, stop =>
    first = start ∧ first ≤ last ∧ Tiles (last + 1) rest stop

variable {start stop : ℕ} {intervals : List (ℕ × ℕ)}

lemma tiles_append {middle : ℕ} {rest : List (ℕ × ℕ)} (h : Tiles start intervals middle)
    (hrest : Tiles middle rest stop) : Tiles start (intervals ++ rest) stop := by
  induction intervals generalizing start with
  | nil =>
    cases h
    exact hrest
  | cons interval intervals ih =>
    obtain ⟨hfirst, hle, htail⟩ := h
    exact ⟨hfirst, hle, ih htail⟩

lemma start_le {place : ℕ} {interval : ℕ × ℕ} (h : Tiles start intervals stop)
    (hinterval : intervals[place]? = some interval) : start ≤ interval.1 := by
  induction intervals generalizing start place with
  | nil => simp at hinterval
  | cons first rest ih =>
    obtain ⟨hfirst, hle, hrest⟩ := h
    cases place with
    | zero =>
      cases hinterval
      omega
    | succ place =>
      have := ih hrest hinterval
      omega

/-- A number of the interval lies in exactly one of its tiles. -/
theorem existsUnique_tile {number : ℕ} (h : Tiles start intervals stop) (hstart : start ≤ number)
    (hstop : number < stop) :
    ∃! place : ℕ, ∃ interval : ℕ × ℕ, intervals[place]? = some interval ∧
      interval.1 ≤ number ∧ number ≤ interval.2 := by
  induction intervals generalizing start with
  | nil =>
    cases h
    omega
  | cons interval intervals ih =>
    obtain ⟨hfirst, hle, hrest⟩ := h
    by_cases hnumber : number ≤ interval.2
    · refine ⟨0, ⟨interval, rfl, by omega, hnumber⟩, ?_⟩
      rintro place ⟨other, hother, hfrom, -⟩
      cases place with
      | zero => rfl
      | succ place =>
        have := start_le hrest hother
        omega
    · obtain ⟨place, hplace, hunique⟩ := ih hrest (by omega)
      refine ⟨place + 1, hplace, ?_⟩
      rintro other ⟨found, hfound, hbounds⟩
      cases other with
      | zero =>
        cases hfound
        omega
      | succ other => rw [hunique other ⟨found, hfound, hbounds⟩]

/-! ### Blocks of one size -/

variable {size : ℕ}

lemma tiles_blocks {total : ℕ} (hsize : 0 < size) (count : ℕ)
    (hcount : ∀ block < count, block * size < total) :
    Tiles 0 ((List.range count).map fun block =>
        (block * size, min total (block * size + size) - 1))
      (min total (count * size)) := by
  induction count with
  | zero => simp [Tiles]
  | succ count ih =>
    rw [List.range_succ, List.map_append]
    refine tiles_append (ih fun block hblock => hcount block (by omega)) ?_
    have hlast := hcount count (by omega)
    have hend : min total (count * size + size) - 1 + 1 = min total (count * size + size) := by
      omega
    rw [Nat.min_eq_right hlast.le, Nat.succ_mul]
    exact ⟨rfl, by omega, hend⟩

lemma flatMap_blocks {α : Type*} (xs : List α) (size count : ℕ) :
    ((List.range count).flatMap fun block => (xs.drop (block * size)).take size) =
      xs.take (count * size) := by
  induction count with
  | zero => simp
  | succ count ih =>
    rw [List.range_succ, List.flatMap_append, ih, Nat.succ_mul, List.take_add]
    simp

lemma mul_lt_of_lt_ceilDiv {total block : ℕ} (hsize : 0 < size) (h : block < total ⌈/⌉ size) :
    block * size < total := by
  by_contra hle
  have hceil := (ceilDiv_le_iff_le_mul hsize).mpr (show total ≤ size * block by
    rw [Nat.mul_comm]
    omega)
  omega

lemma le_ceilDiv_mul (total : ℕ) (hsize : 0 < size) : total ≤ total ⌈/⌉ size * size := by
  rw [Nat.mul_comm]
  exact (ceilDiv_le_iff_le_mul hsize).mp le_rfl

end Tilings
end SmeDataCenter
