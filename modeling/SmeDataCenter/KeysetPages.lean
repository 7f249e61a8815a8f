import Mathlib.Data.List.Sort

/-!
# Pages by position

Rows are read in the order of a position, page by page: a page holds the first rows behind a
cursor, and the position of its last row is the cursor of the next page if there is one. The
rows can change between pages. A row that is there when the page is read, behind the cursor and
not behind the cursor of the next page, is in the page.
-/

namespace SmeDataCenter
namespace KeysetPages

variable {α P : Type*} [LinearOrder P] {pos : α → P} {rows : List α} {cursor : Option P}
  {limit : ℕ} {row : α}

/-- The position is behind the cursor. -/
def Beyond (cursor : Option P) (p : P) : Prop := ∀ c, cursor = some c → c < p

instance (cursor : Option P) (p : P) : Decidable (Beyond cursor p) :=
  match cursor with
  | none => isTrue fun _ h => by cases h
  | some c => decidable_of_iff (c < p) ⟨fun h _ hc => Option.some.inj hc ▸ h, fun h => h c rfl⟩

/-- One row more than the page, to see whether there is a next one. -/
def found (pos : α → P) (rows : List α) (cursor : Option P) (limit : ℕ) : List α :=
  ((rows.filter fun row => Beyond cursor (pos row)).insertionSort
    fun a b => pos a ≤ pos b).take (limit + 1)

/-- The rows of a page, and its last row if there is a next page. -/
def page (pos : α → P) (rows : List α) (cursor : Option P) (limit : ℕ) : List α × Option α :=
  let found := found pos rows cursor limit
  let page := found.take limit
  (page, if limit < found.length then page.getLast? else none)

lemma mem_rows_of_mem_page (h : row ∈ (page pos rows cursor limit).1) :
    row ∈ rows ∧ Beyond cursor (pos row) := by
  have hfound := List.mem_of_mem_take (List.mem_of_mem_take h)
  rw [List.mem_insertionSort, List.mem_filter, decide_eq_true_eq] at hfound
  exact hfound

lemma mem_of_last {last : α} (h : (page pos rows cursor limit).2 = some last) :
    last ∈ (page pos rows cursor limit).1 := by
  unfold page at h
  dsimp only at h
  split_ifs at h
  exact List.mem_of_getLast? h

/-- **A page is complete up to the next cursor.** -/
theorem mem_page (hlimit : 0 < limit) (hpos : ∀ a ∈ rows, ∀ b ∈ rows, pos a = pos b → a = b)
    (hrow : row ∈ rows) (hbeyond : Beyond cursor (pos row))
    (hnext : ∀ last, (page pos rows cursor limit).2 = some last → pos row ≤ pos last) :
    row ∈ (page pos rows cursor limit).1 := by
  obtain ⟨sorted, hsorted⟩ : ∃ sorted, sorted =
      (rows.filter fun row => Beyond cursor (pos row)).insertionSort
        fun a b => pos a ≤ pos b := ⟨_, rfl⟩
  have hmem : row ∈ sorted := by
    rw [hsorted, List.mem_insertionSort, List.mem_filter, decide_eq_true_eq]
    exact ⟨hrow, hbeyond⟩
  have horder : sorted.Pairwise fun a b => pos a ≤ pos b := by
    rw [hsorted]
    exact List.pairwise_insertionSort _ _
  have hrows : ∀ a ∈ sorted, a ∈ rows := by
    intro a ha
    rw [hsorted, List.mem_insertionSort] at ha
    exact List.mem_of_mem_filter ha
  have hpage : (page pos rows cursor limit).1 = sorted.take limit := by
    unfold page found
    dsimp only
    rw [← hsorted, List.take_take, Nat.min_eq_left (Nat.le_succ limit)]
  rw [hpage]
  by_cases hlen : limit < sorted.length
  swap
  · rw [List.take_of_length_le (not_lt.mp hlen)]
    exact hmem
  -- the page is full, and ends with the next cursor
  obtain ⟨last, hlast⟩ : ∃ last, (sorted.take limit).getLast? = some last := by
    cases hnone : (sorted.take limit).getLast? with
    | some last => exact ⟨last, rfl⟩
    | none =>
      rw [List.getLast?_eq_none_iff, List.take_eq_nil_iff] at hnone
      rcases hnone with h0 | hnil
      · omega
      · rw [hnil] at hmem
        cases hmem
  have hcursor : (page pos rows cursor limit).2 = some last := by
    unfold page found
    dsimp only
    rw [← hsorted, List.take_take, Nat.min_eq_left (Nat.le_succ limit), List.length_take, hlast,
      if_pos (by omega)]
  have hle := hnext _ hcursor
  have hmemlast : last ∈ sorted.take limit := List.mem_of_getLast? hlast
  rw [← List.take_append_drop limit sorted] at hmem horder
  rcases List.mem_append.mp hmem with hin | hout
  · exact hin
  · have hge := (List.pairwise_append.mp horder).2.2 last hmemlast row hout
    have hsame : row = last :=
      hpos row hrow last (hrows last (List.mem_of_mem_take hmemlast)) (le_antisymm hle hge)
    rw [hsame]
    exact hmemlast

end KeysetPages
end SmeDataCenter
