import Mathlib
import SmeDataCenter.TextPatterns

/-!
# The printed ledger

A field that needs more than eighteen lines is split over continuation rows. The splitting fills the
lines one after another, and the height of a row is estimated from the lengths of the lines. In the
supplier's column, of an odd width, the estimate puts half a character more on a line.
-/

namespace SmeDataCenter.LedgerPdf

/-! ### The rows of the workbook -/

structure LedgerPrintRow where
  receiptId : Text
  itemName : Text
  specification : Option Text
  purchaseQuantity : Text
  purchaseAmount : Text
  productionDateOrBatch : Option Text
  shelfLife : Option Text
  supplierName : Option Text
  supplierUnitAddress : Option Text
  supplierContactPhone : Option Text
  purchaseDate : Text

def columnWidths : List ℕ := [18, 20, 12, 20, 16, 22, 14, 23, 30, 20, 16]

def glyphWidthUnits : ℕ := 2

/-- The lower case letters of `null` are those of the ASCII letters alone. -/
def printValue : Option Text → Text
  | none => []
  | some value => if value.trim.map Char.toLower = "null".toList then [] else value

/-- The fields in the order of the profile's columns. -/
def LedgerPrintRow.values (row : LedgerPrintRow) : List Text :=
  [some row.receiptId, some row.itemName, row.specification, some row.purchaseQuantity,
    some row.purchaseAmount, row.productionDateOrBatch, row.shelfLife, row.supplierName,
    row.supplierUnitAddress, row.supplierContactPhone, some row.purchaseDate].map printValue

def wrappedLines (text : Text) (width : ℕ) : ℕ :=
  ((text.splitOn '\n').map fun part =>
    max 1 ((part.length * glyphWidthUnits) ⌈/⌉ (width - 2))).sum

/-- The number of the line after a character, and the width that is used up on it. -/
def place (width : ℕ) (line : ℕ × ℕ) (character : Char) : ℕ × ℕ :=
  if character = '\n' then (line.1 + 1, 0)
  else if line.2 + glyphWidthUnits > width - 2 then (line.1 + 1, glyphWidthUnits)
  else (line.1, line.2 + glyphWidthUnits)

structure Printing where
  segments : List Text := []
  segment : Text := []
  line : ℕ × ℕ := (1, 0)

def printCharacter (width : ℕ) (s : Printing) (character : Char) : Printing :=
  let nextLines := s.line.1 +
    if character = '\n' ∨ s.line.2 + glyphWidthUnits > width - 2 then 1 else 0
  let s : Printing := if nextLines > 18 then { segments := s.segments ++ [s.segment] } else s
  { s with segment := s.segment ++ [character], line := place width s.line character }

def printSegments (text : Text) (width : ℕ) : List Text :=
  let s := text.foldl (printCharacter width) {}
  s.segments ++ [s.segment]

/-- The height of a row in points. -/
def rowHeight (partValues : List Text) : ℕ :=
  (partValues.zip columnWidths).foldr
    (fun cell height => max (wrappedLines cell.1 cell.2 * 15 + 8) height) 28

/-- The cells of a continuation, with the height of its row. -/
def printedRow (values : List Text) (segments : List (List Text)) (continuation : ℕ) :
    List Text × ℕ :=
  let partValues := segments.map fun parts => parts.getD continuation []
  let first := values.headD []
  let partValues := if continuation > 0 ∧ partValues.headD [] = [] then
      partValues.set 0 (if wrappedLines first 18 ≤ 2 then first ++ "（续）".toList
        else "（续）".toList)
    else partValues
  (partValues, rowHeight partValues)

def printedRows (row : LedgerPrintRow) : List (List Text × ℕ) :=
  let segments := row.values.zipWith printSegments columnWidths
  (List.range ((segments.map List.length).foldr max 0)).map (printedRow row.values segments)

/-! ### What the paper holds -/

/-- The lines that a text needs, of so many characters each. -/
def linesNeeded (text : Text) (held : ℕ) : ℕ :=
  ((text.splitOn '\n').map fun part => max 1 (part.length ⌈/⌉ held)).sum

/-- The characters that a line holds. -/
def charactersHeld (width : ℕ) : ℕ := (width - 2) / 2

/-- Nothing of the row is cut off. -/
structure PrintedWhole (row : LedgerPrintRow) : Prop where
  segments : ∀ value ∈ row.values, ∀ width ∈ columnWidths,
    (printSegments value width).flatten = value ∧
      ∀ segment ∈ printSegments value width, linesNeeded segment (charactersHeld width) ≤ 18
  heights : ∀ printed ∈ printedRows row, ∀ cell ∈ printed.1.zip columnWidths,
    15 * linesNeeded cell.1 (charactersHeld cell.2) ≤ printed.2

/-- At ten characters to a line the supplier's name needs no more lines than at ten and a half, or
than another cell of its row. -/
def SupplierFits (cells : List Text) : Prop :=
  let lines := linesNeeded (cells.getD 7 []) 10
  lines ≤ (((cells.getD 7 []).splitOn '\n').map fun part =>
      max 1 ((part.length * 2) ⌈/⌉ 21)).sum ∨
    ∃ i ≠ 7, ∃ cell ∈ (cells.zip columnWidths)[i]?,
      lines ≤ linesNeeded cell.1 (charactersHeld cell.2)

/-! ### The lines of a segment -/

variable {width : ℕ}

lemma place_line (line : ℕ × ℕ) (character : Char) :
    (place width line character).1 = line.1 +
      if character = '\n' ∨ line.2 + glyphWidthUnits > width - 2 then 1 else 0 := by
  unfold place
  by_cases hc : character = '\n'
  · simp [hc]
  · by_cases hover : line.2 + glyphWidthUnits > width - 2
    · simp [hc, hover]
    · simp [hc, hover]

/-- The lines of the parts of a text, the first of them behind `m` characters. -/
def linesFrom (held m : ℕ) : List (List Char) → ℕ
  | [] => 0
  | part :: parts => max 1 ((m + part.length) ⌈/⌉ held) +
      (parts.map fun part => max 1 (part.length ⌈/⌉ held)).sum

lemma linesFrom_zero (held : ℕ) (parts : List (List Char)) : linesFrom held 0 parts =
    (parts.map fun part => max 1 (part.length ⌈/⌉ held)).sum := by
  cases parts with
  | nil => rfl
  | cons part parts => rw [linesFrom, Nat.zero_add, List.map_cons, List.sum_cons]

/-- The lines are filled one after another as their lengths say. -/
lemma foldl_place (hwidth : 4 ≤ width) (text : Text) (l m : ℕ) (hm : m ≤ charactersHeld width) :
    (text.foldl (place width) (l, 2 * m)).1 + 1 =
      l + linesFrom (charactersHeld width) m (text.splitOn '\n') := by
  have hheld : 0 < charactersHeld width := by unfold charactersHeld; omega
  induction text generalizing l m with
  | nil =>
    have : m ⌈/⌉ charactersHeld width ≤ 1 := (ceilDiv_le_iff_le_mul hheld).mpr (by omega)
    simp [linesFrom, this]
  | cons c text ih =>
    rw [List.foldl_cons, List.splitOn_cons_eq_if_modifyHead]
    by_cases hc : c = '\n'
    · have : m ⌈/⌉ charactersHeld width ≤ 1 := (ceilDiv_le_iff_le_mul hheld).mpr (by omega)
      have hnext := ih (l + 1) 0 (Nat.zero_le _)
      rw [linesFrom_zero, Nat.mul_zero] at hnext
      rw [place, if_pos hc, if_pos (beq_iff_eq.mpr hc), linesFrom]
      simp only [List.length_nil, Nat.add_zero]
      omega
    rw [place, if_neg hc, if_neg (mt beq_iff_eq.mp hc)]
    obtain ⟨part, parts, hparts⟩ := List.exists_cons_of_ne_nil (text.splitOn_ne_nil '\n')
    rw [hparts, List.modifyHead_cons, linesFrom, List.length_cons]
    split_ifs with hover
    · -- the line is full
      have hfull : m = charactersHeld width := by
        unfold charactersHeld glyphWidthUnits at *
        dsimp only at hover
        omega
      have hnext : (m + (part.length + 1)) ⌈/⌉ charactersHeld width =
          (1 + part.length) ⌈/⌉ charactersHeld width + 1 := by
        rw [hfull, Nat.ceilDiv_eq_add_pred_div, Nat.ceilDiv_eq_add_pred_div,
          ← Nat.add_div_right _ hheld]
        congr 1
        omega
      have hone : 1 ≤ (1 + part.length) ⌈/⌉ charactersHeld width := by
        by_contra hzero
        have := (ceilDiv_le_iff_le_mul hheld).mp (Nat.lt_one_iff.mp (not_le.mp hzero)).le
        omega
      rw [show glyphWidthUnits = 2 * 1 from rfl, ih (l + 1) 1 hheld, hparts, linesFrom, hnext]
      omega
    · rw [show (l, 2 * m).2 + glyphWidthUnits = 2 * (m + 1) from rfl, ih l (m + 1) ?_, hparts,
        linesFrom, Nat.add_assoc m 1, Nat.add_comm 1]
      unfold charactersHeld glyphWidthUnits at *
      dsimp only at hover
      omega

/-- What holds while a text is printed. -/
structure Sound (width : ℕ) (s : Printing) : Prop where
  segments : ∀ segment ∈ s.segments, linesNeeded segment (charactersHeld width) ≤ 18
  line : s.line = s.segment.foldl (place width) (1, 0)
  short : s.line.1 ≤ 18

lemma Sound.segment {s : Printing} (h : Sound width s) (hwidth : 4 ≤ width) :
    linesNeeded s.segment (charactersHeld width) ≤ 18 := by
  have hlines := foldl_place hwidth s.segment 1 0 (Nat.zero_le _)
  rw [linesFrom_zero, Nat.mul_zero, ← h.line] at hlines
  have := h.short
  change (_ : List ℕ).sum ≤ 18
  omega

lemma Sound.printCharacter {s : Printing} (h : Sound width s) (hwidth : 4 ≤ width) (c : Char) :
    Sound width (printCharacter width s c) := by
  unfold LedgerPdf.printCharacter
  rw [← place_line]
  dsimp only
  split_ifs with hover
  · refine ⟨fun segment hsegment => ?_, rfl, ?_⟩
    · rcases List.mem_append.mp hsegment with hold | hnew
      · exact h.segments segment hold
      · rw [List.mem_singleton.mp hnew]
        exact h.segment hwidth
    · dsimp only
      rw [place_line]
      split_ifs <;> decide
  · refine ⟨h.segments, ?_, Nat.not_lt.mp hover⟩
    rw [List.foldl_append, ← h.line]
    rfl

lemma printCharacter_flatten (s : Printing) (c : Char) :
    (printCharacter width s c).segments.flatten ++ (printCharacter width s c).segment =
      s.segments.flatten ++ s.segment ++ [c] := by
  unfold printCharacter
  dsimp only
  rw [← place_line]
  split_ifs
  · simp
  · simp

lemma printSegments_whole (hwidth : 4 ≤ width) (text : Text) :
    (printSegments text width).flatten = text ∧
      ∀ segment ∈ printSegments text width, linesNeeded segment (charactersHeld width) ≤ 18 := by
  have hrun : ∀ (s : Printing), Sound width s →
      Sound width (text.foldl (printCharacter width) s) ∧
        (text.foldl (printCharacter width) s).segments.flatten ++
          (text.foldl (printCharacter width) s).segment =
            s.segments.flatten ++ s.segment ++ text := by
    induction text with
    | nil => exact fun s hs => ⟨hs, (List.append_nil _).symm⟩
    | cons c text ih =>
      intro s hs
      obtain ⟨hsound, htext⟩ := ih _ (hs.printCharacter hwidth c)
      refine ⟨hsound, ?_⟩
      rw [List.foldl_cons, htext, printCharacter_flatten, List.append_assoc]
      rfl
  obtain ⟨hsound, htext⟩ := hrun {} ⟨nofun, rfl, by decide⟩
  refine ⟨?_, fun segment hsegment => ?_⟩
  · rw [printSegments, List.flatten_append, List.flatten_singleton, htext]
    rfl
  · rcases List.mem_append.mp hsegment with hclosed | hlast
    · exact hsound.segments segment hclosed
    · rw [List.mem_singleton.mp hlast]
      exact hsound.segment hwidth

/-! ### The heights -/

lemma le_wrappedLines (text : Text) : 1 ≤ wrappedLines text width := by
  obtain ⟨part, parts, hparts⟩ := List.exists_cons_of_ne_nil (text.splitOn_ne_nil '\n')
  rw [wrappedLines, hparts, List.map_cons, List.sum_cons]
  omega

/-- The estimate is exact where the width is even. -/
lemma wrappedLines_even (text : Text) (heven : width % 2 = 0) (hwidth : 4 ≤ width) :
    wrappedLines text width = linesNeeded text (charactersHeld width) := by
  have hdouble : width - 2 = 2 * charactersHeld width := by unfold charactersHeld; omega
  have hheld : 0 < charactersHeld width := by unfold charactersHeld; omega
  have hpart : ∀ n : ℕ, (n * glyphWidthUnits) ⌈/⌉ (width - 2) = n ⌈/⌉ charactersHeld width := by
    intro n
    refine eq_of_forall_ge_iff fun c => ?_
    rw [ceilDiv_le_iff_le_mul (by omega), ceilDiv_le_iff_le_mul hheld, hdouble, mul_assoc,
      glyphWidthUnits]
    omega
  simp only [wrappedLines, linesNeeded, hpart]

variable {cells : List Text}

lemma le_rowHeight {n : ℕ} : n ≤ rowHeight cells ↔
    n ≤ 28 ∨ ∃ cell ∈ cells.zip columnWidths, n ≤ wrappedLines cell.1 cell.2 * 15 + 8 := by
  unfold rowHeight
  induction cells.zip columnWidths with
  | nil => simp
  | cons cell cells ih =>
    rw [List.foldr_cons, le_max_iff, ih, List.exists_mem_cons_iff]
    tauto

lemma column_even {i : ℕ} {cell : Text × ℕ} (hi : i ≠ 7)
    (hcell : (cells.zip columnWidths)[i]? = some cell) :
    wrappedLines cell.1 cell.2 = linesNeeded cell.1 (charactersHeld cell.2) := by
  obtain ⟨-, hcolumn⟩ := List.getElem?_zip_eq_some.mp hcell
  have hlt : i < 11 := (List.getElem?_eq_some_iff.mp hcolumn).1
  have hwidth : cell.2 % 2 = 0 ∧ 4 ≤ cell.2 := by
    have : ∀ i < 11, i ≠ 7 → (columnWidths[i]?).all fun w => w % 2 = 0 && 4 ≤ w := by decide
    simpa [hcolumn] using this i hlt hi
  exact wrappedLines_even cell.1 hwidth.1 hwidth.2

/-- The heights of a row are enough as soon as the supplier's name fits. -/
lemma heights_iff (hcells : cells.length = 11) :
    (∀ cell ∈ cells.zip columnWidths,
      15 * linesNeeded cell.1 (charactersHeld cell.2) ≤ rowHeight cells) ↔ SupplierFits cells := by
  have hname : (cells.zip columnWidths)[7]? = some (cells.getD 7 [], 23) := by
    rw [List.getElem?_zip_eq_some, List.getD_eq_getElem?_getD,
      List.getElem?_eq_getElem (by omega)]
    exact ⟨rfl, rfl⟩
  have hfits : SupplierFits cells ↔
      linesNeeded (cells.getD 7 []) (charactersHeld 23) ≤ wrappedLines (cells.getD 7 []) 23 ∨
        ∃ i ≠ 7, ∃ cell ∈ (cells.zip columnWidths)[i]?,
          linesNeeded (cells.getD 7 []) (charactersHeld 23) ≤
            linesNeeded cell.1 (charactersHeld cell.2) := Iff.rfl
  rw [hfits]
  constructor
  · intro h
    rcases le_rowHeight.mp (h _ (List.mem_of_getElem? hname)) with hshort | ⟨cell, hcell, hle⟩
    · have hone : 1 ≤ wrappedLines (cells.getD 7 []) 23 := le_wrappedLines _
      left
      dsimp only at hshort
      omega
    · obtain ⟨i, hi⟩ := List.mem_iff_getElem?.mp hcell
      dsimp only at hle
      by_cases h7 : i = 7
      · rw [h7, hname] at hi
        cases hi
        left
        dsimp only at hle
        omega
      · rw [column_even h7 hi] at hle
        exact .inr ⟨i, h7, cell, hi, by omega⟩
  · intro h cell hcell
    rw [le_rowHeight]
    right
    obtain ⟨i, hi⟩ := List.mem_iff_getElem?.mp hcell
    by_cases h7 : i = 7
    · rw [h7, hname] at hi
      cases hi
      rcases h with h | ⟨j, hj, other, hother, hle⟩
      · refine ⟨_, hcell, ?_⟩
        dsimp only
        omega
      · refine ⟨other, List.mem_of_getElem? hother, ?_⟩
        rw [column_even hj hother]
        dsimp only
        omega
    · refine ⟨cell, hcell, ?_⟩
      rw [column_even h7 hi]
      omega

/-- **When nothing is cut off**: the segments always say the whole value, on eighteen lines each,
and the rows are high enough exactly where the supplier's name fits. -/
theorem printedWhole_iff (row : LedgerPrintRow) :
    PrintedWhole row ↔ ∀ printed ∈ printedRows row, SupplierFits printed.1 := by
  have hrow : ∀ printed ∈ printedRows row,
      printed.1.length = 11 ∧ printed.2 = rowHeight printed.1 := by
    intro printed hprinted
    obtain ⟨continuation, -, rfl⟩ := List.mem_map.mp hprinted
    refine ⟨?_, rfl⟩
    unfold printedRow
    dsimp only
    split
    · rw [List.length_set, List.length_map]
      rfl
    · rw [List.length_map]
      rfl
  constructor
  · intro h printed hprinted
    obtain ⟨hlength, hheight⟩ := hrow printed hprinted
    exact (heights_iff hlength).mp (hheight ▸ h.heights printed hprinted)
  · intro h
    refine ⟨fun value _ width hwidth => printSegments_whole ?_ value, fun printed hprinted => ?_⟩
    · have hleast : ∀ width ∈ columnWidths, 4 ≤ width := by decide
      exact hleast width hwidth
    · obtain ⟨hlength, hheight⟩ := hrow printed hprinted
      rw [hheight]
      exact (heights_iff hlength).mpr (h printed hprinted)

/-- A supplier's name of twenty-one characters needs a third line. -/
theorem longSupplier_cut : ¬ PrintedWhole ⟨"R1".toList, "米".toList, none, "1".toList, "2".toList,
    none, none, some (List.replicate 21 '商'), none, none, "2026-07-01".toList⟩ := by
  intro h
  have := h.heights
  revert this
  decide +kernel

end SmeDataCenter.LedgerPdf
