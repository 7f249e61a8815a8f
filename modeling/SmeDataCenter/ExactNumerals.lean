import SmeDataCenter.DecimalNumerals

/-!
# Numbers of a spreadsheet

A cell may write a number with an exponent. The point is moved digit by digit, and zeros come in
where the digits end, so that a plain numeral of the same number is left.
-/

namespace SmeDataCenter
namespace Spreadsheet

open DecimalNumerals

/-! ### Reading -/

/-- The groups of `/^([+-]?)(\d*)(?:\.(\d*))?[eE]([+-]?\d+)$/`. -/
structure ScientificParts where
  sign : Text
  integer : Text
  fraction : Text
  exponent : ℤ

/-- `([+-]?)`, and what follows. -/
def takeSign : Text → Text × Text
  | '+' :: rest => (['+'], rest)
  | '-' :: rest => (['-'], rest)
  | rest => ([], rest)

/-- `(?:\.(\d*))?`, and what follows. -/
def takeFraction : Text → Text × Text
  | '.' :: rest => (rest.takeWhile Text.isDigit, rest.dropWhile Text.isDigit)
  | rest => ([], rest)

/-- `[eE]([+-]?\d+)$` -/
def readExponent : Text → Option ℤ
  | c :: rest =>
    let (sign, digits) := takeSign rest
    if (c = 'e' || c = 'E') && digits ≠ [] && digits.all Text.isDigit then
      some (if sign = ['-'] then -(digitsValue digits : ℤ) else digitsValue digits)
    else none
  | [] => none

def readScientific (raw : Text) : Option ScientificParts :=
  let (sign, unsigned) := takeSign raw
  let (fraction, rest) := takeFraction (unsigned.dropWhile Text.isDigit)
  (readExponent rest).map fun exponent =>
    ⟨sign, unsigned.takeWhile Text.isDigit, fraction, exponent⟩

/-! ### Moving the point -/

/-- `while (exponent > 0n)` -/
def moveRight : ℕ → Text × Text → Text × Text
  | 0, digits => digits
  | n + 1, (integer, fraction) =>
    moveRight n (integer ++ [fraction.head?.getD '0'], fraction.tail)

/-- `… || "0"` -/
def orZero (digits : Text) : Text := if digits = [] then ['0'] else digits

/-- `while (exponent < 0n)` -/
def moveLeft : ℕ → Text × Text → Text × Text
  | 0, digits => digits
  | n + 1, (integer, fraction) =>
    moveLeft n (orZero integer.dropLast, integer.getLast?.getD '0' :: fraction)

def movePoint (exponent : ℤ) (digits : Text × Text) : Text × Text :=
  if 0 < exponent then moveRight exponent.toNat digits else moveLeft (-exponent).toNat digits

/-- Expand OOXML scientific notation without converting the decimal mantissa to Number. -/
def exactNumericText (raw : String) : Except String String :=
  if !raw.toList.any (fun c => c = 'e' || c = 'E') then .ok raw
  else match readScientific raw.toList with
    | none => .error "Unsupported XLSX numeric value."
    | some parts =>
      if parts.integer = [] && parts.fraction = [] then .error "Unsupported XLSX numeric value."
      else if parts.exponent < -1000 || 1000 < parts.exponent then
        .error "XLSX numeric exponent limit exceeded."
      else
        let (integer, fraction) := movePoint parts.exponent (orZero parts.integer, parts.fraction)
        .ok (String.ofList (parts.sign ++ integer ++
          if fraction = [] then [] else '.' :: fraction))

example : (exactNumericText "-.5e-3").toOption = some "-0.0005" := by decide +kernel

/-! ### Numerals of a cell -/

/-- An exponent: digits with a sign, after an `e`. -/
inductive Exponent : Text → ℤ → Prop
  | none (e : Char) (digits : Text) (he : e = 'e' ∨ e = 'E') (hne : digits ≠ [])
      (hdigits : IsDigits digits) : Exponent (e :: digits) (digitsValue digits)
  | plus (e : Char) (digits : Text) (he : e = 'e' ∨ e = 'E') (hne : digits ≠ [])
      (hdigits : IsDigits digits) : Exponent (e :: '+' :: digits) (digitsValue digits)
  | minus (e : Char) (digits : Text) (he : e = 'e' ∨ e = 'E') (hne : digits ≠ [])
      (hdigits : IsDigits digits) : Exponent (e :: '-' :: digits) (-digitsValue digits)

/-- A text writes a number, with an exponent or without one. -/
inductive CellNumeral : Text → ℤ → ℚ → Prop
  | plain (text : Text) (value : ℚ) (h : Denotes text value) : CellNumeral text 0 value
  | scientific (mantissa suffix : Text) (exponent : ℤ) (value : ℚ) (h : Denotes mantissa value)
      (hexponent : Exponent suffix exponent) :
      CellNumeral (mantissa ++ suffix) exponent (value * 10 ^ exponent)

/-! ### What moving the point does -/

lemma orZero_ne (digits : Text) : orZero digits ≠ [] := by
  unfold orZero
  split <;> simp_all

lemma orZero_digits {digits : Text} (h : IsDigits digits) : IsDigits (orZero digits) := by
  unfold orZero
  split
  · exact isDigits_cons.mpr ⟨by decide, isDigits_nil⟩
  · exact h

lemma decimalValue_orZero (integer fraction : Text) :
    decimalValue (orZero integer) fraction = decimalValue integer fraction := by
  unfold orZero
  split
  · next h => rw [h, decimalValue_zero_cons]
  · rfl

/-- The two texts are digits, and there are some before the point. -/
structure PointedDigits (digits : Text × Text) : Prop where
  ne : digits.1 ≠ []
  integer : IsDigits digits.1
  fraction : IsDigits digits.2

lemma moveRight_spec {n : ℕ} {digits : Text × Text} (h : PointedDigits digits) :
    PointedDigits (moveRight n digits) ∧
      decimalValue (moveRight n digits).1 (moveRight n digits).2 =
        decimalValue digits.1 digits.2 * 10 ^ n := by
  induction n generalizing digits with
  | zero => exact ⟨h, by rw [moveRight, pow_zero, mul_one]⟩
  | succ n ih =>
    obtain ⟨integer, fraction⟩ := digits
    have hzero : decimalValue (integer ++ ['0']) [] = 10 * decimalValue integer [] := by
      rw [decimalValue_move, ← List.nil_append ['0'], decimalValue_concat_zero]
    cases fraction with
    | nil =>
      have hnext : PointedDigits (integer ++ ['0'], []) :=
        ⟨by simp, isDigits_append.mpr ⟨h.integer, orZero_digits isDigits_nil⟩, isDigits_nil⟩
      obtain ⟨hdigits, hvalue⟩ := ih hnext
      refine ⟨hdigits, hvalue.trans ?_⟩
      dsimp only
      rw [hzero, pow_succ]
      ring
    | cons c fraction =>
      obtain ⟨hc, hfraction⟩ := isDigits_cons.mp h.fraction
      have hnext : PointedDigits (integer ++ [c], fraction) :=
        ⟨by simp, isDigits_append.mpr ⟨h.integer, isDigits_cons.mpr ⟨hc, isDigits_nil⟩⟩, hfraction⟩
      obtain ⟨hdigits, hvalue⟩ := ih hnext
      refine ⟨hdigits, hvalue.trans ?_⟩
      dsimp only
      rw [decimalValue_move, pow_succ]
      ring

lemma moveLeft_spec {n : ℕ} {digits : Text × Text} (h : PointedDigits digits) :
    PointedDigits (moveLeft n digits) ∧
      decimalValue (moveLeft n digits).1 (moveLeft n digits).2 * 10 ^ n =
        decimalValue digits.1 digits.2 := by
  induction n generalizing digits with
  | zero => exact ⟨h, by rw [moveLeft, pow_zero, mul_one]⟩
  | succ n ih =>
    obtain ⟨integer, fraction⟩ := digits
    obtain ⟨front, c, rfl⟩ : ∃ front c, integer = front ++ [c] := by
      rcases List.eq_nil_or_concat integer with rfl | ⟨front, c, rfl⟩
      · exact absurd rfl h.ne
      · exact ⟨front, c, by simp⟩
    obtain ⟨hfront, hc⟩ := isDigits_append.mp h.integer
    have hnext : PointedDigits (orZero front, c :: fraction) :=
      ⟨orZero_ne front, orZero_digits hfront,
        isDigits_cons.mpr ⟨(isDigits_cons.mp hc).1, h.fraction⟩⟩
    have hstep : moveLeft (n + 1) (front ++ [c], fraction) =
        moveLeft n (orZero front, c :: fraction) := by
      rw [moveLeft, List.dropLast_concat, List.getLast?_concat, Option.getD_some]
    obtain ⟨hdigits, hvalue⟩ := ih hnext
    rw [hstep]
    refine ⟨hdigits, ?_⟩
    rw [pow_succ, ← mul_assoc, hvalue]
    dsimp only
    rw [decimalValue_orZero, decimalValue_move]
    ring

lemma movePoint_spec {exponent : ℤ} {digits : Text × Text} (h : PointedDigits digits) :
    PointedDigits (movePoint exponent digits) ∧
      decimalValue (movePoint exponent digits).1 (movePoint exponent digits).2 =
        decimalValue digits.1 digits.2 * 10 ^ exponent := by
  unfold movePoint
  by_cases hpos : 0 < exponent
  · rw [if_pos hpos]
    obtain ⟨hdigits, hvalue⟩ := moveRight_spec (n := exponent.toNat) h
    refine ⟨hdigits, hvalue.trans ?_⟩
    rw [← zpow_natCast, Int.toNat_of_nonneg hpos.le]
  · rw [if_neg hpos]
    obtain ⟨hdigits, hvalue⟩ := moveLeft_spec (n := (-exponent).toNat) h
    refine ⟨hdigits, ?_⟩
    have hexponent : (10 : ℚ) ^ exponent = (10 ^ (-exponent).toNat)⁻¹ := by
      rw [← zpow_natCast, Int.toNat_of_nonneg (by omega), zpow_neg, inv_inv]
    rw [hexponent, ← hvalue]
    field_simp

/-! ### Exactness -/

lemma takeSign_of {text body integer fraction rest : Text} {negative : Bool}
    (hsigned : Signed text negative body) (h : Magnitude body integer fraction) :
    ∃ sign, takeSign (text ++ rest) = (sign, body ++ rest) ∧
      ∀ body', Signed (sign ++ body') negative body' := by
  cases hsigned with
  | none =>
    refine ⟨[], ?_, fun body' => .none body'⟩
    cases text with
    | nil => exact absurd rfl h.ne_nil
    | cons c text =>
      have hc := h.mem (List.mem_cons_self (a := c))
      unfold takeSign
      split
      · next heq =>
        obtain ⟨rfl, -⟩ := List.cons.inj heq
        exact absurd hc (by decide)
      · next heq =>
        obtain ⟨rfl, -⟩ := List.cons.inj heq
        exact absurd hc (by decide)
      · rfl
  | plus => exact ⟨['+'], rfl, fun body' => .plus body'⟩
  | minus => exact ⟨['-'], rfl, fun body' => .minus body'⟩

variable {exponent : ℤ} {suffix : Text}

lemma Exponent.head (h : Exponent suffix exponent) {c : Char} (hc : suffix.head? = some c) :
    c = 'e' ∨ c = 'E' := by
  cases h with
  | none e _ he _ _ => exact Option.some.inj hc ▸ he
  | plus e _ he _ _ => exact Option.some.inj hc ▸ he
  | minus e _ he _ _ => exact Option.some.inj hc ▸ he

lemma Exponent.head_not_digit (h : Exponent suffix exponent) :
    ∀ c, suffix.head? = some c → Text.isDigit c = false := by
  intro c hc
  rcases h.head hc with rfl | rfl <;> decide

lemma Exponent.takeFraction (h : Exponent suffix exponent) :
    takeFraction suffix = ([], suffix) := by
  unfold Spreadsheet.takeFraction
  split
  · exact absurd (h.head rfl) (by decide)
  · rfl

lemma readExponent_of (h : Exponent suffix exponent) : readExponent suffix = some exponent := by
  have hall {digits : Text} (hdigits : IsDigits digits) : digits.all Text.isDigit = true :=
    List.all_eq_true.mpr hdigits
  have hletter {e : Char} (he : e = 'e' ∨ e = 'E') : (e = 'e' || e = 'E') = true := by
    simpa using he
  cases h with
  | none e digits he hne hdigits =>
    have hsign : takeSign digits = ([], digits) := by
      unfold takeSign
      split
      · exact absurd (isDigits_cons.mp hdigits).1 (by decide)
      · exact absurd (isDigits_cons.mp hdigits).1 (by decide)
      · rfl
    simp [readExponent, hsign, hletter he, hne, hall hdigits]
  | plus e digits he hne hdigits =>
    simp [readExponent, takeSign, hletter he, hne, hall hdigits]
  | minus e digits he hne hdigits =>
    simp [readExponent, takeSign, hletter he, hne, hall hdigits]

lemma takeFraction_of {body integer fraction : Text} (h : Magnitude body integer fraction)
    (hexponent : Exponent suffix exponent) :
    (body ++ suffix).takeWhile Text.isDigit = integer ∧
      takeFraction ((body ++ suffix).dropWhile Text.isDigit) = (fraction, suffix) := by
  cases h with
  | whole _ _ hdigits =>
    obtain ⟨htake, hdrop⟩ := span_digits hdigits hexponent.head_not_digit
    exact ⟨htake, by rw [hdrop, hexponent.takeFraction]⟩
  | pointed integer fraction _ hdigits hfraction =>
    obtain ⟨htake, hdrop⟩ := @span_digits _ ('.' :: (fraction ++ suffix)) hdigits
      (by simp [isDigit_point])
    obtain ⟨htake', hdrop'⟩ := span_digits hfraction hexponent.head_not_digit
    rw [List.append_assoc, List.cons_append]
    refine ⟨htake, ?_⟩
    rw [hdrop, takeFraction, htake', hdrop']
  | fraction _ _ hfraction =>
    obtain ⟨htake', hdrop'⟩ := span_digits hfraction hexponent.head_not_digit
    refine ⟨rfl, ?_⟩
    change takeFraction ('.' :: (fraction ++ suffix)) = _
    rw [takeFraction, htake', hdrop']

lemma no_letter_of_denotes {text : Text} {value : ℚ} (h : Denotes text value) :
    text.any (fun c => c = 'e' || c = 'E') = false := by
  obtain ⟨negative, body, integer, fraction, hsigned, hbody, -⟩ := h
  have hmem : ∀ c ∈ text, c ∈ body ∨ c = '+' ∨ c = '-' := by
    intro c hc
    cases hsigned with
    | none => exact .inl hc
    | plus => exact (List.mem_cons.mp hc).elim (fun h => .inr (.inl h)) .inl
    | minus => exact (List.mem_cons.mp hc).elim (fun h => .inr (.inr h)) .inl
  refine List.any_eq_false.mpr fun c hc => ?_
  rcases hmem c hc with hc | rfl | rfl
  · rcases hbody.mem hc with hdigit | rfl
    · have := isDigit_iff.mp hdigit
      have hne : c ≠ 'e' ∧ c ≠ 'E' := by
        constructor <;> rintro rfl <;> exact absurd this (by decide)
      simp [hne]
    · decide
  · decide
  · decide

/-- A numeral of a cell becomes a plain numeral of the same number. -/
theorem exactNumericText_exact (raw : String) (exponent : ℤ) (value : ℚ)
    (h : CellNumeral raw.toList exponent value) (hrange : -1000 ≤ exponent ∧ exponent ≤ 1000) :
    ∃ text, exactNumericText raw = .ok text ∧ Denotes text.toList value := by
  generalize hraw : raw.toList = characters at h
  cases h with
  | plain _ _ hwrites =>
    refine ⟨raw, ?_, hraw ▸ hwrites⟩
    rw [exactNumericText, hraw, no_letter_of_denotes hwrites]
    rfl
  | scientific mantissa suffix _ mantissaValue hwrites hexponent =>
    obtain ⟨negative, body, integer, fraction, hsigned, hbody, rfl⟩ := hwrites
    obtain ⟨sign, hsign, hresigned⟩ := @takeSign_of _ _ _ _ suffix _ hsigned hbody
    obtain ⟨htake, hfraction⟩ := takeFraction_of hbody hexponent
    have hread : readScientific (mantissa ++ suffix) =
        some ⟨sign, integer, fraction, exponent⟩ := by
      unfold readScientific
      simp only [hsign, htake, hfraction, readExponent_of hexponent, Option.map_some]
    have hletter : (mantissa ++ suffix).any (fun c => c = 'e' || c = 'E') = true := by
      refine List.any_eq_true.mpr ?_
      obtain ⟨c, rest, rfl⟩ : ∃ c rest, suffix = c :: rest := by
        cases hexponent <;> exact ⟨_, _, rfl⟩
      refine ⟨c, by simp, ?_⟩
      simpa using hexponent.head rfl
    have hsome : ¬((decide (integer = []) && decide (fraction = [])) = true) := by
      rw [Bool.and_eq_true, decide_eq_true_eq, decide_eq_true_eq]
      rintro ⟨rfl, rfl⟩
      cases hbody with
      | whole _ hne _ => exact hne rfl
      | pointed _ _ hne _ _ => exact hne rfl
      | fraction _ hne _ => exact hne rfl
    have hdigits : PointedDigits (orZero integer, fraction) :=
      ⟨orZero_ne integer, orZero_digits hbody.digits.1, hbody.digits.2⟩
    obtain ⟨hmoved, hvalue⟩ := @movePoint_spec exponent _ hdigits
    generalize hpair : movePoint exponent (orZero integer, fraction) = moved at hmoved hvalue
    obtain ⟨integer', fraction'⟩ := moved
    refine ⟨String.ofList (sign ++ integer' ++ if fraction' = [] then [] else '.' :: fraction'),
      ?_, ?_⟩
    · rw [exactNumericText, hraw, hletter, hread]
      simp only [Bool.not_true, Bool.false_eq_true, if_false]
      rw [if_neg hsome, if_neg (by simp; omega), hpair]
    · rw [String.toList_ofList, List.append_assoc]
      refine ⟨negative, _, integer', fraction', hresigned _, ?_, ?_⟩
      · by_cases hnil : fraction' = []
        · rw [if_pos hnil, hnil, List.append_nil]
          exact .whole _ hmoved.ne hmoved.integer
        · rw [if_neg hnil]
          exact .pointed _ _ hmoved.ne hmoved.integer hmoved.fraction
      · rw [decimalValue_orZero] at hvalue
        rw [hvalue]
        cases negative <;> simp [signed]

/-- `-.5e-3` is a numeral with the exponent `-3`. -/
theorem half_thousandth_expanded :
    ∃ text, exactNumericText "-.5e-3" = .ok text ∧ Denotes text.toList (-(5 / 10) * 10 ^ (-3 : ℤ)) :=
  exactNumericText_exact "-.5e-3" (-3) (-(5 / 10) * 10 ^ (-3 : ℤ))
    (.scientific ['-', '.', '5'] ['e', '-', '3'] (-3) (-(5 / 10))
      ⟨true, ['.', '5'], [], ['5'], .minus _,
        .fraction ['5'] (by decide) (isDigits_cons.mpr ⟨by decide, isDigits_nil⟩),
        by decide +kernel⟩
      (.minus 'e' ['3'] (.inl rfl) (by decide) (isDigits_cons.mpr ⟨by decide, isDigits_nil⟩)))
    (by decide)

end Spreadsheet
end SmeDataCenter
