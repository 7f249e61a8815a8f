import Mathlib.Algebra.Order.Field.Rat
import Mathlib.Tactic.FieldSimp
import Mathlib.Tactic.Positivity
import Mathlib.Tactic.Ring
import SmeDataCenter.CalendarDates

/-!
# Decimal numerals

What a numeral in base ten writes: a sign, digits, and a point that stands between them, before
them or after them. A number has one numeral without needless zeros, and the lengths of its two
parts say whether the number fits a precision and a scale.
-/

namespace SmeDataCenter
namespace DecimalNumerals

/-! ### Digits -/

def IsDigits (text : Text) : Prop := ∀ c ∈ text, Text.isDigit c = true

variable {c : Char}

lemma isDigits_cons {text : Text} :
    IsDigits (c :: text) ↔ Text.isDigit c = true ∧ IsDigits text := List.forall_mem_cons

lemma isDigits_append {a b : Text} : IsDigits (a ++ b) ↔ IsDigits a ∧ IsDigits b :=
  List.forall_mem_append

lemma isDigits_nil : IsDigits [] := List.forall_mem_nil _

lemma span_digits {digits rest : Text} (h : IsDigits digits)
    (hrest : ∀ c, rest.head? = some c → Text.isDigit c = false) :
    (digits ++ rest).takeWhile Text.isDigit = digits ∧
      (digits ++ rest).dropWhile Text.isDigit = rest := by
  rw [List.takeWhile_append_of_pos h, List.dropWhile_append_of_pos h]
  cases rest with
  | nil => simp
  | cons c rest =>
    have hc := hrest c rfl
    simp [hc]

lemma isDigit_point : Text.isDigit '.' = false := by decide

lemma isDigit_iff : Text.isDigit c = true ↔ 48 ≤ c.toNat ∧ c.toNat ≤ 57 := by
  simp only [Text.isDigit, Bool.and_eq_true, decide_eq_true_eq]
  exact Iff.rfl

lemma digitValue_eq (c : Char) : digitValue c = c.toNat - 48 := rfl

lemma digitValue_lt (h : Text.isDigit c = true) : digitValue c < 10 := by
  have := isDigit_iff.mp h
  rw [digitValue_eq]
  omega

lemma digitValue_inj {d : Char} (hc : Text.isDigit c = true) (hd : Text.isDigit d = true)
    (h : digitValue c = digitValue d) : c = d := by
  have hc' := isDigit_iff.mp hc
  have hd' := isDigit_iff.mp hd
  rw [digitValue_eq, digitValue_eq] at h
  exact Char.toNat_inj.mp (by omega)

lemma foldl_digits (n : ℕ) (text : Text) :
    text.foldl (fun n c => 10 * n + digitValue c) n = n * 10 ^ text.length + digitsValue text := by
  induction text generalizing n with
  | nil => simp [digitsValue]
  | cons c text ih =>
    simp only [digitsValue, List.foldl_cons, List.length_cons] at ih ⊢
    rw [ih, ih (10 * 0 + digitValue c)]
    ring

@[simp] lemma digitsValue_nil : digitsValue [] = 0 := rfl

lemma digitsValue_cons (c : Char) (text : Text) :
    digitsValue (c :: text) = digitValue c * 10 ^ text.length + digitsValue text := by
  rw [digitsValue, List.foldl_cons, foldl_digits]
  ring

lemma digitsValue_append (a b : Text) :
    digitsValue (a ++ b) = digitsValue a * 10 ^ b.length + digitsValue b := by
  rw [digitsValue, List.foldl_append, foldl_digits]
  rfl

lemma digitsValue_lt {text : Text} (h : IsDigits text) :
    digitsValue text < 10 ^ text.length := by
  induction text with
  | nil => simp
  | cons c text ih =>
    obtain ⟨hc, htext⟩ := isDigits_cons.mp h
    have hlt := ih htext
    have hdigit := digitValue_lt hc
    rw [digitsValue_cons, List.length_cons, pow_succ]
    have : digitValue c * 10 ^ text.length ≤ 9 * 10 ^ text.length :=
      Nat.mul_le_mul_right _ (by omega)
    omega

/-! ### Natural numbers -/

lemma isDigits_toDigits (n : ℕ) : IsDigits (Nat.toDigits 10 n) := by
  intro c hc
  have hdigit : c.isDigit = true := Nat.isDigit_of_mem_toDigits (by decide) (by decide) hc
  simpa [Text.isDigit, Char.isDigit, Char.le_def, UInt32.le_iff_toNat_le] using hdigit

@[simp] lemma digitsValue_toDigits (n : ℕ) : digitsValue (Nat.toDigits 10 n) = n :=
  Nat.ofDigitChars_ten_toDigits

variable {k : ℕ}

lemma length_toDigits {n : ℕ} (hk : 0 < k) (hle : 10 ^ k ≤ n) (hlt : n < 10 ^ (k + 1)) :
    (Nat.toDigits 10 n).length = k + 1 := by
  have hat : (Nat.toDigits 10 n).length ≤ k + 1 :=
    (Nat.length_toDigits_le_iff (by decide) (by omega)).mpr hlt
  have hmore : ¬(Nat.toDigits 10 n).length ≤ k := by
    rw [Nat.length_toDigits_le_iff (by decide) hk]
    omega
  omega

/-! ### Numbers with a point -/

/-- The number of the digits before and after a point. -/
def decimalValue (integer fraction : Text) : ℚ :=
  digitsValue (integer ++ fraction) / 10 ^ fraction.length

lemma decimalValue_mul (integer fraction : Text) :
    decimalValue integer fraction * 10 ^ fraction.length = digitsValue (integer ++ fraction) := by
  rw [decimalValue]
  field_simp

lemma decimalValue_nonneg (integer fraction : Text) : 0 ≤ decimalValue integer fraction := by
  rw [decimalValue]
  positivity

lemma decimalValue_zero_cons (integer fraction : Text) :
    decimalValue ('0' :: integer) fraction = decimalValue integer fraction := by
  rw [decimalValue, decimalValue, List.cons_append, digitsValue_cons,
    show digitValue '0' = 0 from rfl, zero_mul, zero_add]

lemma decimalValue_concat_zero (integer fraction : Text) :
    decimalValue integer (fraction ++ ['0']) = decimalValue integer fraction := by
  rw [decimalValue, decimalValue, ← List.append_assoc, digitsValue_append, List.length_append,
    show digitsValue ['0'] = 0 from rfl]
  simp only [List.length_singleton, add_zero, pow_succ]
  push_cast
  field_simp

lemma decimalValue_move (integer fraction : Text) (digit : Char) :
    decimalValue (integer ++ [digit]) fraction = 10 * decimalValue integer (digit :: fraction) := by
  rw [decimalValue, decimalValue, List.append_assoc, List.singleton_append, List.length_cons,
    pow_succ]
  field_simp

def signed (negative : Bool) (value : ℚ) : ℚ := if negative then -value else value

/-! ### Numerals -/

/-- A text without its sign. -/
inductive Signed : Text → Bool → Text → Prop
  | none (body : Text) : Signed body false body
  | plus (body : Text) : Signed ('+' :: body) false body
  | minus (body : Text) : Signed ('-' :: body) true body

/-- A text is made of digits, with a point among them or at an end, and is cut there. -/
inductive Magnitude : Text → Text → Text → Prop
  | whole (integer : Text) (hne : integer ≠ []) (hdigits : IsDigits integer) :
      Magnitude integer integer []
  | pointed (integer fraction : Text) (hne : integer ≠ []) (hdigits : IsDigits integer)
      (hfraction : IsDigits fraction) : Magnitude (integer ++ '.' :: fraction) integer fraction
  | fraction (fraction : Text) (hne : fraction ≠ []) (hfraction : IsDigits fraction) :
      Magnitude ('.' :: fraction) [] fraction

variable {fraction integer body : Text}

lemma Magnitude.digits (h : Magnitude body integer fraction) :
    IsDigits integer ∧ IsDigits fraction := by
  cases h with
  | whole _ _ hdigits => exact ⟨hdigits, isDigits_nil⟩
  | pointed _ _ _ hdigits hfraction => exact ⟨hdigits, hfraction⟩
  | fraction _ _ hfraction => exact ⟨isDigits_nil, hfraction⟩

lemma Magnitude.mem (h : Magnitude body integer fraction) (hc : c ∈ body) :
    Text.isDigit c = true ∨ c = '.' := by
  cases h with
  | whole _ _ hdigits => exact .inl (hdigits c hc)
  | pointed _ _ _ hdigits hfraction =>
    rcases List.mem_append.mp hc with hc | hc
    · exact .inl (hdigits c hc)
    · rcases List.mem_cons.mp hc with rfl | hc
      · exact .inr rfl
      · exact .inl (hfraction c hc)
  | fraction _ _ hfraction =>
    rcases List.mem_cons.mp hc with rfl | hc
    · exact .inr rfl
    · exact .inl (hfraction c hc)

lemma Magnitude.ne_nil (h : Magnitude body integer fraction) : body ≠ [] := by
  cases h with
  | whole _ hne _ => exact hne
  | pointed => simp
  | fraction => simp

/-- A text writes a number. -/
def Denotes (text : Text) (value : ℚ) : Prop :=
  ∃ negative body integer fraction, Signed text negative body ∧
    Magnitude body integer fraction ∧ value = signed negative (decimalValue integer fraction)

/-! ### Canonical numerals -/

/-- No zero stands before another digit, or at the end of a fraction. -/
structure Canonical (integer fraction : Text) : Prop where
  digits : IsDigits integer
  fractionDigits : IsDigits fraction
  leading : integer = ['0'] ∨ ∃ c rest, integer = c :: rest ∧ c ≠ '0'
  trailing : ∀ rest, fraction ≠ rest ++ ['0']

lemma le_digitsValue {rest : Text} (h : IsDigits (c :: rest)) (hc : c ≠ '0') :
    10 ^ rest.length ≤ digitsValue (c :: rest) := by
  obtain ⟨hdigit, -⟩ := isDigits_cons.mp h
  have hpos : digitValue c ≠ 0 := fun hzero =>
    hc (digitValue_inj hdigit (by decide) (hzero.trans (by decide)))
  rw [digitsValue_cons]
  have : 1 * 10 ^ rest.length ≤ digitValue c * 10 ^ rest.length :=
    Nat.mul_le_mul_right _ (by omega)
  omega

lemma Canonical.length_le (h : Canonical integer fraction) (hk : 0 < k)
    (hlt : digitsValue integer < 10 ^ k) : integer.length ≤ k := by
  rcases h.leading with rfl | ⟨c, rest, rfl, hc⟩
  · exact hk
  · have hge := le_digitsValue h.digits hc
    have := (Nat.pow_lt_pow_iff_right (by norm_num : 1 < 10)).mp (hge.trans_lt hlt)
    rw [List.length_cons]
    omega

lemma Canonical.fraction_le (h : Canonical integer fraction) {n : ℕ}
    (hvalue : decimalValue integer fraction * 10 ^ k = n) : fraction.length ≤ k := by
  by_contra hlong
  obtain ⟨rest, last, rfl⟩ : ∃ rest last, fraction = rest ++ [last] := by
    rcases List.eq_nil_or_concat fraction with rfl | ⟨rest, last, rfl⟩
    · simp at hlong
    · exact ⟨rest, last, by simp⟩
  have hlength : (rest ++ [last]).length = k + (rest.length - k) + 1 := by
    simp only [List.length_append, List.length_singleton, not_le] at hlong ⊢
    omega
  -- the number of all digits is a multiple of ten, so that the last of them is a zero
  have hmul := decimalValue_mul integer (rest ++ [last])
  rw [hlength, pow_succ, pow_add, ← mul_assoc, ← mul_assoc, hvalue] at hmul
  have hdigits : n * 10 ^ (rest.length - k) * 10 = digitsValue (integer ++ (rest ++ [last])) := by
    exact_mod_cast hmul
  rw [← List.append_assoc, digitsValue_append, List.length_singleton, pow_one] at hdigits
  obtain ⟨-, hlast⟩ := isDigits_append.mp h.fractionDigits
  have hdigit := (isDigits_cons.mp hlast).1
  have hsingle : digitsValue [last] = digitValue last := by simp [digitsValue_cons]
  have hlt := digitValue_lt hdigit
  rw [hsingle] at hdigits
  have hzero : digitValue last = 0 := by omega
  have hlast : last = '0' := digitValue_inj hdigit (by decide) (hzero.trans (by decide))
  exact h.trailing rest (by rw [hlast])

/-- The canonical numeral of digits and a sign: a zero has none. -/
def canonicalText (negative : Bool) (integer fraction : Text) : Text :=
  (if negative && !(integer = ['0'] && fraction = []) then ['-'] else []) ++
    (integer ++ if fraction = [] then [] else '.' :: fraction)

lemma magnitude_canonical (h : Canonical integer fraction) :
    Magnitude (integer ++ if fraction = [] then [] else '.' :: fraction) integer fraction := by
  have hne : integer ≠ [] := by
    rcases h.leading with rfl | ⟨c, rest, rfl, -⟩ <;> simp
  by_cases hfraction : fraction = []
  · subst hfraction
    rw [if_pos rfl, List.append_nil]
    exact .whole integer hne h.digits
  · rw [if_neg hfraction]
    exact .pointed integer fraction hne h.digits h.fractionDigits

lemma signed_canonicalText (negative : Bool) (integer fraction : Text) :
    Signed (canonicalText negative integer fraction)
      (negative && !(integer = ['0'] && fraction = []))
      (integer ++ if fraction = [] then [] else '.' :: fraction) := by
  unfold canonicalText
  by_cases hsign : (negative && !(decide (integer = ['0']) && decide (fraction = []))) = true
  · rw [hsign, if_pos rfl]
    exact .minus _
  · rw [Bool.not_eq_true] at hsign
    rw [hsign, if_neg (by decide)]
    exact .none _

lemma signed_zero (negative : Bool) (integer fraction : Text) :
    signed (negative && !(integer = ['0'] && fraction = [])) (decimalValue integer fraction) =
      signed negative (decimalValue integer fraction) := by
  by_cases hzero : integer = ['0'] ∧ fraction = []
  · obtain ⟨rfl, rfl⟩ := hzero
    have hvalue : decimalValue ['0'] [] = 0 := by simp [decimalValue, digitsValue_cons, digitValue]
    rw [hvalue]
    cases negative <;> simp [signed]
  · have : (decide (integer = ['0']) && decide (fraction = [])) = false := by
      rw [Bool.and_eq_false_iff, decide_eq_false_iff_not, decide_eq_false_iff_not]
      tauto
    rw [this, Bool.not_false, Bool.and_true]

theorem denotes_canonicalText {negative : Bool} (h : Canonical integer fraction) :
    Denotes (canonicalText negative integer fraction)
      (signed negative (decimalValue integer fraction)) :=
  ⟨_, _, integer, fraction, signed_canonicalText negative integer fraction,
    magnitude_canonical h, (signed_zero negative integer fraction).symm⟩

/-! ### Precision and scale -/

/-- A number has at most so many digits, of which so many stand after the point. -/
def Fits (precision scale : ℕ) (value : ℚ) : Prop :=
  ∃ n : ℤ, value * 10 ^ scale = n ∧ |n| < 10 ^ precision

lemma fits_signed {precision scale : ℕ} {negative : Bool} {value : ℚ} :
    Fits precision scale (signed negative value) ↔ Fits precision scale value := by
  cases negative with
  | false => exact Iff.rfl
  | true =>
    constructor
    · rintro ⟨n, hn, habs⟩
      refine ⟨-n, ?_, by rwa [abs_neg]⟩
      push_cast
      rw [← hn]
      simp only [signed, if_true]
      ring
    · rintro ⟨n, hn, habs⟩
      refine ⟨-n, ?_, by rwa [abs_neg]⟩
      push_cast
      rw [← hn]
      simp only [signed, if_true]
      ring

/-- The lengths of a canonical numeral decide whether its number fits. -/
theorem Canonical.fits_iff (h : Canonical integer fraction) {whole scale : ℕ} (hwhole : 0 < whole) :
    Fits (whole + scale) scale (decimalValue integer fraction) ↔
      integer.length ≤ whole ∧ fraction.length ≤ scale := by
  have hmul := decimalValue_mul integer fraction
  constructor
  · rintro ⟨n, hn, habs⟩
    have hnonneg : 0 ≤ n := by
      have : (0 : ℚ) ≤ n := by
        rw [← hn]
        have := decimalValue_nonneg integer fraction
        positivity
      exact_mod_cast this
    obtain ⟨m, rfl⟩ := Int.eq_ofNat_of_zero_le hnonneg
    have hscale : fraction.length ≤ scale := h.fraction_le (n := m) (by exact_mod_cast hn)
    refine ⟨h.length_le hwhole ?_, hscale⟩
    obtain ⟨k, rfl⟩ := Nat.exists_eq_add_of_le hscale
    have hm : m < 10 ^ (whole + (fraction.length + k)) := by
      rw [abs_of_nonneg hnonneg] at habs
      exact_mod_cast habs
    have hdigits : digitsValue (integer ++ fraction) * 10 ^ k = m := by
      have : (digitsValue (integer ++ fraction) * 10 ^ k : ℚ) = m := by
        rw [← hmul, mul_assoc, ← pow_add]
        exact_mod_cast hn
      exact_mod_cast this
    have hpos : 0 < 10 ^ (fraction.length + k) := by positivity
    refine lt_of_mul_lt_mul_right ?_ hpos.le
    calc digitsValue integer * 10 ^ (fraction.length + k)
        = digitsValue integer * 10 ^ fraction.length * 10 ^ k := by rw [pow_add, mul_assoc]
      _ ≤ digitsValue (integer ++ fraction) * 10 ^ k := by
          rw [digitsValue_append]
          exact Nat.mul_le_mul_right _ (Nat.le_add_right ..)
      _ = m := hdigits
      _ < 10 ^ whole * 10 ^ (fraction.length + k) := by rwa [← pow_add]
  · rintro ⟨hinteger, hscale⟩
    obtain ⟨k, rfl⟩ := Nat.exists_eq_add_of_le hscale
    refine ⟨(digitsValue (integer ++ fraction) * 10 ^ k : ℕ), ?_, ?_⟩
    · rw [pow_add, ← mul_assoc, hmul]
      push_cast
      ring
    · have hlt := digitsValue_lt (isDigits_append.mpr ⟨h.digits, h.fractionDigits⟩)
      rw [List.length_append] at hlt
      rw [Nat.abs_cast]
      have : digitsValue (integer ++ fraction) * 10 ^ k <
          10 ^ (whole + (fraction.length + k)) := by
        calc digitsValue (integer ++ fraction) * 10 ^ k
            < 10 ^ (integer.length + fraction.length) * 10 ^ k :=
              Nat.mul_lt_mul_of_pos_right hlt (by positivity)
          _ = 10 ^ (integer.length + fraction.length + k) := (pow_add ..).symm
          _ ≤ 10 ^ (whole + (fraction.length + k)) :=
              Nat.pow_le_pow_right (by norm_num) (by omega)
      exact_mod_cast this

end DecimalNumerals
end SmeDataCenter
