import SmeDataCenter.DecimalNumerals

/-!
# Numbers in JSON texts

A number of the language is printed with the fewest digits that tell it from the other numbers, so
that it is known by them and by the place of its point. Small and large ones are printed with an
exponent. Each layout is read back as the same digits and the same point.
-/

namespace SmeDataCenter
namespace JsonNumbers

open DecimalNumerals

/-- The digits of a number, from the first that is not zero to the last. -/
structure Significand where
  digits : Text
  isDigits : IsDigits digits
  first : digits.head? ≠ some '0'
  last : digits.getLast? ≠ some '0'
  ne_nil : digits ≠ []
  deriving DecidableEq

/-- A number: zero, or 0.d₁d₂… times a power of ten. -/
inductive JsonNumber where
  | zero
  | nonzero (negative : Bool) (significand : Significand) (point : ℤ)
  deriving DecidableEq

/-! ### Printing -/

def exponentText (exponent : ℤ) : Text :=
  'e' :: (if exponent < 0 then '-' else '+') :: Nat.toDigits 10 exponent.natAbs

/-- `Number::toString`, without the sign. -/
def magnitudeText (digits : Text) (point : ℤ) : Text :=
  if digits.length ≤ point ∧ point ≤ 21 then
    digits ++ List.replicate (point - digits.length).toNat '0'
  else if 0 < point ∧ point ≤ 21 then
    digits.take point.toNat ++ '.' :: digits.drop point.toNat
  else if -6 < point ∧ point ≤ 0 then
    '0' :: '.' :: (List.replicate (-point).toNat '0' ++ digits)
  else if digits.length = 1 then digits ++ exponentText (point - 1)
  else digits.take 1 ++ '.' :: (digits.drop 1 ++ exponentText (point - 1))

def JsonNumber.text : JsonNumber → Text
  | .zero => ['0']
  | .nonzero negative significand point =>
    (if negative then ['-'] else []) ++ magnitudeText significand.digits point

/-! ### The digits of a number -/

/-- The digits without the zeros around them. -/
def significantDigits (digits : Text) : Text :=
  (digits.dropWhile (· = '0')).rdropWhile (· = '0')

lemma significantDigits_digits {digits : Text} (h : IsDigits digits) :
    IsDigits (significantDigits digits) := by
  intro c hc
  have hkept := List.rdropWhile_prefix (· = '0') (digits.dropWhile (· = '0'))
  exact h c ((List.dropWhile_suffix _).subset (hkept.subset hc))

lemma significantDigits_last (digits : Text) :
    (significantDigits digits).getLast? ≠ some '0' := by
  intro h
  have hne : significantDigits digits ≠ [] := by
    rintro hnil
    rw [hnil] at h
    cases h
  have hlast := List.rdropWhile_last_not _ _ hne
  rw [List.getLast?_eq_some_getLast hne] at h
  exact hlast (decide_eq_true (Option.some.inj h))

lemma significantDigits_first (digits : Text) :
    (significantDigits digits).head? ≠ some '0' := by
  intro h
  have hfirst : (digits.dropWhile (· = '0')).head? = some '0' := by
    obtain ⟨rest, hrest⟩ := List.rdropWhile_prefix (· = '0') (digits.dropWhile (· = '0'))
    rw [← hrest]
    cases hdigits : significantDigits digits with
    | nil => rw [hdigits] at h; cases h
    | cons c text =>
      rw [hdigits] at h
      rw [significantDigits] at hdigits
      rw [hdigits]
      exact h
  have hnot := List.head?_dropWhile_not (· = '0') digits
  rw [hfirst] at hnot
  simp at hnot

section

variable (s : Significand) (left right : ℕ)

lemma zeros_eq_zero (n : ℕ) : ∀ c ∈ List.replicate n '0', decide (c = '0') = true :=
  fun _ hc => decide_eq_true (List.eq_of_mem_replicate hc)

lemma Significand.cons : ∃ c rest, s.digits = c :: rest ∧ c ≠ '0' := by
  cases hdigits : s.digits with
  | nil => exact absurd hdigits s.ne_nil
  | cons c rest =>
    refine ⟨c, rest, rfl, fun hc => s.first ?_⟩
    rw [hdigits, hc]
    rfl

lemma zeros_before (rest : Text) :
    (List.replicate left '0' ++ s.digits ++ rest).takeWhile (· = '0') =
        List.replicate left '0' ∧
      (List.replicate left '0' ++ s.digits ++ rest).dropWhile (· = '0') = s.digits ++ rest := by
  obtain ⟨c, digits, hdigits, hc⟩ := s.cons
  rw [List.append_assoc, List.takeWhile_append_of_pos (zeros_eq_zero left),
    List.dropWhile_append_of_pos (zeros_eq_zero left), hdigits]
  simp [hc]

lemma zeros_after : (s.digits ++ List.replicate right '0').rdropWhile (· = '0') = s.digits := by
  rw [List.rdropWhile, List.reverse_append, List.reverse_replicate,
    List.dropWhile_append_of_pos (zeros_eq_zero right)]
  have hself : s.digits.rdropWhile (· = '0') = s.digits := by
    refine List.rdropWhile_eq_self_iff.mpr fun hne hlast => s.last ?_
    rw [List.getLast?_eq_some_getLast hne]
    exact congrArg some (of_decide_eq_true hlast)
  exact hself

lemma significantDigits_padded :
    significantDigits (List.replicate left '0' ++ s.digits ++ List.replicate right '0') =
      s.digits := by
  rw [significantDigits, (zeros_before s left _).2, zeros_after]

end

/-- The number that a sign, the digits on both sides of a point, and an exponent write. -/
def ofParts (negative : Bool) (integer fraction : Text) (exponent : ℤ) : Option JsonNumber :=
  if h : (integer ++ fraction).all Text.isDigit = true then
    if hne : significantDigits (integer ++ fraction) = [] then some .zero
    else some (.nonzero negative
      ⟨significantDigits (integer ++ fraction), significantDigits_digits (List.all_eq_true.mp h),
        significantDigits_first _, significantDigits_last _, hne⟩
      (integer.length + exponent - ((integer ++ fraction).takeWhile (· = '0')).length))
  else none

lemma ofParts_significand {negative : Bool} {integer fraction : Text} {exponent point : ℤ}
    (s : Significand) {left right : ℕ}
    (h : integer ++ fraction = List.replicate left '0' ++ s.digits ++ List.replicate right '0')
    (hpoint : point = integer.length + exponent - left) :
    ofParts negative integer fraction exponent = some (.nonzero negative s point) := by
  have hdigits : (integer ++ fraction).all Text.isDigit = true := by
    rw [h, List.all_eq_true]
    intro c hc
    rcases List.mem_append.mp hc with hc | hc
    · rcases List.mem_append.mp hc with hc | hc
      · rw [List.eq_of_mem_replicate hc]
        decide
      · exact s.isDigits c hc
    · rw [List.eq_of_mem_replicate hc]
      decide
  have hsignificant : significantDigits (integer ++ fraction) = s.digits := by
    rw [h, significantDigits_padded]
  have hzeros : ((integer ++ fraction).takeWhile (· = '0')).length = left := by
    rw [h, (zeros_before s left _).1, List.length_replicate]
  unfold ofParts
  rw [dif_pos hdigits, dif_neg (hsignificant ▸ s.ne_nil)]
  simp only [hsignificant, hzeros, hpoint]

/-! ### Reading -/

/-- `-?` -/
def takeMinus : Text → Bool × Text
  | '-' :: rest => (true, rest)
  | rest => (false, rest)

/-- `(\.\d+)?`, and what follows. -/
def takeFraction : Text → Option (Text × Text)
  | '.' :: rest =>
    if rest.takeWhile Text.isDigit = [] then none
    else some (rest.takeWhile Text.isDigit, rest.dropWhile Text.isDigit)
  | rest => some ([], rest)

/-- `[+-]?` -/
def takeExponentSign : Text → Bool × Text
  | '+' :: rest => (false, rest)
  | rest => takeMinus rest

/-- `([eE][+-]?\d+)?`, and what follows. -/
def takeExponent : Text → Option (ℤ × Text)
  | [] => some (0, [])
  | c :: rest =>
    if c = 'e' || c = 'E' then
      let (negative, digits) := takeExponentSign rest
      if digits.takeWhile Text.isDigit = [] then none
      else
        let value : ℤ := digitsValue (digits.takeWhile Text.isDigit)
        some (if negative then -value else value, digits.dropWhile Text.isDigit)
    else some (0, c :: rest)

/-- No zero stands before another digit. -/
def isInteger (digits : Text) : Bool :=
  digits.head?.isSome && (digits.head? ≠ some '0' || digits = ['0'])

/-- `-?(0|[1-9]\d*)(\.\d+)?([eE][+-]?\d+)?`, and what follows. -/
def readNumber (text : Text) : Option (JsonNumber × Text) := do
  let (negative, rest) := takeMinus text
  let integer := rest.takeWhile Text.isDigit
  if !isInteger integer then none
  else do
    let (fraction, rest) ← takeFraction (rest.dropWhile Text.isDigit)
    let (exponent, rest) ← takeExponent rest
    let number ← ofParts negative integer fraction exponent
    some (number, rest)

/-! ### What is printed is read back -/

/-- No digit, point or exponent follows. -/
def Ends (rest : Text) : Prop :=
  ∀ c, rest.head? = some c → Text.isDigit c = false ∧ c ≠ '.' ∧ c ≠ 'e' ∧ c ≠ 'E'

variable {rest : Text}

lemma takeExponent_ends (h : Ends rest) : takeExponent rest = some (0, rest) := by
  cases rest with
  | nil => rfl
  | cons c rest =>
    obtain ⟨-, -, he, hE⟩ := h c rfl
    simp [takeExponent, he, hE]

lemma takeExponent_text (exponent : ℤ) (h : Ends rest) :
    takeExponent (exponentText exponent ++ rest) = some (exponent, rest) := by
  have hne : Nat.toDigits 10 exponent.natAbs ≠ [] := Nat.toDigits_ne_nil
  obtain ⟨htake, hdrop⟩ := span_digits (isDigits_toDigits exponent.natAbs) fun c hc => (h c hc).1
  unfold exponentText
  by_cases hneg : exponent < 0
  · have hsign : takeExponentSign ('-' :: (Nat.toDigits 10 exponent.natAbs ++ rest)) =
        (true, Nat.toDigits 10 exponent.natAbs ++ rest) := rfl
    have hvalue : -(exponent.natAbs : ℤ) = exponent := by omega
    rw [if_pos hneg, List.cons_append, List.cons_append, takeExponent, if_pos (by decide), hsign]
    dsimp only
    rw [htake, hdrop, if_neg hne, digitsValue_toDigits, if_pos rfl, hvalue]
  · have hsign : takeExponentSign ('+' :: (Nat.toDigits 10 exponent.natAbs ++ rest)) =
        (false, Nat.toDigits 10 exponent.natAbs ++ rest) := rfl
    have hvalue : (exponent.natAbs : ℤ) = exponent := by omega
    rw [if_neg hneg, List.cons_append, List.cons_append, takeExponent, if_pos (by decide), hsign]
    dsimp only
    rw [htake, hdrop, if_neg hne, digitsValue_toDigits, if_neg (by decide), hvalue]

/-- A fraction, or nothing where there are no digits. -/
def fractionText (fraction : Text) : Text := if fraction = [] then [] else '.' :: fraction

lemma takeFraction_text {fraction : Text} (h : IsDigits fraction)
    (hdigit : ∀ c, rest.head? = some c → Text.isDigit c = false)
    (hpoint : fraction = [] → rest.head? ≠ some '.') :
    takeFraction (fractionText fraction ++ rest) = some (fraction, rest) := by
  unfold fractionText
  by_cases hnil : fraction = []
  · rw [if_pos hnil, List.nil_append]
    unfold takeFraction
    split
    · next rest => exact absurd rfl (hpoint hnil)
    · rw [hnil]
  · obtain ⟨htake, hdrop⟩ := span_digits h hdigit
    rw [if_neg hnil, List.cons_append, takeFraction, htake, hdrop, if_neg hnil]

/-- The text of an exponent, or nothing. -/
def optionalExponent : Option ℤ → Text
  | none => []
  | some exponent => exponentText exponent

lemma takeExponent_optional (exponent : Option ℤ) (h : Ends rest) :
    takeExponent (optionalExponent exponent ++ rest) = some (exponent.getD 0, rest) := by
  cases exponent with
  | none => exact takeExponent_ends h
  | some exponent => exact takeExponent_text exponent h

lemma optionalExponent_head {exponent : Option ℤ} (h : Ends rest) {c : Char}
    (hc : (optionalExponent exponent ++ rest).head? = some c) :
    Text.isDigit c = false ∧ c ≠ '.' := by
  cases exponent with
  | none => exact ⟨(h c hc).1, (h c hc).2.1⟩
  | some exponent =>
    obtain rfl : 'e' = c := Option.some.inj hc
    decide

lemma fractionText_head {fraction : Text} (h : ∀ c, rest.head? = some c → Text.isDigit c = false)
    {c : Char} (hc : (fractionText fraction ++ rest).head? = some c) : Text.isDigit c = false := by
  unfold fractionText at hc
  split at hc
  · exact h c hc
  · obtain rfl : '.' = c := Option.some.inj hc
    decide

lemma takeMinus_sign (negative : Bool) {c : Char} {rest : Text} (hc : Text.isDigit c = true) :
    takeMinus ((if negative then ['-'] else []) ++ c :: rest) = (negative, c :: rest) := by
  cases negative with
  | true => rfl
  | false =>
    have hminus : c ≠ '-' := by
      rintro rfl
      exact absurd hc (by decide)
    simp [takeMinus, hminus]

lemma readNumber_parts {negative : Bool} {integer fraction rest : Text} {exponent : Option ℤ}
    {number : JsonNumber} (hinteger : isInteger integer = true) (hdigits : IsDigits integer)
    (hfraction : IsDigits fraction)
    (hnumber : ofParts negative integer fraction (exponent.getD 0) = some number)
    (h : Ends rest) :
    readNumber ((if negative then ['-'] else []) ++
        (integer ++ (fractionText fraction ++ (optionalExponent exponent ++ rest)))) =
      some (number, rest) := by
  have hhead : ∀ c, (optionalExponent exponent ++ rest).head? = some c → Text.isDigit c = false :=
    fun c hc => (optionalExponent_head h hc).1
  obtain ⟨htake, hdrop⟩ := span_digits hdigits fun c hc => fractionText_head hhead hc
  have hread := takeFraction_text hfraction hhead fun _ hpoint =>
    (optionalExponent_head h hpoint).2 rfl
  obtain ⟨c, digits, rfl⟩ : ∃ c digits, integer = c :: digits := by
    cases integer with
    | nil => cases hinteger
    | cons c digits => exact ⟨c, digits, rfl⟩
  have hsign := @takeMinus_sign negative _
    (digits ++ (fractionText fraction ++ (optionalExponent exponent ++ rest)))
    (isDigits_cons.mp hdigits).1
  rw [List.cons_append] at htake hdrop ⊢
  unfold readNumber
  rw [hsign]
  dsimp only
  rw [htake, hdrop, hinteger, hread]
  simp [takeExponent_optional exponent h, hnumber]

/-! ### The layouts -/

lemma isInteger_of_first {digits : Text} (hne : digits ≠ []) (h : digits.head? ≠ some '0') :
    isInteger digits = true := by
  cases digits with
  | nil => exact absurd rfl hne
  | cons c digits => simp_all [isInteger]

lemma split_layout (s : Significand) {m : ℕ} (hm : 0 < m) :
    isInteger (s.digits.take m) = true ∧ IsDigits (s.digits.take m) ∧
      IsDigits (s.digits.drop m) ∧ s.digits.take m ++ s.digits.drop m =
        List.replicate 0 '0' ++ s.digits ++ List.replicate 0 '0' := by
  obtain ⟨c, rest, hdigits, hc⟩ := s.cons
  obtain ⟨k, rfl⟩ : ∃ k, m = k + 1 := ⟨m - 1, by omega⟩
  refine ⟨?_, fun d hd => s.isDigits d (List.mem_of_mem_take hd),
    fun d hd => s.isDigits d (List.mem_of_mem_drop hd), by simp⟩
  rw [hdigits, List.take_succ_cons]
  exact isInteger_of_first (List.cons_ne_nil _ _) (by simpa using hc)

lemma magnitudeText_layout (s : Significand) (point : ℤ) :
    ∃ integer fraction exponent left right, magnitudeText s.digits point =
        integer ++ (fractionText fraction ++ optionalExponent exponent) ∧
      isInteger integer = true ∧ IsDigits integer ∧ IsDigits fraction ∧
      integer ++ fraction = List.replicate left '0' ++ s.digits ++ List.replicate right '0' ∧
      point = integer.length + exponent.getD 0 - left := by
  obtain ⟨c, rest, hdigits, hc⟩ := s.cons
  have hall := s.isDigits
  have hzeros : ∀ n, IsDigits (List.replicate n '0') := by
    intro n d hd
    rw [List.eq_of_mem_replicate hd]
    decide
  have hpos : 0 < s.digits.length := List.length_pos_iff.mpr s.ne_nil
  unfold magnitudeText
  split
  · next hwhole =>
    refine ⟨s.digits ++ List.replicate (point - s.digits.length).toNat '0', [], none, 0,
      (point - s.digits.length).toNat, ?_, ?_, ?_, isDigits_nil, ?_, ?_⟩
    · simp [fractionText, optionalExponent]
    · refine isInteger_of_first (by simp [s.ne_nil]) ?_
      simp [hdigits, hc]
    · exact isDigits_append.mpr ⟨hall, hzeros _⟩
    · simp
    · simp
      omega
  split
  · next hwhole hinside =>
    have hlt : point.toNat < s.digits.length := by omega
    obtain ⟨hinteger, hfirst, hrest, hsame⟩ := split_layout s (m := point.toNat) (by omega)
    refine ⟨s.digits.take point.toNat, s.digits.drop point.toNat, none, 0, 0, ?_, hinteger, hfirst,
      hrest, hsame, ?_⟩
    · have hne : s.digits.drop point.toNat ≠ [] := by
        rw [Ne, List.drop_eq_nil_iff]
        omega
      simp [fractionText, optionalExponent, hne]
    · rw [List.length_take, min_eq_left hlt.le]
      simp
      omega
  split
  · next hsmall =>
    refine ⟨['0'], List.replicate (-point).toNat '0' ++ s.digits, none, (-point).toNat + 1, 0, ?_,
      rfl, ?_, ?_, ?_, ?_⟩
    · simp [fractionText, optionalExponent, s.ne_nil]
    · exact isDigits_cons.mpr ⟨by decide, isDigits_nil⟩
    · exact isDigits_append.mpr ⟨hzeros _, hall⟩
    · simp [List.replicate_succ]
    · simp
      omega
  · obtain ⟨hinteger, hfirst, hrest, hsame⟩ := split_layout s (m := 1) (by decide)
    refine ⟨s.digits.take 1, s.digits.drop 1, some (point - 1), 0, 0, ?_, hinteger, hfirst, hrest,
      hsame, ?_⟩
    · split
      · next hone =>
        have hnil : s.digits.drop 1 = [] := by rw [List.drop_eq_nil_iff, hone]
        have hall : s.digits.take 1 = s.digits := List.take_of_length_le (by omega)
        rw [hnil, hall]
        rfl
      · next hmore =>
        have hne : s.digits.drop 1 ≠ [] := by
          rw [Ne, List.drop_eq_nil_iff]
          omega
        rw [fractionText, if_neg hne]
        rfl
    · rw [List.length_take, min_eq_left hpos]
      simp

/-- What is printed is read back, and what follows it is left. -/
theorem readNumber_text (number : JsonNumber) (h : Ends rest) :
    readNumber (number.text ++ rest) = some (number, rest) := by
  cases number with
  | zero =>
    have hzero : ofParts false ['0'] [] 0 = some .zero := by decide
    exact @readNumber_parts false ['0'] [] rest none _ rfl
      (isDigits_cons.mpr ⟨by decide, isDigits_nil⟩) isDigits_nil hzero h
  | nonzero negative s point =>
    obtain ⟨integer, fraction, exponent, left, right, htext, hinteger, hfirst, hrest, hsame,
      hpoint⟩ := magnitudeText_layout s point
    have hnumber := @ofParts_significand negative _ _ _ _ s left right hsame hpoint
    have hread := readNumber_parts hinteger hfirst hrest hnumber h
    rw [JsonNumber.text, htext]
    simpa only [List.append_assoc] using hread

lemma text_head (number : JsonNumber) :
    ∃ c rest, number.text = c :: rest ∧ (Text.isDigit c = true ∨ c = '-') := by
  cases number with
  | zero => exact ⟨'0', [], rfl, .inl (by decide)⟩
  | nonzero negative s point =>
    cases negative with
    | true => exact ⟨'-', magnitudeText s.digits point, rfl, .inr rfl⟩
    | false =>
      obtain ⟨integer, fraction, exponent, left, right, htext, hinteger, hfirst, -⟩ :=
        magnitudeText_layout s point
      cases integer with
      | nil => cases hinteger
      | cons c digits =>
        exact ⟨c, _, htext, .inl (isDigits_cons.mp hfirst).1⟩

end JsonNumbers
end SmeDataCenter
