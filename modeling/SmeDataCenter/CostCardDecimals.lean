import SmeDataCenter.CostCards
import SmeDataCenter.DecimalNumerals

/-!
# Decimals of cost cards

A decimal of a cost card is brought to its canonical numeral without being rounded: the zeros that
say nothing go, and a percent sign moves the point by two places.
-/

namespace SmeDataCenter
namespace Import

open DecimalNumerals
open Text (isDigit isSpace)

/-! ### Reading -/

def percentText (percentSign : Bool) : Text := if percentSign then ['%'] else []

lemma readPercentSign_eq_some {text : Text} {percentSign : Bool} :
    readPercentSign text = some percentSign ↔ text = percentText percentSign := by
  unfold readPercentSign percentText
  split
  · cases percentSign <;> simp
  · cases percentSign <;> simp
  · next hnil hpercent => cases percentSign <;> simp_all

lemma percentText_head {percentSign : Bool} {c : Char}
    (h : (percentText percentSign).head? = some c) : isDigit c = false := by
  cases percentSign with
  | false => cases h
  | true =>
    obtain rfl : '%' = c := Option.some.inj h
    decide

/-- The digits before the point, where at least a zero stands. -/
def wholeDigits (integer : Text) : Text := if integer = [] then ['0'] else integer

lemma decimalValue_wholeDigits (integer fraction : Text) :
    decimalValue (wholeDigits integer) fraction = decimalValue integer fraction := by
  unfold wholeDigits
  split
  · next h => rw [h, decimalValue_zero_cons]
  · rfl

lemma readUnsignedDecimal_of {negative percentSign : Bool} {body integer fraction : Text}
    (h : Magnitude body integer fraction) :
    readUnsignedDecimal negative (body ++ percentText percentSign) =
      some ⟨negative, wholeDigits integer, fraction, percentSign⟩ := by
  have hsign := (@readPercentSign_eq_some _ percentSign).mpr rfl
  have hhead := fun c => @percentText_head percentSign c
  cases h with
  | whole _ hne hdigits =>
    obtain ⟨htake, hdrop⟩ := span_digits hdigits hhead
    unfold readUnsignedDecimal
    dsimp only
    rw [htake, hdrop, wholeDigits, if_neg hne]
    cases body with
    | nil => exact absurd rfl hne
    | cons c body =>
      cases percentSign <;> rfl
  | pointed integer fraction hne hdigits hfraction =>
    obtain ⟨htake, hdrop⟩ := @span_digits _ ('.' :: (fraction ++ percentText percentSign))
      hdigits (by simp [isDigit_point])
    obtain ⟨htake', hdrop'⟩ := span_digits hfraction hhead
    rw [List.append_assoc, List.cons_append]
    unfold readUnsignedDecimal
    dsimp only
    rw [htake, hdrop, wholeDigits, if_neg hne]
    cases integer with
    | nil => exact absurd rfl hne
    | cons c integer => simp only [htake', hdrop', hsign, Option.map_some]
  | fraction fraction hne hfraction =>
    obtain ⟨htake', hdrop'⟩ := span_digits hfraction hhead
    rw [List.cons_append]
    unfold readUnsignedDecimal
    have htake : ('.' :: (fraction ++ percentText percentSign)).takeWhile isDigit = [] := rfl
    have hdrop : ('.' :: (fraction ++ percentText percentSign)).dropWhile isDigit =
        '.' :: (fraction ++ percentText percentSign) := rfl
    dsimp only
    rw [htake, hdrop]
    simp only [htake', hdrop', hsign, if_neg hne, Option.map_some]
    rfl

variable {negative : Bool} {parts : DecimalParts}

variable {text : Text}

lemma readUnsignedDecimal_some (h : readUnsignedDecimal negative text = some parts) :
    ∃ body integer, Magnitude body integer parts.fraction ∧
      text = body ++ percentText parts.percentSign ∧ parts.integer = wholeDigits integer ∧
      parts.negative = negative := by
  have hsplit := List.takeWhile_append_dropWhile (p := isDigit) (l := text)
  have hdigits : IsDigits (text.takeWhile isDigit) := fun c hc => List.mem_takeWhile_imp hc
  unfold readUnsignedDecimal at h
  dsimp only at h
  generalize text.takeWhile isDigit = integer at h hsplit hdigits
  generalize text.dropWhile isDigit = after at h hsplit
  have hfractionOf (rest : Text) := List.takeWhile_append_dropWhile (p := isDigit) (l := rest)
  have hfractionDigits (rest : Text) : IsDigits (rest.takeWhile isDigit) :=
    fun c hc => List.mem_takeWhile_imp hc
  split at h
  · next rest =>
    split at h
    · cases h
    · next hne =>
      obtain ⟨sign, hsign, rfl⟩ := Option.map_eq_some_iff.mp h
      rw [readPercentSign_eq_some] at hsign
      refine ⟨'.' :: rest.takeWhile isDigit, [], .fraction _ hne (hfractionDigits rest), ?_,
        rfl, rfl⟩
      rw [← hsplit, List.nil_append, List.cons_append, ← hsign, hfractionOf]
  · cases h
  · next rest hne =>
    obtain ⟨sign, hsign, rfl⟩ := Option.map_eq_some_iff.mp h
    rw [readPercentSign_eq_some] at hsign
    refine ⟨integer ++ '.' :: rest.takeWhile isDigit, integer,
      .pointed _ _ hne hdigits (hfractionDigits rest), ?_, (if_neg hne).symm, rfl⟩
    rw [← hsplit, List.append_assoc, List.cons_append, ← hsign, hfractionOf]
  · next hne _ _ =>
    obtain ⟨sign, hsign, rfl⟩ := Option.map_eq_some_iff.mp h
    rw [readPercentSign_eq_some] at hsign
    exact ⟨integer, integer, .whole _ hne hdigits, by rw [← hsplit, hsign],
      (if_neg hne).symm, rfl⟩

lemma readDecimalParts_of {negative percentSign : Bool} {text body integer fraction : Text}
    (hsigned : Signed text negative (body ++ percentText percentSign))
    (h : Magnitude body integer fraction) :
    readDecimalParts text = some ⟨negative, wholeDigits integer, fraction, percentSign⟩ := by
  have hread := @readUnsignedDecimal_of negative percentSign _ _ _ h
  generalize hbody : body ++ percentText percentSign = unsigned at hsigned hread
  cases hsigned with
  | none =>
    have hhead : ∀ c, text.head? = some c → isDigit c = true ∨ c = '.' := by
      intro c hc
      rw [← hbody] at hc
      cases body with
      | nil => exact absurd rfl h.ne_nil
      | cons d body =>
        obtain rfl : d = c := Option.some.inj hc
        exact h.mem (List.mem_cons_self ..)
    unfold readDecimalParts
    split
    · exact absurd (hhead '-' rfl) (by decide)
    · exact absurd (hhead '+' rfl) (by decide)
    · exact hread
  | plus => exact hread
  | minus => exact hread

lemma readDecimalParts_some (h : readDecimalParts text = some parts) :
    ∃ body integer, Signed text parts.negative (body ++ percentText parts.percentSign) ∧
      Magnitude body integer parts.fraction ∧ parts.integer = wholeDigits integer := by
  unfold readDecimalParts at h
  split at h
  · obtain ⟨body, integer, hbody, rfl, hinteger, hnegative⟩ := readUnsignedDecimal_some h
    exact ⟨body, integer, hnegative ▸ .minus _, hbody, hinteger⟩
  · obtain ⟨body, integer, hbody, rfl, hinteger, hnegative⟩ := readUnsignedDecimal_some h
    exact ⟨body, integer, hnegative ▸ .plus _, hbody, hinteger⟩
  · obtain ⟨body, integer, hbody, htext, hinteger, hnegative⟩ := readUnsignedDecimal_some h
    rw [htext]
    exact ⟨body, integer, hnegative ▸ .none _, hbody, hinteger⟩

/-! ### Zeros -/

lemma stripLeadingZeros_value (integer fraction : Text) :
    decimalValue (stripLeadingZeros integer) fraction = decimalValue integer fraction := by
  induction integer using stripLeadingZeros.induct with
  | case1 c rest ih => rw [stripLeadingZeros, ih, decimalValue_zero_cons]
  | case2 integer hne => rw [stripLeadingZeros]; exact hne

variable {integer : Text}

lemma stripLeadingZeros_digits (h : IsDigits integer) : IsDigits (stripLeadingZeros integer) := by
  induction integer using stripLeadingZeros.induct with
  | case1 c rest ih =>
    rw [stripLeadingZeros]
    exact ih (isDigits_cons.mp h).2
  | case2 integer hne => rwa [stripLeadingZeros]; exact hne

lemma stripLeadingZeros_leading (hne : integer ≠ []) :
    stripLeadingZeros integer = ['0'] ∨ ∃ c rest, stripLeadingZeros integer = c :: rest ∧
      c ≠ '0' := by
  induction integer using stripLeadingZeros.induct with
  | case1 c rest ih =>
    rw [stripLeadingZeros]
    exact ih (List.cons_ne_nil _ _)
  | case2 integer hshape =>
    have hself : stripLeadingZeros integer = integer := by
      rw [stripLeadingZeros]
      exact hshape
    rw [hself]
    cases integer with
    | nil => exact absurd rfl hne
    | cons c rest =>
      by_cases hc : c = '0'
      · subst hc
        cases rest with
        | nil => exact .inl rfl
        | cons d rest => exact absurd rfl (hshape d rest)
      · exact .inr ⟨c, rest, rfl, hc⟩

lemma stripLeadingZeros_canonical (h : integer = ['0'] ∨ ∃ c rest, integer = c :: rest ∧ c ≠ '0') :
    stripLeadingZeros integer = integer := by
  rcases h with rfl | ⟨c, rest, rfl, hc⟩
  · rfl
  · unfold stripLeadingZeros
    split
    · next heq => exact absurd (List.cons.inj heq).1 hc
    · rfl

lemma stripTrailingZeros_value (integer fraction : Text) :
    decimalValue integer (stripTrailingZeros fraction) = decimalValue integer fraction := by
  induction fraction using List.reverseRecOn with
  | nil => rfl
  | append_singleton fraction c ih =>
    unfold stripTrailingZeros at ih ⊢
    by_cases hc : c = '0'
    · subst hc
      rw [List.rdropWhile_concat_pos _ _ _ (by decide), ih, decimalValue_concat_zero]
    · rw [List.rdropWhile_concat_neg _ _ _ (by simpa using hc)]

variable {fraction : Text}

lemma stripTrailingZeros_digits (h : IsDigits fraction) : IsDigits (stripTrailingZeros fraction) :=
  fun c hc => h c ((List.rdropWhile_prefix _ fraction).subset hc)

lemma stripTrailingZeros_trailing (fraction rest : Text) :
    stripTrailingZeros fraction ≠ rest ++ ['0'] := by
  intro h
  have hne : stripTrailingZeros fraction ≠ [] := by simp [h]
  have hlast := List.rdropWhile_last_not (fun c => decide (c = '0')) fraction hne
  refine hlast ?_
  have : (stripTrailingZeros fraction).getLast hne = '0' := by
    simp only [h, List.getLast_append_singleton]
  simpa [stripTrailingZeros] using this

lemma stripTrailingZeros_canonical (h : ∀ rest, fraction ≠ rest ++ ['0']) :
    stripTrailingZeros fraction = fraction := by
  refine List.rdropWhile_eq_self_iff.mpr fun hne hlast => ?_
  refine h fraction.dropLast ?_
  rw [decide_eq_true_eq] at hlast
  rw [← hlast, List.dropLast_append_getLast]

lemma canonical_strip (hinteger : IsDigits integer) (hfraction : IsDigits fraction)
    (hne : integer ≠ []) :
    Canonical (stripLeadingZeros integer) (stripTrailingZeros fraction) where
  digits := stripLeadingZeros_digits hinteger
  fractionDigits := stripTrailingZeros_digits hfraction
  leading := stripLeadingZeros_leading hne
  trailing := stripTrailingZeros_trailing fraction

/-! ### The percent sign -/

lemma decimalValue_replicate_zero (n : ℕ) (integer fraction : Text) :
    decimalValue (List.replicate n '0' ++ integer) fraction = decimalValue integer fraction := by
  induction n with
  | zero => rfl
  | succ n ih => rw [List.replicate_succ, List.cons_append, decimalValue_zero_cons, ih]

lemma isDigits_replicate_zero (n : ℕ) : IsDigits (List.replicate n '0') := fun c hc => by
  rw [List.eq_of_mem_replicate hc]
  decide

lemma movePoint_true (hinteger : IsDigits integer) (hfraction : IsDigits fraction) :
    (movePoint true integer fraction).1 ≠ [] ∧ IsDigits (movePoint true integer fraction).1 ∧
      IsDigits (movePoint true integer fraction).2 ∧
      decimalValue (movePoint true integer fraction).1 (movePoint true integer fraction).2 * 100 =
        decimalValue integer fraction := by
  obtain ⟨digits, hdigits⟩ :
      ∃ digits, List.replicate (3 - integer.length) '0' ++ integer = digits := ⟨_, rfl⟩
  have hlength : 3 ≤ digits.length := by
    rw [← hdigits, List.length_append, List.length_replicate]
    omega
  have hall : IsDigits digits :=
    hdigits ▸ isDigits_append.mpr ⟨isDigits_replicate_zero _, hinteger⟩
  obtain ⟨front, y, rfl⟩ : ∃ front y, digits = front ++ [y] := by
    rcases List.eq_nil_or_concat digits with rfl | ⟨front, y, rfl⟩
    · simp at hlength
    · exact ⟨front, y, by simp⟩
  obtain ⟨whole, x, rfl⟩ : ∃ whole x, front = whole ++ [x] := by
    rcases List.eq_nil_or_concat front with rfl | ⟨whole, x, rfl⟩
    · simp at hlength
    · exact ⟨whole, x, by simp⟩
  have hmoved : movePoint true integer fraction = (whole, x :: y :: fraction) := by
    unfold movePoint
    simp only [if_true, hdigits]
    refine Prod.ext_iff.mpr ⟨by simp, ?_⟩
    have hdrop : (whole ++ [x] ++ [y]).drop ((whole ++ [x] ++ [y]).length - 2) = [x, y] := by
      rw [List.append_assoc, List.length_append]
      simp
    rw [hdrop]
    rfl
  obtain ⟨hfront, hy⟩ := isDigits_append.mp hall
  obtain ⟨hwhole, hx⟩ := isDigits_append.mp hfront
  rw [hmoved]
  refine ⟨?_, hwhole, ?_, ?_⟩
  · rintro rfl
    simp at hlength
  · exact isDigits_cons.mpr ⟨(isDigits_cons.mp hx).1,
      isDigits_cons.mpr ⟨(isDigits_cons.mp hy).1, hfraction⟩⟩
  · rw [← decimalValue_replicate_zero (3 - integer.length) integer, hdigits, decimalValue_move,
      decimalValue_move]
    ring

/-! ### Exactness -/

/-- A text writes a number, with a percent sign where one is allowed. -/
def CostCardNumeral (percent : Bool) (text : Text) (value : ℚ) : Prop :=
  Denotes text value ∨
    percent = true ∧ ∃ numeral, text = numeral ++ ['%'] ∧ Denotes numeral (value * 100)

/-- What a percent sign divides by. -/
def percentUnit (percentSign : Bool) : ℚ := if percentSign then 100 else 1

/-- The number that has been read. -/
def DecimalParts.value (parts : DecimalParts) : ℚ :=
  signed parts.negative (decimalValue parts.integer parts.fraction) /
    percentUnit parts.percentSign

lemma signed_append {body rest : Text} (h : Signed text negative (body ++ rest)) :
    ∃ numeral, text = numeral ++ rest ∧ Signed numeral negative body := by
  generalize hbody : body ++ rest = unsigned at h
  cases h with
  | none => exact ⟨body, hbody.symm, .none body⟩
  | plus => exact ⟨'+' :: body, by rw [← hbody]; rfl, .plus body⟩
  | minus => exact ⟨'-' :: body, by rw [← hbody]; rfl, .minus body⟩

lemma signed_concat {body : Text} (h : Signed text negative body) (rest : Text) :
    Signed (text ++ rest) negative (body ++ rest) := by
  cases h with
  | none => exact .none _
  | plus => exact .plus _
  | minus => exact .minus _

variable {percent : Bool}

lemma costCardNumeral_iff {value : ℚ} :
    CostCardNumeral percent text value ↔ ∃ parts, readDecimalParts text = some parts ∧
      (parts.percentSign = true → percent = true) ∧ value = parts.value := by
  constructor
  · rintro (⟨negative, body, integer, fraction, hsigned, hbody, rfl⟩ |
      ⟨rfl, numeral, rfl, negative, body, integer, fraction, hsigned, hbody, hvalue⟩)
    · have hread := @readDecimalParts_of _ false _ _ _ _
        (by rwa [percentText, if_neg (by decide), List.append_nil]) hbody
      refine ⟨_, hread, by simp, ?_⟩
      simp [DecimalParts.value, percentUnit, decimalValue_wholeDigits]
    · have hread := @readDecimalParts_of _ true _ _ _ _ (signed_concat hsigned ['%']) hbody
      refine ⟨_, hread, fun _ => rfl, ?_⟩
      rw [DecimalParts.value, decimalValue_wholeDigits, ← hvalue, percentUnit, if_pos rfl]
      field_simp
  · rintro ⟨parts, hread, hallowed, rfl⟩
    obtain ⟨body, integer, hsigned, hbody, hinteger⟩ := readDecimalParts_some hread
    rw [DecimalParts.value, hinteger, decimalValue_wholeDigits]
    cases hsign : parts.percentSign with
    | false =>
      rw [hsign, percentText, if_neg (by decide), List.append_nil] at hsigned
      refine .inl ⟨_, body, integer, parts.fraction, hsigned, hbody, ?_⟩
      rw [percentUnit, if_neg (by decide), div_one]
    | true =>
      rw [hsign] at hsigned
      obtain ⟨numeral, hnumeral, hsigned⟩ := signed_append hsigned
      refine .inr ⟨hallowed hsign, numeral, hnumeral, _, body, integer, parts.fraction, hsigned,
        hbody, ?_⟩
      rw [percentUnit, if_pos rfl]
      field_simp

lemma costCardNumeral_unique {value : ℚ} (h : CostCardNumeral percent text value) (value' : ℚ) :
    CostCardNumeral percent text value' ↔ value' = value := by
  constructor
  · intro h'
    obtain ⟨parts, hread, -, hvalue⟩ := costCardNumeral_iff.mp h
    obtain ⟨parts', hread', -, hvalue'⟩ := costCardNumeral_iff.mp h'
    obtain rfl : parts = parts' := Option.some.inj (hread.symm.trans hread')
    rw [hvalue, hvalue']
  · rintro rfl
    exact h

lemma writes_iff_costCardNumeral {value : ℚ} :
    Denotes text value ↔ CostCardNumeral false text value := by
  simp [CostCardNumeral]

lemma signed_mul (negative : Bool) (v w : ℚ) : signed negative (v * w) = signed negative v * w := by
  cases negative with
  | false => rfl
  | true => exact (neg_mul v w).symm

/-- The digits before and after the point that are kept. -/
def keptDigits (parts : DecimalParts) : Text × Text :=
  let moved := movePoint parts.percentSign (stripLeadingZeros parts.integer) parts.fraction
  (stripLeadingZeros moved.1, stripTrailingZeros moved.2)

lemma keptDigits_spec (h : readDecimalParts text = some parts) :
    Canonical (keptDigits parts).1 (keptDigits parts).2 ∧
      signed parts.negative (decimalValue (keptDigits parts).1 (keptDigits parts).2) =
        parts.value := by
  obtain ⟨body, integer, -, hbody, hinteger⟩ := readDecimalParts_some h
  obtain ⟨hdigits, hfraction⟩ := hbody.digits
  have hwhole : IsDigits parts.integer ∧ parts.integer ≠ [] := by
    rw [hinteger, wholeDigits]
    split
    · exact ⟨fun c hc => by rw [List.mem_singleton.mp hc]; decide, by simp⟩
    · next hne => exact ⟨hdigits, hne⟩
  have hstripped : IsDigits (stripLeadingZeros parts.integer) ∧
      stripLeadingZeros parts.integer ≠ [] := by
    refine ⟨stripLeadingZeros_digits hwhole.1, ?_⟩
    rcases stripLeadingZeros_leading hwhole.2 with h | ⟨c, rest, h, -⟩ <;> simp [h]
  unfold keptDigits DecimalParts.value
  dsimp only
  rw [stripLeadingZeros_value, stripTrailingZeros_value]
  cases parts.percentSign with
  | false =>
    refine ⟨canonical_strip hstripped.1 hfraction hstripped.2, ?_⟩
    rw [percentUnit, if_neg (by decide), div_one, movePoint, if_neg (by decide),
      stripLeadingZeros_value]
  | true =>
    obtain ⟨hne, hmoved, hmovedFraction, hvalue⟩ := movePoint_true hstripped.1 hfraction
    refine ⟨canonical_strip hmoved hmovedFraction hne, ?_⟩
    rw [percentUnit, if_pos rfl, ← stripLeadingZeros_value parts.integer, ← hvalue, signed_mul]
    field_simp

/-- How many digits the precision leaves before the point. -/
def wholeLimit (percent : Bool) : ℕ := if percent then 6 else 14

lemma normalizeCostCardDecimal_ok {value r : String} :
    normalizeCostCardDecimal value percent = .ok r ↔
      ∃ parts, readDecimalParts (Text.trim value.toList) = some parts ∧
        (parts.percentSign = true → percent = true) ∧
        ((keptDigits parts).1.length ≤ wholeLimit percent ∧ (keptDigits parts).2.length ≤ 6) ∧
        r = .ofList (canonicalText parts.negative (keptDigits parts).1 (keptDigits parts).2) := by
  unfold normalizeCostCardDecimal
  cases readDecimalParts (Text.trim value.toList) with
  | none => simp
  | some parts =>
    simp only [Option.some.injEq, exists_eq_left']
    by_cases hsign : (parts.percentSign && !percent) = true
    · rw [if_pos hsign]
      rw [Bool.and_eq_true, Bool.not_eq_true'] at hsign
      refine iff_of_false (by simp) fun ⟨hallowed, _⟩ => ?_
      rw [hallowed hsign.1] at hsign
      cases hsign.2
    · rw [if_neg hsign]
      have hallowed : parts.percentSign = true → percent = true := fun h => by
        rw [h, Bool.true_and, Bool.not_eq_true', Bool.not_eq_false] at hsign
        exact hsign
      rw [and_iff_right hallowed]
      by_cases hlong : 6 < (keptDigits parts).2.length ∨
          wholeLimit percent < (keptDigits parts).1.length
      · rw [if_pos (by simpa [keptDigits, wholeLimit] using hlong)]
        refine iff_of_false (by simp) fun ⟨⟨hwhole, hfraction⟩, _⟩ => ?_
        omega
      · rw [if_neg (by simpa [keptDigits, wholeLimit] using hlong)]
        rw [not_or, not_lt, not_lt] at hlong
        rw [and_iff_right ⟨hlong.2, hlong.1⟩, Except.ok.injEq, eq_comm]
        rw [canonicalText, ← List.append_assoc]
        rfl

lemma trim_of_no_space (h : ∀ c ∈ text, isSpace c = false) : Text.trim text = text := by
  unfold Text.trim Text.trimStart
  have hstart : text.dropWhile isSpace = text := by
    cases text with
    | nil => rfl
    | cons c text => simp [h c (List.mem_cons_self ..)]
  rw [hstart]
  refine List.rdropWhile_eq_self_iff.mpr fun hne => ?_
  simp [h _ (List.getLast_mem hne)]

lemma canonicalText_no_space (h : Canonical integer fraction) :
    ∀ c ∈ canonicalText negative integer fraction, isSpace c = false := by
  have hdigit : ∀ c, isDigit c = true → isSpace c = false := by
    intro c hc
    have hc := isDigit_iff.mp hc
    simp only [isSpace, Bool.or_eq_false_iff, Bool.and_eq_false_iff, decide_eq_false_iff_not,
      List.contains_eq_mem, List.mem_cons, List.not_mem_nil, or_false]
    omega
  intro c hc
  unfold canonicalText at hc
  rcases List.mem_append.mp hc with hc | hc
  · split at hc
    · rw [List.mem_singleton.mp hc]
      decide
    · cases hc
  · rcases List.mem_append.mp hc with hc | hc
    · exact hdigit c (h.digits c hc)
    · split at hc
      · cases hc
      · rcases List.mem_cons.mp hc with rfl | hc
        · decide
        · exact hdigit c (h.fractionDigits c hc)

lemma readDecimalParts_canonicalText {negative : Bool} {integer fraction : Text}
    (h : Canonical integer fraction) :
    readDecimalParts (canonicalText negative integer fraction) =
      some ⟨negative && !(integer = ['0'] && fraction = []), integer, fraction, false⟩ := by
  have hne : integer ≠ [] := by
    rcases h.leading with rfl | ⟨c, rest, rfl, -⟩ <;> simp
  have hread := @readDecimalParts_of _ false _ _ _ _
    (by
      rw [show percentText false = [] from rfl, List.append_nil]
      exact signed_canonicalText negative integer fraction)
    (magnitude_canonical h)
  rwa [wholeDigits, if_neg hne] at hread

lemma normalizeCostCardDecimal_canonicalText (h : Canonical integer fraction)
    (hwhole : integer.length ≤ wholeLimit percent) (hfraction : fraction.length ≤ 6) :
    normalizeCostCardDecimal (.ofList (canonicalText negative integer fraction)) percent =
      .ok (.ofList (canonicalText negative integer fraction)) := by
  let parts : DecimalParts :=
    ⟨negative && !(integer = ['0'] && fraction = []), integer, fraction, false⟩
  have hkept : keptDigits parts = (integer, fraction) := by
    have hmoved : movePoint parts.percentSign (stripLeadingZeros parts.integer) parts.fraction =
        (integer, fraction) := by rw [stripLeadingZeros_canonical h.leading]; rfl
    rw [keptDigits, hmoved]
    rw [stripLeadingZeros_canonical h.leading, stripTrailingZeros_canonical h.trailing]
  refine normalizeCostCardDecimal_ok.mpr ⟨parts, ?_, nofun, ?_, ?_⟩
  · rw [String.toList_ofList, trim_of_no_space (canonicalText_no_space h)]
    exact readDecimalParts_canonicalText h
  · rw [hkept]
    exact ⟨hwhole, hfraction⟩
  · have hsign : canonicalText parts.negative integer fraction =
        canonicalText negative integer fraction := by
      unfold canonicalText
      rw [Bool.and_assoc, Bool.and_self]
    rw [hkept, hsign]

/-- A decimal is accepted when it writes a number that fits its column, keeps that number, and
stays as it is from then on. -/
theorem normalizeCostCardDecimal_exact (value : String) (percent : Bool) :
    ((normalizeCostCardDecimal value percent).isOk = true ↔
      ∃ v, CostCardNumeral percent (Text.trim value.toList) v ∧
        Fits (if percent then 12 else 20) 6 v) ∧
    ∀ r, normalizeCostCardDecimal value percent = .ok r →
      (∃ v, (∀ v', CostCardNumeral percent (Text.trim value.toList) v' ↔ v' = v) ∧
        ∀ v', Denotes r.toList v' ↔ v' = v) ∧
      normalizeCostCardDecimal r percent = .ok r := by
  have hfits (parts : DecimalParts)
      (hread : readDecimalParts (Text.trim value.toList) = some parts) :
      Fits (if percent then 12 else 20) 6 parts.value ↔
        (keptDigits parts).1.length ≤ wholeLimit percent ∧ (keptDigits parts).2.length ≤ 6 := by
    obtain ⟨hcanonical, hvalue⟩ := keptDigits_spec hread
    have hprecision : (if percent then 12 else 20) = wholeLimit percent + 6 := by
      cases percent <;> rfl
    rw [← hvalue, fits_signed, hprecision]
    exact hcanonical.fits_iff (by cases percent <;> decide)
  constructor
  · constructor
    · intro hok
      obtain ⟨r, hr⟩ := Fallible.exists_ok hok
      obtain ⟨parts, hread, hallowed, hlengths, -⟩ := normalizeCostCardDecimal_ok.mp hr
      exact ⟨parts.value, costCardNumeral_iff.mpr ⟨parts, hread, hallowed, rfl⟩,
        (hfits parts hread).mpr hlengths⟩
    · rintro ⟨v, hnumeral, hv⟩
      obtain ⟨parts, hread, hallowed, rfl⟩ := costCardNumeral_iff.mp hnumeral
      have hok := normalizeCostCardDecimal_ok.mpr
        ⟨parts, hread, hallowed, (hfits parts hread).mp hv, rfl⟩
      rw [hok]
      rfl
  · intro r hr
    obtain ⟨parts, hread, hallowed, ⟨hwhole, hfraction⟩, rfl⟩ :=
      normalizeCostCardDecimal_ok.mp hr
    obtain ⟨hcanonical, hvalue⟩ := keptDigits_spec hread
    refine ⟨⟨parts.value, costCardNumeral_unique
      (costCardNumeral_iff.mpr ⟨parts, hread, hallowed, rfl⟩), fun v' => ?_⟩, ?_⟩
    · rw [String.toList_ofList, writes_iff_costCardNumeral]
      refine costCardNumeral_unique (writes_iff_costCardNumeral.mp ?_) v'
      rw [← hvalue]
      exact denotes_canonicalText hcanonical
    · exact normalizeCostCardDecimal_canonicalText hcanonical hwhole hfraction

example : (normalizeCostCardDecimal " -007.50% " true).toOption = some "-0.075" := by
  decide +kernel

end Import
end SmeDataCenter
