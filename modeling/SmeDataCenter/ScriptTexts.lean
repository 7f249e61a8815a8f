import Mathlib.Data.List.DropRight
import SmeDataCenter.CanonicalJson
import SmeDataCenter.CodeWords

/-!
# Strings of the language

A string of the language is a sequence of UTF-16 code units. In a well-formed one surrogates
stand in pairs; a surrogate that stands alone is replaced when the string is written as UTF-8,
which is how it reaches the database.
-/

namespace SmeDataCenter

open CodeWords

/-- A string, as its code units. -/
abbrev ScriptText := List UInt16

/-- A code point: a character, or a surrogate that stands alone. -/
inductive CodePoint where
  | scalar (c : Char)
  | surrogate (u : UInt16)

namespace ScriptText

def isHigh (u : UInt16) : Bool := 0xD800 ≤ u.toNat && u.toNat < 0xDC00

def isLow (u : UInt16) : Bool := 0xDC00 ≤ u.toNat && u.toNat < 0xE000

/-- The character of a surrogate pair. -/
def pairChar (high low : UInt16) : Char :=
  Char.ofNat (0x10000 + (high.toNat - 0xD800) * 0x400 + (low.toNat - 0xDC00))

/-- A unit that is no part of a pair. -/
def single (u : UInt16) : CodePoint :=
  if isHigh u || isLow u then .surrogate u else .scalar (Char.ofNat u.toNat)

/-- `[...text]` -/
def points : ScriptText → List CodePoint
  | [] => []
  | [u] => [single u]
  | u :: v :: rest =>
    if isHigh u && isLow v then .scalar (pairChar u v) :: points rest
    else single u :: points (v :: rest)

/-- What is written for a code point: a surrogate is replaced. -/
def written : CodePoint → Char
  | .scalar c => c
  | .surrogate _ => '\uFFFD'

/-- The characters that are written for a text. -/
def scalars (text : ScriptText) : List Char := (points text).map written

def isScalar : CodePoint → Bool
  | .scalar _ => true
  | .surrogate _ => false

/-- `text.isWellFormed()` -/
def isWellFormed (text : ScriptText) : Bool := (points text).all isScalar

/-- The units of a character. -/
def charUnits (c : Char) : ScriptText := (codeUnits c).map UInt16.ofNat

def ofString (s : String) : ScriptText := encode charUnits s.toList

/-- The text as it is stored. -/
def stored (text : ScriptText) : String := String.ofList (scalars text)

/-- `Buffer.from(text, "utf8")` -/
def toUtf8 (text : ScriptText) : List UInt8 := encode String.utf8EncodeChar (scalars text)

/-- `text.includes(part)` -/
def includes (text part : ScriptText) : Bool := decide (part <:+: text)

/-! ### Units and characters -/

section

variable {c : Char} {text : ScriptText}

lemma toNat_ofNat {n : ℕ} (h : n < 0x10000) : (UInt16.ofNat n).toNat = n := by
  rw [UInt16.toNat_ofNat']
  omega

lemma char_not_surrogate (c : Char) : c.toNat < 0xD800 ∨ 0xDFFF < c.toNat ∧ c.toNat < 0x110000 :=
  c.valid

lemma charUnits_cases (c : Char) :
    (∃ u, charUnits c = [u] ∧ u.toNat = c.toNat ∧ isHigh u = false ∧ isLow u = false) ∨
      ∃ u v, charUnits c = [u, v] ∧ isHigh u = true ∧ isLow v = true ∧ pairChar u v = c := by
  have hvalid := char_not_surrogate c
  by_cases hc : c.toNat < 0x10000
  · have hn := toNat_ofNat hc
    refine .inl ⟨UInt16.ofNat c.toNat, by simp [charUnits, codeUnits, hc], hn, ?_, ?_⟩
    · simp only [isHigh, hn, Bool.and_eq_false_iff, decide_eq_false_iff_not]
      omega
    · simp only [isLow, hn, Bool.and_eq_false_iff, decide_eq_false_iff_not]
      omega
  · have hhigh := toNat_ofNat (n := 0xD800 + (c.toNat - 0x10000) / 0x400) (by omega)
    have hlow := toNat_ofNat (n := 0xDC00 + (c.toNat - 0x10000) % 0x400) (by omega)
    refine .inr ⟨UInt16.ofNat (0xD800 + (c.toNat - 0x10000) / 0x400),
      UInt16.ofNat (0xDC00 + (c.toNat - 0x10000) % 0x400), by simp [charUnits, codeUnits, hc],
      ?_, ?_, ?_⟩
    · simp only [isHigh, hhigh, Bool.and_eq_true, decide_eq_true_eq]
      omega
    · simp only [isLow, hlow, Bool.and_eq_true, decide_eq_true_eq]
      omega
    · have hback : 0x10000 + (0xD800 + (c.toNat - 0x10000) / 0x400 - 0xD800) * 0x400 +
          (0xDC00 + (c.toNat - 0x10000) % 0x400 - 0xDC00) = c.toNat := by omega
      rw [pairChar, hhigh, hlow, hback, Char.ofNat_toNat]

variable {u : UInt16}

lemma single_of_not (hhigh : isHigh u = false) (hlow : isLow u = false) :
    single u = .scalar (Char.ofNat u.toNat) := by simp [single, hhigh, hlow]

lemma points_charUnits_append (c : Char) (text : ScriptText) :
    points (charUnits c ++ text) = .scalar c :: points text := by
  rcases charUnits_cases c with ⟨u, hu, hn, hhigh, hlow⟩ | ⟨u, v, huv, hhigh, hlow, hpair⟩
  · have hsingle : single u = .scalar c := by
      rw [single_of_not hhigh hlow, hn, Char.ofNat_toNat]
    cases text with
    | nil => simp [hu, points, hsingle]
    | cons v text => simp [hu, points, hhigh, hsingle]
  · simp [huv, points, hhigh, hlow, hpair]

@[simp] lemma points_encode (cs : List Char) : points (encode charUnits cs) = cs.map .scalar := by
  induction cs with
  | nil => rfl
  | cons c cs ih => rw [encode_cons, points_charUnits_append, ih, List.map_cons]

@[simp] lemma scalars_encode (cs : List Char) : scalars (encode charUnits cs) = cs := by
  simp [scalars, Function.comp_def, written]

@[simp] lemma isWellFormed_encode (cs : List Char) : isWellFormed (encode charUnits cs) = true := by
  simp [isWellFormed, isScalar]

lemma toNat_charOfNat {n : ℕ} (h : n.isValidChar) : (Char.ofNat n).toNat = n := by
  unfold Char.ofNat
  rw [dif_pos h]
  rfl

lemma charUnits_single (hhigh : isHigh u = false) (hlow : isLow u = false) :
    charUnits (Char.ofNat u.toNat) = [u] := by
  have hu : u.toNat < 0x10000 := u.toNat_lt
  have hvalid : u.toNat.isValidChar := by
    simp only [isHigh, isLow, Bool.and_eq_false_iff, decide_eq_false_iff_not] at hhigh hlow
    simp only [Nat.isValidChar]
    omega
  simp [charUnits, codeUnits, toNat_charOfNat hvalid, hu]

lemma charUnits_pair {v : UInt16} (hhigh : isHigh u = true) (hlow : isLow v = true) :
    charUnits (pairChar u v) = [u, v] := by
  simp only [isHigh, isLow, Bool.and_eq_true, decide_eq_true_eq] at hhigh hlow
  have hvalid : (0x10000 + (u.toNat - 0xD800) * 0x400 + (v.toNat - 0xDC00)).isValidChar := by
    simp only [Nat.isValidChar]
    omega
  have hn : (pairChar u v).toNat = 0x10000 + (u.toNat - 0xD800) * 0x400 + (v.toNat - 0xDC00) :=
    toNat_charOfNat hvalid
  have hu : 0xD800 + ((pairChar u v).toNat - 0x10000) / 0x400 = u.toNat := by omega
  have hv : 0xDC00 + ((pairChar u v).toNat - 0x10000) % 0x400 = v.toNat := by omega
  have hnot : ¬ (pairChar u v).toNat < 0x10000 := by omega
  simp only [charUnits, codeUnits, if_neg hnot, hu, hv, List.map_cons, List.map_nil,
    UInt16.ofNat_toNat]

lemma not_surrogate_of_isScalar (h : isScalar (single u) = true) :
    isHigh u = false ∧ isLow u = false := by
  unfold single at h
  split at h
  · simp [isScalar] at h
  · next hne => simpa using hne

lemma encode_scalars {text : ScriptText} (h : isWellFormed text = true) :
    encode charUnits (scalars text) = text := by
  induction text using points.induct with
  | case1 => rfl
  | case2 u =>
    have hs := not_surrogate_of_isScalar (by simpa [isWellFormed, points] using h)
    simp [scalars, points, single_of_not hs.1 hs.2, written, charUnits_single hs.1 hs.2]
  | case3 u v rest hpair ih =>
    simp only [Bool.and_eq_true] at hpair
    have hpoints : points (u :: v :: rest) = .scalar (pairChar u v) :: points rest := by
      simp [points, hpair]
    simp only [isWellFormed, hpoints, List.all_cons, Bool.and_eq_true] at h
    have hrest := ih h.2
    simp only [scalars] at hrest ⊢
    simp [hpoints, written, charUnits_pair hpair.1 hpair.2, hrest]
  | case4 u v rest hpair ih =>
    have hpoints : points (u :: v :: rest) = single u :: points (v :: rest) := by
      rw [points, if_neg hpair]
    simp only [isWellFormed, hpoints, List.all_cons, Bool.and_eq_true] at h
    have hs := not_surrogate_of_isScalar h.1
    have hrest := ih h.2
    simp only [scalars] at hrest ⊢
    simp [hpoints, single_of_not hs.1 hs.2, written, charUnits_single hs.1 hs.2, hrest]

lemma eq_encode_iff {text : ScriptText} {cs : List Char} :
    text = encode charUnits cs ↔ isWellFormed text = true ∧ scalars text = cs := by
  constructor
  · rintro rfl
    exact ⟨isWellFormed_encode cs, scalars_encode cs⟩
  · rintro ⟨hwell, rfl⟩
    exact (encode_scalars hwell).symm

variable {s : String}

lemma eq_ofString_iff {text : ScriptText} :
    text = ofString s ↔ isWellFormed text = true ∧ scalars text = s.toList := eq_encode_iff

@[simp] lemma isWellFormed_ofString (s : String) : isWellFormed (ofString s) = true :=
  isWellFormed_encode s.toList

@[simp] lemma scalars_ofString (s : String) : scalars (ofString s) = s.toList :=
  scalars_encode s.toList

@[simp] lemma stored_ofString (s : String) : stored (ofString s) = s := by
  rw [stored, scalars_ofString, String.ofList_toList]

@[simp] lemma length_ofString (s : String) :
    (ofString s).length = (s.toList.flatMap codeUnits).length := by
  simp [ofString, encode, charUnits, List.length_flatMap]

/-! ### Searching -/

lemma charUnits_selfSynchronizing :
    SelfSynchronizing charUnits fun u => isLow u = false where
  word c := by
    rcases charUnits_cases c with ⟨u, hu, -, -, hlow⟩ | ⟨u, v, huv, hhigh, hlow, -⟩
    · exact ⟨u, [], hu, hlow, by simp⟩
    · refine ⟨u, [v], huv, ?_, by simp [hlow]⟩
      simp only [isHigh, isLow, Bool.and_eq_true, Bool.and_eq_false_iff, decide_eq_true_eq,
        decide_eq_false_iff_not] at hhigh ⊢
      omega
  unique h := by
    have hpoints := congrArg points h
    rw [points_charUnits_append, points_charUnits_append] at hpoints
    exact CodePoint.scalar.inj (List.cons.inj hpoints).1

lemma utf8_selfSynchronizing :
    SelfSynchronizing String.utf8EncodeChar UInt8.IsUTF8FirstByte where
  word c := by
    cases hc : String.utf8EncodeChar c with
    | nil => exact absurd hc String.utf8EncodeChar_ne_nil
    | cons b bs =>
      have hfirst : ∀ i (hi : i < (b :: bs).length), (b :: bs)[i].IsUTF8FirstByte ↔ i = 0 := by
        rw [← hc]
        exact fun i hi => UInt8.isUTF8FirstByte_getElem_utf8EncodeChar
      refine ⟨b, bs, rfl, (hfirst 0 (by simp)).mpr rfl, fun x hx hlead => ?_⟩
      obtain ⟨i, hi, rfl⟩ := List.getElem_of_mem hx
      have := (hfirst (i + 1) (by simpa using hi)).mp (by simpa using hlead)
      omega
  unique {a b s t} h := by
    have hbytes : (String.utf8EncodeChar a).toByteArray ++ s.toByteArray =
        (String.utf8EncodeChar b).toByteArray ++ t.toByteArray := by
      rw [← List.toByteArray_append, ← List.toByteArray_append, h]
    have hdecode := congrArg (ByteArray.utf8DecodeChar? · 0) hbytes
    simpa [ByteArray.utf8DecodeChar?_utf8EncodeChar_append] using hdecode

lemma toUtf8_eq_iff {a b : ScriptText} : toUtf8 a = toUtf8 b ↔ scalars a = scalars b :=
  utf8_selfSynchronizing.encode_inj

lemma toUtf8_infix_iff {a b : ScriptText} : toUtf8 a <:+: toUtf8 b ↔ scalars a <:+: scalars b :=
  utf8_selfSynchronizing.infix_iff

lemma eq_ofString_iff_toUtf8 {text : ScriptText} :
    text = ofString s ↔ isWellFormed text = true ∧ toUtf8 text = toUtf8 (ofString s) := by
  rw [toUtf8_eq_iff, scalars_ofString, eq_ofString_iff]

lemma includes_ofString_iff {text : ScriptText} (h : isWellFormed text = true) :
    includes (ofString s) text = true ↔ toUtf8 text <:+: toUtf8 (ofString s) := by
  rw [toUtf8_infix_iff, scalars_ofString, includes, decide_eq_true_eq, ← encode_scalars h,
    scalars_encode]
  exact charUnits_selfSynchronizing.infix_iff

end

end ScriptText
end SmeDataCenter
