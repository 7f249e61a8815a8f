import SmeDataCenter.ScriptTexts
import SmeDataCenter.TextPatterns

/-!
# Strings in JSON texts

A string is written between quotation marks, with an escape for the mark itself, the backslash, the
control characters and the surrogates that stand alone. What is written is read back unit by unit.
-/

namespace SmeDataCenter
namespace JsonStrings

open ScriptText CodeWords

/-! ### Writing -/

/-- `\u`, and the number of a unit in four digits. -/
def unicodeEscape (u : UInt16) : Text :=
  '\\' :: 'u' :: [u.toNat / 0x1000, u.toNat / 0x100 % 16, u.toNat / 16 % 16, u.toNat % 16].map
    Nat.digitChar

def escapePoint : CodePoint → Text
  | .scalar c => (escapeChar c).toList
  | .surrogate u => unicodeEscape u

/-- The text of a string after its first quotation mark. -/
def escaped (points : List CodePoint) : Text := points.flatMap escapePoint ++ ['"']

/-! ### Reading -/

def hexValue (c : Char) : Option ℕ :=
  if Text.isDigit c then some (c.toNat - '0'.toNat)
  else if 'a'.toNat ≤ c.toNat && c.toNat ≤ 'f'.toNat then some (c.toNat - 'a'.toNat + 10)
  else if 'A'.toNat ≤ c.toNat && c.toNat ≤ 'F'.toNat then some (c.toNat - 'A'.toNat + 10)
  else none

def readHex (digits : Text) : Option ℕ :=
  digits.foldlM (fun n c => (hexValue c).map (16 * n + ·)) 0

/-- What a letter stands for after a backslash. -/
def shortEscape (c : Char) : Option Char :=
  [('"', '"'), ('\\', '\\'), ('/', '/'), ('b', Char.ofNat 0x8), ('f', Char.ofNat 0xC),
    ('n', '\n'), ('r', '\r'), ('t', '\t')].lookup c

/-- Units before what is read. -/
def withUnits (units : ScriptText) (read : ScriptText × Text) : ScriptText × Text :=
  (units ++ read.1, read.2)

/-- A string after its first quotation mark, and what follows it. -/
def readString : Text → Option (ScriptText × Text)
  | [] => none
  | '"' :: rest => some ([], rest)
  | '\\' :: 'u' :: a :: b :: c :: d :: rest => do
    let n ← readHex [a, b, c, d]
    (readString rest).map (withUnits [UInt16.ofNat n])
  | '\\' :: e :: rest => do
    let c ← shortEscape e
    (readString rest).map (withUnits (charUnits c))
  | c :: rest =>
    if c.toNat < 0x20 || c = '\\' then none
    else (readString rest).map (withUnits (charUnits c))

/-! ### What is written is read back -/

def pointUnits : CodePoint → ScriptText
  | .scalar c => charUnits c
  | .surrogate u => [u]

lemma pointUnits_single (u : UInt16) : pointUnits (single u) = [u] := by
  unfold single
  split
  · rfl
  · next h =>
    simp only [Bool.or_eq_true, not_or, Bool.not_eq_true] at h
    exact charUnits_single h.1 h.2

lemma flatMap_pointUnits (text : ScriptText) : (points text).flatMap pointUnits = text := by
  induction text using points.induct with
  | case1 => rfl
  | case2 u => simp [points, pointUnits_single]
  | case3 u v rest hpair ih =>
    rw [Bool.and_eq_true] at hpair
    rw [points, if_pos (by simp [hpair]), List.flatMap_cons, ih]
    exact congrArg (· ++ rest) (charUnits_pair hpair.1 hpair.2)
  | case4 u v rest hpair ih =>
    rw [points, if_neg hpair, List.flatMap_cons, ih, pointUnits_single, List.singleton_append]

lemma hexValue_digitChar : ∀ n < 16, hexValue n.digitChar = some n := by decide

lemma readHex_digits {a b c d : ℕ} (ha : a < 16) (hb : b < 16) (hc : c < 16) (hd : d < 16) :
    readHex ([a, b, c, d].map Nat.digitChar) = some (16 * (16 * (16 * a + b) + c) + d) := by
  simp [readHex, hexValue_digitChar a ha, hexValue_digitChar b hb, hexValue_digitChar c hc,
    hexValue_digitChar d hd]

lemma readString_escape {a b c d : ℕ} (ha : a < 16) (hb : b < 16) (hc : c < 16) (hd : d < 16)
    (rest : Text) :
    readString ('\\' :: 'u' :: [a, b, c, d].map Nat.digitChar ++ rest) =
      (readString rest).map
        (withUnits [UInt16.ofNat (16 * (16 * (16 * a + b) + c) + d)]) := by
  have hread := readHex_digits ha hb hc hd
  simp only [List.map_cons, List.map_nil] at hread
  simp only [List.map_cons, List.map_nil, List.cons_append, List.nil_append, readString, hread]
  rfl

lemma readString_unicodeEscape (u : UInt16) (rest : Text) :
    readString (unicodeEscape u ++ rest) = (readString rest).map (withUnits [u]) := by
  have hu : u.toNat < 0x10000 := u.toNat_lt
  have hread := @readString_escape (u.toNat / 0x1000) (u.toNat / 0x100 % 16) (u.toNat / 16 % 16)
    (u.toNat % 16) (by omega) (by omega) (by omega) (by omega) rest
  have hback : 16 * (16 * (16 * (u.toNat / 0x1000) + u.toNat / 0x100 % 16) + u.toNat / 16 % 16) +
      u.toNat % 16 = u.toNat := by omega
  rw [hback, UInt16.ofNat_toNat] at hread
  exact hread

lemma charUnits_small {c : Char} (hc : c.toNat < 0x10000) :
    charUnits c = [UInt16.ofNat c.toNat] := by
  simp [charUnits, codeUnits, hc]

lemma readString_plain {c : Char} (hlow : 0x20 ≤ c.toNat) (hmark : c ≠ '"') (hslash : c ≠ '\\')
    (rest : Text) :
    readString (c :: rest) = (readString rest).map (withUnits (charUnits c)) := by
  have hcontrol : ¬c.toNat < 0x20 := by omega
  simp [readString, hslash, hcontrol]

lemma readString_short {e c : Char} (h : shortEscape e = some c) (he : e ≠ 'u') (rest : Text) :
    readString ('\\' :: e :: rest) = (readString rest).map (withUnits (charUnits c)) := by
  simp [readString, he, h]

lemma readString_escapeChar (c : Char) (rest : Text) :
    readString ((escapeChar c).toList ++ rest) =
      (readString rest).map (withUnits (charUnits c)) := by
  have hchar {n : ℕ} {d : Char} (h : c.toNat = n) (hd : d.toNat = n) : c = d :=
    Char.toNat_inj.mp (h.trans hd.symm)
  unfold escapeChar
  split
  · next h =>
    obtain rfl := hchar h (d := '"') rfl
    exact readString_short rfl (by decide) rest
  split
  · next h =>
    obtain rfl := hchar h (d := '\\') rfl
    exact readString_short rfl (by decide) rest
  split
  · next h =>
    obtain rfl := hchar h (d := Char.ofNat 0x8) rfl
    exact readString_short rfl (by decide) rest
  split
  · next h =>
    obtain rfl := hchar h (d := '\t') rfl
    exact readString_short rfl (by decide) rest
  split
  · next h =>
    obtain rfl := hchar h (d := '\n') rfl
    exact readString_short rfl (by decide) rest
  split
  · next h =>
    obtain rfl := hchar h (d := Char.ofNat 0xC) rfl
    exact readString_short rfl (by decide) rest
  split
  · next h =>
    obtain rfl := hchar h (d := '\r') rfl
    exact readString_short rfl (by decide) rest
  split
  · next h =>
    have hread := @readString_escape 0 0 (c.toNat / 16) (c.toNat % 16) (by omega) (by omega)
      (by omega) (by omega) rest
    have hback : 16 * (16 * (16 * 0 + 0) + c.toNat / 16) + c.toNat % 16 = c.toNat := by omega
    rw [hback] at hread
    rw [charUnits_small (by omega), String.toList_append, String.toList_ofList,
      String.toList_ofList]
    exact hread
  · next hmark hslash _ _ _ _ _ hlow =>
    rw [String.toList_ofList]
    exact @readString_plain c (by omega) (fun h => hmark (h ▸ rfl)) (fun h => hslash (h ▸ rfl)) rest

lemma readString_escapePoint (p : CodePoint) (rest : Text) :
    readString (escapePoint p ++ rest) = (readString rest).map (withUnits (pointUnits p)) := by
  cases p with
  | scalar c => exact readString_escapeChar c rest
  | surrogate u => exact readString_unicodeEscape u rest

theorem readString_escaped (points : List CodePoint) (rest : Text) :
    readString (escaped points ++ rest) = some (points.flatMap pointUnits, rest) := by
  unfold escaped
  induction points with
  | nil => rfl
  | cons p points ih =>
    rw [List.flatMap_cons, List.append_assoc, List.append_assoc, readString_escapePoint,
      ← List.append_assoc, ih]
    rfl

lemma readString_points (text : ScriptText) (rest : Text) :
    readString (escaped (points text) ++ rest) = some (text, rest) := by
  rw [readString_escaped, flatMap_pointUnits]

/-! ### Texts of characters -/

lemma quote_toList (s : String) : (quote s).toList = '"' :: escaped (s.toList.map .scalar) := by
  simp only [quote, String.toList_append, String.toList_join, List.flatMap_map, escaped, escapePoint]
  rfl

end JsonStrings
end SmeDataCenter
