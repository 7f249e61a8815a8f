import SmeDataCenter.ScriptTexts

/-!
# `LIKE` on bytes

`value LIKE pattern ESCAPE '!'`, where both sides are byte strings: `%` stands for any bytes, `_`
for one, and the byte after `!` for itself. A text whose special characters are escaped is found
as it stands.
-/

namespace SmeDataCenter
namespace SqlLike

open CodeWords ScriptText

inductive LikeToken where
  | any
  | one
  | byte (b : UInt8)

/-- The pattern, with `!` before the bytes that stand for themselves. -/
def likeTokens : List UInt8 → List LikeToken
  | [] => []
  | [b] => [if b = 0x25 then .any else if b = 0x5F then .one else .byte b]
  | b :: c :: rest =>
    if b = 0x21 then .byte c :: likeTokens rest
    else (if b = 0x25 then .any else if b = 0x5F then .one else .byte b) ::
      likeTokens (c :: rest)

def likeMatches : List LikeToken → List UInt8 → Bool
  | [], value => value.isEmpty
  | .any :: tokens, value => value.tails.any fun rest => likeMatches tokens rest
  | .one :: _, [] => false
  | .one :: tokens, _ :: value => likeMatches tokens value
  | .byte _ :: _, [] => false
  | .byte b :: tokens, c :: value => b = c && likeMatches tokens value

def like (value pattern : List UInt8) : Bool := likeMatches (likeTokens pattern) value

/-! ### Patterns of escaped texts -/

def escapeByte (b : UInt8) : List UInt8 :=
  if b = 0x21 ∨ b = 0x25 ∨ b = 0x5F then [0x21, b] else [b]

lemma likeTokens_escapeByte (b : UInt8) (pattern : List UInt8) :
    likeTokens (escapeByte b ++ pattern) = .byte b :: likeTokens pattern := by
  unfold escapeByte
  split
  · simp [likeTokens]
  · next h =>
    simp only [not_or] at h
    cases pattern <;> simp [likeTokens, h]

lemma likeTokens_escaped (bytes pattern : List UInt8) :
    likeTokens (bytes.flatMap escapeByte ++ pattern) =
      bytes.map .byte ++ likeTokens pattern := by
  induction bytes with
  | nil => rfl
  | cons b bytes ih =>
    rw [List.flatMap_cons, List.append_assoc, likeTokens_escapeByte, ih, List.map_cons,
      List.cons_append]

lemma likeTokens_percent (pattern : List UInt8) :
    likeTokens (0x25 :: pattern) = .any :: likeTokens pattern := by
  cases pattern <;> simp [likeTokens]

lemma likeMatches_any (value : List UInt8) : likeMatches [.any] value = true := by
  simp only [likeMatches, List.any_eq_true, List.isEmpty_iff]
  exact ⟨[], (List.mem_tails _ _).mpr List.nil_suffix, rfl⟩

lemma likeMatches_bytes (bytes value : List UInt8) :
    likeMatches (bytes.map .byte ++ [.any]) value = true ↔ bytes <+: value := by
  induction bytes generalizing value with
  | nil => simp [likeMatches_any]
  | cons b bytes ih =>
    cases value with
    | nil => simp [likeMatches]
    | cons c value => simp [likeMatches, ih, List.cons_prefix_cons]

lemma like_contains (value bytes : List UInt8) :
    like value (0x25 :: bytes.flatMap escapeByte ++ [0x25]) = true ↔ bytes <:+: value := by
  have htokens : likeTokens (0x25 :: bytes.flatMap escapeByte ++ [0x25]) =
      .any :: (bytes.map .byte ++ [.any]) := by
    rw [List.cons_append, likeTokens_percent, likeTokens_escaped]
    rfl
  simp only [like, htokens, likeMatches, List.any_eq_true, List.mem_tails, likeMatches_bytes]
  constructor
  · rintro ⟨rest, hsuffix, hfront⟩
    exact hfront.isInfix.trans hsuffix.isInfix
  · rintro ⟨s, t, rfl⟩
    exact ⟨bytes ++ t, ⟨s, by simp⟩, List.prefix_append bytes t⟩

lemma like_startsWith (value bytes : List UInt8) :
    like value (bytes.flatMap escapeByte ++ [0x25]) = true ↔ bytes <+: value := by
  have htokens : likeTokens (bytes.flatMap escapeByte ++ [0x25]) = bytes.map .byte ++ [.any] := by
    rw [likeTokens_escaped]
    rfl
  rw [like, htokens, likeMatches_bytes]

/-! ### The escape of a text -/

/-- `text.replaceAll(c, "!" + c)` -/
def escapeUnit (c : UInt16) (text : ScriptText) : ScriptText :=
  text.flatMap fun u => if u = c then [0x21, u] else [u]

def literalLike (text : ScriptText) : ScriptText :=
  escapeUnit 0x5F (escapeUnit 0x25 (escapeUnit 0x21 text))

/-- The pattern of a text that is to be contained. -/
def containsPattern (text : ScriptText) : ScriptText := 0x25 :: (literalLike text ++ [0x25])

def escapedUnit (u : UInt16) : ScriptText :=
  if u = 0x21 ∨ u = 0x25 ∨ u = 0x5F then [0x21, u] else [u]

lemma literalLike_eq (text : ScriptText) : literalLike text = text.flatMap escapedUnit := by
  induction text with
  | nil => rfl
  | cons u text ih =>
    simp only [literalLike, escapeUnit, List.flatMap_cons, List.flatMap_append] at ih ⊢
    rw [ih]
    congr 1
    by_cases h1 : u = 0x21
    · simp [h1, escapedUnit]
    · by_cases h2 : u = 0x25
      · simp [h2, escapedUnit]
      · by_cases h3 : u = 0x5F <;> simp [h1, h2, h3, escapedUnit]

def escapedChar (c : Char) : List Char :=
  if c = '!' ∨ c = '%' ∨ c = '_' then ['!', c] else [c]

variable {u : UInt16} {text : ScriptText}

lemma points_cons (h : ∀ v, text.head? = some v → (isHigh u && isLow v) = false) :
    points (u :: text) = single u :: points text := by
  cases text with
  | nil => rfl
  | cons v text => simp [points, h v rfl]

lemma points_ascii_cons (h : u.toNat < 0x80) (text : ScriptText) :
    points (u :: text) = .scalar (Char.ofNat u.toNat) :: points text := by
  have hhigh : isHigh u = false := by
    simp only [isHigh, Bool.and_eq_false_iff, decide_eq_false_iff_not]
    omega
  have hlow : isLow u = false := by
    simp only [isLow, Bool.and_eq_false_iff, decide_eq_false_iff_not]
    omega
  rw [points_cons (by simp [hhigh]), single_of_not hhigh hlow]

lemma points_append {rest : ScriptText} (h : ∀ v, rest.head? = some v → isLow v = false) :
    points (text ++ rest) = points text ++ points rest := by
  induction text using points.induct with
  | case1 => rfl
  | case2 u =>
    have hu : ∀ v, rest.head? = some v → (isHigh u && isLow v) = false := by
      intro v hv
      simp [h v hv]
    exact points_cons hu
  | case3 u v text hpair ih =>
    have hpoints (t : ScriptText) :
        points (u :: v :: t) = .scalar (pairChar u v) :: points t := by
      rw [points, if_pos hpair]
    rw [List.cons_append, List.cons_append, hpoints, hpoints, ih, List.cons_append]
  | case4 u v text hpair ih =>
    have hpoints (t : ScriptText) : points (u :: v :: t) = single u :: points (v :: t) := by
      rw [points, if_neg hpair]
    rw [List.cons_append, List.cons_append, hpoints, hpoints, List.cons_append,
      ← List.cons_append, ih]

variable {c : Char}

lemma written_single (hc : c.toNat < 0x80) (h : written (single u) = c) : u.toNat = c.toNat := by
  unfold single at h
  split at h
  · subst h
    simp [written] at hc
  · next hs =>
    have hs : isHigh u = false ∧ isLow u = false := by simpa using hs
    have hvalid : u.toNat.isValidChar := by
      have hu : u.toNat < 0x10000 := u.toNat_lt
      simp only [isHigh, isLow, Bool.and_eq_false_iff, decide_eq_false_iff_not] at hs
      simp only [Nat.isValidChar]
      omega
    rw [← h, written, toNat_charOfNat hvalid]

lemma points_escapedUnit (h : ∀ v, text.head? = some v → (isHigh u && isLow v) = false) :
    scalars (escapedUnit u ++ text) = escapedChar (written (single u)) ++ scalars text := by
  by_cases hu : u = 0x21 ∨ u = 0x25 ∨ u = 0x5F
  · have hlt : u.toNat < 0x80 := by rcases hu with rfl | rfl | rfl <;> decide
    have hescape : escapedChar (written (single u)) = ['!', Char.ofNat u.toNat] := by
      rcases hu with rfl | rfl | rfl <;> decide
    have hbang : Char.ofNat (0x21 : UInt16).toNat = '!' := by decide
    rw [escapedUnit, if_pos hu, hescape, List.cons_append, List.cons_append, List.nil_append,
      scalars, points_ascii_cons (by decide), points_ascii_cons hlt, hbang]
    rfl
  · have hplain : escapedChar (written (single u)) = [written (single u)] := by
      refine if_neg fun hspecial => hu ?_
      rcases hspecial with hc | hc | hc
      · exact .inl (UInt16.toNat_inj.mp (written_single (by decide) hc))
      · exact .inr (.inl (UInt16.toNat_inj.mp (written_single (by decide) hc)))
      · exact .inr (.inr (UInt16.toNat_inj.mp (written_single (by decide) hc)))
    rw [escapedUnit, if_neg hu, hplain, List.singleton_append, scalars, points_cons h]
    rfl

lemma head_flatMap_escapedUnit {v w : UInt16} {rest : ScriptText}
    (h : ((v :: rest).flatMap escapedUnit).head? = some w) : w = v ∨ w = 0x21 := by
  rw [List.flatMap_cons, escapedUnit] at h
  split at h
  · exact .inr (Option.some.inj h).symm
  · exact .inl (Option.some.inj h).symm

lemma scalars_flatMap_escapedUnit (text : ScriptText) :
    scalars (text.flatMap escapedUnit) = (scalars text).flatMap escapedChar := by
  induction text using points.induct with
  | case1 => rfl
  | case2 u =>
    have hu : scalars (escapedUnit u ++ []) = escapedChar (written (single u)) ++ scalars [] :=
      points_escapedUnit (by simp)
    simpa [scalars, points] using hu
  | case3 u v rest hpair ih =>
    simp only [Bool.and_eq_true] at hpair
    have hu : escapedUnit u = [u] := if_neg fun h => by
      rcases h with rfl | rfl | rfl <;> exact absurd hpair.1 (by decide)
    have hv : escapedUnit v = [v] := if_neg fun h => by
      rcases h with rfl | rfl | rfl <;> exact absurd hpair.2 (by decide)
    have hplain : escapedChar (pairChar u v) = [pairChar u v] := by
      have hlong : (charUnits (pairChar u v)).length = 2 := by
        rw [charUnits_pair hpair.1 hpair.2]
        rfl
      refine if_neg fun h => ?_
      rcases h with h | h | h <;> rw [h] at hlong <;> exact absurd hlong (by decide)
    have hpoints (text : ScriptText) :
        points (u :: v :: text) = .scalar (pairChar u v) :: points text := by
      simp [points, hpair]
    simp only [scalars] at ih ⊢
    simp [hu, hv, hpoints, ih, written, hplain]
  | case4 u v rest hpair ih =>
    have hhead : ∀ w, ((v :: rest).flatMap escapedUnit).head? = some w →
        (isHigh u && isLow w) = false := by
      intro w hw
      rcases head_flatMap_escapedUnit hw with rfl | rfl
      · simpa using hpair
      · simp [show isLow 0x21 = false by decide]
    have hpoints : points (u :: v :: rest) = single u :: points (v :: rest) := by
      rw [points, if_neg hpair]
    rw [List.flatMap_cons, points_escapedUnit hhead, ih]
    simp [scalars, hpoints]

lemma escapeByte_of_le {b : UInt8} (h : 0x80 ≤ b.toNat) : escapeByte b = [b] :=
  if_neg fun hb => by rcases hb with rfl | rfl | rfl <;> exact absurd h (by decide)

lemma escapeByte_ofNat {n : ℕ} (h : 0x80 ≤ n) (hn : n < 0x100) :
    escapeByte (UInt8.ofNat n) = [UInt8.ofNat n] := by
  refine escapeByte_of_le ?_
  rw [UInt8.toNat_ofNat']
  omega

lemma escapeByte_of_mem (hc : 0x7F < c.toNat) :
    ∀ b ∈ String.utf8EncodeChar c, escapeByte b = [b] := by
  have hlt : c.toNat < 0x110000 := by
    have := char_not_surrogate c
    omega
  have hval : c.val.toNat = c.toNat := rfl
  unfold String.utf8EncodeChar
  rw [hval]
  have h1 : ¬ c.toNat ≤ 0x7F := by omega
  simp only [if_neg h1]
  split
  · simp only [List.forall_mem_cons, List.not_mem_nil, false_implies, implies_true, and_true]
    exact ⟨escapeByte_ofNat (by omega) (by omega), escapeByte_ofNat (by omega) (by omega)⟩
  · split
    · simp only [List.forall_mem_cons, List.not_mem_nil, false_implies, implies_true, and_true]
      exact ⟨escapeByte_ofNat (by omega) (by omega), escapeByte_ofNat (by omega) (by omega),
        escapeByte_ofNat (by omega) (by omega)⟩
    · simp only [List.forall_mem_cons, List.not_mem_nil, false_implies, implies_true, and_true]
      exact ⟨escapeByte_ofNat (by omega) (by omega), escapeByte_ofNat (by omega) (by omega),
        escapeByte_ofNat (by omega) (by omega), escapeByte_ofNat (by omega) (by omega)⟩

lemma utf8EncodeChar_ascii (hc : c.toNat ≤ 0x7F) :
    String.utf8EncodeChar c = [UInt8.ofNat c.toNat] := by
  have hval : c.val.toNat = c.toNat := rfl
  unfold String.utf8EncodeChar
  rw [hval]
  exact if_pos hc

lemma utf8_escapedChar (c : Char) :
    encode String.utf8EncodeChar (escapedChar c) =
      (String.utf8EncodeChar c).flatMap escapeByte := by
  by_cases hc : c = '!' ∨ c = '%' ∨ c = '_'
  · rcases hc with rfl | rfl | rfl <;> decide
  · have hbytes : ∀ b ∈ String.utf8EncodeChar c, escapeByte b = [b] := by
      by_cases hascii : c.toNat ≤ 0x7F
      · intro b hb
        rw [utf8EncodeChar_ascii hascii, List.mem_singleton] at hb
        refine if_neg fun hspecial => hc ?_
        have hn : b.toNat = c.toNat := by
          rw [hb, UInt8.toNat_ofNat']
          omega
        rcases hspecial with rfl | rfl | rfl
        · exact .inl (Char.toNat_inj.mp hn.symm)
        · exact .inr (.inl (Char.toNat_inj.mp hn.symm))
        · exact .inr (.inr (Char.toNat_inj.mp hn.symm))
      · exact escapeByte_of_mem (by omega)
    rw [escapedChar, if_neg hc, List.flatMap_congr hbytes]
    simp

/-- The pattern of a text finds the bytes of the text. -/
theorem like_containsPattern (value : List UInt8) (text : ScriptText) :
    like value (toUtf8 (containsPattern text)) = true ↔ toUtf8 text <:+: value := by
  have hpercent : Char.ofNat (0x25 : UInt16).toNat = '%' := by decide
  have hlast (text : ScriptText) : scalars (text ++ [0x25]) = scalars text ++ ['%'] := by
    rw [scalars, points_append (by simp [show isLow 0x25 = false by decide]), List.map_append]
    rfl
  have hbytes : toUtf8 (containsPattern text) =
      0x25 :: (toUtf8 text).flatMap escapeByte ++ [0x25] := by
    have hscalars : scalars (containsPattern text) =
        '%' :: ((scalars text).flatMap escapedChar ++ ['%']) := by
      rw [containsPattern, scalars, points_ascii_cons (by decide), hpercent, List.map_cons,
        written, ← scalars, hlast, literalLike_eq, scalars_flatMap_escapedUnit]
    rw [toUtf8, hscalars, encode_cons, encode_append, encode_flatMap utf8_escapedChar]
    rfl
  rw [hbytes, like_contains]

end SqlLike
end SmeDataCenter
