import SmeDataCenter.CodeWords
import SmeDataCenter.TextPatterns

/-!
# Percent escapes

Some characters of a text are written as `%XX`, byte by byte, the percent sign among them. Such a
text is read back, as no other character begins with a percent sign.
-/

namespace SmeDataCenter
namespace PercentEscapes

open CodeWords

def hexDigits : Text := "0123456789ABCDEF".toList

def hexDigit (n : ℕ) : Char := hexDigits.getD n '0'

/-- A byte as `%XX`. -/
def percentByte (byte : ℕ) : Text := ['%', hexDigit (byte / 16), hexDigit (byte % 16)]

lemma hexDigit_inj {m n : ℕ} (hm : m < 16) (hn : n < 16) (h : hexDigit m = hexDigit n) : m = n := by
  have hall : ∀ m < 16, ∀ n < 16, hexDigit m = hexDigit n → m = n := by decide
  exact hall m hm n hn h

lemma percentByte_inj {a b : ℕ} (ha : a < 256) (hb : b < 256) {s t : Text}
    (h : percentByte a ++ s = percentByte b ++ t) : a = b := by
  simp only [percentByte, List.cons_append, List.nil_append, List.cons.injEq, true_and] at h
  have hhigh := hexDigit_inj (by omega) (by omega) h.1
  have hlow := hexDigit_inj (by omega) (by omega) h.2.1
  omega

lemma mem_percentByte {byte : ℕ} (hbyte : byte < 256) {c : Char} (hc : c ∈ percentByte byte) :
    c = '%' ∨ c ∈ hexDigits := by
  have hdigit : ∀ n < 16, hexDigit n ∈ hexDigits := by decide
  simp only [percentByte, List.mem_cons, List.not_mem_nil, or_false] at hc
  rcases hc with rfl | rfl | rfl
  · exact .inl rfl
  · exact .inr (hdigit _ (by omega))
  · exact .inr (hdigit _ (by omega))

/-! ### Escapes of characters -/

section

variable {escapes : Char → Bool} {escaped : Char → Text}

/-- The word of a character, where some are escaped. -/
def escapeWord (escapes : Char → Bool) (escaped : Char → Text) (c : Char) : Text :=
  if escapes c then escaped c else [c]

/-- An escape begins with a percent sign, which is escaped itself, and is read back. -/
structure ReadBack (escapes : Char → Bool) (escaped : Char → Text) : Prop where
  percent : escapes '%' = true
  head : ∀ c, escapes c = true → ∃ rest, escaped c = '%' :: rest
  unique : ∀ {a b : Char} {s t : Text}, escapes a = true → escapes b = true →
    escaped a ++ s = escaped b ++ t → a = b

lemma escapeWord_ne_nil (h : ReadBack escapes escaped) (c : Char) :
    escapeWord escapes escaped c ≠ [] := by
  unfold escapeWord
  split_ifs with hc
  · obtain ⟨rest, hrest⟩ := h.head c hc
    rw [hrest]
    exact List.cons_ne_nil _ _
  · exact List.cons_ne_nil _ _

/-- What comes after the word of a character does not matter to reading it; the second word may
escape other characters than the first. -/
lemma escapeWord_unique {all escapes' : Char → Bool} (h : ReadBack all escaped)
    (hsub : ∀ c, escapes c = true → all c = true) (hpercent : escapes '%' = true)
    (hsub' : ∀ c, escapes' c = true → all c = true) (hpercent' : escapes' '%' = true)
    {a b : Char} {s t : Text}
    (heq : escapeWord escapes escaped a ++ s = escapeWord escapes' escaped b ++ t) : a = b := by
  have hplain {c : Char} {s t : Text} (hc : all c = true) (heq : escaped c ++ s = [b] ++ t) :
      b = '%' := by
    obtain ⟨rest, hrest⟩ := h.head c hc
    rw [hrest] at heq
    exact (List.cons.inj heq).1.symm
  have hplain' {c : Char} {s t : Text} (hc : all c = true) (heq : [a] ++ s = escaped c ++ t) :
      a = '%' := by
    obtain ⟨rest, hrest⟩ := h.head c hc
    rw [hrest] at heq
    exact (List.cons.inj heq).1
  unfold escapeWord at heq
  split_ifs at heq with ha hb hb
  · exact h.unique (hsub a ha) (hsub' b hb) heq
  · rw [hplain (hsub a ha) heq] at hb
    exact absurd hpercent' hb
  · rw [hplain' (hsub' b hb) heq] at ha
    exact absurd hpercent ha
  · exact (List.cons.inj heq).1

/-- An escaped text is read back. -/
theorem encode_escapeWord_inj (h : ReadBack escapes escaped) {p s : Text}
    (heq : encode (escapeWord escapes escaped) p = encode (escapeWord escapes escaped) s) :
    p = s :=
  eq_of_encode (escapeWord_ne_nil h)
    (escapeWord_unique h (fun _ hc => hc) h.percent (fun _ hc => hc) h.percent) heq

end

end PercentEscapes
end SmeDataCenter
