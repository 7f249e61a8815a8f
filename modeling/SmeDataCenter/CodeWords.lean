import Mathlib.Data.List.Infix

/-!
# Self-synchronizing codes

A code writes each letter of a text as a word of symbols. When the first symbol of a word can be
told from the others, and no word is the beginning of another, a coded text is found in another
one exactly where the text itself is.
-/

namespace SmeDataCenter
namespace CodeWords

variable {Letter Symbol : Type}

/-- The words of a text, one after the other. -/
def encode (code : Letter → List Symbol) (text : List Letter) : List Symbol := text.flatMap code

@[simp] lemma encode_nil (code : Letter → List Symbol) : encode code [] = [] := rfl

@[simp] lemma encode_cons (code : Letter → List Symbol) (a : Letter) (text : List Letter) :
    encode code (a :: text) = code a ++ encode code text := rfl

@[simp] lemma encode_append (code : Letter → List Symbol) (s t : List Letter) :
    encode code (s ++ t) = encode code s ++ encode code t := List.flatMap_append

lemma encode_flatMap {code : Letter → List Symbol} {f : Letter → List Letter}
    {g : Symbol → List Symbol} (h : ∀ a, encode code (f a) = (code a).flatMap g)
    (text : List Letter) : encode code (text.flatMap f) = (encode code text).flatMap g := by
  induction text with
  | nil => rfl
  | cons a text ih => simp [h, ih]

/-- A text is read back from its words when what comes after a word does not matter to reading
it. -/
lemma eq_of_encode {code : Letter → List Symbol} (hne : ∀ a, code a ≠ [])
    (hunique : ∀ {a b : Letter} {s t : List Symbol}, code a ++ s = code b ++ t → a = b)
    {p s : List Letter} (h : encode code p = encode code s) : p = s := by
  induction p generalizing s with
  | nil =>
    cases s with
    | nil => rfl
    | cons b s =>
      rw [encode_cons] at h
      exact absurd (List.append_eq_nil_iff.mp h.symm).1 (hne b)
  | cons a p ih =>
    cases s with
    | nil =>
      rw [encode_cons] at h
      exact absurd (List.append_eq_nil_iff.mp h).1 (hne a)
    | cons b s =>
      rw [encode_cons, encode_cons] at h
      obtain rfl := hunique h
      rw [ih (List.append_cancel_left h)]

structure SelfSynchronizing (code : Letter → List Symbol) (Lead : Symbol → Prop) : Prop where
  /-- A word begins with a lead and has no other one. -/
  word : ∀ a, ∃ first rest, code a = first :: rest ∧ Lead first ∧ ∀ x ∈ rest, ¬ Lead x
  /-- What comes after a word does not matter to reading it. -/
  unique : ∀ {a b : Letter} {s t : List Symbol}, code a ++ s = code b ++ t → a = b

namespace SelfSynchronizing

variable {code : Letter → List Symbol} {Lead : Symbol → Prop} {p s : List Letter}

lemma encode_ne_nil (h : SelfSynchronizing code Lead) (hp : p ≠ []) : encode code p ≠ [] := by
  cases p with
  | nil => exact absurd rfl hp
  | cons a p =>
    obtain ⟨first, rest, hword, -, -⟩ := h.word a
    simp [hword]

lemma prefix_of_encode (h : SelfSynchronizing code Lead) :
    ∀ {p s : List Letter}, encode code p <+: encode code s → p <+: s
  | [], _, _ => List.nil_prefix
  | a :: p, [], hp =>
    absurd (List.prefix_nil.mp hp) (h.encode_ne_nil (List.cons_ne_nil a p))
  | a :: p, b :: s, hp => by
    obtain ⟨t, ht⟩ := hp
    simp only [encode_cons, List.append_assoc] at ht
    obtain rfl := h.unique ht
    have hrest : encode code p <+: encode code s := ⟨t, List.append_cancel_left ht⟩
    exact (List.prefix_cons_inj a).mpr (h.prefix_of_encode hrest)

lemma encode_inj (h : SelfSynchronizing code Lead) :
    encode code p = encode code s ↔ p = s := by
  refine ⟨fun he => ?_, congrArg _⟩
  have hps : p <+: s := h.prefix_of_encode (he ▸ List.prefix_refl _)
  have hsp : s <+: p := h.prefix_of_encode (he ▸ List.prefix_refl _)
  exact hps.eq_of_length_le hsp.length_le

lemma infix_drop_word (h : SelfSynchronizing code Lead) {word text : List Symbol}
    (hword : ∀ x ∈ word, ¬ Lead x) (hp : p ≠ []) (hi : encode code p <:+: word ++ text) :
    encode code p <:+: text := by
  induction word with
  | nil => exact hi
  | cons x word ih =>
    rcases List.infix_cons_iff.mp hi with hfront | hpart
    · cases p with
      | nil => exact absurd rfl hp
      | cons a p =>
        obtain ⟨first, rest, ha, hlead, -⟩ := h.word a
        rw [encode_cons, ha, List.cons_append] at hfront
        have hfirst : first = x := (List.cons_prefix_cons.mp hfront).1
        exact absurd (hfirst ▸ hlead) (hword x List.mem_cons_self)
    · exact ih (fun y hy => hword y (List.mem_cons_of_mem x hy)) hpart

lemma infix_of_encode (h : SelfSynchronizing code Lead) (hp : p ≠ []) :
    ∀ {s : List Letter}, encode code p <:+: encode code s → p <:+: s
  | [], hi => absurd (List.infix_nil.mp hi) (h.encode_ne_nil hp)
  | b :: s, hi => by
    obtain ⟨first, rest, hb, -, hrest⟩ := h.word b
    have hcut := hi
    rw [encode_cons, hb, List.cons_append, List.infix_cons_iff] at hcut
    rcases hcut with hfront | hpart
    · have : encode code p <+: encode code (b :: s) := by
        rw [encode_cons, hb, List.cons_append]
        exact hfront
      exact (h.prefix_of_encode this).isInfix
    · exact List.infix_cons (h.infix_of_encode hp (h.infix_drop_word hrest hp hpart))

/-- A coded text is found in another one exactly when the text is. -/
theorem infix_iff (h : SelfSynchronizing code Lead) :
    encode code p <:+: encode code s ↔ p <:+: s := by
  constructor
  · intro hi
    by_cases hp : p = []
    · exact hp ▸ List.nil_infix
    · exact h.infix_of_encode hp hi
  · rintro ⟨u, v, rfl⟩
    exact ⟨encode code u, encode code v, by simp⟩

/-- It begins another one exactly when the text does. -/
theorem prefix_iff (h : SelfSynchronizing code Lead) :
    encode code p <+: encode code s ↔ p <+: s := by
  constructor
  · exact h.prefix_of_encode
  · rintro ⟨t, rfl⟩
    exact ⟨encode code t, by simp⟩

end SelfSynchronizing

end CodeWords
end SmeDataCenter
