import Mathlib.Data.List.Forall2
import Mathlib.Data.List.Infix

/-!
# `LIKE` patterns

A pattern with a letter that stands for anything, one that stands for a single letter, and one
that takes the meaning away from the letter after it. Letters are compared by weight. A value that
is put into a pattern as it is finds itself, and nothing else, exactly when it has none of the
three.
-/

namespace SmeDataCenter
namespace LikePatterns

variable {Letter : Type}

/-- The letters with a meaning in a pattern, and the weights by which the others are compared. -/
structure Alphabet (Letter : Type) where
  any : Letter
  one : Letter
  escape : Letter
  any_ne : any ≠ escape
  weight : Letter → ℕ
  /-- A letter that is not taken for the one that stands for a single letter. -/
  other : Letter
  other_ne : weight one ≠ weight other
  escape_ne : weight escape ≠ weight any

/-! ### Tokens -/

inductive Token (Letter : Type) where
  | any
  | one
  | letter (a : Letter)

namespace Alphabet

variable (A : Alphabet Letter)

def matchesTokens : List (Token Letter) → List Letter → Bool
  | [], text => text.isEmpty
  | .any :: tokens, text => text.tails.any fun rest => matchesTokens tokens rest
  | .one :: _, [] => false
  | .one :: tokens, _ :: text => matchesTokens tokens text
  | .letter _ :: _, [] => false
  | .letter a :: tokens, b :: text => A.weight a = A.weight b && matchesTokens tokens text

/-- Two texts that are taken for one. -/
def Same : List Letter → List Letter → Prop := List.Forall₂ fun a b => A.weight a = A.weight b

def Occurs (value text : List Letter) : Prop := ∃ part, part <:+: text ∧ A.Same value part

def Begins (value text : List Letter) : Prop := ∃ part, part <+: text ∧ A.Same value part

variable {A}

lemma matchesTokens_any (text : List Letter) : A.matchesTokens [.any] text = true := by
  simp only [matchesTokens, List.any_eq_true, List.isEmpty_iff]
  exact ⟨[], (List.mem_tails _ _).mpr List.nil_suffix, rfl⟩

lemma matchesTokens_letters (value text : List Letter) :
    A.matchesTokens (value.map .letter ++ [.any]) text = true ↔ A.Begins value text := by
  induction value generalizing text with
  | nil =>
    constructor
    · exact fun _ => ⟨[], List.nil_prefix, .nil⟩
    · exact fun _ => matchesTokens_any text
  | cons a value ih =>
    cases text with
    | nil =>
      constructor
      · exact nofun
      · rintro ⟨part, hpart, hsame⟩
        rw [List.prefix_nil.mp hpart] at hsame
        cases hsame
    | cons b text =>
      simp only [List.map_cons, List.cons_append, matchesTokens, Bool.and_eq_true,
        decide_eq_true_eq, ih]
      constructor
      · rintro ⟨hweight, part, hpart, hsame⟩
        exact ⟨b :: part, List.cons_prefix_cons.mpr ⟨rfl, hpart⟩, .cons hweight hsame⟩
      · rintro ⟨part, hpart, hsame⟩
        cases hsame with
        | cons hweight hsame =>
          obtain ⟨rfl, hrest⟩ := List.cons_prefix_cons.mp hpart
          exact ⟨hweight, _, hrest, hsame⟩

lemma matchesTokens_any_cons (tokens : List (Token Letter)) (text : List Letter) :
    A.matchesTokens (.any :: tokens) text = true ↔
      ∃ rest, rest <:+ text ∧ A.matchesTokens tokens rest = true := by
  simp only [matchesTokens, List.any_eq_true, List.mem_tails]

variable (A) in
/-- A text that tokens find, with nothing for any letters. -/
def sample : List (Token Letter) → List Letter
  | [] => []
  | .any :: tokens => sample tokens
  | .one :: tokens => A.other :: sample tokens
  | .letter a :: tokens => a :: sample tokens

lemma matchesTokens_sample (tokens : List (Token Letter)) :
    A.matchesTokens tokens (A.sample tokens) = true := by
  induction tokens with
  | nil => rfl
  | cons token tokens ih =>
    cases token with
    | any => exact (matchesTokens_any_cons _ _).mpr ⟨_, List.suffix_rfl, ih⟩
    | one => exact ih
    | letter a => simp [sample, matchesTokens, ih]

variable {value text : List Letter}

lemma Same.length (h : A.Same value text) : value.length = text.length := List.Forall₂.length_eq h

lemma Occurs.same (h : A.Occurs value text) (hlength : text.length ≤ value.length) :
    A.Same value text := by
  obtain ⟨part, hpart, hsame⟩ := h
  have hwhole : part = text := hpart.eq_of_length_le (hsame.length ▸ hlength)
  exact hwhole ▸ hsame

lemma Begins.occurs (h : A.Begins value text) : A.Occurs value text := by
  obtain ⟨part, hpart, hsame⟩ := h
  exact ⟨part, hpart.isInfix, hsame⟩

/-! ### Patterns -/

variable (A) [DecidableEq Letter]

def plain (a : Letter) : Token Letter :=
  if a = A.any then .any else if a = A.one then .one else .letter a

/-- The pattern, read from the left. -/
def tokens : List Letter → List (Token Letter)
  | [] => []
  | [a] => [A.plain a]
  | a :: b :: rest =>
    if a = A.escape then .letter b :: tokens rest else A.plain a :: tokens (b :: rest)

/-- `text LIKE pattern` -/
def like (text pattern : List Letter) : Bool := A.matchesTokens (A.tokens pattern) text

/-- No letter of the value has a meaning in a pattern. -/
def Literal (value : List Letter) : Prop :=
  ∀ a ∈ value, a ≠ A.any ∧ a ≠ A.one ∧ a ≠ A.escape

variable {A}

lemma plain_of_literal {a : Letter} (h : a ≠ A.any ∧ a ≠ A.one ∧ a ≠ A.escape) :
    A.plain a = .letter a := by
  rw [plain, if_neg h.1, if_neg h.2.1]

lemma tokens_cons {a : Letter} (h : a ≠ A.escape) (rest : List Letter) :
    A.tokens (a :: rest) = A.plain a :: A.tokens rest := by
  cases rest with
  | nil => rfl
  | cons b rest => rw [tokens, if_neg h]

lemma tokens_any (rest : List Letter) : A.tokens (A.any :: rest) = .any :: A.tokens rest := by
  rw [tokens_cons A.any_ne, plain, if_pos rfl]

lemma tokens_literal (h : A.Literal value) (rest : List Letter) :
    A.tokens (value ++ rest) = value.map .letter ++ A.tokens rest := by
  induction value with
  | nil => rfl
  | cons a value ih =>
    obtain ⟨ha, hvalue⟩ := List.forall_mem_cons.mp h
    rw [List.cons_append, tokens_cons ha.2.2, plain_of_literal ha, ih hvalue, List.map_cons,
      List.cons_append]

lemma like_begins (h : A.Literal value) (text : List Letter) :
    A.like text (value ++ [A.any]) = true ↔ A.Begins value text := by
  rw [like, tokens_literal h, tokens_any]
  exact matchesTokens_letters value text

lemma like_occurs (h : A.Literal value) (text : List Letter) :
    A.like text (A.any :: (value ++ [A.any])) = true ↔ A.Occurs value text := by
  rw [like, tokens_any, tokens_literal h, tokens_any, matchesTokens_any_cons]
  constructor
  · rintro ⟨rest, hrest, hmatches⟩
    obtain ⟨part, hpart, hsame⟩ := (matchesTokens_letters value rest).mp hmatches
    exact ⟨part, hpart.isInfix.trans hrest.isInfix, hsame⟩
  · rintro ⟨part, ⟨s, t, rfl⟩, hsame⟩
    refine ⟨part ++ t, ⟨s, by rw [List.append_assoc]⟩, ?_⟩
    exact (matchesTokens_letters value (part ++ t)).mpr ⟨part, List.prefix_append part t, hsame⟩

/-! ### Special letters -/

/-- One letter more in a pattern is at most one letter more in the text that it finds; where it is
as long and taken for the pattern, the letter has no meaning. -/
lemma sample_plain {a : Letter} (ha : a ≠ A.escape) {value text : List Letter}
    (tokens : List (Token Letter)) (htext : A.sample tokens = text)
    (hlength : text.length ≤ value.length) :
    (A.sample (A.plain a :: tokens)).length ≤ (a :: value).length ∧
      (A.Same (a :: value) (A.sample (A.plain a :: tokens)) →
        (a ≠ A.any ∧ a ≠ A.one ∧ a ≠ A.escape) ∧ A.Same value text) := by
  subst htext
  unfold plain
  by_cases hany : a = A.any
  · rw [if_pos hany, sample]
    refine ⟨hlength.trans (Nat.le_succ _), fun hsame => ?_⟩
    have := hsame.length
    rw [List.length_cons] at this
    omega
  · by_cases hone : a = A.one
    · rw [if_neg hany, if_pos hone, sample]
      refine ⟨Nat.succ_le_succ hlength, fun hsame => ?_⟩
      cases hsame with
      | cons hweight _ => exact absurd (hone ▸ hweight) A.other_ne
    · rw [if_neg hany, if_neg hone, sample]
      refine ⟨Nat.succ_le_succ hlength, fun hsame => ?_⟩
      cases hsame with
      | cons _ hsame => exact ⟨⟨hany, hone, ha⟩, hsame⟩

/-- What a pattern finds is no longer than the value in it, and is taken for the value only when
no letter of it has a meaning. -/
lemma sample_tokens : ∀ value : List Letter,
    (A.sample (A.tokens (value ++ [A.any]))).length ≤ value.length ∧
      (A.Same value (A.sample (A.tokens (value ++ [A.any]))) → A.Literal value)
  | [] => by
    rw [List.nil_append, tokens_any]
    exact ⟨Nat.le_refl _, fun _ => nofun⟩
  | [a] => by
    by_cases ha : a = A.escape
    · have htokens : A.tokens ([a] ++ [A.any]) = [.letter A.any] := by
        rw [List.singleton_append, tokens, if_pos ha, tokens]
      rw [htokens]
      refine ⟨Nat.le_refl _, fun hsame => ?_⟩
      cases hsame with
      | cons hweight _ => exact absurd (ha ▸ hweight) A.escape_ne
    · rw [List.singleton_append, tokens_cons ha, tokens_any]
      obtain ⟨hle, hsame⟩ := @sample_plain _ _ _ _ ha [] [] [.any] rfl (Nat.le_refl _)
      exact ⟨hle, fun h => List.forall_mem_singleton.mpr (hsame h).1⟩
  | a :: b :: rest => by
    by_cases ha : a = A.escape
    · have htokens : A.tokens (a :: b :: rest ++ [A.any]) =
          .letter b :: A.tokens (rest ++ [A.any]) := by
        rw [List.cons_append, List.cons_append, tokens, if_pos ha]
      obtain ⟨hle, -⟩ := sample_tokens rest
      rw [htokens, sample]
      refine ⟨by simp only [List.length_cons]; omega, fun hsame => ?_⟩
      have := hsame.length
      simp only [List.length_cons] at this
      omega
    · obtain ⟨hle, hliteral⟩ := sample_tokens (b :: rest)
      rw [List.cons_append, tokens_cons ha]
      obtain ⟨hle', hsame⟩ := sample_plain ha _ rfl hle
      refine ⟨hle', fun h => ?_⟩
      obtain ⟨hletter, hrest⟩ := hsame h
      exact List.forall_mem_cons.mpr ⟨hletter, hliteral hrest⟩

/-- A value that is put before any letters finds the texts that begin with it, and no others,
exactly when none of its letters has a meaning. -/
theorem like_begins_iff (value : List Letter) :
    (∀ text, A.like text (value ++ [A.any]) = true ↔ A.Begins value text) ↔ A.Literal value := by
  refine ⟨fun h => ?_, like_begins⟩
  obtain ⟨hle, hliteral⟩ := sample_tokens (A := A) value
  exact hliteral (((h _).mp (matchesTokens_sample _)).occurs.same hle)

/-- The same for a value between any letters and the texts in which it occurs. -/
theorem like_occurs_iff (value : List Letter) :
    (∀ text, A.like text (A.any :: (value ++ [A.any])) = true ↔ A.Occurs value text) ↔
      A.Literal value := by
  refine ⟨fun h => ?_, like_occurs⟩
  obtain ⟨hle, hliteral⟩ := sample_tokens (A := A) value
  refine hliteral (((h _).mp ?_).same hle)
  rw [like, tokens_any]
  exact (matchesTokens_any_cons _ _).mpr ⟨_, List.suffix_rfl, matchesTokens_sample _⟩

end Alphabet
end LikePatterns
end SmeDataCenter
