import Mathlib.Data.List.DropRight
import Mathlib.Data.List.Monad

/-!
# Patterns over a text

A pattern lists its matches at the front of a text in the order in which backtracking tries
them: the first one is the match, and there is none when the list is empty. A part of a larger
pattern is given back character by character, as far as the rest needs it.
-/

namespace SmeDataCenter

abbrev Text := List Char

namespace Text

/-- `\s`: white space and the line terminators. -/
def isSpace (c : Char) : Bool :=
  (9 ≤ c.toNat && c.toNat ≤ 13) || (0x2000 ≤ c.toNat && c.toNat ≤ 0x200a) ||
    [0x20, 0xa0, 0x1680, 0x2028, 0x2029, 0x202f, 0x205f, 0x3000, 0xfeff].contains c.toNat

/-- `.`: all but the line terminators. -/
def isDot (c : Char) : Bool := !([0xa, 0xd, 0x2028, 0x2029].contains c.toNat)

/-- `\d` -/
def isDigit (c : Char) : Bool := '0'.toNat ≤ c.toNat && c.toNat ≤ '9'.toNat

def trimStart (text : Text) : Text := text.dropWhile isSpace

def trim (text : Text) : Text := text.trimStart.rdropWhile isSpace

end Text

/-- What a pattern has matched, with the text after it. -/
abbrev Pattern (α : Type) := StateT Text List α

namespace Pattern

variable {α β : Type}

/-! ### Patterns -/

/-- One character of a class. -/
def char (p : Char → Bool) : Pattern Char
  | c :: cs => if p c then [(c, cs)] else []
  | [] => []

/-- As many characters of a class as there are, or fewer. -/
def greedy (p : Char → Bool) : Pattern Text
  | c :: cs =>
    if p c then ((greedy p cs).map fun m => (c :: m.1, m.2)) ++ [([], c :: cs)]
    else [([], c :: cs)]
  | [] => [([], [])]

/-- `{least,most}`, as many characters as there are. -/
def times (p : Char → Bool) (least most : ℕ) : Pattern Text := fun text =>
  (greedy p text).filter fun m => least ≤ m.1.length && m.1.length ≤ most

/-- `+` -/
def many1 (p : Char → Bool) : Pattern Text := fun text =>
  (greedy p text).filter fun m => !m.1.isEmpty

/-- `+?`, as few characters as will do. -/
def lazy1 (p : Char → Bool) : Pattern Text := fun text => (many1 p text).reverse

/-- `$` -/
def atEnd : Pattern Unit := fun text => if text.isEmpty then [((), [])] else []

/-- `|` -/
def either (p q : Pattern α) : Pattern α := fun text => p text ++ q text

/-- The first match. -/
def exec (p : Pattern α) (text : Text) : Option α := (p text).head?.map (·.1)

def test (p : Pattern α) (text : Text) : Bool := (p.exec text).isSome

/-- Replace a match at the front, which `^` anchors. -/
def replaceFront (p : Pattern Text) (text : Text) : Text :=
  match (p text).head? with
  | some (replacement, rest) => replacement ++ rest
  | none => text

/-- Replace every match, the leftmost first. `fuel` is the length of the text. -/
def replaceFrom (p : Pattern Text) : ℕ → Text → Text
  | 0, text => text
  | fuel + 1, text =>
    match (p text).head?, text with
    | some (replacement, rest), _ => replacement ++ replaceFrom p fuel rest
    | none, c :: cs => c :: replaceFrom p fuel cs
    | none, [] => []

def replaceAll (p : Pattern Text) (text : Text) : Text := replaceFrom p text.length text

/-! ### What is matched -/

variable {text : Text}

lemma mem_bind {p : Pattern α} {q : α → Pattern β} {m : β × Text} :
    m ∈ (p >>= q) text ↔ ∃ a rest, (a, rest) ∈ p text ∧ m ∈ q a rest := by
  simp [bind, StateT.bind]

variable {p : Char → Bool} {rest : Text}

lemma mem_char {c : Char} : (c, rest) ∈ char p text ↔ text = c :: rest ∧ p c = true := by
  cases text with
  | nil => simp [char]
  | cons d ds =>
    by_cases hd : p d = true
    · simp only [char, hd, if_true, List.mem_singleton, Prod.mk.injEq, List.cons.injEq]
      constructor
      · rintro ⟨rfl, rfl⟩
        exact ⟨⟨rfl, rfl⟩, hd⟩
      · rintro ⟨⟨rfl, rfl⟩, -⟩
        exact ⟨rfl, rfl⟩
    · simp only [char, hd, List.cons.injEq]
      constructor
      · intro h
        simp at h
      · rintro ⟨⟨rfl, -⟩, hc⟩
        exact absurd hc hd

variable {part : Text}

lemma mem_greedy : (part, rest) ∈ greedy p text ↔ text = part ++ rest ∧ ∀ c ∈ part, p c = true := by
  induction text generalizing part rest with
  | nil =>
    simp only [greedy, List.mem_singleton, Prod.mk.injEq, List.nil_eq_append_iff]
    constructor
    · rintro ⟨rfl, rfl⟩
      simp
    · rintro ⟨⟨rfl, rfl⟩, -⟩
      simp
  | cons d ds ih =>
    by_cases hd : p d = true
    · simp only [greedy, hd, if_true, List.mem_append, List.mem_map, List.mem_singleton,
        Prod.exists, Prod.mk.injEq]
      constructor
      · rintro (⟨part', rest', hmem, rfl, rfl⟩ | ⟨rfl, rfl⟩)
        · obtain ⟨hds, hall⟩ := ih.mp hmem
          exact ⟨by rw [hds, List.cons_append], by simpa [hd] using hall⟩
        · simp
      · rintro ⟨htext, hall⟩
        cases part with
        | nil => exact .inr ⟨rfl, htext.symm⟩
        | cons c part =>
          rw [List.cons_append, List.cons.injEq] at htext
          obtain ⟨rfl, hds⟩ := htext
          exact .inl ⟨part, rest, ih.mpr ⟨hds, fun e he => hall e (.tail _ he)⟩, rfl, rfl⟩
    · simp only [greedy, hd, Bool.false_eq_true, if_false, List.mem_singleton, Prod.mk.injEq]
      constructor
      · rintro ⟨rfl, rfl⟩
        simp
      · rintro ⟨htext, hall⟩
        cases part with
        | nil => exact ⟨rfl, htext.symm⟩
        | cons c part =>
          rw [List.cons_append, List.cons.injEq] at htext
          obtain ⟨rfl, -⟩ := htext
          exact absurd (hall d List.mem_cons_self) hd

lemma mem_many1 :
    (part, rest) ∈ many1 p text ↔
      text = part ++ rest ∧ (∀ c ∈ part, p c = true) ∧ part ≠ [] := by
  simp only [many1, List.mem_filter, mem_greedy, Bool.not_eq_true', List.isEmpty_eq_false_iff,
    and_assoc]

lemma mem_times {least most : ℕ} :
    (part, rest) ∈ times p least most text ↔
      text = part ++ rest ∧ (∀ c ∈ part, p c = true) ∧
        least ≤ part.length ∧ part.length ≤ most := by
  simp only [times, List.mem_filter, mem_greedy, Bool.and_eq_true, decide_eq_true_eq, and_assoc]

lemma test_iff {p : Pattern α} : p.test text = true ↔ ∃ m, m ∈ p text := by
  simp only [test, exec, Option.isSome_map, List.isSome_head?]
  exact ⟨List.exists_mem_of_ne_nil _, fun ⟨m, hm⟩ => List.ne_nil_of_mem hm⟩

end Pattern
end SmeDataCenter
