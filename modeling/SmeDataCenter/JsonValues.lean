import SmeDataCenter.JsonNumbers

/-!
# JSON texts

A JSON value is printed without blanks, in the order in which it lists its members, and a reader
finds in the text the value and nothing else: no two values have one text.
-/

namespace SmeDataCenter
namespace JsonValues

open JsonNumbers (Ends)

inductive Value (S N : Type) where
  | null
  | bool (b : Bool)
  | number (n : N)
  | string (s : S)
  | array (items : List (Value S N))
  | object (members : List (S × Value S N))

def isBlank (c : Char) : Bool := c = ' ' || c = '\t' || c = '\n' || c = '\r'

/-- No value of another kind begins so. -/
def StartsNumber (c : Char) : Prop :=
  isBlank c = false ∧ c ≠ ']' ∧ c ≠ '"' ∧ c ≠ '[' ∧ c ≠ '\x7b' ∧ c ≠ 'n' ∧ c ≠ 't' ∧ c ≠ 'f'

lemma startsNumber_of {c : Char} (h : Text.isDigit c = true ∨ c = '-') : StartsNumber c := by
  rcases h with h | rfl
  · have hblank : isBlank c = false := by
      simp only [isBlank, Bool.or_eq_false_iff, decide_eq_false_iff_not]
      refine ⟨⟨⟨?_, ?_⟩, ?_⟩, ?_⟩ <;> (rintro rfl; exact absurd h (by decide))
    refine ⟨hblank, ?_, ?_, ?_, ?_, ?_, ?_, ?_⟩ <;> (rintro rfl; exact absurd h (by decide))
  · exact ⟨by decide, by decide⟩

/-- How strings and numbers are written, and that they are read back. -/
structure Lexicon (S N : Type) where
  /-- A string after its first quotation mark. -/
  string : S → Text
  number : N → Text
  readString : Text → Option (S × Text)
  readNumber : Text → Option (N × Text)
  readString_string : ∀ s rest, readString (string s ++ rest) = some (s, rest)
  readNumber_number : ∀ n rest, Ends rest → readNumber (number n ++ rest) = some (n, rest)
  number_head : ∀ n, ∃ c rest, number n = c :: rest ∧ StartsNumber c

variable {S N : Type} (L : Lexicon S N)

/-! ### Printing -/

namespace Lexicon

mutual

def print : Value S N → Text
  | .null => ['n', 'u', 'l', 'l']
  | .bool true => ['t', 'r', 'u', 'e']
  | .bool false => ['f', 'a', 'l', 's', 'e']
  | .number n => L.number n
  | .string s => '"' :: L.string s
  | .array items => '[' :: (printItems items ++ [']'])
  | .object members => '\x7b' :: (printMembers members ++ ['\x7d'])

def printItems : List (Value S N) → Text
  | [] => []
  | [item] => print item
  | item :: next :: items => print item ++ ',' :: printItems (next :: items)

def printMembers : List (S × Value S N) → Text
  | [] => []
  | [(name, value)] => '"' :: L.string name ++ ':' :: print value
  | (name, value) :: next :: members =>
    '"' :: L.string name ++ ':' :: (print value ++ ',' :: printMembers (next :: members))

end

end Lexicon

/-! ### Reading -/

def skip (text : Text) : Text := text.dropWhile isBlank

/-- A word, and what follows it. -/
def readWord {α : Type} (word : Text) (a : α) (text : Text) : Option (α × Text) :=
  if word.isPrefixOf text then some (a, text.drop word.length) else none

/-- One character, after blanks. -/
def expect (c : Char) (text : Text) : Option Text :=
  match skip text with
  | d :: rest => if d = c then some rest else none
  | [] => none

namespace Lexicon

mutual

/-- A value, and what follows it. -/
def readValue : ℕ → Text → Option (Value S N × Text)
  | 0, _ => none
  | fuel + 1, text =>
    match skip text with
    | [] => none
    | c :: rest =>
      if c = '"' then (L.readString rest).map (Prod.map .string id)
      else if c = '[' then
        (((expect ']' rest).map fun rest => ([], rest)).orElse
          fun _ => readItems fuel rest).map (Prod.map .array id)
      else if c = '\x7b' then
        (((expect '\x7d' rest).map fun rest => ([], rest)).orElse
          fun _ => readMembers fuel rest).map (Prod.map .object id)
      else if c = 'n' then readWord ['u', 'l', 'l'] .null rest
      else if c = 't' then readWord ['r', 'u', 'e'] (.bool true) rest
      else if c = 'f' then readWord ['a', 'l', 's', 'e'] (.bool false) rest
      else (L.readNumber (c :: rest)).map (Prod.map .number id)

/-- The items of an array up to its end. -/
def readItems : ℕ → Text → Option (List (Value S N) × Text)
  | 0, _ => none
  | fuel + 1, text => do
    let (item, rest) ← readValue fuel text
    match expect ',' rest with
    | some rest => (readItems fuel rest).map (Prod.map (item :: ·) id)
    | none => (expect ']' rest).map fun rest => ([item], rest)

/-- The members of an object up to its end. -/
def readMembers : ℕ → Text → Option (List (S × Value S N) × Text)
  | 0, _ => none
  | fuel + 1, text => do
    let rest ← expect '"' text
    let (name, rest) ← L.readString rest
    let rest ← expect ':' rest
    let (value, rest) ← readValue fuel rest
    match expect ',' rest with
    | some rest => (readMembers fuel rest).map (Prod.map ((name, value) :: ·) id)
    | none => (expect '\x7d' rest).map fun rest => ([(name, value)], rest)

end

/-- `JSON.parse`, of a text whose objects have no name twice. -/
def parse (text : Text) : Option (Value S N) :=
  match L.readValue (text.length + 1) text with
  | some (value, rest) => if skip rest = [] then some value else none
  | none => none

end Lexicon

/-! ### Sizes -/

namespace Value

mutual

/-- The fuel that reads a value. -/
def size : Value S N → ℕ
  | .array items => 1 + sizeItems items
  | .object members => 1 + sizeMembers members
  | _ => 1

def sizeItems : List (Value S N) → ℕ
  | [] => 0
  | item :: items => 1 + size item + sizeItems items

def sizeMembers : List (S × Value S N) → ℕ
  | [] => 0
  | (_, value) :: members => 1 + size value + sizeMembers members

end

end Value

/-! ### What is printed is read back -/

variable {L}

lemma skip_cons {c : Char} (h : isBlank c = false) (text : Text) :
    skip (c :: text) = c :: text := by
  simp [skip, h]

lemma expect_self {c : Char} (h : isBlank c = false) (rest : Text) :
    expect c (c :: rest) = some rest := by
  simp [expect, skip_cons h]

lemma expect_other {c d : Char} (h : isBlank d = false) (hne : d ≠ c) (rest : Text) :
    expect c (d :: rest) = none := by
  simp [expect, skip_cons h, hne]

lemma readWord_self {α : Type} (word : Text) (a : α) (rest : Text) :
    readWord word a (word ++ rest) = some (a, rest) := by
  simp [readWord]

lemma ends_comma (rest : Text) : Ends (',' :: rest) := by
  intro c hc
  obtain rfl : ',' = c := Option.some.inj hc
  decide

lemma ends_bracket (rest : Text) : Ends (']' :: rest) := by
  intro c hc
  obtain rfl : ']' = c := Option.some.inj hc
  decide

lemma ends_brace (rest : Text) : Ends ('\x7d' :: rest) := by
  intro c hc
  obtain rfl : '\x7d' = c := Option.some.inj hc
  decide

lemma ends_nil : Ends [] := nofun

namespace Lexicon

lemma print_head (value : Value S N) :
    ∃ c text, L.print value = c :: text ∧ isBlank c = false ∧ c ≠ ']' := by
  cases value with
  | null => exact ⟨_, _, rfl, by decide⟩
  | bool b => cases b <;> exact ⟨_, _, rfl, by decide⟩
  | string s => exact ⟨_, _, rfl, by decide⟩
  | array items => exact ⟨_, _, rfl, by decide⟩
  | object members => exact ⟨_, _, rfl, by decide⟩
  | number n =>
    obtain ⟨c, text, htext, hc⟩ := L.number_head n
    obtain ⟨hblank, hbracket, -⟩ := hc
    exact ⟨c, text, htext, hblank, hbracket⟩

lemma printItems_head (item : Value S N) (items : List (Value S N)) :
    ∃ c text, L.printItems (item :: items) = c :: text ∧ isBlank c = false ∧ c ≠ ']' := by
  obtain ⟨c, text, htext, hc⟩ := @print_head _ _ L item
  cases items with
  | nil => exact ⟨c, text, htext, hc⟩
  | cons next items =>
    refine ⟨c, text ++ ',' :: L.printItems (next :: items), ?_, hc⟩
    rw [printItems, htext, List.cons_append]

lemma printMembers_head (member : S × Value S N) (members : List (S × Value S N)) :
    ∃ text, L.printMembers (member :: members) = '"' :: text := by
  cases members with
  | nil => exact ⟨_, rfl⟩
  | cons next members => exact ⟨_, rfl⟩

mutual

theorem readValue_print : ∀ (value : Value S N) (fuel : ℕ) (rest : Text), value.size ≤ fuel →
    Ends rest → L.readValue fuel (L.print value ++ rest) = some (value, rest)
  | .null, fuel + 1, rest, _, _ => by
    rw [print, List.cons_append, readValue, skip_cons (by decide)]
    exact readWord_self ['u', 'l', 'l'] _ rest
  | .bool true, fuel + 1, rest, _, _ => by
    rw [print, List.cons_append, readValue, skip_cons (by decide)]
    exact readWord_self ['r', 'u', 'e'] _ rest
  | .bool false, fuel + 1, rest, _, _ => by
    rw [print, List.cons_append, readValue, skip_cons (by decide)]
    exact readWord_self ['a', 'l', 's', 'e'] _ rest
  | .string s, fuel + 1, rest, _, _ => by
    rw [print, List.cons_append, readValue, skip_cons (by decide)]
    dsimp only
    rw [if_pos rfl, L.readString_string]
    rfl
  | .number n, fuel + 1, rest, _, hends => by
    obtain ⟨c, text, htext, hblank, -, h1, h2, h3, h4, h5, h6⟩ := L.number_head n
    have hread := L.readNumber_number n rest hends
    rw [htext, List.cons_append] at hread
    rw [print, htext, List.cons_append, readValue, skip_cons hblank]
    dsimp only
    rw [if_neg h1, if_neg h2, if_neg h3, if_neg h4, if_neg h5, if_neg h6, hread]
    rfl
  | .array [], fuel + 1, rest, _, _ => by
    rw [print, List.cons_append, readValue, skip_cons (by decide)]
    dsimp only
    rw [if_neg (by decide), if_pos rfl, printItems, List.nil_append, List.singleton_append,
      expect_self (by decide)]
    rfl
  | .array (item :: items), fuel + 1, rest, hfuel, _ => by
    have hread := readItems_print item items fuel rest (by rw [Value.size] at hfuel; omega)
    obtain ⟨c, text, htext, hblank, hbracket⟩ := @printItems_head _ _ L item items
    rw [htext, List.cons_append] at hread
    rw [print, List.cons_append, readValue, skip_cons (by decide)]
    dsimp only
    rw [if_neg (by decide), if_pos rfl, List.append_assoc, List.singleton_append, htext,
      List.cons_append, expect_other hblank hbracket, hread]
    rfl
  | .array (_ :: _), 0, _, hfuel, _ => by rw [Value.size] at hfuel; omega
  | .object [], fuel + 1, rest, _, _ => by
    rw [print, List.cons_append, readValue, skip_cons (by decide)]
    dsimp only
    rw [if_neg (by decide), if_neg (by decide), if_pos rfl, printMembers, List.nil_append,
      List.singleton_append, expect_self (by decide)]
    rfl
  | .object (member :: members), fuel + 1, rest, hfuel, _ => by
    have hread := readMembers_print member members fuel rest (by rw [Value.size] at hfuel; omega)
    obtain ⟨text, htext⟩ := @printMembers_head _ _ L member members
    rw [htext, List.cons_append] at hread
    rw [print, List.cons_append, readValue, skip_cons (by decide)]
    dsimp only
    rw [if_neg (by decide), if_neg (by decide), if_pos rfl, List.append_assoc,
      List.singleton_append, htext, List.cons_append, expect_other (by decide) (by decide), hread]
    rfl
  | .object (_ :: _), 0, _, hfuel, _ => by rw [Value.size] at hfuel; omega

theorem readItems_print : ∀ (item : Value S N) (items : List (Value S N)) (fuel : ℕ) (rest : Text),
    Value.sizeItems (item :: items) ≤ fuel →
    L.readItems fuel (L.printItems (item :: items) ++ ']' :: rest) = some (item :: items, rest)
  | item, [], fuel + 1, rest, hfuel => by
    have hread := readValue_print item fuel (']' :: rest)
      (by rw [Value.sizeItems] at hfuel; omega) (ends_bracket rest)
    rw [printItems, readItems, hread]
    dsimp only [bind, Option.bind]
    rw [expect_other (by decide) (by decide), expect_self (by decide)]
    rfl
  | item, next :: items, fuel + 1, rest, hfuel => by
    rw [Value.sizeItems] at hfuel
    have hread := readValue_print item fuel (',' :: (L.printItems (next :: items) ++ ']' :: rest))
      (by omega) (ends_comma _)
    have hitems := readItems_print next items fuel rest (by omega)
    rw [printItems, List.append_assoc, List.cons_append, readItems, hread]
    dsimp only [bind, Option.bind]
    rw [expect_self (by decide)]
    dsimp only
    rw [hitems]
    rfl
  | _, [], 0, _, hfuel => by rw [Value.sizeItems] at hfuel; omega
  | _, _ :: _, 0, _, hfuel => by rw [Value.sizeItems] at hfuel; omega

theorem readMembers_print : ∀ (member : S × Value S N) (members : List (S × Value S N)) (fuel : ℕ)
    (rest : Text), Value.sizeMembers (member :: members) ≤ fuel →
    L.readMembers fuel (L.printMembers (member :: members) ++ '\x7d' :: rest) =
      some (member :: members, rest)
  | (name, value), [], fuel + 1, rest, hfuel => by
    have hread := readValue_print value fuel ('\x7d' :: rest)
      (by rw [Value.sizeMembers] at hfuel; omega) (ends_brace rest)
    simp only [printMembers, List.cons_append, List.append_assoc]
    rw [readMembers, expect_self (by decide)]
    dsimp only [bind, Option.bind]
    rw [L.readString_string]
    dsimp only
    rw [expect_self (by decide)]
    dsimp only
    rw [hread]
    dsimp only
    rw [expect_other (by decide) (by decide), expect_self (by decide)]
    rfl
  | (name, value), next :: members, fuel + 1, rest, hfuel => by
    rw [Value.sizeMembers] at hfuel
    have hread := readValue_print value fuel
      (',' :: (L.printMembers (next :: members) ++ '\x7d' :: rest)) (by omega) (ends_comma _)
    have hmembers := readMembers_print next members fuel rest (by omega)
    simp only [printMembers, List.cons_append, List.append_assoc]
    rw [readMembers, expect_self (by decide)]
    dsimp only [bind, Option.bind]
    rw [L.readString_string]
    dsimp only
    rw [expect_self (by decide)]
    dsimp only
    rw [hread]
    dsimp only
    rw [expect_self (by decide)]
    dsimp only
    rw [hmembers]
    rfl
  | (_, _), [], 0, _, hfuel => by rw [Value.sizeMembers] at hfuel; omega
  | (_, _), _ :: _, 0, _, hfuel => by rw [Value.sizeMembers] at hfuel; omega

end

/-! ### The text is long enough for its own reading -/

lemma print_length_pos (value : Value S N) : 0 < (L.print value).length := by
  obtain ⟨c, text, htext, -⟩ := @print_head _ _ L value
  rw [htext]
  exact Nat.succ_pos _

mutual

theorem size_le : ∀ value : Value S N, value.size ≤ (L.print value).length
  | .null => print_length_pos .null
  | .bool b => print_length_pos (.bool b)
  | .number n => print_length_pos (.number n)
  | .string s => print_length_pos (.string s)
  | .array items => by
    have := sizeItems_le items
    rw [print, Value.size, List.length_cons, List.length_append, List.length_singleton]
    omega
  | .object members => by
    have := sizeMembers_le members
    rw [print, Value.size, List.length_cons, List.length_append, List.length_singleton]
    omega

theorem sizeItems_le : ∀ items : List (Value S N),
    Value.sizeItems items ≤ (L.printItems items).length + 1
  | [] => by rw [Value.sizeItems]; omega
  | [item] => by
    have := size_le item
    rw [printItems, Value.sizeItems, Value.sizeItems]
    omega
  | item :: next :: items => by
    have hitem := size_le item
    have hitems := sizeItems_le (next :: items)
    rw [printItems, Value.sizeItems, List.length_append, List.length_cons]
    omega

theorem sizeMembers_le : ∀ members : List (S × Value S N),
    Value.sizeMembers members ≤ (L.printMembers members).length + 1
  | [] => by rw [Value.sizeMembers]; omega
  | [(name, value)] => by
    have := size_le value
    simp only [printMembers, Value.sizeMembers, List.length_append, List.length_cons]
    omega
  | (name, value) :: next :: members => by
    have hvalue := size_le value
    have hmembers := sizeMembers_le (next :: members)
    rw [printMembers, Value.sizeMembers]
    simp only [List.length_append, List.length_cons]
    omega

end

/-- What is printed is parsed. -/
theorem parse_print (value : Value S N) : L.parse (L.print value) = some value := by
  have hread := @readValue_print _ _ L value ((L.print value).length + 1) []
    ((size_le value).trans (Nat.le_succ _)) ends_nil
  rw [List.append_nil] at hread
  rw [parse, hread]
  rfl

/-- No two values have one text. -/
theorem print_injective {value other : Value S N} (h : L.print value = L.print other) :
    value = other := by
  have hvalue := @parse_print _ _ L value
  rw [h, parse_print] at hvalue
  exact (Option.some.inj hvalue).symm

end Lexicon

end JsonValues
end SmeDataCenter
