import Mathlib.Data.Int.Notation
import Mathlib.Data.List.Sort
import Mathlib.Data.String.Basic

/-!
# Canonical JSON

The texts that workflow records are hashed from. A JSON value is printed without blanks, with
the fields of every object sorted by name, so that two records of equal content have one text.
Strings are compared and sorted by UTF-16 code units, as the language does.
-/

namespace SmeDataCenter

/-- A JSON value. -/
inductive Json where
  | null
  | bool (b : Bool)
  | num (n : ℤ)
  | str (s : String)
  | arr (items : List Json)
  | obj (fields : List (String × Json))

/-! ### Strings -/

/-- The UTF-16 code units of a character. -/
def codeUnits (c : Char) : List ℕ :=
  if c.toNat < 0x10000 then [c.toNat]
  else [0xD800 + (c.toNat - 0x10000) / 0x400, 0xDC00 + (c.toNat - 0x10000) % 0x400]

/-- `a <= b` on strings. -/
def stringLe (a b : String) : Prop :=
  a.toList.flatMap codeUnits ≤ b.toList.flatMap codeUnits

instance : DecidableRel stringLe := fun a b =>
  inferInstanceAs (Decidable (a.toList.flatMap codeUnits ≤ b.toList.flatMap codeUnits))

/-- `[...values].sort()`. -/
def sortStrings (values : List String) : List String := values.insertionSort stringLe

/-- `[...new Set(values)]`. -/
def distinct (values : List String) : List String := values.eraseDups

/-- One character inside a JSON string. -/
def escapeChar (c : Char) : String :=
  if c.toNat = 0x22 then "\\\""
  else if c.toNat = 0x5C then "\\\\"
  else if c.toNat = 0x8 then "\\b"
  else if c.toNat = 0x9 then "\\t"
  else if c.toNat = 0xA then "\\n"
  else if c.toNat = 0xC then "\\f"
  else if c.toNat = 0xD then "\\r"
  else if c.toNat < 0x20 then
    "\\u00" ++ String.ofList [Nat.digitChar (c.toNat / 16), Nat.digitChar (c.toNat % 16)]
  else String.ofList [c]

def quote (s : String) : String :=
  "\"" ++ String.join (s.toList.map escapeChar) ++ "\""

/-! ### Printing -/

mutual

/-- `workflowCanonicalJson`. -/
def workflowCanonicalJson : Json → String
  | .null => "null"
  | .bool b => if b then "true" else "false"
  | .num n => toString n
  | .str s => quote s
  | .arr items => "[" ++ String.intercalate "," (canonicalItems items) ++ "]"
  | .obj fields => "\x7b" ++ String.intercalate "," ((canonicalFields fields |>.insertionSort
      fun a b => stringLe a.1 b.1).map fun field => quote field.1 ++ ":" ++ field.2) ++ "\x7d"

def canonicalItems : List Json → List String
  | [] => []
  | item :: items => workflowCanonicalJson item :: canonicalItems items

def canonicalFields : List (String × Json) → List (String × String)
  | [] => []
  | (name, value) :: fields => (name, workflowCanonicalJson value) :: canonicalFields fields

end

/-- The fields of an object that are not `undefined`. -/
def Json.ofFields (fields : List (String × Option Json)) : Json :=
  .obj (fields.filterMap fun field => field.2.map fun value => (field.1, value))

/-- An array of strings. -/
def Json.strings (values : List String) : Json := .arr (values.map .str)

example : workflowCanonicalJson (.ofFields [("b", some (.strings ["x", "y"])), ("c", none),
    ("a", some (.num 3))]) = "\x7b\"a\":3,\"b\":[\"x\",\"y\"]\x7d" := by decide

end SmeDataCenter
