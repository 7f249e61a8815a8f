import SmeDataCenter.JsonStrings
import SmeDataCenter.JsonValues

/-!
# Stable JSON texts

The text of a value with the members of every object in the order of their names, however names are
compared. It tells the values apart up to the order of members.
-/

namespace SmeDataCenter
namespace StableJson

open JsonStrings JsonNumbers JsonValues ScriptText

/-! ### Texts of characters -/

def readText (text : Text) : Option (String × Text) := (readString text).map (Prod.map stored id)

lemma readText_escaped (s : String) (rest : Text) :
    readText (escaped (s.toList.map .scalar) ++ rest) = some (s, rest) := by
  have hunits : (s.toList.map CodePoint.scalar).flatMap pointUnits = ofString s := by
    rw [List.flatMap_map]
    rfl
  rw [readText, readString_escaped, hunits, Option.map_some, Prod.map_apply, stored_ofString]
  rfl

lemma jsonNumber_head (n : JsonNumber) : ∃ c rest, n.text = c :: rest ∧ StartsNumber c := by
  obtain ⟨c, rest, htext, hc⟩ := text_head n
  exact ⟨c, rest, htext, startsNumber_of hc⟩

/-- `JSON.stringify` and `JSON.parse` -/
def jsonLexicon : Lexicon String JsonNumber where
  string s := escaped (s.toList.map .scalar)
  number := JsonNumber.text
  readString := readText
  readNumber := readNumber
  readString_string := readText_escaped
  readNumber_number n _ hends := readNumber_text n hends
  number_head := jsonNumber_head

/-! ### Values with members that are undefined -/

/-- A number, or nothing: a member may be `undefined`, and is then written with this word. -/
inductive Leaf where
  | number (n : JsonNumber)
  | undefined

def Leaf.text : Leaf → Text
  | .number n => n.text
  | .undefined => ['u', 'n', 'd', 'e', 'f', 'i', 'n', 'e', 'd']

def readLeaf : Text → Option (Leaf × Text)
  | 'u' :: rest => readWord ['n', 'd', 'e', 'f', 'i', 'n', 'e', 'd'] .undefined rest
  | text => (readNumber text).map (Prod.map .number id)

lemma readLeaf_text (leaf : Leaf) (rest : Text) (hends : Ends rest) :
    readLeaf (leaf.text ++ rest) = some (leaf, rest) := by
  cases leaf with
  | undefined => exact readWord_self ['n', 'd', 'e', 'f', 'i', 'n', 'e', 'd'] _ rest
  | number n =>
    have hread := readNumber_text n hends
    obtain ⟨c, text, htext, hc⟩ := text_head n
    have hu : c ≠ 'u' := by
      rcases hc with hc | rfl
      · rintro rfl
        exact absurd hc (by decide)
      · decide
    rw [Leaf.text]
    rw [htext, List.cons_append] at hread ⊢
    unfold readLeaf
    split
    · next heq => exact absurd (List.cons.inj heq).1 hu
    · rw [hread]
      rfl

/-- The texts that `stableJson` writes. -/
def stableLexicon : Lexicon String Leaf where
  string s := escaped (s.toList.map .scalar)
  number := Leaf.text
  readString := readText
  readNumber := readLeaf
  readString_string := readText_escaped
  readNumber_number := readLeaf_text
  number_head
    | .number n => jsonNumber_head n
    | .undefined => ⟨'u', _, rfl, by decide, by decide⟩

/-! ### The order of the members -/

section

variable {N : Type} (localeLe : String → String → Bool)

mutual

/-- A value with the members of its objects sorted: `left.localeCompare(right)`. -/
def stable : Value String N → Value String N
  | .null => .null
  | .bool b => .bool b
  | .number n => .number n
  | .string s => .string s
  | .array items => .array (stableItems items)
  | .object members =>
    .object ((stableMembers members).insertionSort fun left right => localeLe left.1 right.1)

def stableItems : List (Value String N) → List (Value String N)
  | [] => []
  | item :: items => stable item :: stableItems items

def stableMembers : List (String × Value String N) → List (String × Value String N)
  | [] => []
  | (name, value) :: members => (name, stable value) :: stableMembers members

end

lemma stableItems_eq (items : List (Value String N)) :
    stableItems localeLe items = items.map (stable localeLe) := by
  induction items with
  | nil => rw [stableItems, List.map_nil]
  | cons item items ih => rw [stableItems, ih, List.map_cons]

lemma stableMembers_eq (members : List (String × Value String N)) :
    stableMembers localeLe members =
      members.map fun member => (member.1, stable localeLe member.2) := by
  induction members with
  | nil => rw [stableMembers, List.map_nil]
  | cons member members ih => rw [stableMembers, ih, List.map_cons]

end

/-- `stableJson(value)` -/
def stableJson (localeLe : String → String → Bool) (value : Value String Leaf) : Text :=
  stableLexicon.print (stable localeLe value)

section

variable {localeLe : String → String → Bool} {N : Type}
  {members others : List (String × Value String N)} {items others' : List (Value String N)}

lemma stableJson_inj {value other : Value String Leaf}
    (h : stableJson localeLe value = stableJson localeLe other) :
    stable localeLe value = stable localeLe other := Lexicon.print_injective h

lemma stable_array (h : stable localeLe (.array items) = stable localeLe (.array others')) :
    items.map (stable localeLe) = others'.map (stable localeLe) := by
  rw [stable, stable, stableItems_eq, stableItems_eq] at h
  exact Value.array.inj h

lemma stable_perm (h : stable localeLe (.object members) = stable localeLe (.object others)) :
    (stableMembers localeLe members).Perm (stableMembers localeLe others) := by
  rw [stable, stable] at h
  have hothers := List.perm_insertionSort (fun left right => localeLe left.1 right.1)
    (stableMembers localeLe others)
  rw [← Value.object.inj h] at hothers
  exact (List.perm_insertionSort _ _).symm.trans hothers

lemma stable_names (h : stable localeLe (.object members) = stable localeLe (.object others))
    (name : String) : name ∈ members.map Prod.fst ↔ name ∈ others.map Prod.fst := by
  have hnames := ((stable_perm h).map Prod.fst).mem_iff (a := name)
  simpa [stableMembers_eq, Function.comp_def] using hnames

lemma stable_member (h : stable localeLe (.object members) = stable localeLe (.object others))
    (hnames : (others.map Prod.fst).Nodup) {name : String} {value other : Value String N}
    (hvalue : (name, value) ∈ members) (hother : (name, other) ∈ others) :
    stable localeLe value = stable localeLe other := by
  have hnames' : ((stableMembers localeLe others).map Prod.fst).Nodup := by
    simpa [stableMembers_eq, Function.comp_def] using hnames
  have hmem : (name, stable localeLe value) ∈ stableMembers localeLe others := by
    rw [← (stable_perm h).mem_iff, stableMembers_eq]
    exact List.mem_map_of_mem hvalue
  have hmem' : (name, stable localeLe other) ∈ stableMembers localeLe others := by
    rw [stableMembers_eq]
    exact List.mem_map_of_mem hother
  exact (Prod.mk.inj (List.inj_on_of_nodup_map hnames' hmem hmem' rfl)).2

lemma mem_of_lookup {name : String} {value : Value String N}
    (h : members.lookup name = some value) : (name, value) ∈ members := by
  obtain ⟨before, after, rfl, -⟩ := List.lookup_eq_some_iff.mp h
  simp

lemma stable_lookup (h : stable localeLe (.object members) = stable localeLe (.object others))
    (hnames : (others.map Prod.fst).Nodup) (name : String) {value other : Value String N}
    (hvalue : members.lookup name = some value) (hother : others.lookup name = some other) :
    stable localeLe value = stable localeLe other :=
  stable_member h hnames (mem_of_lookup hvalue) (mem_of_lookup hother)

end

end StableJson
end SmeDataCenter
