import Mathlib.Data.Rat.Defs
import SmeDataCenter.SqlBinding

/-!
# Prepared texts

The text of a statement with a placeholder for every parameter, as it is sent to the server
next to the list of parameters. The server fills the placeholders from the front of the list.
A text and a list are built apart from each other; `Spells` says that they are the two halves
of one text whose parameters stand where they belong.
-/

namespace SmeDataCenter
namespace Sql

/-- A piece of a text. -/
inductive Token (α : Type) where
  | text (s : String)
  | param (a : α)
  deriving DecidableEq

/-- A text with `?` for every parameter. -/
abbrev PreparedText := List (Token Unit)

variable {α : Type}

def Token.prepare : Token α → Token Unit
  | .text s => .text s
  | .param _ => .param ()

def Token.parameter? : Token α → Option α
  | .text _ => none
  | .param a => some a

/-- Every parameter becomes a placeholder. -/
def prepared (tokens : List (Token α)) : PreparedText := tokens.map Token.prepare

/-- The parameters of a text, from left to right. -/
def parameters (tokens : List (Token α)) : List α := tokens.filterMap Token.parameter?

/-- Fill the placeholders from the front of the list; `none` when they are not as many. -/
def fill : PreparedText → List α → Option (List (Token α))
  | [], [] => some []
  | [], _ :: _ => none
  | .text s :: text, params => (fill text params).map (.text s :: ·)
  | .param () :: text, a :: params => (fill text params).map (.param a :: ·)
  | .param () :: _, [] => none

/-- `parts.join(separator)` -/
def joinText (separator : String) : List (List (Token α)) → List (Token α)
  | [] => []
  | [part] => part
  | part :: parts => part ++ .text separator :: joinText separator parts

section

variable {a b : List (Token α)} {s : String}

@[simp] lemma prepared_nil : prepared ([] : List (Token α)) = [] := rfl

@[simp] lemma prepared_append : prepared (a ++ b) = prepared a ++ prepared b := List.map_append

@[simp] lemma prepared_text : prepared (.text s :: a) = .text s :: prepared a := rfl

@[simp] lemma prepared_param {v : α} : prepared (.param v :: a) = .param () :: prepared a := rfl

@[simp] lemma parameters_nil : parameters ([] : List (Token α)) = [] := rfl

@[simp] lemma parameters_append : parameters (a ++ b) = parameters a ++ parameters b :=
  List.filterMap_append

@[simp] lemma parameters_text : parameters (.text s :: a) = parameters a := rfl

@[simp] lemma parameters_param {v : α} : parameters (.param v :: a) = v :: parameters a := rfl

end

lemma fill_prepared (tokens : List (Token α)) :
    fill (prepared tokens) (parameters tokens) = some tokens := by
  induction tokens with
  | nil => rfl
  | cons token tokens ih =>
    cases token with
    | text s => simp [fill, ih]
    | param a => simp [fill, ih]

lemma prepared_join (separator : String) (parts : List (List (Token α))) :
    prepared (joinText separator parts) = joinText separator (parts.map prepared) := by
  induction parts with
  | nil => rfl
  | cons part parts ih =>
    cases parts with
    | nil => rfl
    | cons part' parts => simpa [joinText] using ih

lemma parameters_join (separator : String) (parts : List (List (Token α))) :
    parameters (joinText separator parts) = parts.flatMap parameters := by
  induction parts with
  | nil => rfl
  | cons part parts ih =>
    cases parts with
    | nil => simp [joinText]
    | cons part' parts => simpa [joinText] using ih

/-! ### Fragments -/

/-- A text and its parameters, built apart. -/
structure Fragment (α : Type) where
  sql : PreparedText
  params : List α

/-- The fragment is this text: its placeholders take its parameters one by one. -/
structure Fragment.Spells (fragment : Fragment α) (tokens : List (Token α)) : Prop where
  sql : fragment.sql = prepared tokens
  params : fragment.params = parameters tokens

namespace Fragment

variable {f g : Fragment α} {a b : List (Token α)}

lemma spells_mk {sql : PreparedText} {params : List α} {tokens : List (Token α)} :
    Spells ⟨sql, params⟩ tokens ↔ sql = prepared tokens ∧ params = parameters tokens := by
  constructor
  · exact fun h => ⟨h.sql, h.params⟩
  · exact fun h => ⟨h.1, h.2⟩

lemma Spells.fill (h : f.Spells a) : Sql.fill f.sql f.params = some a := by
  rw [h.sql, h.params, fill_prepared]

lemma Spells.count (h : f.Spells a) : f.sql.countP (· = .param ()) = f.params.length := by
  rw [h.sql, h.params]
  clear h
  induction a with
  | nil => rfl
  | cons token tokens ih =>
    cases token with
    | text s => simpa [List.countP_cons] using ih
    | param v => simpa [List.countP_cons] using ih

end Fragment

/-- Texts that spell a list of texts, with the parameters of all of them in one list. -/
structure SpellsEach (texts : List PreparedText) (params : List α)
    (tokens : List (List (Token α))) : Prop where
  texts : texts = tokens.map prepared
  params : params = tokens.flatMap parameters

section

variable {texts texts' : List PreparedText} {params params' : List α}
  {tokens tokens' : List (List (Token α))}

lemma SpellsEach.nil : SpellsEach [] [] ([] : List (List (Token α))) := ⟨rfl, rfl⟩

lemma SpellsEach.singleton {f : Fragment α} {a : List (Token α)} (h : f.Spells a) :
    SpellsEach [f.sql] f.params [a] :=
  ⟨by rw [List.map_singleton, h.sql], by rw [List.flatMap_singleton, h.params]⟩

lemma SpellsEach.append (h : SpellsEach texts params tokens)
    (h' : SpellsEach texts' params' tokens') :
    SpellsEach (texts ++ texts') (params ++ params') (tokens ++ tokens') :=
  ⟨by rw [h.texts, h'.texts, List.map_append], by rw [h.params, h'.params, List.flatMap_append]⟩

lemma SpellsEach.join (h : SpellsEach texts params tokens) (separator : String) :
    Fragment.Spells ⟨joinText separator texts, params⟩ (joinText separator tokens) :=
  ⟨by rw [prepared_join, ← h.texts], by rw [parameters_join, ← h.params]⟩

end

end Sql
end SmeDataCenter
