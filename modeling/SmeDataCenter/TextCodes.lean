import Mathlib.Data.List.Basic
import Mathlib.Logic.Function.Basic

/-!
# Texts of several texts

A code that writes a list of texts as one text and reads it back: each character of a text is
marked, and a text ends with a comma that is not. It stands where only equality of what was
written and reading it back matter.
-/

namespace SmeDataCenter
namespace TextCodes

/-- The marked characters of a text. -/
def marked (text : List Char) : List Char := text.flatMap fun c => ['c', c]

def encodeTexts (texts : List String) : String :=
  String.ofList (texts.flatMap fun text => marked text.toList ++ [','])

/-- Reads texts; the second list is what has been read of the current one, last character
first. -/
def decodeChars : List Char → List Char → Option (List String)
  | [], [] => some []
  | [], _ :: _ => none
  | ',' :: rest, text => (decodeChars rest []).map (String.ofList text.reverse :: ·)
  | 'c' :: c :: rest, text => decodeChars rest (c :: text)
  | _ :: _, _ => none

def decodeTexts (code : String) : Option (List String) := decodeChars code.toList []

lemma decodeChars_marked (chars rest text : List Char) :
    decodeChars (marked chars ++ rest) text = decodeChars rest (chars.reverse ++ text) := by
  induction chars generalizing text with
  | nil => rfl
  | cons c chars ih =>
    have hstep : decodeChars ('c' :: c :: (marked chars ++ rest)) text =
        decodeChars (marked chars ++ rest) (c :: text) := rfl
    rw [List.reverse_cons, List.append_assoc]
    exact hstep.trans (ih _)

theorem decodeTexts_encodeTexts (texts : List String) :
    decodeTexts (encodeTexts texts) = some texts := by
  rw [decodeTexts, encodeTexts, String.toList_ofList]
  induction texts with
  | nil => rfl
  | cons text texts ih =>
    rw [List.flatMap_cons, List.append_assoc, decodeChars_marked, List.append_nil]
    have hcomma : ∀ rest chars, decodeChars (',' :: rest) chars =
        (decodeChars rest []).map (String.ofList chars.reverse :: ·) := fun _ _ => rfl
    rw [List.singleton_append, hcomma, ih, List.reverse_reverse, String.ofList_toList]
    rfl

lemma encodeTexts_injective : Function.Injective encodeTexts := by
  intro a b h
  have hdecode := congrArg decodeTexts h
  rw [decodeTexts_encodeTexts, decodeTexts_encodeTexts] at hdecode
  exact Option.some.inj hdecode

end TextCodes
end SmeDataCenter
