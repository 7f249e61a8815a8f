import SmeDataCenter.EvidenceChunks
import SmeDataCenter.ScriptTexts

/-!
# Names of enterprises

An enterprise is known by a key that is made of its name: in Unicode normal form, without blanks
around it, with one blank for each run of white space, and with the letters A to Z in lower case.
-/

namespace SmeDataCenter
namespace EnterpriseNames

open CodeWords ScriptText
open EvidenceChunks (isSpace)

-- the normal form of a well-formed text
variable (nfc : String → String)

/-- A surrogate that stands alone stays as it is, and what is between two of them is brought to
normal form; `run` is what has been read since the last one. -/
def normalizeRuns : List Char → List CodePoint → ScriptText
  | run, [] => ofString (nfc (String.ofList run))
  | run, .scalar c :: rest => normalizeRuns (run ++ [c]) rest
  | run, .surrogate u :: rest => ofString (nfc (String.ofList run)) ++ u :: normalizeRuns [] rest

/-- `text.normalize("NFC")` -/
def normalize (text : ScriptText) : ScriptText := normalizeRuns nfc [] (points text)

/-- `text.replace(/\s+/gu, " ")`; `blank` when the run has its blank already. -/
def collapse (blank : Bool) : ScriptText → ScriptText
  | [] => []
  | u :: rest =>
    if !isSpace u then u :: collapse false rest
    else if blank then collapse true rest
    else 0x20 :: collapse true rest

def normalizeIdentityText (value : ScriptText) : ScriptText :=
  collapse false (EvidenceChunks.trim (normalize nfc value))

def lowerUnit (u : UInt16) : UInt16 := if 0x41 ≤ u.toNat && u.toNat ≤ 0x5A then u + 0x20 else u

def asciiLowercase (value : ScriptText) : ScriptText := value.map lowerUnit

structure EnterpriseIdentity where
  enterpriseKey : ScriptText
  enterpriseName : ScriptText
  deriving DecidableEq

/-- `normalizeEnterpriseIdentity`; `none` is `STORE_IDENTITY_MISSING`. -/
def normalizeEnterpriseIdentity (value : ScriptText) : Option EnterpriseIdentity :=
  let enterpriseName := normalizeIdentityText nfc value
  if enterpriseName = [] then none else some ⟨asciiLowercase enterpriseName, enterpriseName⟩

def enterpriseKeyOf (value : ScriptText) : Option ScriptText :=
  (normalizeEnterpriseIdentity nfc value).map (·.enterpriseKey)

end EnterpriseNames
end SmeDataCenter
