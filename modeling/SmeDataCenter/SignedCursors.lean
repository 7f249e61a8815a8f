import SmeDataCenter.QueryCursors
import SmeDataCenter.QueryShapes

/-!
# Signed cursors

A cursor is the JSON text of an offset, the hash of a shape, a time and a signature of these. It is
read back as it was written, and refused for another shape or another secret. A text that is not a
cursor is refused too, unless it spells `null`.
-/

namespace SmeDataCenter
namespace StructuredQuery

open JsonStrings JsonNumbers JsonValues StableJson Fallible

/-- The numbers of the language, and what its platform does. -/
structure CursorPlatform where
  /-- Is there such a number? -/
  isNumber : ℚ → Prop
  /-- The digits that a number is printed with. -/
  digits : ℚ → JsonNumber
  /-- The number that some digits are read as. -/
  nearest : JsonNumber → ScriptNumber
  parsesDate : String → Bool
  /-- `left.localeCompare(right) <= 0` -/
  localeLe : String → String → Bool
  /-- `createHash("sha256").update(text).digest("hex")` -/
  sha256 : Text → String
  /-- `createHmac("sha256", secret).update(text).digest("base64url")` -/
  hmac : Text → String → String
  /-- `Buffer.from(text, "utf8").toString("base64url")` -/
  toBase64url : Text → String
  /-- `Buffer.from(cursor, "base64url").toString("utf8")` -/
  fromBase64url : String → Text
  hashDirectoryShape : DirectoryShape → String

def utf8Length (text : Text) : ℕ := (text.flatMap String.utf8EncodeChar).length

/-- What the documentation says of the platform. -/
structure CursorPlatform.Documented (p : CursorPlatform) : Prop where
  integer : ∀ n : ℤ, |n| ≤ 2 ^ 53 → p.isNumber n
  nearest_digits : ∀ q, p.isNumber q → p.nearest (p.digits q) = .finite q
  digits_length : ∀ q, p.isNumber q → (p.digits q).text.length ≤ 25
  sha256_length : ∀ text, (p.sha256 text).toList.length = 64
  hmac_length : ∀ text secret, (p.hmac text secret).toList.length = 43
  fromBase64url_toBase64url : ∀ text, p.fromBase64url (p.toBase64url text) = text
  toBase64url_length : ∀ text,
    3 * scriptLength (p.toBase64url text) ≤ 4 * (utf8Length text + 2)

/-! ### Texts and bodies -/

/-- Of two members of one name the last one counts. -/
def lastOfName (fields : List (String × QueryJson)) : List (String × QueryJson) :=
  match fields with
  | [] => []
  | (name, value) :: fields =>
    if name ∈ fields.map Prod.fst then lastOfName fields else (name, value) :: lastOfName fields

mutual

/-- What `JSON.parse` builds. -/
def ofJson (nearest : JsonNumber → ScriptNumber) : Value String JsonNumber → QueryJson
  | .null => .null
  | .bool b => .bool b
  | .number n => .num (nearest n)
  | .string s => .str s
  | .array items => .arr (ofJsonItems nearest items)
  | .object members => .obj (lastOfName (ofJsonMembers nearest members))

def ofJsonItems (nearest : JsonNumber → ScriptNumber) :
    List (Value String JsonNumber) → List QueryJson
  | [] => []
  | item :: items => ofJson nearest item :: ofJsonItems nearest items

def ofJsonMembers (nearest : JsonNumber → ScriptNumber) :
    List (String × Value String JsonNumber) → List (String × QueryJson)
  | [] => []
  | (name, value) :: members => (name, ofJson nearest value) :: ofJsonMembers nearest members

end

namespace CursorPlatform

variable (p : CursorPlatform)

/-- `JSON.stringify(value)` -/
def stringify (value : QueryJson) : Text := jsonLexicon.print (jsonValue p.digits id value)

/-- `JSON.parse(text)` -/
def parseJson (text : Text) : Option QueryJson := (jsonLexicon.parse text).map (ofJson p.nearest)

def hashQueryShape (shape : QueryShape) : String := p.sha256 (shapeText p.digits p.localeLe shape)

def signCursorPayload (payload : QueryJson) (secret : String) : String :=
  p.hmac (stableJson p.localeLe (jsonValue p.digits .number payload)) secret

def parseCursor (cursor : String) : Option QueryJson := p.parseJson (p.fromBase64url cursor)

def services : QueryServices where
  parsesDate := p.parsesDate
  hashQueryShape := p.hashQueryShape
  hashDirectoryShape := p.hashDirectoryShape
  parseCursor := p.parseCursor
  printCursor value := p.toBase64url (p.stringify value)
  signCursorPayload := p.signCursorPayload

end CursorPlatform

/-! ### A cursor is read back -/

lemma length_flatMap_le {α β : Type} {f : α → List β} {n : ℕ} (h : ∀ a, (f a).length ≤ n)
    (items : List α) : (items.flatMap f).length ≤ n * items.length := by
  induction items with
  | nil => simp
  | cons a items ih =>
    rw [List.flatMap_cons, List.length_append, List.length_cons, Nat.mul_succ]
    have := h a
    omega

lemma utf8Length_le (text : Text) : utf8Length text ≤ 4 * text.length :=
  length_flatMap_le (fun c => by
    rw [String.length_utf8EncodeChar]
    exact Char.utf8Size_le_four c) text

lemma length_escapeChar (c : Char) : (escapeChar c).toList.length ≤ 6 := by
  unfold escapeChar
  split_ifs <;> simp

lemma length_escaped (s : String) :
    (escaped (s.toList.map .scalar)).length ≤ 6 * s.toList.length + 1 := by
  unfold escaped
  rw [List.flatMap_map, List.length_append]
  have := length_flatMap_le length_escapeChar s.toList
  exact Nat.add_le_add_right this 1

section

variable {p : CursorPlatform} (hp : p.Documented) {offset : ℕ} {shapeHash secret : String}
  {now now' : ℤ}

include hp

lemma expiresAt_isNumber (hnow : |now| ≤ maxDateSeconds) :
    p.isNumber ((now : ℚ) + cursorTtlSeconds) := by
  have hbound : |now + cursorTtlSeconds| ≤ 2 ^ 53 := by
    rw [abs_le] at hnow ⊢
    unfold maxDateSeconds at hnow
    unfold cursorTtlSeconds
    constructor <;> push_cast <;> omega
  have := hp.integer _ hbound
  push_cast at this
  exact this

lemma parse_signedCursor (hoffset : p.isNumber offset) (hnow : |now| ≤ maxDateSeconds) :
    p.services.parseCursor (createStructuredCursor p.services offset shapeHash secret now) =
      some (signedCursor p.services offset shapeHash secret now) := by
  have hexpires := expiresAt_isNumber hp hnow
  have hprint : createStructuredCursor p.services offset shapeHash secret now =
      p.toBase64url (p.stringify (signedCursor p.services offset shapeHash secret now)) := rfl
  have hparse : p.services.parseCursor = fun cursor => p.parseJson (p.fromBase64url cursor) := rfl
  rw [hprint, hparse]
  dsimp only
  rw [hp.fromBase64url_toBase64url, CursorPlatform.parseJson, CursorPlatform.stringify,
    Lexicon.parse_print, Option.map_some]
  simp [signedCursor, cursorFields, natJson, jsonValue, jsonFields, ofJson, ofJsonMembers,
    lastOfName, hp.nearest_digits _ hoffset, hp.nearest_digits _ hexpires]

lemma length_print (hoffset : p.isNumber offset) (hnow : |now| ≤ maxDateSeconds)
    (hhash : shapeHash.toList.length = 64) :
    (p.stringify (signedCursor p.services offset shapeHash secret now)).length ≤ 746 := by
  have hdigits := hp.digits_length _ hoffset
  have hdigits' := hp.digits_length _ (expiresAt_isNumber hp hnow)
  have hshape := length_escaped shapeHash
  have hsignature := length_escaped (p.signCursorPayload
    (.obj (cursorFields (natJson offset) shapeHash (.num (.finite (now + cursorTtlSeconds))))) secret)
  have hhmac : (p.signCursorPayload (.obj (cursorFields (natJson offset) shapeHash
      (.num (.finite (now + cursorTtlSeconds))))) secret).toList.length = 43 := hp.hmac_length _ _
  have hname (s : String) : jsonLexicon.string s = escaped (s.toList.map .scalar) := rfl
  have hnumber (n : JsonNumber) : jsonLexicon.number n = n.text := rfl
  have hnames : (escaped ("offset".toList.map .scalar)).length = 7 ∧
      (escaped ("shapeHash".toList.map .scalar)).length = 10 ∧
      (escaped ("expiresAt".toList.map .scalar)).length = 10 ∧
      (escaped ("signature".toList.map .scalar)).length = 10 := by decide +kernel
  obtain ⟨h₁, h₂, h₃, h₄⟩ := hnames
  have hservices : p.services.signCursorPayload = p.signCursorPayload := rfl
  unfold CursorPlatform.stringify signedCursor
  simp only [cursorFields, natJson, jsonValue, jsonFields, List.cons_append, List.nil_append,
    Lexicon.print, Lexicon.printMembers, List.length_cons, List.length_append, List.length_nil,
    hname, hnumber, h₁, h₂, h₃, h₄, id, hservices] at hsignature hhmac ⊢
  omega

lemma scriptLength_create (hoffset : p.isNumber offset) (hnow : |now| ≤ maxDateSeconds)
    (hhash : shapeHash.toList.length = 64) :
    scriptLength (createStructuredCursor p.services offset shapeHash secret now) ≤ cursorChars := by
  have hprint := @length_print _ hp offset shapeHash secret now hoffset hnow hhash
  have hbytes := utf8Length_le (p.stringify (signedCursor p.services offset shapeHash secret now))
  have hbase : 3 * scriptLength (createStructuredCursor p.services offset shapeHash secret now) ≤
      4 * (utf8Length (p.stringify (signedCursor p.services offset shapeHash secret now)) + 2) :=
    hp.toBase64url_length _
  unfold cursorChars
  omega

lemma decode_of_create (hoffset : p.isNumber offset) (hnow : |now| ≤ maxDateSeconds)
    (hhash : shapeHash.toList.length = 64) (expectedShapeHash secret' : String) :
    decodeStructuredCursor p.services
        (createStructuredCursor p.services offset shapeHash secret now) expectedShapeHash secret'
        now' =
      (let payload := QueryJson.obj (cursorFields (natJson offset) shapeHash
          (.num (.finite (now + cursorTtlSeconds))))
      if p.signCursorPayload payload secret ≠ p.signCursorPayload payload secret' ∨
          shapeHash ≠ expectedShapeHash then
        refuse .invalidCursor "Cursor does not match the query shape." []
      else if now + cursorTtlSeconds < now' then
        refuse .cursorExpired "Cursor has expired." []
      else .ok offset) := by
  have hservices : p.services.signCursorPayload = p.signCursorPayload := rfl
  have hexpires : ((now : ℚ) + cursorTtlSeconds < now') ↔ now + cursorTtlSeconds < now' := by
    constructor <;> intro h <;> exact_mod_cast h
  unfold decodeStructuredCursor
  rw [if_neg (not_lt.mpr (scriptLength_create hp hoffset hnow hhash)),
    parse_signedCursor hp hoffset hnow]
  simp [signedCursor, cursorFields, property, List.lookup_cons, cursorOffset_natJson,
    ScriptNumber.before, hexpires, hservices]
  congr

lemma decode_own (hoffset : p.isNumber offset) (hnow : |now| ≤ maxDateSeconds)
    (hhash : shapeHash.toList.length = 64) :
    decodeStructuredCursor p.services
        (createStructuredCursor p.services offset shapeHash secret now) shapeHash secret now' =
      if now + cursorTtlSeconds < now' then refuse .cursorExpired "Cursor has expired." []
      else .ok offset := by
  rw [decode_of_create hp hoffset hnow hhash]
  simp

end

/-! ### Refusals -/

/-- A cursor is refused as one that is not valid, or not any more. -/
def IsRefused (result : Except QueryError ℕ) : Prop :=
  ∃ code message details, result = .error (.validation code message details)

/-- A query that was validated, whose numbers are numbers of the language. -/
structure AcceptedShape (p : CursorPlatform) (shape : QueryShape) : Prop where
  validated : ∃ fields, shape.query.filter.forM (validateFilter p.parsesDate fields) = .ok ()
  numbers : ∀ q ∈ shape.numbers, p.isNumber q

lemma AcceptedShape.isAccepted {p : CursorPlatform} {shape : QueryShape}
    (h : AcceptedShape p shape) : IsAccepted p.isNumber shape := by
  obtain ⟨⟨fields, hfilter⟩, hnumbers⟩ := h
  refine ⟨fun node hnode => ?_, hnumbers _ (.head _), hnumbers _ (.tail _ (.head _))⟩
  rw [hnode] at hfilter
  refine isChecked_of_validate hfilter fun q hq => hnumbers q ?_
  simp [QueryShape.numbers, hnode, hq]

lemma digits_injOn {p : CursorPlatform} (hp : p.Documented) :
    Set.InjOn p.digits {q | p.isNumber q} := by
  intro q hq r hr h
  have hread := hp.nearest_digits q hq
  rw [h, hp.nearest_digits r hr] at hread
  exact (ScriptNumber.finite.inj hread).symm

lemma decode_outcome (services : QueryServices) (cursor expectedShapeHash secret : String)
    (now : ℤ) :
    ((∃ offset, decodeStructuredCursor services cursor expectedShapeHash secret now = .ok offset) ∨
        IsRefused (decodeStructuredCursor services cursor expectedShapeHash secret now)) ↔
      ¬(scriptLength cursor ≤ cursorChars ∧ services.parseCursor cursor = some .null) := by
  unfold decodeStructuredCursor
  by_cases hlength : cursorChars < scriptLength cursor
  · rw [if_pos hlength]
    refine iff_of_true (.inr ⟨_, _, _, rfl⟩) fun h => ?_
    omega
  · rw [if_neg hlength]
    split
    · next hparse => exact iff_of_true (.inr ⟨_, _, _, rfl⟩) (by rw [hparse]; rintro ⟨-, ⟨⟩⟩)
    · next hparse =>
      refine iff_of_false ?_ (not_not_intro ⟨not_lt.mp hlength, hparse⟩)
      rintro (⟨offset, ⟨⟩⟩ | ⟨code, message, details, ⟨⟩⟩)
    · next payload hnull hparse =>
      refine iff_of_true ?_ ?_
      · dsimp only
        split
        · split
          · exact .inr ⟨_, _, _, rfl⟩
          split
          · exact .inr ⟨_, _, _, rfl⟩
          · exact .inl ⟨_, rfl⟩
        · exact .inr ⟨_, _, _, rfl⟩
      · rintro ⟨-, h⟩
        rw [hparse] at h
        exact hnull (Option.some.inj h)

/-- What the cursors of a platform are good for. -/
structure CursorsGood (p : CursorPlatform) : Prop where
  /-- A cursor leads to its offset, and is refused when it has expired. -/
  own : ∀ (shape : QueryShape) (secret : String) (offset : ℕ) (now now' : ℤ), p.isNumber offset →
    |now| ≤ maxDateSeconds →
      decodeStructuredCursor p.services (createStructuredCursor p.services offset
          (p.hashQueryShape shape) secret now) (p.hashQueryShape shape) secret now' =
        if now + cursorTtlSeconds < now' then refuse .cursorExpired "Cursor has expired." []
        else .ok offset
  /-- It is refused for another query, if the two texts have two hashes. -/
  other : ∀ (shape other : QueryShape) (secret secret' : String) (offset : ℕ) (now now' : ℤ),
    AcceptedShape p shape → AcceptedShape p other → shape ≠ other →
      (p.hashQueryShape shape = p.hashQueryShape other →
        shapeText p.digits p.localeLe shape = shapeText p.digits p.localeLe other) →
      p.isNumber offset → |now| ≤ maxDateSeconds →
        IsRefused (decodeStructuredCursor p.services (createStructuredCursor p.services offset
          (p.hashQueryShape shape) secret now) (p.hashQueryShape other) secret' now')
  /-- It is refused for another secret, if no text has one signature by the two. -/
  secret : ∀ (shape other : QueryShape) (secret secret' : String) (offset : ℕ) (now now' : ℤ),
    secret ≠ secret' → (∀ text, p.hmac text secret = p.hmac text secret' → secret = secret') →
      p.isNumber offset → |now| ≤ maxDateSeconds →
        IsRefused (decodeStructuredCursor p.services (createStructuredCursor p.services offset
          (p.hashQueryShape shape) secret now) (p.hashQueryShape other) secret' now')

lemma hashQueryShape_length {p : CursorPlatform} (hp : p.Documented) (shape : QueryShape) :
    (p.hashQueryShape shape).toList.length = 64 := hp.sha256_length _

theorem cursorsGood {p : CursorPlatform} (hp : p.Documented) : CursorsGood p where
  own shape secret offset now now' hoffset hnow :=
    decode_own hp hoffset hnow (hashQueryShape_length hp shape)
  other shape other secret secret' offset now now' hshape hother hne hcollision hoffset hnow := by
    have hhash : p.hashQueryShape shape ≠ p.hashQueryShape other := fun h =>
      hne (shapeText_inj (digits_injOn hp) hshape.isAccepted hother.isAccepted (hcollision h))
    rw [decode_of_create hp hoffset hnow (hashQueryShape_length hp shape), if_pos (.inr hhash)]
    exact ⟨_, _, _, rfl⟩
  secret shape other secret secret' offset now now' hne hcollision hoffset hnow := by
    rw [decode_of_create hp hoffset hnow (hashQueryShape_length hp shape),
      if_pos (.inl fun h => hne (hcollision _ h))]
    exact ⟨_, _, _, rfl⟩

/-- **Cursors are good for one query, one secret and one time, and a text is accepted or refused
exactly if it does not spell `null`.** -/
theorem decodeStructuredCursor_iff (p : CursorPlatform) (hp : p.Documented)
    (cursor expectedShapeHash secret : String) (now : ℤ) :
    (CursorsGood p ∧
        ((∃ offset,
            decodeStructuredCursor p.services cursor expectedShapeHash secret now = .ok offset) ∨
          IsRefused (decodeStructuredCursor p.services cursor expectedShapeHash secret now))) ↔
      ¬(scriptLength cursor ≤ cursorChars ∧
        p.parseJson (p.fromBase64url cursor) = some .null) := by
  rw [and_iff_right (cursorsGood hp)]
  exact decode_outcome p.services cursor expectedShapeHash secret now

/-! ### A platform of few numbers -/

def oneDigit : Significand where
  digits := ['1']
  isDigits := by
    intro c hc
    obtain rfl := List.mem_singleton.mp hc
    decide
  first := by decide
  last := by decide
  ne_nil := by decide

/-- The cursor that spells `null`, and the other texts as they are. -/
def swapNull (text : Text) : Text :=
  if text = "null".toList then "bnVsbA".toList
  else if text = "bnVsbA".toList then "null".toList
  else text

def smallPlatform : CursorPlatform where
  isNumber q := ∃ n : ℤ, |n| ≤ 2 ^ 53 ∧ q = n
  digits q := .nonzero false oneDigit q.num
  nearest
    | .zero => .finite 0
    | .nonzero _ _ point => .finite point
  parsesDate _ := true
  localeLe left right := stringLe left right
  sha256 _ := String.ofList (List.replicate 64 '0')
  hmac _ _ := String.ofList (List.replicate 43 'A')
  toBase64url text := String.ofList (swapNull text)
  fromBase64url cursor := swapNull cursor.toList
  hashDirectoryShape _ := ""

lemma swapNull_swapNull (text : Text) : swapNull (swapNull text) = text := by
  unfold swapNull
  split_ifs <;> simp_all

lemma scriptLength_le (text : Text) : scriptLength (String.ofList text) ≤ utf8Length text := by
  unfold scriptLength utf8Length
  rw [String.toList_ofList]
  induction text with
  | nil => rfl
  | cons c text ih =>
    rw [List.flatMap_cons, List.flatMap_cons, List.length_append, List.length_append,
      String.length_utf8EncodeChar]
    have hunits : (codeUnits c).length ≤ c.utf8Size := by
      unfold codeUnits Char.utf8Size
      have hnat : c.val.toNat = c.toNat := rfl
      simp only [UInt32.le_iff_toNat_le, hnat]
      split_ifs <;> simp_all; omega
    omega

lemma length_oneDigit {n : ℤ} (hn : |n| ≤ 2 ^ 53) :
    (JsonNumber.nonzero false oneDigit n).text.length ≤ 25 := by
  have hexponent : (exponentText (n - 1)).length ≤ 18 := by
    have hbound : (n - 1).natAbs < 10 ^ 16 := by
      rw [abs_le] at hn
      omega
    have := (Nat.length_toDigits_le_iff (by decide : 1 < 10) (by decide : 0 < 16)).mpr hbound
    simp [exponentText]
    omega
  rw [JsonNumber.text, magnitudeText]
  have hdigits : oneDigit.digits = ['1'] := rfl
  rw [hdigits]
  split_ifs <;> simp <;> omega

lemma smallPlatform_documented : smallPlatform.Documented where
  integer n hn := ⟨n, hn, rfl⟩
  nearest_digits := by
    rintro _ ⟨n, -, rfl⟩
    rfl
  digits_length := by
    rintro _ ⟨n, hn, rfl⟩
    exact length_oneDigit hn
  sha256_length _ := by simp [smallPlatform]
  hmac_length _ _ := by simp [smallPlatform]
  fromBase64url_toBase64url text := by
    simp [smallPlatform, swapNull_swapNull]
  toBase64url_length text := by
    have hto : smallPlatform.toBase64url text = String.ofList (swapNull text) := rfl
    rw [hto, swapNull]
    split_ifs with hnull hcursor
    · rw [hnull]
      decide
    · rw [hcursor]
      decide
    · have := scriptLength_le text
      omega

theorem empty_cursor_refused :
    CursorsGood smallPlatform ∧
      ((∃ offset, decodeStructuredCursor smallPlatform.services "" "" "" 0 = .ok offset) ∨
        IsRefused (decodeStructuredCursor smallPlatform.services "" "" "" 0)) :=
  (decodeStructuredCursor_iff smallPlatform smallPlatform_documented "" "" "" 0).mpr
    fun h => by cases h.2

/-- The text `null` in base64url is neither accepted nor refused. -/
theorem null_cursor_throws :
    ¬((∃ offset, decodeStructuredCursor smallPlatform.services "bnVsbA" "" "" 0 = .ok offset) ∨
      IsRefused (decodeStructuredCursor smallPlatform.services "bnVsbA" "" "" 0)) := by
  intro h
  have hthrows : decodeStructuredCursor smallPlatform.services "bnVsbA" "" "" 0 =
      .error (.internal "Cannot read properties of null (reading 'offset')") := rfl
  rw [hthrows] at h
  rcases h with ⟨offset, ⟨⟩⟩ | ⟨code, message, details, ⟨⟩⟩

end StructuredQuery
end SmeDataCenter
