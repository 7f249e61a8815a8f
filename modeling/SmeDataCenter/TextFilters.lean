import SmeDataCenter.CostCardAlignment
import SmeDataCenter.LikePatterns
import SmeDataCenter.QueryEvaluation
import SmeDataCenter.SqlLike

/-!
# Filters on texts

Three compilers look for a value in stored texts. Those of cost cards and of store names take it
as it stands. The one of structured queries puts it into a pattern unescaped, where a percent
sign, an underscore and a backslash have a meaning of their own.
-/

namespace SmeDataCenter
namespace StructuredQuery

open Sql Fallible CodeWords

/-! ### Structured queries -/

/-- How a column compares characters. -/
structure Collation where
  weight : Char → ℕ
  underscore_ne : weight '_' ≠ weight 'x'
  backslash_ne : weight '\\' ≠ weight '%'

/-- The letters of a pattern without an `ESCAPE`. -/
def Collation.alphabet (collation : Collation) : LikePatterns.Alphabet Char where
  any := '%'
  one := '_'
  escape := '\\'
  any_ne := by decide
  weight := collation.weight
  other := 'x'
  other_ne := collation.underscore_ne
  escape_ne := collation.backslash_ne

/-- The database with a collation for the column that is searched. -/
def Mysql.withCollation (mysql : Mysql) (collation : Collation) : Mysql :=
  { mysql with
    matchesLike := fun text pattern => collation.alphabet.like text.toList pattern.toList }

/-- A field of texts, which are stored under a name. -/
structure TextField (field : StructuredFieldRegistryEntry) (name : String) : Prop where
  kind : expressionKind field.type = .unquoted
  path : requireJsonPath field = .ok ("$." ++ name)

/-- The compiled filter holds of the rows whose text is found, and of no others. -/
def FilterFinds (mysql : Mysql) (field : StructuredFieldRegistryEntry) (name op value : String)
    (finds : Text → Text → Prop) : Prop :=
  ∃ fragment clause, compileCondition field op (.str value) = .ok fragment ∧
    conditionClause field op (.str value) = .ok clause ∧ FilterSpells fragment clause ∧
    ∀ (payload : Payload) (text : String), payload name = some (.text text) →
      (clause.eval mysql payload = .holds ↔ finds value.toList text.toList)

lemma ofBool_holds {b : Bool} : Truth.ofBool b = .holds ↔ b = true := by
  cases b <;> simp [Truth.ofBool]

variable {field : StructuredFieldRegistryEntry}

lemma eval_like {mysql : Mysql} {collation : Collation} {name text pattern : String}
    (h : TextField field name) {payload : Payload} (htext : payload name = some (.text text)) :
    (FilterCondition.like (typedFieldExpression field (.text ("$." ++ name))) (.text pattern)).eval
      (mysql.withCollation collation) payload = .holds ↔
        collation.alphabet.like text.toList pattern.toList = true := by
  have hpath : ("$." ++ name).toList = '$' :: '.' :: name.toList := by
    rw [String.toList_append]
    rfl
  have hread : jsonExtract payload (.text ("$." ++ name)) = some (.text text) := by
    simp only [jsonExtract, hpath, String.ofList_toList, htext]
  have heval : (typedFieldExpression field (.text ("$." ++ name))).eval
      (mysql.withCollation collation) payload = .text text := by
    simp only [Expression.eval, typedFieldExpression, hread, h.kind]
    rfl
  rw [FilterCondition.eval, heval]
  exact ofBool_holds

lemma filterFinds_iff {mysql : Mysql} {collation : Collation}
    {field : StructuredFieldRegistryEntry} {name op start value : String}
    (h : TextField field name) {finds : Text → Text → Prop}
    (hcompile : compileCondition field op (.str value) = compileLike field start (.str value))
    (hclause : conditionClause field op (.str value) = likeClause field start (.str value)) :
    FilterFinds (mysql.withCollation collation) field name op value finds ↔
      ∀ text : Text, collation.alphabet.like text (start.toList ++ (value.toList ++ ['%'])) = true ↔
        finds value.toList text := by
  have hpattern : (start ++ value ++ "%").toList = start.toList ++ (value.toList ++ ['%']) := by
    simp
  have hfragment : compileCondition field op (.str value) =
      .ok (.like (typedFieldExpression field ()) (),
        [.text ("$." ++ name), .text (start ++ value ++ "%")]) := by
    rw [hcompile]
    exact bind_ok.mpr ⟨_, h.path, bind_ok.mpr ⟨value, rfl, rfl⟩⟩
  have hlike : conditionClause field op (.str value) =
      .ok (.like (typedFieldExpression field (.text ("$." ++ name)))
        (.text (start ++ value ++ "%"))) := by
    rw [hclause]
    exact bind_ok.mpr ⟨_, fieldExpression_ok h.path, bind_ok.mpr ⟨value, rfl, rfl⟩⟩
  constructor
  · rintro ⟨fragment, clause, -, hclause', -, hfinds⟩ text
    obtain rfl := Except.ok.inj (hlike.symm.trans hclause')
    have hrow := hfinds (fun _ => some (.text (String.ofList text))) (String.ofList text) rfl
    rw [eval_like h rfl, hpattern, String.toList_ofList] at hrow
    exact hrow
  · intro hall
    obtain ⟨clause, hclause', hspells⟩ := compileCondition_spells hfragment
    obtain rfl := Except.ok.inj (hlike.symm.trans hclause')
    refine ⟨_, _, hfragment, hlike, hspells, fun payload text htext => ?_⟩
    rw [eval_like h htext, hpattern]
    exact hall text.toList

/-! ### Cost cards -/

/-- `CAST(text AS BINARY)` -/
def binary (text : String) : List UInt8 := encode String.utf8EncodeChar text.toList

/-- `CAST(column AS BINARY) LIKE CAST(pattern AS BINARY) ESCAPE '!'` -/
def binaryLike (stored pattern : String) : Bool := SqlLike.like (binary stored) (binary pattern)

/-- What the compiler makes of a condition looks for the texts that are found. -/
def CostCardFinds (fieldName op value : String) (finds : Text → Text → Prop) : Prop :=
  ∀ fragment, costCardCondition fieldName op (.str value) = .ok fragment →
    ∃ target pattern, fragment = ⟨[.text ("CAST(" ++ target ++ " AS BINARY) LIKE CAST("),
        .param (), .text " AS BINARY) ESCAPE '!'"], [.text pattern]⟩ ∧
      ∀ stored, binaryLike stored pattern = true ↔ finds value.toList stored.toList

lemma costCardColumn_type {fieldName target : String}
    (h : costCardColumn fieldName = .ok (field, target))
    (hop : "contains" ∈ field.operators ∨ "starts_with" ∈ field.operators) :
    field.type = .string := by
  unfold costCardColumn at h
  split at h
  · cases h
  · next found hfound =>
    obtain rfl : found = field := congrArg Prod.fst (Except.ok.inj h)
    rw [fieldsOf, List.toAList, AList.lookup, List.dlookup_dedupKeys] at hfound
    obtain ⟨entry, hentry, hsame⟩ := List.mem_map.mp (List.of_mem_dlookup hfound)
    obtain ⟨definition, -, rfl⟩ := List.mem_map.mp (List.mem_reverse.mp hentry)
    obtain ⟨canonicalName, sourceColumn, type, nullable⟩ := definition
    cases hsame
    cases type with
    | string => rfl
    | _ => simp [directoryField, directoryOperators] at hop

lemma literalLike_toList (text : String) :
    (literalLike text).toList = text.toList.flatMap SqlLike.escapedChar := by
  rw [literalLike, String.toList_ofList]
  induction text.toList with
  | nil => rfl
  | cons c text ih =>
    simp only [replaceCharacter, List.flatMap_cons, List.flatMap_append] at ih ⊢
    rw [ih]
    congr 1
    by_cases h1 : c = '!'
    · simp [h1, SqlLike.escapedChar]
    · by_cases h2 : c = '%'
      · simp [h2, SqlLike.escapedChar]
      · by_cases h3 : c = '_' <;> simp [h1, h2, h3, SqlLike.escapedChar]

lemma binary_literalLike (text : String) :
    binary (literalLike text) = (binary text).flatMap SqlLike.escapeByte := by
  rw [binary, literalLike_toList, encode_flatMap SqlLike.utf8_escapedChar]
  rfl

lemma costCardLike_ok {target start value : String} {fragment : Fragment Param}
    (htype : field.type = .string)
    (h : costCardLike field target start (.str value) = .ok fragment) :
    fragment = ⟨likeTokens field target (), [.text (start ++ literalLike value ++ "%")]⟩ := by
  obtain ⟨scalar, hscalar, h⟩ := bind_ok.mp h
  unfold costCardScalar at hscalar
  dsimp only at hscalar
  rw [htype, if_neg (by decide), if_neg (by decide), if_neg (by decide)] at hscalar
  split at hscalar
  · cases hscalar
  · cases hscalar
    cases h
    rfl

/-- What the compiler puts before a value that is searched with an operator. -/
inductive LikeStart : String → String → Prop
  | contains : LikeStart "contains" "%"
  | startsWith : LikeStart "starts_with" ""

lemma costCardFinds_of {fieldName op start value : String} {finds : Text → Text → Prop}
    (hstart : LikeStart op start)
    (hfinds : ∀ stored, SqlLike.like (binary stored)
      (binary start ++ ((binary value).flatMap SqlLike.escapeByte ++ [0x25])) = true ↔
        finds value.toList stored.toList) : CostCardFinds fieldName op value finds := by
  intro fragment h
  obtain ⟨⟨field, target⟩, hcolumn, h⟩ := bind_ok.mp h
  dsimp only at h
  split at h
  · cases h
  · next hoperator =>
    have hmem : op ∈ field.operators := by simpa using hoperator
    have htype : field.type = .string := by
      refine costCardColumn_type hcolumn ?_
      cases hstart with
      | contains => exact .inl hmem
      | startsWith => exact .inr hmem
    have hlike : costCardLike field target start (.str value) = .ok fragment := by
      cases hstart with
      | contains => rwa [if_pos rfl] at h
      | startsWith => rwa [if_neg (by decide), if_pos rfl] at h
    have hpattern : binary (start ++ literalLike value ++ "%") =
        binary start ++ ((binary value).flatMap SqlLike.escapeByte ++ [0x25]) := by
      rw [← binary_literalLike]
      simp only [binary, String.toList_append, encode_append, List.append_assoc]
      rfl
    refine ⟨target, start ++ literalLike value ++ "%", ?_, fun stored => ?_⟩
    · rw [costCardLike_ok htype hlike, likeTokens, targetExpression, if_pos htype,
        String.append_assoc]
      rfl
    · rw [binaryLike, hpattern]
      exact hfinds stored

/-! ### Store names -/

/-- `LOCATE(part, text)`: where the part first stands, from one on, or zero. -/
def locate (part text : List UInt8) : ℕ :=
  ((text.tails.findIdx? fun rest => part.isPrefixOf rest).map (· + 1)).getD 0

/-- `LOCATE(CAST(? AS BINARY), CAST(store_name AS BINARY)) > 0` -/
def locateTokens (term : String) : List (Token String) :=
  [.text "LOCATE(CAST(", .param term, .text " AS BINARY), CAST(store_name AS BINARY)) > 0"]

/-- A condition on store names, with its values. -/
def literalStoreNameScope (terms : List String) : Except String (List (Token String)) :=
  if terms = [] then .error "INVALID_PARTITION_STORE_NAME_FILTER"
  else .ok (.text "(" :: joinText " OR " (terms.map locateTokens) ++ [.text ")"])

/-- Any of the terms is found in a store name. -/
def storeNameHolds (terms : List String) (storeName : String) : Bool :=
  terms.any fun term => 0 < locate (binary term) (binary storeName)

lemma locate_pos {part text : List UInt8} : 0 < locate part text ↔ part <:+: text := by
  unfold locate
  cases hfind : text.tails.findIdx? fun rest => part.isPrefixOf rest with
  | none =>
    rw [List.findIdx?_eq_none_iff] at hfind
    refine ⟨fun h => absurd h (by simp), fun h => ?_⟩
    obtain ⟨rest, hfront, hend⟩ := List.infix_iff_prefix_suffix.mp h
    have hno := hfind rest ((List.mem_tails _ _).mpr hend)
    rw [List.isPrefixOf_iff_prefix.mpr hfront] at hno
    cases hno
  | some i =>
    refine ⟨fun _ => ?_, fun _ => by simp⟩
    obtain ⟨hi, hfound, -⟩ := List.findIdx?_eq_some_iff_getElem.mp hfind
    have hend := (List.mem_tails _ _).mp (List.getElem_mem hi)
    exact (List.isPrefixOf_iff_prefix.mp hfound).isInfix.trans hend.isInfix

/-! ### Literal values -/

/-- A value is searched as it stands: by the compiler of structured queries when it has no percent
sign, underscore or backslash, and only then; by those of cost cards and store names always. -/
theorem text_filters_literal_iff (mysql : Mysql) (collation : Collation) (value : String) :
    (∀ field name, TextField field name →
      (FilterFinds (mysql.withCollation collation) field name "contains" value
          collation.alphabet.Occurs ↔ ∀ c ∈ value.toList, c ≠ '%' ∧ c ≠ '_' ∧ c ≠ '\\') ∧
      (FilterFinds (mysql.withCollation collation) field name "starts_with" value
          collation.alphabet.Begins ↔ ∀ c ∈ value.toList, c ≠ '%' ∧ c ≠ '_' ∧ c ≠ '\\')) ∧
    (∀ fieldName, CostCardFinds fieldName "contains" value (· <:+: ·) ∧
      CostCardFinds fieldName "starts_with" value (· <+: ·)) ∧
    ∀ terms scope storeName, literalStoreNameScope terms = .ok scope →
      scope = .text "(" :: joinText " OR " (terms.map locateTokens) ++ [.text ")"] ∧
      (storeNameHolds terms storeName = true ↔
        ∃ term ∈ terms, term.toList <:+: storeName.toList) := by
  refine ⟨fun field name h => ⟨?_, ?_⟩, fun fieldName => ⟨?_, ?_⟩, ?_⟩
  · rw [@filterFinds_iff _ _ _ _ _ "%" _ h _ rfl rfl]
    exact collation.alphabet.like_occurs_iff value.toList
  · rw [@filterFinds_iff _ _ _ _ _ "" _ h _ rfl rfl]
    exact collation.alphabet.like_begins_iff value.toList
  · refine costCardFinds_of .contains fun stored => ?_
    exact (SqlLike.like_contains _ _).trans ScriptText.utf8_selfSynchronizing.infix_iff
  · refine costCardFinds_of .startsWith fun stored => ?_
    exact (SqlLike.like_startsWith _ _).trans ScriptText.utf8_selfSynchronizing.prefix_iff
  · intro terms scope storeName hscope
    unfold literalStoreNameScope at hscope
    split at hscope
    · cases hscope
    · cases hscope
      refine ⟨rfl, ?_⟩
      simp only [storeNameHolds, List.any_eq_true, decide_eq_true_eq, locate_pos]
      exact exists_congr fun term =>
        and_congr_right fun _ => ScriptText.utf8_selfSynchronizing.infix_iff

/-- The name of an item in a delivery ledger. -/
def itemName : StructuredFieldRegistryEntry :=
  createDeliveryLedgerField ("item_name", "物品名称", .string, false, .file)

lemma textField_itemName : TextField itemName "item_name" := ⟨rfl, rfl⟩

def codePointCollation : Collation where
  weight := Char.toNat
  underscore_ne := by decide
  backslash_ne := by decide

/-- A database that is asked about nothing but `LIKE`. -/
def likeOnly : Mysql where
  weights _ := []
  matchesLike _ _ := false
  textNumber _ := 0
  numberText _ := ""
  readTime _ := none
  quotient _ _ := 0

/-- A value that ends in a percent sign is found in names without one. -/
theorem percent_not_literal : ¬ FilterFinds (likeOnly.withCollation codePointCollation) itemName
    "item_name" "contains" "50%" codePointCollation.alphabet.Occurs := by
  intro h
  have hliteral := (@filterFinds_iff _ _ _ _ _ "%" _ textField_itemName _ rfl rfl).mp h
  have hspecial := (codePointCollation.alphabet.like_occurs_iff _).mp hliteral
  exact (hspecial '%' (by decide +kernel)).1 rfl

/-- A plain value is found in the names of items as it stands, and a term with special characters
in the names of stores. -/
theorem plain_value_literal :
    FilterFinds (likeOnly.withCollation codePointCollation) itemName "item_name" "contains" "麦家"
      codePointCollation.alphabet.Occurs ∧
    (storeNameHolds ["A%_\\"] "1A%_\\" = true ↔
      ∃ term ∈ ["A%_\\"], term.toList <:+: "1A%_\\".toList) :=
  ⟨((text_filters_literal_iff likeOnly codePointCollation "麦家").1 itemName "item_name"
      textField_itemName).1.mpr (by simp),
    ((text_filters_literal_iff likeOnly codePointCollation "").2.2 ["A%_\\"] _ "1A%_\\" rfl).2⟩

end StructuredQuery
end SmeDataCenter
