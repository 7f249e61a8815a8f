import SmeDataCenter.Grouping
import SmeDataCenter.ImportRegistry
import SmeDataCenter.SourceSheets

/-!
# Rows of a cost card file

The rows of an upload are grouped into cards: by the identity of the card, and within it by the
type and the name of the recipe. Rows that disagree about the card or the recipe they share are
reported, and there are no cards when anything was.
-/

namespace SmeDataCenter
namespace Import

def inputRowLimit : ℕ := 100000

def maxUploadBytes : ℕ := 52428800

structure CostCardParseResult where
  cards : List CanonicalCostCard
  inputCardCount : ℕ
  inputItemRowCount : ℕ
  validationErrors : List StructuredValidationIssue
  validationErrorCount : ℕ
  validationErrorsTruncated : Bool

def sourceFor (row : StructuredImportRow) : CostCardSourceLocation :=
  ⟨row.sourceSheetIndex, row.sourceSheetName, row.sourceRowNumber⟩

def sourceLabel (row : StructuredImportRow) : String :=
  row.sourceSheetName ++ "[" ++ toString row.sourceSheetIndex ++ "]:" ++
    toString row.sourceRowNumber

/-! ### Values of a row -/

/-- The fields of a row with the value each has, or what is wrong with it. -/
def normalizedFields (payload : Payload) :
    List (CostCardUploadField × Except String PayloadValue) :=
  costCardUploadSchema.map fun field =>
    (field, normalizeCostCardValue field (payload.get field.canonicalName))

def normalizedPayload (payload : Payload) : Payload :=
  (normalizedFields payload).filterMap fun entry =>
    entry.2.toOption.map fun value => (entry.1.canonicalName, value)

/-- The fields whose value is refused, and why. -/
def fieldErrors (payload : Payload) : List (CostCardUploadField × String) :=
  (normalizedFields payload).filterMap fun entry =>
    match entry.2 with
    | .error message => some (entry.1, message)
    | .ok _ => none

/-- ``String(payload[name] ?? "")`` -/
def labelPart (payload : Payload) (name : String) : String :=
  match payload.get name with
  | none | some .null => ""
  | some value => value.toText

def identityLabel (payload : Payload) : String :=
  labelPart payload "spu_id" ++ "/" ++ labelPart payload "sku_id" ++ " " ++
    labelPart payload "recipe_type" ++ "/" ++ labelPart payload "recipe_name"

def rowIssue (row : StructuredImportRow) (column : Option String) (text : String) :
    StructuredValidationIssue where
  code := "INVALID_COST_CARD"
  message := text
  sheetIndex := some row.sourceSheetIndex
  sheetName := some row.sourceSheetName
  rowNumber := some row.sourceRowNumber
  column

/-- A value as the text that a key or an identity holds. -/
def fieldText (payload : Payload) (name : String) : String :=
  ((payload.get name).getD .null).toText

/-! ### Grouping -/

/-- Do two rows have the same value in a field that they share? -/
def sameCommon (field : CostCardUploadField) (first next : Payload) : Bool :=
  let a := first.get field.canonicalName
  let b := next.get field.canonicalName
  if field.canonicalName = "source_stores_text" then
    costCardStores (a.bind PayloadValue.text?) = costCardStores (b.bind PayloadValue.text?)
  else a = b

def compareCommon (first next : Payload) (scope : CostCardScope)
    (firstSource nextSource : StructuredImportRow) (label : String) :
    Except String (List StructuredValidationIssue) := do
  let firstValues ← costCardScopedValues first scope
  let nextValues ← costCardScopedValues next scope
  .ok (((scopeFields scope).filter fun field => !sameCommon field firstValues nextValues).map
    fun field => rowIssue nextSource (some field.canonicalName)
      (label ++ " " ++ field.canonicalName ++ " conflicts between " ++ sourceLabel firstSource ++
        " and " ++ sourceLabel nextSource ++ "."))

def isStandardRecipe (recipe : CostCardRecipe) : Bool :=
  ["全局（标准配方）", "标准配方"].contains (recipe.textOf "recipe_type")

def isExceptionRecipe (recipe : CostCardRecipe) : Bool :=
  ["特定（例外配方）", "例外配方"].contains (recipe.textOf "recipe_type")

/-- A standard recipe names stores, or an exception names none. -/
def storesMisplaced (recipe : CostCardRecipe) : Bool :=
  (isStandardRecipe recipe && !recipe.stores.isEmpty) ||
    (isExceptionRecipe recipe && recipe.stores.isEmpty)

/-- The type and the name, by which the recipes of a card are told apart. -/
def CostCardRecipe.key (recipe : CostCardRecipe) : String × String :=
  (recipe.textOf "recipe_type", recipe.textOf "recipe_name")

/-- A recipe of a card, with the row it was first found in. -/
structure GroupedRecipe where
  recipe : CostCardRecipe
  source : StructuredImportRow

/-- A card, with the row it was first found in. -/
structure GroupedCard where
  identity : CostCardIdentity
  card : Payload
  recipes : List GroupedRecipe
  source : StructuredImportRow

def GroupedCard.toCard (grouped : GroupedCard) : CanonicalCostCard :=
  ⟨grouped.identity, grouped.card, grouped.recipes.map (·.recipe)⟩

structure GroupState where
  cards : List GroupedCard := []
  issues : IssueList := {}

/-- The item of a row as it stands in its recipe. -/
def itemOfRow (row : StructuredImportRow) (candidate : CostCardRecipe) : CostCardItem where
  fields := (candidate.items.head?.map (·.fields)).getD []
  source := some (sourceFor row)
  sourceStoresText := candidate.fields.get "source_stores_text"

/-- A row whose values are all accepted: `single` is the card of the row alone, and `candidate`
its recipe. -/
def groupRow (state : GroupState) (row : StructuredImportRow) (single : CanonicalCostCard)
    (candidate : CostCardRecipe) : Except String GroupState := do
  let label := identityLabel row.payload
  let misplaced := if storesMisplaced candidate then
      [rowIssue row (some "source_stores_text") (label ++ " at " ++ sourceLabel row ++
        ": standard stores must be empty; exception stores must be explicit.")]
    else []
  let fresh : GroupedCard := ⟨single.identity, single.card, [], row⟩
  let card := (state.cards.find? fun card => card.identity = single.identity).getD fresh
  let cardIssues ← compareCommon card.card single.card .card card.source row label
  let freshRecipe : GroupedRecipe := ⟨{ candidate with items := [] }, row⟩
  let recipe := (card.recipes.find? fun grouped => grouped.recipe.key = candidate.key).getD
    freshRecipe
  let recipeIssues ← compareCommon recipe.recipe.fields candidate.fields .recipe recipe.source
    row label
  let extend (grouped : GroupedRecipe) : GroupedRecipe :=
    { grouped with
      recipe := { grouped.recipe with
        items := grouped.recipe.items ++ [itemOfRow row candidate] } }
  let extendCard (grouped : GroupedCard) : GroupedCard :=
    { grouped with
      recipes := updateOrAppend (fun other => other.recipe.key = candidate.key) extend
        (extend freshRecipe) grouped.recipes }
  .ok
    { cards := updateOrAppend (fun other => other.identity = single.identity) extendCard
        (extendCard fresh) state.cards
      issues := state.issues.addAll (misplaced ++ cardIssues ++ recipeIssues) }

def addCostCardRow (enterpriseKey : String) (state : GroupState) (row : StructuredImportRow) :
    Except String GroupState :=
  match fieldErrors row.payload with
  | [] => do
    let normalized := normalizedPayload row.payload
    let single ← costCardFromRow normalized
      ⟨enterpriseKey, fieldText normalized "spu_id", fieldText normalized "sku_id"⟩
    let candidate ← costCardRecipeFromRow normalized
    groupRow state row single candidate
  | errors => .ok { state with
      issues := state.issues.addAll (errors.map fun error =>
        rowIssue row (some error.1.canonicalName) (identityLabel row.payload ++ " " ++
          error.1.canonicalName ++ " at " ++ sourceLabel row ++ ": " ++ error.2)) }

/-- Where a file has no rows, the issue is reported at the first row of `Sheet1`. -/
def noRows : StructuredImportRow := ⟨0, "Sheet1", 1, []⟩

def groupCostCardRows (rows : List StructuredImportRow) (enterpriseKey : String) :
    Except String CostCardParseResult :=
  if enterpriseKey = "" || 191 < unitLength enterpriseKey then
    .error "Valid enterpriseKey is required."
  else if inputRowLimit < rows.length then .error "Cost card item row limit exceeded."
  else do
    let state ← rows.foldlM (addCostCardRow enterpriseKey) {}
    let issues :=
      if rows = [] then
        state.issues.add (rowIssue noRows none "Cost card requires at least one item row.")
      else state.issues
    .ok
      { cards :=
          if issues.count ≠ 0 then []
          else (state.cards.map GroupedCard.toCard).insertionSort
            fun a b => stringLe a.identity.stringify b.identity.stringify
        inputCardCount := state.cards.length
        inputItemRowCount := rows.length
        validationErrors := issues.issues
        validationErrorCount := issues.count
        validationErrorsTruncated := maxRetainedValidationErrors < issues.count }

/-! ### Files -/

/-- The sheets of a cost card file; a text has one, without its blank rows. -/
structure CostCardSheet where
  name : String
  hidden : Bool
  rows : List (List String)
  sourceRowNumbers : Option (List ℕ) := none

/-- The records of a text that are kept, with their numbers. -/
def csvRow (maximumRows maximumCellChars : ℕ) (kept : List (List String × ℕ))
    (record : List String × ℕ) : Except String (List (List String × ℕ)) :=
  if 1 < record.2 && record.1.all isBlank then .ok kept
  else if maximumRows ≤ kept.length then .error "Cost card source row limit exceeded."
  else if record.1.any fun v => maximumCellChars < unitLength v then
    .error "Structured cell length limit exceeded."
  else .ok (kept ++ [record])

def csvRows {Content : Type} (reader : FileReader Content) (content : Content)
    (maximumRows maximumCellChars : ℕ) : Except String (List (List String × ℕ)) :=
  if reader.includesZero content then .error "CSV content must be UTF-8 text."
  else match reader.decode content with
    | none => .error "The encoded data was not valid for encoding utf-8"
    | some decoded => do
      let records ← reader.parseCsv (some (maximumCellChars * 38)) decoded
      (records.zipIdx 1).foldlM (csvRow maximumRows maximumCellChars) []

def readCostCardSheets {Content : Type} (reader : FileReader Content)
    (input : ParseStructuredFileInput Content) (rowLimit : ℕ) :
    Except String (List CostCardSheet) :=
  match input.fileType with
  | .xlsx => do
    let sheets ← reader.readXlsxRows input.content input.limits
      { preserveNumericText := true, maxRows := some 1048576 }
    .ok (sheets.map fun sheet => ⟨sheet.name, sheet.hidden, sheet.rows, none⟩)
  | .csv => do
    let rows ← csvRows reader input.content (rowLimit + 1) input.limits.maxStructuredCellChars
    .ok [⟨"Sheet1", false, rows.map (·.1), some (rows.map (·.2))⟩]

def isCandidateHeader (cells : List String) : Bool :=
  let names := cells.map trimText
  names.contains "菜品SPU编码" || names.contains "菜品SKU编码" ||
    2 ≤ (costCardUploadSchema.filter fun f => names.contains f.sourceColumn).length

/-- The index of the row that has the headers of a sheet. -/
def candidateRow (fileType : FileType) (rows : List (List String)) : Option ℕ :=
  match fileType with
  | .csv => some 0
  | .xlsx => (rows.take 10).findIdx? isCandidateHeader

structure CostCardWalk where
  result : StructuredParseResult := {}
  issues : IssueList := {}
  itemRowCount : ℕ := 0

/-- The cell of a field in a row. -/
def cellOf (mappings : List HeaderMapping) (cells : List String) (name : String) :
    Option String :=
  (mappings.find? fun f => f.canonicalName = name).bind fun mapping =>
    cells[mapping.sourceColumnIndex]?

/-- A data row, with its index. What is thrown comes with the state it was thrown in. -/
def addItemRow (rowLimit : ℕ) (sheetIndex : ℕ) (sheet : CostCardSheet)
    (mappings : List HeaderMapping) (walk : CostCardWalk) (row : List String × ℕ) :
    Except (CostCardWalk × String) CostCardWalk :=
  let walk := { walk with itemRowCount := walk.itemRowCount + 1 }
  if rowLimit < walk.itemRowCount then .error (walk, "Cost card item row limit exceeded.")
  else
    let sourceRowNumber := (sheet.sourceRowNumbers.bind (·[row.2]?)).getD (row.2 + 1)
    let issue (code message : String) (column : Option String) : StructuredValidationIssue :=
      { code, message, sheetName := some sheet.name, sheetIndex := some sheetIndex
        rowNumber := some sourceRowNumber, column }
    if exceedsWidth row.1 35 then
      .ok { walk with
        issues := walk.issues.add
          (issue "EXTRA_DATA_COLUMN" "Row exceeds the 35-column upload header." none) }
    else
      let cells : Payload := costCardUploadSchema.map fun field =>
        (field.canonicalName, .text ((cellOf mappings row.1 field.canonicalName).getD ""))
      let label := (cellOf mappings row.1 "spu_id").getD "undefined" ++ "/" ++
        (cellOf mappings row.1 "sku_id").getD "undefined"
      .ok { walk with
        result := { walk.result with
          rows := walk.result.rows ++
            [⟨sheetIndex, sheet.name, sourceRowNumber, normalizedPayload cells⟩] }
        issues := walk.issues.addAll ((fieldErrors cells).map fun error =>
          issue "INVALID_FIELD_VALUE"
            (label ++ " " ++ error.1.canonicalName ++ ": " ++ error.2)
            (some error.1.canonicalName)) }

/-- The rows after the header that are not blank, with their indices. -/
def itemRows (sheet : CostCardSheet) (candidate : ℕ) : List (List String × ℕ) :=
  (sheet.rows.zipIdx.drop (candidate + 1)).filter fun row => row.1.any fun v => !isBlank v

/-- A sheet that is not empty, with its index. -/
def addCostCardSheet (fileType : FileType) (rowLimit : ℕ) (walk : CostCardWalk)
    (indexed : CostCardSheet × ℕ) : Except (CostCardWalk × String) CostCardWalk :=
  let (sheet, sheetIndex) := indexed
  if isEmpty sheet.rows then .ok walk
  else match candidateRow fileType sheet.rows with
    | none => .ok { walk with
        result := { walk.result with
          ignoredSheets := walk.result.ignoredSheets ++ [⟨sheetIndex, sheet.name⟩] } }
    | some candidate =>
      let issue (code message : String) (column : Option String) : StructuredValidationIssue :=
        { code, message, sheetName := some sheet.name, sheetIndex := some sheetIndex
          rowNumber := some (candidate + 1), column }
      if sheet.hidden then
        .ok { walk with
          issues := walk.issues.add (issue "HIDDEN_SHEET"
            "Hidden cost-card candidate sheet is not allowed." none) }
      else match resolveStructuredHeaders .costCards (sheet.rows[candidate]?.getD []) with
        | .error errors => .ok { walk with
            issues := walk.issues.addAll (errors.map fun error =>
              issue error.code.text (error.code.text ++ ": " ++ error.column)
                (some error.column)) }
        | .ok mappings => do
          let items := itemRows sheet candidate
          let walk ← items.foldlM (addItemRow rowLimit sheetIndex sheet mappings) walk
          .ok { walk with
            result := { walk.result with
              sheetSummary := walk.result.sheetSummary ++
                [⟨sheetIndex, sheet.name, false, candidate + 1, some 35, items.length⟩] } }

/-- The checks of the rows of all sheets together. -/
def checkCostCardRows (walk : CostCardWalk) : Except (CostCardWalk × String) CostCardWalk :=
  let issues :=
    if walk.result.sheetSummary = [] || walk.result.rows = [] then
      walk.issues.add
        { code := "EMPTY_COST_CARDS", message := "Workbook has no valid cost-card item rows." }
    else walk.issues
  let walk := { walk with issues }
  if issues.count ≠ 0 then .ok walk
  else match groupCostCardRows walk.result.rows "validation" with
    | .error message => .error (walk, message)
    | .ok grouped => .ok { walk with
        issues := ⟨grouped.validationErrors, grouped.validationErrorCount⟩ }

def walkCostCardFile {Content : Type} (reader : FileReader Content)
    (input : ParseStructuredFileInput Content) : Except (CostCardWalk × String) CostCardWalk :=
  if fileExtension input.fileName ≠ input.fileType.text then
    .error ({}, "File name and file type disagree.")
  else if maxUploadBytes < reader.byteLength input.content then
    .error ({}, "Cost card source exceeds 50 MiB.")
  else if input.startDate.isSome || input.endDate.isSome then
    .error ({}, "Cost card uploads do not accept a date window.")
  else
    let rowLimit := min input.limits.maxStructuredImportRows inputRowLimit
    match readCostCardSheets reader input rowLimit with
    | .error message => .error ({}, message)
    | .ok sheets => do
      let walk ← sheets.zipIdx.foldlM (addCostCardSheet input.fileType rowLimit) {}
      checkCostCardRows walk

/-- The walk as it ended, with what was thrown as an issue. -/
def CostCardWalk.settle : Except (CostCardWalk × String) CostCardWalk → CostCardWalk
  | .ok walk => walk
  | .error (walk, message) =>
    { walk with issues := walk.issues.add { code := "INVALID_FILE", message } }

def parseCostCardFile {Content : Type} (reader : FileReader Content)
    (input : ParseStructuredFileInput Content) : Except String StructuredParseResult :=
  let walk := CostCardWalk.settle (walkCostCardFile reader input)
  let result : StructuredParseResult :=
    { walk.result with
      rows := if walk.issues.count ≠ 0 then [] else walk.result.rows
      validationErrors := walk.issues.issues
      validationErrorCount := walk.issues.count
      validationErrorsTruncated := maxRetainedValidationErrors < walk.issues.count }
  if walk.issues.count ≠ 0 && input.validationMode ≠ some .collect then
    .error ((walk.issues.issues.head?.map (·.message)).getD "Invalid cost card input.")
  else .ok result

end Import
end SmeDataCenter
