import SmeDataCenter.StructuredFiles

/-!
# Profiling a structured file

A profile names the sheets of a file that would be imported, with their header rows and the number
of their data rows, without reading the values. It walks over the sheets on its own, and stops at
the first thing that is wrong.
-/

namespace SmeDataCenter
namespace Import

open StructuredQuery (StructuredDatasetName)

structure StructuredSheetProfile where
  sheetIndex : ℕ
  name : String
  hidden : Bool
  headerRowNumber : ℕ
  columnCount : ℕ
  dataRowCount : ℕ
  validationErrors : List HeaderValidationError := []
  deriving DecidableEq

structure StructuredWorkbookProfile where
  dataset : StructuredDatasetName
  fileName : String
  sheets : List StructuredSheetProfile
  ignoredEmptySheets : List String
  derivedMetadata : Option StructuredDerivedMetadata := none

structure ProfileWalk where
  sheets : List StructuredSheetProfile := []
  ignoredEmptySheets : List String := []
  dataRowCount : ℕ := 0
  matchedSheetCount : ℕ := 0
  deriving DecidableEq

/-- A sheet has been matched. -/
def ProfileWalk.withSheet (walk : ProfileWalk) (sheet : StructuredSheetRows)
    (headerIndex width dataRowCount : ℕ) : ProfileWalk :=
  { walk with
    matchedSheetCount := walk.matchedSheetCount + 1
    dataRowCount := walk.dataRowCount + dataRowCount
    sheets := walk.sheets ++
      [{ sheetIndex := sheet.sheetIndex, name := sheet.name, hidden := sheet.hidden
         headerRowNumber := headerIndex + 1, columnCount := width, dataRowCount }] }

/-- A sheet whose headers have been found, or not. -/
def profileImportSheet (dataset : StructuredDatasetName) (maxRows : ℕ)
    (sheet : StructuredSheetRows) (candidate : Option HeaderCandidate) (walk : ProfileWalk) :
    Except String ProfileWalk :=
  if sheet.hidden then .error ("Hidden non-empty sheet " ++ sheet.name ++ " is not allowed.")
  else match candidate.filter fun c => c.resolution.isOk with
    | none =>
      .error ("VALIDATION_FAILED: " ++ sheet.name ++ " has no recognized " ++ dataset.text ++
        " header")
    | some candidate =>
      let data := dataRowsFor dataset sheet.rows candidate.index
      match data.find? fun item => exceedsWidth item.row candidate.width with
      | some item => .error (extraDataColumn item.sourceRowNumber)
      | none =>
        if maxRows < walk.dataRowCount + data.length then
          .error "Structured import row limit exceeded."
        else .ok (walk.withSheet sheet candidate.index candidate.width data.length)

def profileSheet (dataset : StructuredDatasetName) (maxRows : ℕ) (walk : ProfileWalk)
    (sheet : StructuredSheetRows) : Except String ProfileWalk :=
  if isEmpty sheet.rows then
    .ok { walk with ignoredEmptySheets := walk.ignoredEmptySheets ++ [sheet.name] }
  else
    let candidate := findHeader dataset sheet.rows
    if (getImportRegistry dataset).sheetPolicy = .importMatchingVisible then
      if sheet.hidden then
        if isMatching candidate && dataset ≠ .supplierCatalog then
          .error ("Matching hidden sheet " ++ sheet.name ++ " is not allowed.")
        else .ok walk
      else if !isMatching candidate then .ok walk
      else profileImportSheet dataset maxRows sheet candidate walk
    else profileImportSheet dataset maxRows sheet candidate walk

/-- What is wrong with a workbook as a whole. -/
def checkProfile (dataset : StructuredDatasetName) (walk : ProfileWalk) :
    Except String ProfileWalk :=
  let policy := (getImportRegistry dataset).sheetPolicy
  if policy = .importMatchingVisible && walk.matchedSheetCount = 0 then
    .error "Workbook has no matching visible import sheets."
  else if dataset = .supplierCatalog && 1 < walk.matchedSheetCount then
    .error "Supplier catalog file must contain exactly one recognized worksheet."
  else if policy = .importMatchingVisible && walk.dataRowCount = 0 then
    .error "Catalog snapshot contains no rows."
  else .ok walk

def profileOfSummary (summary : StructuredSheetSummary) : StructuredSheetProfile where
  sheetIndex := summary.sheetIndex
  name := summary.name
  hidden := summary.hidden
  headerRowNumber := summary.headerRowNumber
  columnCount := summary.columnCount.getD 0
  dataRowCount := summary.dataRowCount

variable {Content : Type}

/-- `profileStructuredFile`, whose input has no dates. -/
def profileStructuredFile (reader : FileReader Content) (entryId : ℕ → String)
    (input : ParseStructuredFileInput Content) : Except String StructuredWorkbookProfile :=
  if (getImportRegistry input.dataset).metadataPolicy = .derivedReceipt then do
    let result ← parseStructuredFile reader entryId
      { input with startDate := none, endDate := none }
    .ok ⟨input.dataset, input.fileName, result.sheetSummary.map profileOfSummary, [],
      result.derivedMetadata⟩
  else do
    assertFileType reader input
    let sheets ← readStructuredSheets reader input
    let walk ← sheets.foldlM (profileSheet input.dataset input.limits.maxStructuredImportRows) {}
    let walk ← checkProfile input.dataset walk
    .ok ⟨input.dataset, input.fileName, walk.sheets, walk.ignoredEmptySheets, none⟩

/-! ### Agreement -/

/-- What a profile and a parse both say about a sheet. -/
structure SheetFacts where
  sheetIndex : ℕ
  name : String
  hidden : Bool
  headerRowNumber : ℕ
  dataRowCount : ℕ

def StructuredSheetProfile.facts (sheet : StructuredSheetProfile) : SheetFacts :=
  ⟨sheet.sheetIndex, sheet.name, sheet.hidden, sheet.headerRowNumber, sheet.dataRowCount⟩

def StructuredSheetSummary.facts (sheet : StructuredSheetSummary) : SheetFacts :=
  ⟨sheet.sheetIndex, sheet.name, sheet.hidden, sheet.headerRowNumber, sheet.dataRowCount⟩

/-- The profile succeeds, with the sheets of the parse. -/
def ProfileAgrees (profile : Except String StructuredWorkbookProfile)
    (result : StructuredParseResult) : Prop :=
  ∃ p, profile = .ok p ∧
    p.sheets.map StructuredSheetProfile.facts = result.sheetSummary.map StructuredSheetSummary.facts

/-- A sheet that is not empty nor hidden, with headers that resolve. -/
def isImportable (dataset : StructuredDatasetName) (sheet : StructuredSheetRows) : Bool :=
  !isEmpty sheet.rows && !sheet.hidden && isMatching (findHeader dataset sheet.rows)

/-- The facts of a sheet by its header row. -/
def sheetFacts (dataset : StructuredDatasetName) (sheet : StructuredSheetRows) :
    Option SheetFacts :=
  if isEmpty sheet.rows then none
  else (findHeader dataset sheet.rows).map fun candidate =>
    ⟨sheet.sheetIndex, sheet.name, sheet.hidden, candidate.index + 1,
      (dataRowsFor dataset sheet.rows candidate.index).length⟩

/-- The facts of a sheet of a cost card file by its candidate row. -/
def costCardSheetFacts (fileType : FileType) (indexed : CostCardSheet × ℕ) : Option SheetFacts :=
  if isEmpty indexed.1.rows then none
  else (candidateRow fileType indexed.1.rows).map fun candidate =>
    ⟨indexed.2, indexed.1.name, false, candidate + 1, (itemRows indexed.1 candidate).length⟩

/-- Do the data rows of a sheet stay within its headers? -/
def withinWidth (dataset : StructuredDatasetName) (sheet : StructuredSheetRows) : Bool :=
  (findHeader dataset sheet.rows).all fun candidate =>
    (dataRowsFor dataset sheet.rows candidate.index).all fun item =>
      !exceedsWidth item.row candidate.width

/-- A cost card file whose sheets are the same for both readings: the one that a profile makes
has only importable sheets, with the headers and as many rows as the other one. -/
def CostCardSheetsAgree (reader : FileReader Content) (input : ParseStructuredFileInput Content) :
    Prop :=
  assertFileType reader input = .ok () ∧
    ∃ sheets cards, readStructuredSheets reader input = .ok sheets ∧
      readCostCardSheets reader input (min input.limits.maxStructuredImportRows inputRowLimit) =
        .ok cards ∧
      (∀ sheet ∈ sheets, isEmpty sheet.rows = false →
        isImportable .costCards sheet = true ∧ withinWidth .costCards sheet = true) ∧
      sheets.filterMap (sheetFacts .costCards) =
        cards.zipIdx.filterMap (costCardSheetFacts input.fileType)

/-- When a profile can follow a parse: a supplier catalog has a visible sheet that matches, and the
two readings of a cost card file agree. -/
def Profilable (reader : FileReader Content) (input : ParseStructuredFileInput Content) : Prop :=
  match input.dataset with
  | .supplierCatalog => ∃ sheets, readStructuredSheets reader input = .ok sheets ∧
      ∃ sheet ∈ sheets, isImportable .supplierCatalog sheet = true
  | .costCards => CostCardSheetsAgree reader input
  | _ => True

end Import
end SmeDataCenter
