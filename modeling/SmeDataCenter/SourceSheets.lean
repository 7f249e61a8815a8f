import SmeDataCenter.CostCards

/-!
# Source files and their sheets

What a structured import is given, and what reading its file comes to. The bytes of a file are
seen through a reader: their number, their decoded text, the records of that text, and the sheets
of a workbook. The issues that are found are counted; the first hundred of them are retained.
-/

namespace SmeDataCenter
namespace Import

open StructuredQuery (StructuredDatasetName)

structure StructuredIngestionLimits where
  maxStructuredImportRows : ℕ
  maxXlsxSheets : ℕ
  maxStructuredCellChars : ℕ
  maxXlsxUncompressedBytes : ℕ
  maxXlsxZipEntries : ℕ
  maxXlsxCompressionRatio : ℕ

inductive FileType where
  | csv
  | xlsx
  deriving DecidableEq

def FileType.text : FileType → String
  | .csv => "csv"
  | .xlsx => "xlsx"

inductive ValidationMode where
  | throw
  | collect
  deriving DecidableEq

structure ParseStructuredFileInput (Content : Type) where
  dataset : StructuredDatasetName
  fileName : String
  fileType : FileType
  content : Content
  startDate : Option String := none
  endDate : Option String := none
  limits : StructuredIngestionLimits
  validationMode : Option ValidationMode := none

/-! ### Reading -/

structure XlsxSheetRows where
  name : String
  hidden : Bool
  rows : List (List String)

/-- How a workbook is read: whether numbers keep the text they are stored as, and how many rows a
sheet may have. -/
structure XlsxReadOptions where
  preserveNumericText : Bool := false
  maxRows : Option ℕ := none

/-- What is read from the bytes of a file. -/
structure FileReader (Content : Type) where
  /-- `content.length` -/
  byteLength : Content → ℕ
  /-- Are the first four bytes those of a ZIP file? -/
  hasZipSignature : Content → Bool
  /-- `content.includes(0)` -/
  includesZero : Content → Bool
  /-- `new TextDecoder("utf-8", { fatal: true }).decode(content)` -/
  decode : Content → Option String
  /-- The records of a text, none of more than `max_record_size`. -/
  parseCsv : Option ℕ → String → Except String (List (List String))
  readXlsxRows : Content → StructuredIngestionLimits → XlsxReadOptions →
    Except String (List XlsxSheetRows)

structure StructuredSheetRows extends XlsxSheetRows where
  sheetIndex : ℕ

/-! ### Cells -/

/-- `!cell.trim()` -/
def isBlank (cell : String) : Bool := trimText cell = ""

def isEmpty (rows : List (List String)) : Bool := rows.all fun row => row.all isBlank

def trimTail (row : List String) : List String := row.rdropWhile isBlank

/-- `row.length > width && row.slice(width).some((value) => value.trim())` -/
def exceedsWidth (row : List String) (width : ℕ) : Bool := (row.drop width).any fun v => !isBlank v

/-- `fileName.split(".").pop()?.toLowerCase()` -/
def fileExtension (fileName : String) : String :=
  asciiLower (String.ofList ((fileName.toList.splitOn '.').getLastD []))
where
  asciiLower (s : String) : String := String.ofList (s.toList.map Char.toLower)

/-! ### Results -/

structure StructuredImportRow where
  sourceSheetIndex : ℕ
  sourceSheetName : String
  sourceRowNumber : ℕ
  payload : Payload
  deriving DecidableEq

structure StructuredSheetSummary where
  sheetIndex : ℕ
  name : String
  hidden : Bool
  headerRowNumber : ℕ
  columnCount : Option ℕ := none
  dataRowCount : ℕ
  deriving DecidableEq

/-- A sheet whose headers do not match: `SCHEMA_NOT_MATCHED`. -/
structure IgnoredStructuredSheet where
  sheetIndex : ℕ
  name : String
  deriving DecidableEq

structure StructuredValidationIssue where
  code : String
  message : String
  sheetName : Option String := none
  sheetIndex : Option ℕ := none
  rowNumber : Option ℕ := none
  column : Option String := none
  deriving DecidableEq

def maxRetainedValidationErrors : ℕ := 100

/-- Issues: how many there are, and the first of them. -/
structure IssueList where
  issues : List StructuredValidationIssue := []
  count : ℕ := 0

def IssueList.add (list : IssueList) (issue : StructuredValidationIssue) : IssueList where
  issues :=
    if list.issues.length < maxRetainedValidationErrors then list.issues ++ [issue]
    else list.issues
  count := list.count + 1

def IssueList.addAll (list : IssueList) (issues : List StructuredValidationIssue) : IssueList :=
  issues.foldl IssueList.add list

@[simp] lemma IssueList.count_add (list : IssueList) (issue : StructuredValidationIssue) :
    (list.add issue).count = list.count + 1 := rfl

@[simp] lemma IssueList.count_addAll (list : IssueList)
    (issues : List StructuredValidationIssue) :
    (list.addAll issues).count = list.count + issues.length := by
  induction issues generalizing list with
  | nil => rfl
  | cons issue issues ih =>
    have hstep : list.addAll (issue :: issues) = (list.add issue).addAll issues := rfl
    rw [hstep, ih, count_add, List.length_cons]
    omega

structure StructuredDerivedMetadata where
  receiptId : String
  receiptDate : String
  deriving DecidableEq

structure StructuredParseResult where
  sheetSummary : List StructuredSheetSummary := []
  ignoredSheets : List IgnoredStructuredSheet := []
  rows : List StructuredImportRow := []
  validationErrors : List StructuredValidationIssue := []
  validationErrorCount : ℕ := 0
  validationErrorsTruncated : Bool := false
  derivedMetadata : Option StructuredDerivedMetadata := none
  deriving DecidableEq

end Import
end SmeDataCenter
