import SmeDataCenter.CostCardRows

/-!
# Parsing a structured file

A file is parsed sheet by sheet: the header of a sheet is found, its rows become payloads, and
what is wrong is collected. A delivery ledger has one receipt in one sheet. In the mode that
throws, a file with any issue is refused with the text of the first one.
-/

namespace SmeDataCenter
namespace Import

open StructuredQuery (StructuredDatasetName StructuredFieldType)

/-! ### Dates -/

/-- A point in time, as `Date.UTC` takes it. -/
structure UtcTime where
  year : ℕ
  month : ℕ
  day : ℕ
  hour : ℕ := 0
  minute : ℕ := 0
  second : ℕ := 0
  deriving DecidableEq

/-- A number that grows with the time: `getTime()` up to its unit and origin. -/
def UtcTime.order (t : UtcTime) : ℕ :=
  ((((t.year * 13 + t.month) * 32 + t.day) * 24 + t.hour) * 60 + t.minute) * 60 + t.second

/-- A given number of digits. -/
def takeDigits (n : ℕ) (text : Text) : Option (ℕ × Text) :=
  if n ≤ text.length && (text.take n).all Text.isDigit then
    some (digitsValue (text.take n), text.drop n)
  else none

def takeChar (p : Char → Bool) : Text → Option Text
  | c :: rest => if p c then some rest else none
  | [] => none

/-- `(\d{4})(?:(\d{2})(\d{2})|-(\d{2})-(\d{2})|/(\d{2})/(\d{2}))` -/
def takeDate (text : Text) : Option (UtcTime × Text) := do
  let (year, rest) ← takeDigits 4 text
  let separator := rest.head?.filter fun c => c = '-' || c = '/'
  let skip (rest : Text) : Option Text :=
    separator.elim (some rest) fun s => takeChar (· = s) rest
  let (month, rest) ← takeDigits 2 (← skip rest)
  let (day, rest) ← takeDigits 2 (← skip rest)
  some ({ year, month, day }, rest)

/-- `(?::(\d{2}))?` -/
def takeSeconds (text : Text) : ℕ × Text :=
  match (takeChar (· = ':') text).bind (takeDigits 2) with
  | some seconds => seconds
  | none => (0, text)

/-- `(?:[T ](\d{2}):(\d{2})(?::(\d{2}))?)` -/
def takeTime (date : UtcTime) (text : Text) : Option (UtcTime × Text) := do
  let (hour, rest) ← takeDigits 2 (← takeChar (fun c => c = 'T' || c = ' ') text)
  let (minute, rest) ← takeDigits 2 (← takeChar (· = ':') rest)
  let (second, rest) := takeSeconds rest
  some ({ date with hour, minute, second }, rest)

/-- Does `Date.UTC` give the parts back? The years before 100 stand for others. -/
def UtcTime.isReal (t : UtcTime) : Bool :=
  100 ≤ t.year && isCalendarDay t.year t.month t.day && t.hour < 24 && t.minute < 60 &&
    t.second < 60

def parseDate (text : String) (dateTime : Bool) : Option UtcTime := do
  let (date, rest) ← takeDate text.toList
  let (time, rest) ← if dateTime then takeTime date rest else some (date, rest)
  if rest = [] && time.isReal then some time else none

def padTwo (n : ℕ) : String := if n < 10 then "0" ++ toString n else toString n

def dateString (t : UtcTime) : String :=
  toString t.year ++ "-" ++ padTwo t.month ++ "-" ++ padTwo t.day

def dateTimeString (t : UtcTime) : String :=
  dateString t ++ "T" ++ padTwo t.hour ++ ":" ++ padTwo t.minute ++ ":" ++ padTwo t.second

structure DateWindow where
  start : UtcTime
  finish : UtcTime

def dateWindow (start finish : Option String) : Except String DateWindow :=
  match start.bind (parseDate · false), finish.bind (parseDate · false) with
  | some start, some finish =>
    if finish.order < start.order then
      .error "startDate and endDate must be valid YYYYMMDD dates."
    else .ok ⟨start, finish⟩
  | _, _ => .error "startDate and endDate must be valid YYYYMMDD dates."

/-! ### Cells -/

/-- The sign of a numeral, and what follows it. -/
def splitSign : Text → Bool × Text
  | '-' :: text => (true, text)
  | '+' :: text => (false, text)
  | text => (false, text)

/-- `/^[+-]?\d+$/` -/
def isIntegerText (text : Text) : Bool :=
  (splitSign text).2 ≠ [] && (splitSign text).2.all Text.isDigit

/-- `/^[+-]?(?:\d+(?:\.\d+)?|\.\d+)$/` -/
def isDecimalText (text : Text) : Bool :=
  let digits := (splitSign text).2.takeWhile Text.isDigit
  match (splitSign text).2.dropWhile Text.isDigit with
  | [] => digits ≠ []
  | '.' :: fraction => fraction ≠ [] && fraction.all Text.isDigit
  | _ => false

def maxSafeInteger : ℕ := 2 ^ 53 - 1

/-- From here on the number nearest to a numeral is infinite. -/
def infiniteFrom : ℕ := 2 ^ 1024 - 2 ^ 970

/-- The digits of a numeral before its point. -/
def integerDigits (text : Text) : Text := (splitSign text).2.takeWhile Text.isDigit

def parseCell (field : ImportField) (value : String) : Except String PayloadValue :=
  let text := trimText value
  let refused (reason : String) : Except String PayloadValue :=
    .error (field.canonicalName ++ reason)
  let parseNumber (numeral : Text) : Except String PayloadValue :=
    if !isDecimalText numeral then refused " must be numeric."
    else if infiniteFrom ≤ digitsValue (integerDigits numeral) then refused " must be numeric."
    else .ok (.number (String.ofList numeral))
  if text = "" then
    if field.nullable then .ok .null else refused " is required."
  else match field.type with
    | .integer =>
      if !isIntegerText text.toList then refused " must be an integer."
      else if maxSafeInteger < digitsValue (integerDigits text.toList) then
        refused " must be a safe integer."
      else .ok (.number text)
    | .decimal => parseNumber text.toList
    | .percent =>
      parseNumber (if text.toList.getLast? = some '%' then text.toList.dropLast else text.toList)
    | .date =>
      match parseDate text false with
      | none => refused " must be a date."
      | some date => .ok (.text (dateString date))
    | .dateTime =>
      match parseDate text true with
      | none => refused " must be a date."
      | some date => .ok (.text (dateTimeString date))
    | _ => .ok (.text text)

/-- The values of named cells, and what is wrong with them. -/
def parseCells (fields : List ImportField) (cells : List (String × String)) :
    Payload × List (String × String) :=
  cells.foldl (fun parsed cell =>
    match fields.find? fun field => field.canonicalName = cell.1 with
    | none => parsed
    | some field =>
      match parseCell field cell.2 with
      | .ok value => (parsed.1.set cell.1 value, parsed.2)
      | .error message => (parsed.1, parsed.2 ++ [(cell.1, message)])) ([], [])

def payloadFor (dataset : StructuredDatasetName) (mappings : List HeaderMapping)
    (row : List String) : Payload × List (String × String) :=
  parseCells (getImportRegistry dataset).fields (mappings.map fun mapping =>
    (mapping.canonicalName, row[mapping.sourceColumnIndex]?.getD ""))

/-! ### Headers and data rows -/

structure HeaderCandidate where
  index : ℕ
  width : ℕ
  resolution : Except (List HeaderValidationError) (List HeaderMapping)

/-- `candidate?.resolution.ok === true` -/
def isMatching (candidate : Option HeaderCandidate) : Bool :=
  candidate.any fun c => c.resolution.isOk

/-- Is one of the headers known for suppliers? -/
def supplierHeaderSignal (dataset : StructuredDatasetName) (headers : List String) : Bool :=
  dataset = .supplierCatalog && headers.any fun header =>
    (getImportRegistry .supplierCatalog).fields.any fun field => field.aliases.contains header

/-- The first row whose headers resolve, or else the row that came closest. -/
def findHeaderFrom (dataset : StructuredDatasetName) (index : ℕ)
    (fallback : Option HeaderCandidate) : List (List String) → Option HeaderCandidate
  | [] => fallback
  | row :: rows =>
    let headers := trimTail row
    let candidate : HeaderCandidate :=
      ⟨index, headers.length, resolveStructuredHeaders dataset headers⟩
    if candidate.resolution.isOk then some candidate
    else
      let replaces := (fallback.isNone || supplierHeaderSignal dataset headers) &&
        headers.any fun value => value ≠ ""
      findHeaderFrom dataset (index + 1) (if replaces then some candidate else fallback) rows

def headerScanRows (dataset : StructuredDatasetName) : ℕ :=
  if dataset = .deliveryLedger || dataset = .supplierCatalog then 20 else 10

def findHeader (dataset : StructuredDatasetName) (rows : List (List String)) :
    Option HeaderCandidate :=
  findHeaderFrom dataset 0 none (rows.take (headerScanRows dataset))

def isSummary (row : List String) : Bool :=
  ["合计", "总计"].contains ((row.head?.map trimText).getD "")

structure DataRow where
  row : List String
  sourceRowNumber : ℕ

def dataRowsFor (dataset : StructuredDatasetName) (rows : List (List String)) (index : ℕ) :
    List DataRow :=
  ((rows.drop (index + 1)).mapIdx fun i row => (⟨row, index + i + 2⟩ : DataRow)).filter
    fun item => item.row.any (!isBlank ·) && (dataset = .dishCatalog || !isSummary item.row)

/-! ### Issues -/

/-- `ValidationIssueCollector` -/
structure ValidationIssueCollector extends IssueList where
  firstLegacyMessage : Option String := none

def ValidationIssueCollector.report (collector : ValidationIssueCollector)
    (issue : StructuredValidationIssue) (legacyMessage : String) : ValidationIssueCollector where
  toIssueList := collector.toIssueList.add issue
  firstLegacyMessage := some (collector.firstLegacyMessage.getD legacyMessage)

def finishParse (validationMode : Option ValidationMode) (result : StructuredParseResult)
    (collector : ValidationIssueCollector) : Except String StructuredParseResult :=
  if collector.count ≠ 0 && validationMode ≠ some .collect then
    .error (collector.firstLegacyMessage.getD "Structured import validation failed.")
  else .ok { result with
    validationErrors := collector.issues
    validationErrorCount := collector.count
    validationErrorsTruncated := maxRetainedValidationErrors < collector.count }

/-- An issue of a sheet. -/
def sheetIssue (sheet : StructuredSheetRows) (code message : String) (rowNumber : Option ℕ)
    (column : Option String) : StructuredValidationIssue :=
  { code, message, sheetName := some sheet.name, sheetIndex := some sheet.sheetIndex, rowNumber
    column }

def extraDataColumn (sourceRowNumber : ℕ) : String :=
  "Row " ++ toString sourceRowNumber ++ " has data outside the resolved header width."

/-! ### Files -/

variable {Content : Type}

def assertFileType (reader : FileReader Content) (input : ParseStructuredFileInput Content) :
    Except String Unit :=
  if fileExtension input.fileName ≠ input.fileType.text then
    .error "File name and file type disagree."
  else if input.fileType = .xlsx && !reader.hasZipSignature input.content then
    .error "XLSX file does not have a ZIP signature."
  else .ok ()

def checkedCellText (limits : StructuredIngestionLimits) (text : String) :
    Except String String :=
  if limits.maxStructuredCellChars < unitLength text then
    .error "Structured cell length limit exceeded."
  else .ok (trimText text)

def assertCsvUtf8Text (reader : FileReader Content) (content : Content) :
    Except String String :=
  if reader.includesZero content then .error "CSV content must be UTF-8 text."
  else match reader.decode content with
    | none => .error "CSV content must be UTF-8 text."
    | some decoded => .ok decoded

def parseCsvRows (reader : FileReader Content) (content : Content)
    (limits : StructuredIngestionLimits) : Except String (List (List String)) := do
  let decoded ← assertCsvUtf8Text reader content
  let records ← reader.parseCsv none decoded
  records.mapM fun row => row.mapM (checkedCellText limits)

def readStructuredSheets (reader : FileReader Content)
    (input : ParseStructuredFileInput Content) : Except String (List StructuredSheetRows) := do
  let sheets ←
    match input.fileType with
    | .csv => do
      let rows ← parseCsvRows reader input.content input.limits
      .ok [(⟨"Sheet1", false, rows⟩ : XlsxSheetRows)]
    | .xlsx => reader.readXlsxRows input.content input.limits {}
  .ok (sheets.mapIdx fun sheetIndex sheet => { sheet with sheetIndex })

/-- The window that the metadata of an import gives. -/
def importWindow (policy : MetadataPolicy) (start finish : Option String) :
    Except String (Option DateWindow) :=
  if policy = .window || policy = .snapshot then do
    let window ← dateWindow start finish
    if policy = .snapshot && window.start.order ≠ window.finish.order then
      .error "dish_catalog requires startDate and endDate to be the same snapshot date."
    else .ok (some window)
  else .ok none

/-! ### Sheets of rows -/

structure ParseWalk where
  sheetSummary : List StructuredSheetSummary := []
  ignoredSheets : List IgnoredStructuredSheet := []
  rows : List StructuredImportRow := []
  issues : ValidationIssueCollector := {}
  rowLimitReported : Bool := false
  matchedSheetCount : ℕ := 0
  matchingSheetFound : Bool := false
  matchingDataRowCount : ℕ := 0
  /-- The keys of `catalogSkuRows`. -/
  catalogSkus : List String := []

def ParseWalk.report (walk : ParseWalk) (issue : StructuredValidationIssue)
    (legacyMessage : String) : ParseWalk :=
  { walk with issues := walk.issues.report issue legacyMessage }

def ParseWalk.reportAll (walk : ParseWalk)
    (issues : List (StructuredValidationIssue × String)) : ParseWalk :=
  issues.foldl (fun walk issue => walk.report issue.1 issue.2) walk

/-- A sheet has been looked at. -/
def ParseWalk.look (walk : ParseWalk) (isMatchingSheet : Bool) : ParseWalk :=
  { walk with matchingSheetFound := walk.matchingSheetFound || isMatchingSheet }

/-- A sheet has been matched; its rows come next. -/
def ParseWalk.withSheet (walk : ParseWalk) (sheet : StructuredSheetRows)
    (headerIndex dataRowCount : ℕ) : ParseWalk :=
  { walk with
    matchedSheetCount := walk.matchedSheetCount + 1
    matchingDataRowCount := walk.matchingDataRowCount + dataRowCount
    sheetSummary := walk.sheetSummary ++
      [{ sheetIndex := sheet.sheetIndex, name := sheet.name, hidden := sheet.hidden
         headerRowNumber := headerIndex + 1, dataRowCount }] }

/-- Is a business date in the window of the import? -/
def inWindow (window : Option DateWindow) (payload : Payload) : Bool :=
  ((parseDate (labelPart payload "business_date") false).any fun date =>
    window.any fun window =>
      window.start.order ≤ date.order && date.order ≤ window.finish.order)

/-- A payload that was accepted: it becomes a row, unless there are too many or its key is
taken. -/
def addRow (dataset : StructuredDatasetName) (maxRows : ℕ) (sheet : StructuredSheetRows)
    (sourceRowNumber : ℕ) (walk : ParseWalk) (payload : Payload) : ParseWalk :=
  let skuId := ((payload.get "sku_id").map PayloadValue.toText).getD "undefined"
  if maxRows ≤ walk.rows.length then
    if walk.rowLimitReported then walk
    else { walk.report
        (sheetIssue sheet "ROW_LIMIT_EXCEEDED" "Structured import row limit exceeded."
          sourceRowNumber none) "Structured import row limit exceeded." with
      rowLimitReported := true }
  else if dataset = .dishCatalog && walk.catalogSkus.contains skuId then
    walk.report
      (sheetIssue sheet "DUPLICATE_KEY" "sku_id must be unique within a catalog snapshot."
        sourceRowNumber (some "sku_id"))
      ("Duplicate sku_id " ++ skuId ++ " in catalog snapshot.")
  else
    { walk with
      rows := walk.rows ++ [⟨sheet.sheetIndex, sheet.name, sourceRowNumber, payload⟩]
      catalogSkus :=
        if dataset = .dishCatalog then skuId :: walk.catalogSkus else walk.catalogSkus }

/-- A data row of a sheet whose headers have been resolved. -/
def addDataRow (dataset : StructuredDatasetName) (maxRows : ℕ) (window : Option DateWindow)
    (sheet : StructuredSheetRows) (width : ℕ) (mappings : List HeaderMapping)
    (walk : ParseWalk) (item : DataRow) : ParseWalk :=
  let datePolicy := (getImportRegistry dataset).datePolicy
  if exceedsWidth item.row width then
    walk.report
      (sheetIssue sheet "EXTRA_DATA_COLUMN" "Row has data outside the resolved header width."
        item.sourceRowNumber none) (extraDataColumn item.sourceRowNumber)
  else
    let (payload, errors) := payloadFor dataset mappings item.row
    if errors ≠ [] then
      walk.reportAll (errors.map fun error =>
        (sheetIssue sheet "INVALID_FIELD_VALUE" "Field value is invalid." item.sourceRowNumber
          (some error.1), error.2))
    else if datePolicy = some .rowBusinessDate && !inWindow window payload then
      walk.report
        (sheetIssue sheet "BUSINESS_DATE_OUTSIDE_WINDOW"
          "Business date is outside the import window." item.sourceRowNumber
          (some "business_date"))
        ("Row " ++ toString item.sourceRowNumber ++ " business_date is outside import window.")
    else
      let payload := match datePolicy, window with
        | some .snapshotMetadata, some window =>
          payload.set "snapshot_date" (.text (dateString window.start))
        | _, _ => payload
      addRow dataset maxRows sheet item.sourceRowNumber walk payload

/-- `safeHeaderColumn` -/
def safeHeaderColumn (error : HeaderValidationError) : Option String :=
  if error.code = .missingRequiredColumn then some error.column else none

def headerErrorTexts (errors : List HeaderValidationError) : String :=
  ",".intercalate (errors.map fun error => error.code.text ++ ":" ++ error.column)

/-- A sheet that is to be imported: it is visible, or its policy takes every sheet. -/
def addImportSheet (dataset : StructuredDatasetName) (maxRows : ℕ) (window : Option DateWindow)
    (sheet : StructuredSheetRows) (candidate : Option HeaderCandidate) (walk : ParseWalk) :
    ParseWalk :=
  if sheet.hidden then
    walk.report
      (sheetIssue sheet "HIDDEN_SHEET" "Non-empty hidden worksheets are not allowed." none none)
      ("Hidden non-empty sheet " ++ sheet.name ++ " is not allowed.")
  else match candidate with
    | none =>
      walk.report
        (sheetIssue sheet "UNRECOGNIZED_HEADER" "Worksheet has no recognized dataset header."
          none none)
        ("Sheet " ++ sheet.name ++ " has no recognized " ++ dataset.text ++ " header.")
    | some candidate =>
      match candidate.resolution with
      | .error errors =>
        walk.reportAll (errors.map fun error =>
          (sheetIssue sheet "INVALID_HEADER" "Worksheet header is invalid."
            (some (candidate.index + 1)) (safeHeaderColumn error),
           "Sheet " ++ sheet.name ++ " failed header validation: " ++ headerErrorTexts errors))
      | .ok mappings =>
        let data := dataRowsFor dataset sheet.rows candidate.index
        data.foldl (addDataRow dataset maxRows window sheet candidate.width mappings)
          (walk.withSheet sheet candidate.index data.length)

def addSheet (dataset : StructuredDatasetName) (maxRows : ℕ) (window : Option DateWindow)
    (walk : ParseWalk) (sheet : StructuredSheetRows) : ParseWalk :=
  if isEmpty sheet.rows then walk
  else
    let candidate := findHeader dataset sheet.rows
    let walk := walk.look (isMatching candidate)
    if (getImportRegistry dataset).sheetPolicy = .importMatchingVisible then
      if sheet.hidden then
        if isMatching candidate && dataset ≠ .supplierCatalog then
          walk.report
            (sheetIssue sheet "HIDDEN_SHEET" "Matching hidden worksheets are not allowed." none
              none)
            ("Matching hidden sheet " ++ sheet.name ++ " is not allowed.")
        else walk
      else if !isMatching candidate then
        { walk with ignoredSheets := walk.ignoredSheets ++ [⟨sheet.sheetIndex, sheet.name⟩] }
      else addImportSheet dataset maxRows window sheet candidate walk
    else addImportSheet dataset maxRows window sheet candidate walk

/-- What is wrong with a workbook as a whole. -/
def checkSheets (dataset : StructuredDatasetName) (walk : ParseWalk) : ParseWalk :=
  let policy := (getImportRegistry dataset).sheetPolicy
  let report (walk : ParseWalk) (code message : String) : ParseWalk :=
    walk.report { code, message } message
  if policy = .importMatchingVisible && !walk.matchingSheetFound then
    report walk "NO_MATCHING_SHEET" "Workbook has no matching visible import sheets."
  else if dataset = .supplierCatalog && 1 < walk.matchedSheetCount then
    report { walk with rows := [] } "INVALID_SHEET_COUNT"
      "Supplier catalog file must contain exactly one recognized worksheet."
  else if policy = .importMatchingVisible && 0 < walk.matchedSheetCount &&
      walk.matchingDataRowCount = 0 then
    report walk "EMPTY_SNAPSHOT" "Catalog snapshot contains no rows."
  else if policy = .strictAllNonempty && walk.sheetSummary.isEmpty then
    report walk "NO_IMPORT_SHEETS" "Workbook has no non-empty import sheets."
  else walk

/-- `finishParse` for the result of a walk. -/
def ParseWalk.finish (walk : ParseWalk) (validationMode : Option ValidationMode)
    (derivedMetadata : Option StructuredDerivedMetadata) : Except String StructuredParseResult :=
  finishParse validationMode
    { sheetSummary := walk.sheetSummary, ignoredSheets := walk.ignoredSheets, rows := walk.rows
      derivedMetadata } walk.issues

/-! ### Delivery ledgers -/

def deliveryMetadataColumns : List String := ["单据号", "订货机构", "送货机构", "收货日期"]

def deliveryItemColumns : List String := ["序号", "物品名称", "规格型号", "收货数量", "收货金额"]

structure DeliveryHeader where
  index : ℕ
  width : ℕ
  headers : List String

/-- `header.columns.get`: the index of the last column of a name. -/
def DeliveryHeader.column (header : DeliveryHeader) (name : String) : ℕ :=
  (((header.headers.zipIdx.filter fun h => h.1 = name).getLast?).map (·.2)).getD 0

def findDeliveryDetailHeaderFrom (index : ℕ) :
    List (List String) → Except String (Option DeliveryHeader)
  | [] => .ok none
  | row :: rows =>
    let headers := trimTail row
    match deliveryItemColumns.find? fun column => 1 < headers.count column with
    | some column =>
      .error ("Delivery receipt item header contains duplicate " ++ column ++ " columns.")
    | none =>
      if deliveryItemColumns.all headers.contains then .ok (some ⟨index, headers.length, headers⟩)
      else findDeliveryDetailHeaderFrom (index + 1) rows

def findDeliveryDetailHeader (rows : List (List String)) :
    Except String (Option DeliveryHeader) :=
  findDeliveryDetailHeaderFrom 0 (rows.take 20)

def selectDeliverySheet (sheets : List StructuredSheetRows) :
    Except String (StructuredSheetRows × DeliveryHeader) := do
  let headers ← (sheets.filter fun sheet => !sheet.hidden && !isEmpty sheet.rows).mapM
    fun sheet => (findDeliveryDetailHeader sheet.rows).map fun header => (sheet, header)
  match headers.filterMap fun candidate => candidate.2.map fun header => (candidate.1, header) with
  | [selected] => .ok selected
  | _ => .error "Delivery receipt file must contain exactly one recognized worksheet."

structure DeliveryLedgerMetadata extends StructuredDerivedMetadata where
  storeName : String
  supplierName : String

/-- A cell and the one to its right. -/
def addMetadataCell (metadata : List (String × String)) (cells : String × String) :
    Except String (List (String × String)) :=
  let label := trimText cells.1
  if deliveryMetadataColumns.contains label then
    if (metadata.lookup label).isSome then
      .error ("Delivery receipt metadata " ++ label ++ " must appear exactly once.")
    else .ok ((label, trimText cells.2) :: metadata)
  else .ok metadata

def deliveryDerivedMetadataOrThrow (rows : List (List String)) :
    Except String DeliveryLedgerMetadata := do
  let metadata ← (rows.flatMap fun row => row.zip row.tail).foldlM addMetadataCell []
  let get (label : String) : String := (metadata.lookup label).getD ""
  match deliveryMetadataColumns.find? fun label => get label = "" with
  | some label => .error ("Delivery receipt metadata " ++ label ++ " is required.")
  | none =>
    match parseDate (get "收货日期") false with
    | none => .error "收货日期 must be a date."
    | some receiptDate =>
      .ok ⟨⟨get "单据号", dateString receiptDate⟩, get "订货机构", get "送货机构"⟩

def isDeliveryBoundary (row : List String) : Bool :=
  isSummary row || ["验收人", "收货人", "制单人", "签字"].contains
    ((row.head?.map trimText).getD "")

def deliveryItemRows (sheet : StructuredSheetRows) (header : DeliveryHeader) : List DataRow :=
  (((sheet.rows.drop (header.index + 1)).takeWhile (!isDeliveryBoundary ·)).mapIdx
    fun i row => (⟨row, header.index + i + 2⟩ : DataRow)).filter fun item =>
      isIntegerText (item.row[header.column "序号"]?.getD "").toList

def deliveryPayloadFor (entryId : String) (header : DeliveryHeader) (row : List String)
    (metadata : DeliveryLedgerMetadata) : Payload × List (String × String) :=
  let cell (column : String) : String := row[header.column column]?.getD ""
  let parsed := parseCells (getImportRegistry .deliveryLedger).fields
    [("item_name", cell "物品名称"), ("specification", cell "规格型号"),
     ("purchase_quantity", cell "收货数量"), ("purchase_amount", cell "收货金额")]
  ([("entry_id", .text entryId), ("purchase_date", .text metadata.receiptDate),
    ("store_name", .text metadata.storeName), ("receipt_id", .text metadata.receiptId),
    ("supplier_name", .text metadata.supplierName), ("production_date_or_batch", .null),
    ("shelf_life", .null)] ++ parsed.1, parsed.2)

/-- An item of a receipt. -/
def addDeliveryItem (entryId : ℕ → String) (maxRows : ℕ) (sheet : StructuredSheetRows)
    (header : DeliveryHeader) (metadata : DeliveryLedgerMetadata) (walk : ParseWalk)
    (item : DataRow) : ParseWalk :=
  if exceedsWidth item.row header.width then
    walk.report
      (sheetIssue sheet "EXTRA_DATA_COLUMN" "Row has data outside the resolved header width."
        item.sourceRowNumber none) (extraDataColumn item.sourceRowNumber)
  else
    let (payload, errors) :=
      deliveryPayloadFor (entryId item.sourceRowNumber) header item.row metadata
    if errors ≠ [] then
      walk.reportAll (errors.map fun error =>
        (sheetIssue sheet "INVALID_FIELD_VALUE" "Field value is invalid." item.sourceRowNumber
          (some error.1), error.2))
    else addRow .deliveryLedger maxRows sheet item.sourceRowNumber walk payload

/-- The walk over the sheets of a delivery ledger, with the metadata of its receipt. -/
def walkDeliveryLedgerSheets (entryId : ℕ → String) (maxRows : ℕ)
    (sheets : List StructuredSheetRows) : ParseWalk × Option StructuredDerivedMetadata :=
  match selectDeliverySheet sheets with
  | .error message =>
    (ParseWalk.report {} { code := "INVALID_HEADER", message :=
      "Delivery receipt worksheet could not be selected." } message, none)
  | .ok (sheet, header) =>
    match deliveryDerivedMetadataOrThrow (sheet.rows.take header.index) with
    | .error message =>
      (ParseWalk.report {} (sheetIssue sheet "MISSING_DELIVERY_METADATA"
        "Delivery receipt metadata is invalid or incomplete." none none) message, none)
    | .ok metadata =>
      let items := deliveryItemRows sheet header
      let walk : ParseWalk :=
        { sheetSummary := [⟨sheet.sheetIndex, sheet.name, sheet.hidden, header.index + 1,
            some header.width, items.length⟩] }
      let walk :=
        if items = [] then walk.report
          (sheetIssue sheet "EMPTY_RECEIPT" "Delivery receipt contains no item rows." none none)
          "Delivery receipt contains no item rows."
        else walk
      (items.foldl (addDeliveryItem entryId maxRows sheet header metadata) walk,
        some metadata.toStructuredDerivedMetadata)

/-! ### Parsing -/

/-- What a file is read to before its sheets are walked. -/
def readImport (reader : FileReader Content) (input : ParseStructuredFileInput Content) :
    Except String (Option DateWindow × List StructuredSheetRows) := do
  assertFileType reader input
  let window ← importWindow (getImportRegistry input.dataset).metadataPolicy input.startDate
    input.endDate
  let sheets ← readStructuredSheets reader input
  .ok (window, sheets)

/-- `parseStructuredFile`; `entryId` gives the items of a receipt their fresh ids. -/
def parseStructuredFile (reader : FileReader Content) (entryId : ℕ → String)
    (input : ParseStructuredFileInput Content) : Except String StructuredParseResult :=
  if input.dataset = .costCards then parseCostCardFile reader input
  else
    let maxRows := input.limits.maxStructuredImportRows
    match readImport reader input with
    | .error message =>
      (ParseWalk.report {} { code := "INVALID_FILE", message :=
        "Structured file validation failed." } message).finish input.validationMode none
    | .ok (window, sheets) =>
      if (getImportRegistry input.dataset).metadataPolicy = .derivedReceipt then
        let (walk, metadata) := walkDeliveryLedgerSheets entryId maxRows sheets
        walk.finish input.validationMode metadata
      else
        (checkSheets input.dataset
          (sheets.foldl (addSheet input.dataset maxRows window) {})).finish
            input.validationMode none

end Import
end SmeDataCenter
