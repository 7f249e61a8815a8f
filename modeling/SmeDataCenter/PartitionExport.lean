import SmeDataCenter.CalendarDates
import SmeDataCenter.CodeWords
import SmeDataCenter.Fallible
import SmeDataCenter.StructuredPartitions

/-!
# Export of a source into partitions

A source file of a partitioned dataset is divided by store and business date. The rows come from
the reader with their cells in canonical form; each is routed to the partition of its store and
day, which is written and hashed as it grows. The Unicode normalization, the comparison of texts
by locale and the digest are the platform's.
-/

namespace SmeDataCenter

def isOrderPartitionDataset (value : PartitionDataset) : Bool :=
  value = .inStoreOrders || value = .takeawayOrders

/-- What the exporter uses of its platform. -/
structure ExportPlatform where
  /-- `normalize("NFC")` -/
  nfc : String → String
  /-- `localeCompare(..) <= 0` -/
  localeLe : String → String → Bool
  sha256 : String → String

inductive ExportError where
  /-- `PartitionContractError` -/
  | contract (code message : String)
  /-- `StructuredPartitionExportError` -/
  | export (code message : String)
  deriving DecidableEq

/-! ### Identity of a store -/

/-- `replace(/\s+/gu, " ")`; `inside` says that the last character was white space. -/
def collapseSpaces (inside : Bool) : Text → Text
  | [] => []
  | c :: cs =>
    if Text.isSpace c then
      if inside then collapseSpaces true cs else ' ' :: collapseSpaces true cs
    else c :: collapseSpaces false cs

def normalizeIdentityText (nfc : String → String) (value : String) : String :=
  String.ofList (collapseSpaces false (Text.trim (nfc value).toList))

def asciiLowercase (value : String) : String := String.ofList (value.toList.map Char.toLower)

structure StoreIdentity where
  storeKey : String
  merchantId : Option String
  storeName : String
  deriving DecidableEq

def partitionStoreIdentity (nfc : String → String) (merchantId storeName : Option String) :
    Except ExportError StoreIdentity :=
  let merchantId := normalizeIdentityText nfc (merchantId.getD "")
  let storeName := normalizeIdentityText nfc (storeName.getD "")
  if merchantId = "" ∧ storeName = "" then
    .error (.contract "PARTITION_STORE_IDENTITY_MISSING" "Merchant ID or store name is required.")
  else .ok
    { storeKey :=
        if merchantId ≠ "" then "merchant:" ++ merchantId else "name:" ++ asciiLowercase storeName
      merchantId := if merchantId ≠ "" then some merchantId else none
      storeName := storeName }

/-! ### Rows and partitions -/

/-- A data row in canonical form. A date that is there is written `YYYY-MM-DD`. -/
structure CanonicalRow where
  rowNumber : ℕ
  cells : List (String × String)
  isoDate : ((cells.find? fun cell => cell.1 = "business_date").all fun cell =>
    cell.2 = "" || (readIsoDate cell.2.toList).isSome) = true

/-- `canonical.get` -/
def CanonicalRow.get (row : CanonicalRow) (name : String) : Option String :=
  (row.cells.find? fun cell => cell.1 = name).map (·.2)

structure OutputField where
  canonicalName : String
  sourceColumn : String

/-- The limits that bound the rows of an export. -/
structure ExportLimits where
  maxRows : ℕ
  maxPartitions : ℕ
  maxCanonicalBytes : ℕ

structure PartitionState where
  storeKey : String
  merchantId : Option String
  storeName : String
  businessDate : String
  rowCount : ℕ := 0
  filePath : String
  byteSize : ℕ := 0
  /-- What was written to the file and hashed. -/
  written : String := ""
  initialized : Bool := false

structure ExportState where
  /-- The partitions by their identity keys. -/
  partitions : Table String PartitionState := ∅
  totalRowCount : ℕ := 0
  totalCanonicalBytes : ℕ := 0

def csvCell (value : String) : String :=
  if value.toList.any fun c => ['"', ',', '\r', '\n'].contains c then
    "\"" ++ String.ofList (value.toList.flatMap fun c => if c = '"' then ['"', '"'] else [c]) ++
      "\""
  else value

/-- The cells of a line. -/
def csvLine (cells : List String) : String := ",".intercalate (cells.map csvCell) ++ "\n"

def identityKey (storeKey businessDate : String) : String :=
  storeKey ++ "\u0000" ++ businessDate

def limitExceeded (limit : String) : ExportError :=
  .export "PARTITION_LIMIT_EXCEEDED" ("Partition " ++ limit ++ " limit exceeded.")

def invalidSource (message : String) : ExportError := .export "PARTITION_SOURCE_INVALID" message

/-! ### Export -/

/-- The partition that a row goes to. -/
def partitionOf (p : ExportPlatform) (limits : ExportLimits)
    (partitions : Table String PartitionState) (identity : StoreIdentity) (businessDate : String) :
    Except ExportError PartitionState :=
  let key := identityKey identity.storeKey businessDate
  match partitions.lookup key with
  | none =>
    if limits.maxPartitions ≤ partitions.entries.length then
      .error (limitExceeded "partition count")
    else .ok
      { storeKey := identity.storeKey, merchantId := identity.merchantId
        storeName := identity.storeName, businessDate := businessDate
        filePath := p.sha256 key ++ ".csv" }
  | some partition =>
    if partition.storeName ≠ "" ∧ identity.storeName ≠ "" ∧
        partition.storeName ≠ identity.storeName then
      .error (.export "PARTITION_STORE_IDENTITY_CONFLICT"
        ("Rows for merchant " ++ identity.merchantId.getD "fallback" ++ " disagree on store name."))
    else if partition.storeName = "" ∧ identity.storeName ≠ "" then
      .ok { partition with storeName := identity.storeName }
    else .ok partition

/-- Write the header of a new partition. -/
def PartitionState.withHeader (partition : PartitionState) (header : String) : PartitionState :=
  if partition.initialized then partition
  else
    { partition with
      written := partition.written ++ header
      byteSize := partition.byteSize + header.utf8ByteSize, initialized := true }

/-- Write a line of a partition. -/
def PartitionState.append (partition : PartitionState) (line : String) : PartitionState :=
  { partition with
    written := partition.written ++ line, byteSize := partition.byteSize + line.utf8ByteSize
    rowCount := partition.rowCount + 1 }

/-- A partition is put in its place, behind the others when it is new. -/
def setPartition (partitions : Table String PartitionState) (key : String)
    (partition : PartitionState) : Table String PartitionState :=
  if key ∈ partitions then partitions.update key fun _ => partition
  else partitions.insert key partition

/-- A row that is neither blank nor a summary, its cells in canonical form. -/
def processDataRow (p : ExportPlatform) (dataset : PartitionDataset) (fields : List OutputField)
    (limits : ExportLimits) (state : ExportState) (row : CanonicalRow) :
    Except ExportError ExportState := do
  if isOrderPartitionDataset dataset ∧ row.get "store_name" = some "--" then
    throw (invalidSource ("Row " ++ toString row.rowNumber ++ " store_name is required."))
  else do
    let identity ← partitionStoreIdentity p.nfc (row.get "merchant_id") (row.get "store_name")
    let businessDate := (row.get "business_date").getD ""
    if businessDate = "" then
      throw (invalidSource ("Row " ++ toString row.rowNumber ++ " business date is required."))
    else do
      let partition ← partitionOf p limits state.partitions identity businessDate
      if limits.maxRows < state.totalRowCount + 1 then throw (limitExceeded "row count")
      else do
        let opened := partition.withHeader (csvLine (fields.map (·.sourceColumn)))
        let line := csvLine (fields.map fun field => (row.get field.canonicalName).getD "")
        let grown := opened.append line
        let totalCanonicalBytes := state.totalCanonicalBytes + (grown.byteSize - partition.byteSize)
        if limits.maxCanonicalBytes < totalCanonicalBytes then
          throw (limitExceeded "canonical bytes")
        else
          let key := identityKey identity.storeKey businessDate
          return { partitions := setPartition state.partitions key grown
                   totalRowCount := state.totalRowCount + 1, totalCanonicalBytes }

structure ExportedPartition where
  storeKey : String
  merchantId : Option String
  storeName : String
  businessDate : String
  rowCount : ℕ
  filePath : String
  byteSize : ℕ
  checksumSha256 : String

structure StructuredPartitionExport where
  totalRowCount : ℕ
  partitions : List ExportedPartition

def PartitionState.exported (sha256 : String → String) (partition : PartitionState) :
    ExportedPartition where
  storeKey := partition.storeKey
  merchantId := partition.merchantId
  storeName := partition.storeName
  businessDate := partition.businessDate
  rowCount := partition.rowCount
  filePath := partition.filePath
  byteSize := partition.byteSize
  checksumSha256 := sha256 partition.written

/-- By business date, then by store. -/
def exportedBefore (p : ExportPlatform) (left right : PartitionState) : Bool :=
  if p.localeLe left.businessDate right.businessDate &&
      p.localeLe right.businessDate left.businessDate then p.localeLe left.storeKey right.storeKey
  else p.localeLe left.businessDate right.businessDate

/-- The partitions of the data rows of a source. -/
def exportStructuredPartitions (p : ExportPlatform) (dataset : PartitionDataset)
    (fields : List OutputField) (limits : ExportLimits) (rows : List CanonicalRow) :
    Except ExportError StructuredPartitionExport := do
  let state ← rows.foldlM (processDataRow p dataset fields limits) {}
  if state.totalRowCount = 0 then
    throw (invalidSource "Partition source contains no data rows.")
  else
    let partitions := (state.partitions.entries.reverse.map (·.2)).insertionSort
      fun left right => exportedBefore p left right
    return { totalRowCount := state.totalRowCount
             partitions := partitions.map (·.exported p.sha256) }

/-! ### What a file says -/

/-- The quotes of a cell are doubled. -/
private def quotesDoubled (text : List Char) : List Char :=
  text.flatMap fun c => if c = '"' then ['"', '"'] else [c]

private def isMark (c : Char) : Bool := ['"', ',', '\r', '\n'].contains c

lemma quotesDoubled_inj {s t rest rest' : List Char} {d d' : Char} (hd : d ≠ '"') (hd' : d' ≠ '"')
    (h : quotesDoubled s ++ '"' :: d :: rest = quotesDoubled t ++ '"' :: d' :: rest') :
    s = t ∧ d :: rest = d' :: rest' := by
  unfold quotesDoubled at h
  induction s generalizing t with
  | nil =>
    cases t with
    | nil => exact ⟨rfl, by simpa using h⟩
    | cons b t => by_cases hb : b = '"' <;> simp [hb, hd, eq_comm] at h
  | cons a s ih =>
    cases t with
    | nil => by_cases ha : a = '"' <;> simp [ha, hd'.symm] at h
    | cons b t =>
      obtain rfl : a = b := by
        by_cases ha : a = '"' <;> by_cases hb : b = '"' <;> simp [ha, hb] at h ⊢ <;> exact h.1
      obtain ⟨rfl, hrest⟩ := @ih t (by by_cases ha : a = '"' <;> simpa [ha] using h)
      exact ⟨rfl, hrest⟩

lemma csvCell_inj {v w : String} {rest rest' : List Char} {d d' : Char} (hd : d = ',' ∨ d = '\n')
    (hd' : d' = ',' ∨ d' = '\n')
    (h : (csvCell v).toList ++ d :: rest = (csvCell w).toList ++ d' :: rest') :
    v = w ∧ d :: rest = d' :: rest' := by
  have hcell : ∀ v : String, (csvCell v).toList = if v.toList.any isMark then
      '"' :: (quotesDoubled v.toList ++ ['"']) else v.toList := by
    intro v
    unfold csvCell quotesDoubled isMark
    split_ifs <;> simp
  have hplain : ∀ {s rest : List Char} {d : Char}, (d = ',' ∨ d = '\n') →
      s.any isMark = false → (s ++ d :: rest).takeWhile (!isMark ·) = s := by
    intro s rest d hd hs
    rw [List.takeWhile_append_of_pos (by simpa using hs)]
    rcases hd with rfl | rfl <;> simp [isMark]
  have hne : ∀ {d : Char}, (d = ',' ∨ d = '\n') → d ≠ '"' := by
    rintro d (rfl | rfl) <;> decide
  have hhead : ∀ {s rest : List Char} {d : Char}, (d = ',' ∨ d = '\n') →
      s.any isMark = false → (s ++ d :: rest).head? ≠ some '"' := by
    rintro (_ | ⟨c, s⟩) rest d hd hs
    · simpa using hne hd
    · rintro heq
      obtain rfl : c = '"' := by simpa using heq
      simp [isMark] at hs
  rw [hcell, hcell] at h
  cases hv : v.toList.any isMark <;> cases hw : w.toList.any isMark <;>
    simp only [hv, hw, if_true, Bool.false_eq_true, if_false] at h
  · have hsame : v.toList = w.toList := by rw [← hplain hd hv, h, hplain hd' hw]
    rw [hsame] at h
    exact ⟨String.toList_injective hsame, List.append_cancel_left h⟩
  · exact absurd (by rw [h]; rfl) (hhead hd hv)
  · exact absurd (by rw [← h]; rfl) (hhead hd' hw)
  · obtain ⟨hsame, hrest⟩ := quotesDoubled_inj (hne hd) (hne hd') (by simpa using h)
    exact ⟨String.toList_injective hsame, hrest⟩

lemma csvLine_inj {cells cells' : List String} {rest rest' : List Char} (hne : cells ≠ [])
    (hne' : cells' ≠ []) (h : (csvLine cells).toList ++ rest = (csvLine cells').toList ++ rest') :
    cells = cells' ∧ rest = rest' := by
  have hone : ∀ cell : String, (csvLine [cell]).toList = (csvCell cell).toList ++ ['\n'] := by
    intro cell
    simp [csvLine]
  have hmore : ∀ (cell next : String) (cells : List String),
      (csvLine (cell :: next :: cells)).toList =
        (csvCell cell).toList ++ ',' :: (csvLine (next :: cells)).toList := by
    intro cell next cells
    simp [csvLine]
  induction cells generalizing cells' with
  | nil => exact absurd rfl hne
  | cons cell cells ih =>
    cases cells' with
    | nil => exact absurd rfl hne'
    | cons cell' cells' =>
      cases cells <;> cases cells' <;>
        simp only [hone, hmore, List.append_assoc, List.cons_append, List.nil_append] at h
      · obtain ⟨rfl, hrest⟩ := csvCell_inj (.inr rfl) (.inr rfl) h
        exact ⟨rfl, (List.cons.inj hrest).2⟩
      · exact absurd (List.cons.inj (csvCell_inj (.inr rfl) (.inl rfl) h).2).1 (by decide)
      · exact absurd (List.cons.inj (csvCell_inj (.inl rfl) (.inr rfl) h).2).1 (by decide)
      · obtain ⟨rfl, hrest⟩ := csvCell_inj (.inl rfl) (.inl rfl) h
        obtain ⟨heq, hrest⟩ := ih (by simp) (by simp) (List.cons.inj hrest).2
        exact ⟨by rw [heq], hrest⟩

/-- **A file of lines can be read back**: no two lists of lines, each with a cell, are written as
the same text. -/
theorem csvLines_injective : Function.Injective
    fun lines : List {cells : List String // cells ≠ []} =>
      String.join (lines.map fun cells => csvLine cells.1) := by
  intro lines lines' h
  have hlist := congrArg String.toList h
  simp only [String.toList_join, List.flatMap_map] at hlist
  refine CodeWords.eq_of_encode (fun cells => ?_) (fun {a b} _ _ h => ?_) hlist
  · simp [csvLine]
  · exact Subtype.ext (csvLine_inj a.2 b.2 h).1

/-! ### Where the rows go -/

/-- The store and the day of a row. -/
def CanonicalRow.storeDay (nfc : String → String) (row : CanonicalRow) : Option (String × String) :=
  (partitionStoreIdentity nfc (row.get "merchant_id") (row.get "store_name")).toOption.map
    fun identity => (identity.storeKey, (row.get "business_date").getD "")

lemma readIsoDate_length {text : Text} (h : (readIsoDate text).isSome = true) :
    text.length = 10 := by
  unfold readIsoDate at h
  split at h
  · rfl
  · cases h

lemma CanonicalRow.length_date (row : CanonicalRow)
    (h : (row.get "business_date").getD "" ≠ "") :
    ((row.get "business_date").getD "").length = 10 := by
  have hiso := row.isoDate
  unfold get at h ⊢
  cases hcell : row.cells.find? fun cell => cell.1 = "business_date" with
  | none => simp [hcell] at h
  | some cell =>
    simp only [hcell, Option.map_some, Option.getD_some] at h ⊢
    simp only [hcell, Option.all_some, Bool.or_eq_true, decide_eq_true_eq] at hiso
    rcases hiso with hempty | hread
    · exact absurd hempty h
    · rw [← String.length_toList]
      exact readIsoDate_length hread

lemma identityKey_inj {storeKey storeKey' date date' : String}
    (hlength : date.length = date'.length)
    (h : identityKey storeKey date = identityKey storeKey' date') :
    storeKey = storeKey' ∧ date = date' := by
  have hlist := congrArg String.toList h
  simp only [identityKey, String.toList_append] at hlist
  have hlength' : date.toList.length = date'.toList.length := by
    simpa [String.length_toList] using hlength
  obtain ⟨hstore, hdate⟩ := List.append_inj' hlist hlength'
  obtain ⟨hstore, -⟩ := List.append_inj' hstore rfl
  exact ⟨String.toList_injective hstore, String.toList_injective hdate⟩

variable {p : ExportPlatform} {dataset : PartitionDataset} {fields : List OutputField}
  {limits : ExportLimits} {state state' : ExportState} {row : CanonicalRow}
  {rows : List CanonicalRow}

lemma lookup_setPartition (partitions : Table String PartitionState) (key key' : String)
    (partition : PartitionState) :
    (setPartition partitions key partition).lookup key' =
      if key' = key then some partition else partitions.lookup key' := by
  unfold setPartition
  split_ifs with hmem hkey hkey
  · obtain ⟨old, hold⟩ := AList.lookup_isSome.mpr hmem |> Option.isSome_iff_exists.mp
    rw [Table.lookup_update, if_pos hkey, hold, Option.map_some]
  · rw [Table.lookup_update, if_neg hkey]
  · rw [Table.lookup_insert', if_pos hkey]
  · rw [Table.lookup_insert', if_neg hkey]

lemma partitionOf_ok {partitions : Table String PartitionState} {identity : StoreIdentity}
    {date : String} {partition : PartitionState}
    (h : partitionOf p limits partitions identity date = .ok partition) :
    (partition.storeKey = identity.storeKey ∧ partition.businessDate = date) ∨
      ∃ old, partitions.lookup (identityKey identity.storeKey date) = some old ∧
        partition.storeKey = old.storeKey ∧ partition.businessDate = old.businessDate := by
  unfold partitionOf at h
  dsimp only at h
  split at h
  · split at h
    · cases h
    · cases h
      exact .inl ⟨rfl, rfl⟩
  · rename_i old hold
    refine .inr ⟨old, hold, ?_⟩
    split at h
    · cases h
    · split at h
      · cases h
        exact ⟨rfl, rfl⟩
      · cases h
        exact ⟨rfl, rfl⟩

@[simp] lemma initialize_storeKey (partition : PartitionState) (header : String) :
    (partition.withHeader header).storeKey = partition.storeKey := by
  unfold PartitionState.withHeader
  split <;> rfl

@[simp] lemma initialize_businessDate (partition : PartitionState) (header : String) :
    (partition.withHeader header).businessDate = partition.businessDate := by
  unfold PartitionState.withHeader
  split <;> rfl

lemma processDataRow_ok (h : processDataRow p dataset fields limits state row = .ok state') :
    ∃ identity partition grown,
      partitionStoreIdentity p.nfc (row.get "merchant_id") (row.get "store_name") = .ok identity ∧
      (row.get "business_date").getD "" ≠ "" ∧
      partitionOf p limits state.partitions identity ((row.get "business_date").getD "") =
        .ok partition ∧
      grown.storeKey = partition.storeKey ∧ grown.businessDate = partition.businessDate ∧
      state'.partitions = setPartition state.partitions
        (identityKey identity.storeKey ((row.get "business_date").getD "")) grown := by
  unfold processDataRow at h
  split at h
  · cases h
  · obtain ⟨identity, hidentity, h⟩ := Fallible.bind_ok.mp h
    dsimp only at h
    split at h
    · cases h
    · rename_i hdate
      obtain ⟨partition, hpartition, h⟩ := Fallible.bind_ok.mp h
      split at h
      · cases h
      · split at h
        · cases h
        · cases h
          refine ⟨identity, partition, _, hidentity, hdate, hpartition, ?_, ?_, rfl⟩
          · exact initialize_storeKey partition _
          · exact initialize_businessDate partition _

/-- The partitions are those of the stores and days of the rows. -/
structure Routed (nfc : String → String) (rows : List CanonicalRow)
    (partitions : Table String PartitionState) : Prop where
  keyed : ∀ key partition, partitions.lookup key = some partition →
    key = identityKey partition.storeKey partition.businessDate ∧
      partition.businessDate.length = 10 ∧
      ∃ row ∈ rows, row.storeDay nfc = some (partition.storeKey, partition.businessDate)
  covered : ∀ row ∈ rows, ∃ partition : PartitionState,
    row.storeDay nfc = some (partition.storeKey, partition.businessDate) ∧
      partitions.lookup (identityKey partition.storeKey partition.businessDate) = some partition

lemma Routed.step (h : Routed p.nfc rows state.partitions)
    (hrow : processDataRow p dataset fields limits state row = .ok state') :
    Routed p.nfc (rows ++ [row]) state'.partitions := by
  obtain ⟨identity, partition, grown, hidentity, hdate, hpartition, hstore, hday, hpartitions⟩ :=
    processDataRow_ok hrow
  have hlength := row.length_date hdate
  have hstoreDay : row.storeDay p.nfc =
      some (identity.storeKey, (row.get "business_date").getD "") := by
    rw [CanonicalRow.storeDay, hidentity]
    rfl
  generalize (row.get "business_date").getD "" = date at *
  -- the partition under the key of the row is one of its store and day
  have hgrown : grown.storeKey = identity.storeKey ∧ grown.businessDate = date := by
    rw [hstore, hday]
    rcases partitionOf_ok hpartition with hnew | ⟨old, hold, holdStore, holdDay⟩
    · exact hnew
    · obtain ⟨hkey, hten, -⟩ := h.keyed _ old hold
      rw [holdStore, holdDay]
      obtain ⟨hs, hd⟩ := identityKey_inj (hlength.trans hten.symm) hkey
      exact ⟨hs.symm, hd.symm⟩
  constructor
  · intro key other hother
    rw [hpartitions, lookup_setPartition] at hother
    split_ifs at hother with hkey
    · obtain rfl := Option.some.inj hother
      rw [hgrown.1, hgrown.2]
      exact ⟨hkey, hlength, row, by simp, hstoreDay⟩
    · obtain ⟨hkeyed, hten, source, hmem, hsource⟩ := h.keyed key other hother
      exact ⟨hkeyed, hten, source, List.mem_append_left _ hmem, hsource⟩
  · intro source hsource
    by_cases hsame : source.storeDay p.nfc = row.storeDay p.nfc
    · refine ⟨grown, ?_, ?_⟩
      · rw [hsame, hstoreDay, hgrown.1, hgrown.2]
      · rw [hpartitions, lookup_setPartition, hgrown.1, hgrown.2, if_pos rfl]
    · rcases List.mem_append.mp hsource with hmem | hmem
      · obtain ⟨other, hother, hlookup⟩ := h.covered source hmem
        refine ⟨other, hother, ?_⟩
        rw [hpartitions, lookup_setPartition, if_neg]
        · exact hlookup
        · intro hkey
          obtain ⟨-, hten, -⟩ := h.keyed _ other hlookup
          obtain ⟨hs, hd⟩ := identityKey_inj (hten.trans hlength.symm) hkey
          exact hsame (by rw [hother, hstoreDay, hs, hd])
      · obtain rfl := List.mem_singleton.mp hmem
        exact absurd rfl hsame

lemma Routed.run {more : List CanonicalRow} (h : Routed p.nfc rows state.partitions)
    (hrun : more.foldlM (processDataRow p dataset fields limits) state = .ok state') :
    Routed p.nfc (rows ++ more) state'.partitions := by
  induction more generalizing rows state with
  | nil =>
    rw [List.foldlM_nil, Fallible.pure_ok] at hrun
    rw [← hrun, List.append_nil]
    exact h
  | cons row more ih =>
    rw [List.foldlM_cons] at hrun
    obtain ⟨next, hstep, hrest⟩ := Fallible.bind_ok.mp hrun
    have hall := ih (h.step hstep) hrest
    rwa [List.append_assoc, List.singleton_append] at hall

/-- **An export has one partition for every store and day** of its rows, and no other. -/
theorem mem_exportStructuredPartitions {exported : StructuredPartitionExport}
    (h : exportStructuredPartitions p dataset fields limits rows = .ok exported)
    (storeKey date : String) :
    (∃ q ∈ exported.partitions, q.storeKey = storeKey ∧ q.businessDate = date) ↔
      ∃ row ∈ rows, row.storeDay p.nfc = some (storeKey, date) := by
  unfold exportStructuredPartitions at h
  obtain ⟨state, hfold, h⟩ := Fallible.bind_ok.mp h
  split at h
  · cases h
  · cases h
    have hempty : Routed p.nfc [] ({} : ExportState).partitions :=
      ⟨fun _ _ hq => (nomatch hq), fun _ hrow => absurd hrow List.not_mem_nil⟩
    have hrouted := hempty.run hfold
    rw [List.nil_append] at hrouted
    have hmem : ∀ q, q ∈ (state.partitions.entries.reverse.map (·.2)).insertionSort
        (fun left right => exportedBefore p left right) ↔
        ∃ key, state.partitions.lookup key = some q := by
      intro q
      simp only [List.mem_insertionSort, List.mem_map, List.mem_reverse]
      constructor
      · rintro ⟨e, he, rfl⟩
        exact ⟨e.1, AList.mem_lookup_iff.mpr he⟩
      · rintro ⟨key, hkey⟩
        exact ⟨⟨key, q⟩, AList.mem_lookup_iff.mp hkey, rfl⟩
    simp only [List.mem_map, hmem]
    constructor
    · rintro ⟨_, ⟨q, ⟨key, hq⟩, rfl⟩, rfl, rfl⟩
      exact (hrouted.keyed key q hq).2.2
    · rintro ⟨row, hrow, hday⟩
      obtain ⟨q, hq, hlookup⟩ := hrouted.covered row hrow
      obtain ⟨hs, hd⟩ := Prod.ext_iff.mp (Option.some.inj (hday.symm.trans hq))
      exact ⟨_, ⟨q, ⟨_, hlookup⟩, rfl⟩, hs.symm, hd.symm⟩

end SmeDataCenter
