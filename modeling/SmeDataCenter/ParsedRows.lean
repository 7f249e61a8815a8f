import SmeDataCenter.FileProfiles

/-!
# Rows that are accounted for

Every data row of a sheet that is read becomes a row of the result or leaves an issue behind; the
rows beyond the limit share one, and so do the rows of a catalog of suppliers with several sheets.
-/

namespace SmeDataCenter
namespace Import

open StructuredQuery (StructuredDatasetName)

/-- Where a row stands in a file. -/
structure RowOrigin where
  sheetIndex : ℕ
  sheetName : String
  rowNumber : ℕ

def StructuredImportRow.origin (row : StructuredImportRow) : RowOrigin :=
  ⟨row.sourceSheetIndex, row.sourceSheetName, row.sourceRowNumber⟩

/-- The issue names the place of a row. -/
def StructuredValidationIssue.Names (issue : StructuredValidationIssue) (origin : RowOrigin) : Prop :=
  issue.sheetIndex = some origin.sheetIndex ∧ issue.sheetName = some origin.sheetName ∧
    issue.rowNumber = some origin.rowNumber

/-- The rows below a header that are neither blank nor, outside the dish catalog, a summary; the
first row of a sheet has the number 1. -/
def originsBelow (dataset : StructuredDatasetName) (sheet : StructuredSheetRows) (index : ℕ) :
    List RowOrigin :=
  (((sheet.rows.zipIdx 1).drop (index + 1)).filter fun row =>
    row.1.any (!isBlank ·) && (dataset = .dishCatalog || !isSummary row.1)).map fun row =>
      ⟨sheet.sheetIndex, sheet.name, row.2⟩

/-- The data rows of a sheet that is visible and whose headers are found. -/
def dataOrigins (dataset : StructuredDatasetName) (sheet : StructuredSheetRows) :
    List RowOrigin :=
  if isImportable dataset sheet then
    ((findHeader dataset sheet.rows).map fun candidate =>
      originsBelow dataset sheet candidate.index).getD []
  else []

variable {dataset : StructuredDatasetName} {maxRows : ℕ} {window : Option DateWindow}
  {sheet : StructuredSheetRows} {walk walk' walk'' : ParseWalk} {origin : RowOrigin}
  {items items' : List RowOrigin} {issue : StructuredValidationIssue} {legacyMessage : String}

lemma origins_dataRowsFor (dataset : StructuredDatasetName) (sheet : StructuredSheetRows)
    (index : ℕ) :
    (dataRowsFor dataset sheet.rows index).map
      (fun item => (⟨sheet.sheetIndex, sheet.name, item.sourceRowNumber⟩ : RowOrigin)) =
        originsBelow dataset sheet index := by
  have hnumbered : ((sheet.rows.drop (index + 1)).mapIdx fun i row =>
      (⟨row, index + i + 2⟩ : DataRow)) =
      ((sheet.rows.zipIdx 1).drop (index + 1)).map fun row => ⟨row.1, row.2⟩ := by
    refine List.ext_getElem? fun i => ?_
    rw [List.getElem?_mapIdx, List.getElem?_drop, List.getElem?_map, List.getElem?_drop,
      List.getElem?_zipIdx, Option.map_map, show index + i + 2 = 1 + (index + 1 + i) by omega]
    rfl
  unfold originsBelow dataRowsFor
  rw [hnumbered, List.filter_map, List.map_map]
  rfl

/-! ### Issues -/

lemma issues_addAll {list : IssueList} {all : List StructuredValidationIssue}
    (h : list.issues = all.take maxRetainedValidationErrors)
    (added : List StructuredValidationIssue) :
    (list.addAll added).issues = (all ++ added).take maxRetainedValidationErrors := by
  induction added generalizing list all with
  | nil => rw [List.append_nil]; exact h
  | cons issue added ih =>
    have hone : (list.add issue).issues = (all ++ [issue]).take maxRetainedValidationErrors := by
      unfold IssueList.add
      rw [h, List.length_take]
      split_ifs with hroom
      · rw [List.take_of_length_le (by omega), List.take_of_length_le (by simp; omega)]
      · rw [List.take_append_of_le_length (by omega)]
    have := ih hone
    rwa [List.append_assoc] at this

/-- What rows leave of a walk: some are kept in their order, and the others are named by an issue
or beyond the limit, which has an issue. -/
structure Accounted (maxRows sheets : ℕ) (items : List RowOrigin) (walk walk' : ParseWalk)
    (added : List StructuredValidationIssue) (kept : List StructuredImportRow) : Prop where
  issues : walk'.issues.toIssueList = walk.issues.toIssueList.addAll added
  rows : walk'.rows = walk.rows ++ kept
  order : (kept.map (·.origin)).Sublist items
  accounted : ∀ origin ∈ items, origin ∈ kept.map (·.origin) ∨
    (∃ issue ∈ added, issue.Names origin) ∨ walk'.rowLimitReported = true
  stays : walk.rowLimitReported = true → walk'.rowLimitReported = true
  limit : walk'.rowLimitReported = true → walk.rowLimitReported = true ∨
    (maxRows ≤ walk'.rows.length ∧ ∃ issue ∈ added, issue.code = "ROW_LIMIT_EXCEEDED")
  matched : walk'.matchedSheetCount = walk.matchedSheetCount + sheets

namespace Accounted

variable {added added' : List StructuredValidationIssue} {kept kept' : List StructuredImportRow}
  {n n' : ℕ}

lemma trans (h : Accounted maxRows n items walk walk' added kept)
    (h' : Accounted maxRows n' items' walk' walk'' added' kept') :
    Accounted maxRows (n + n') (items ++ items') walk walk'' (added ++ added') (kept ++ kept') := by
  refine ⟨?_, ?_, ?_, fun origin horigin => ?_, h'.stays ∘ h.stays, fun hlimit => ?_, ?_⟩
  · rw [h'.issues, h.issues, IssueList.addAll, IssueList.addAll, IssueList.addAll,
      List.foldl_append]
  · rw [h'.rows, h.rows, List.append_assoc]
  · rw [List.map_append]
    exact h.order.append h'.order
  · rw [List.map_append]
    rcases List.mem_append.mp horigin with horigin | horigin
    · rcases h.accounted origin horigin with hkept | ⟨issue, hissue, hnames⟩ | hlimit
      · exact .inl (List.mem_append_left _ hkept)
      · exact .inr (.inl ⟨issue, List.mem_append_left _ hissue, hnames⟩)
      · exact .inr (.inr (h'.stays hlimit))
    · rcases h'.accounted origin horigin with hkept | ⟨issue, hissue, hnames⟩ | hlimit
      · exact .inl (List.mem_append_right _ hkept)
      · exact .inr (.inl ⟨issue, List.mem_append_right _ hissue, hnames⟩)
      · exact .inr (.inr hlimit)
  · rcases h'.limit hlimit with hlimit | ⟨hfull, issue, hissue, hcode⟩
    · rcases h.limit hlimit with hlimit | ⟨hfull, issue, hissue, hcode⟩
      · exact .inl hlimit
      · refine .inr ⟨?_, issue, List.mem_append_left _ hissue, hcode⟩
        rw [h'.rows, List.length_append]
        omega
    · exact .inr ⟨hfull, issue, List.mem_append_right _ hissue, hcode⟩
  · rw [h'.matched, h.matched, Nat.add_assoc]

/-- Issues that are reported name the rows, if there are any. -/
lemma reported (issues : List (StructuredValidationIssue × String))
    (hnames : ∀ origin ∈ items, ∃ issue ∈ issues, issue.1.Names origin) (walk : ParseWalk) :
    Accounted maxRows 0 items walk (walk.reportAll issues) (issues.map (·.1)) [] := by
  have hwalk : (walk.reportAll issues).issues.toIssueList =
      walk.issues.toIssueList.addAll (issues.map (·.1)) ∧
      (walk.reportAll issues).rows = walk.rows ∧
      (walk.reportAll issues).rowLimitReported = walk.rowLimitReported ∧
      (walk.reportAll issues).matchedSheetCount = walk.matchedSheetCount := by
    clear hnames
    induction issues generalizing walk with
    | nil => exact ⟨rfl, rfl, rfl, rfl⟩
    | cons issue issues ih => exact ih (walk.report issue.1 issue.2)
  refine ⟨hwalk.1, by simp [hwalk.2.1], List.nil_sublist _, fun origin horigin => ?_,
    hwalk.2.2.1 ▸ id, fun hlimit => .inl (hwalk.2.2.1 ▸ hlimit), hwalk.2.2.2⟩
  obtain ⟨issue, hissue, hname⟩ := hnames origin horigin
  exact .inr (.inl ⟨issue.1, List.mem_map_of_mem hissue, hname⟩)

lemma quiet (added : List StructuredValidationIssue)
    (hissues : walk'.issues.toIssueList = walk.issues.toIssueList.addAll added)
    (hrows : walk'.rows = walk.rows) (hlimit : walk'.rowLimitReported = walk.rowLimitReported)
    (hmatched : walk'.matchedSheetCount = walk.matchedSheetCount) :
    Accounted maxRows 0 [] walk walk' added [] :=
  ⟨hissues, by simp [hrows], List.nil_sublist _, by simp, hlimit ▸ id, fun h => .inl (hlimit ▸ h),
    hmatched⟩

lemma refl (walk : ParseWalk) : Accounted maxRows 0 [] walk walk [] [] :=
  reported [] (by simp) walk

end Accounted

/-! ### Rows -/

lemma accounted_addRow {n : ℕ} {payload : Payload} :
    ∃ added kept, Accounted maxRows 0 [⟨sheet.sheetIndex, sheet.name, n⟩] walk
      (addRow dataset maxRows sheet n walk payload) added kept := by
  unfold addRow
  dsimp only
  split_ifs with hfull hreported hduplicate hdish
  · exact ⟨[], [], rfl, by simp, List.nil_sublist _, fun _ _ => .inr (.inr hreported), id, .inl,
      rfl⟩
  · exact ⟨_, [], rfl, by simp [ParseWalk.report], List.nil_sublist _, fun _ _ => .inr (.inr rfl),
      fun _ => rfl, fun _ => .inr ⟨hfull, _, List.mem_singleton_self _, rfl⟩, rfl⟩
  · exact ⟨_, [], Accounted.reported [(_, _)]
      (fun origin horigin => ⟨_, List.mem_singleton_self _, by
        obtain rfl := List.mem_singleton.mp horigin
        exact ⟨rfl, rfl, rfl⟩⟩) walk⟩
  all_goals
    exact ⟨[], [_], rfl, rfl, List.Sublist.refl _, fun _ horigin => .inl horigin, id, .inl, rfl⟩

lemma accounted_addDataRow {width : ℕ} {mappings : List HeaderMapping} {item : DataRow} :
    ∃ added kept, Accounted maxRows 0 [⟨sheet.sheetIndex, sheet.name, item.sourceRowNumber⟩] walk
      (addDataRow dataset maxRows window sheet width mappings walk item) added kept := by
  unfold addDataRow
  dsimp only
  split_ifs with hwidth herrors hdate
  · exact ⟨_, [], Accounted.reported [(_, _)]
      (fun origin horigin => ⟨_, List.mem_singleton_self _, by
        obtain rfl := List.mem_singleton.mp horigin
        exact ⟨rfl, rfl, rfl⟩⟩) walk⟩
  · obtain ⟨error, hmem⟩ := List.exists_mem_of_ne_nil _ herrors
    exact ⟨_, [], Accounted.reported _ (fun origin horigin => ⟨_, List.mem_map_of_mem hmem, by
      obtain rfl := List.mem_singleton.mp horigin
      exact ⟨rfl, rfl, rfl⟩⟩) walk⟩
  · exact ⟨_, [], Accounted.reported [(_, _)]
      (fun origin horigin => ⟨_, List.mem_singleton_self _, by
        obtain rfl := List.mem_singleton.mp horigin
        exact ⟨rfl, rfl, rfl⟩⟩) walk⟩
  · exact accounted_addRow

/-- What accounts for the elements of a list accounts for the list. -/
lemma accounted_foldl {α : Type} {f : ParseWalk → α → ParseWalk} {origins : α → List RowOrigin}
    {p : α → Bool}
    (hone : ∀ walk a, ∃ added kept,
      Accounted maxRows (if p a then 1 else 0) (origins a) walk (f walk a) added kept)
    (as : List α) (walk : ParseWalk) : ∃ added kept,
      Accounted maxRows (as.countP p) (as.flatMap origins) walk (as.foldl f walk) added kept := by
  induction as generalizing walk with
  | nil => exact ⟨[], [], .refl walk⟩
  | cons a as ih =>
    obtain ⟨added, kept, hfirst⟩ := hone walk a
    obtain ⟨added', kept', hrest⟩ := ih (f walk a)
    rw [List.countP_cons, Nat.add_comm]
    exact ⟨_, _, hfirst.trans hrest⟩

/-! ### Sheets -/

lemma accounted_matched {candidate : HeaderCandidate} {mappings : List HeaderMapping}
    (walk : ParseWalk) :
    ∃ added kept, Accounted maxRows 1 (originsBelow dataset sheet candidate.index) walk
      ((dataRowsFor dataset sheet.rows candidate.index).foldl
        (addDataRow dataset maxRows window sheet candidate.width mappings)
        (walk.withSheet sheet candidate.index
          (dataRowsFor dataset sheet.rows candidate.index).length)) added kept := by
  obtain ⟨added, kept, h⟩ := accounted_foldl (p := fun _ => false)
    (fun _ _ => accounted_addDataRow)
    (dataRowsFor dataset sheet.rows candidate.index)
    (walk.withSheet sheet candidate.index (dataRowsFor dataset sheet.rows candidate.index).length)
  rw [← List.map_eq_flatMap, origins_dataRowsFor] at h
  refine ⟨added, kept, h.issues, h.rows, h.order, h.accounted, h.stays, h.limit, ?_⟩
  rw [h.matched]
  simp [ParseWalk.withSheet]

lemma accounted_addImportSheet {candidate : Option HeaderCandidate} (walk : ParseWalk)
    (hcandidate : candidate = findHeader dataset sheet.rows) (hempty : isEmpty sheet.rows = false) :
    ∃ added kept, Accounted maxRows (if isImportable dataset sheet then 1 else 0)
      (dataOrigins dataset sheet) walk
      (addImportSheet dataset maxRows window sheet candidate walk) added kept := by
  unfold addImportSheet dataOrigins isImportable
  rw [← hcandidate, hempty]
  cases hhidden : sheet.hidden with
  | true => exact ⟨_, [], Accounted.reported [(_, _)] (by simp) walk⟩
  | false =>
    cases candidate with
    | none => exact ⟨_, [], Accounted.reported [(_, _)] (by simp [isMatching]) walk⟩
    | some candidate =>
      cases hresolution : candidate.resolution with
      | error errors =>
        have hnot : isMatching (some candidate) = false := by
          rw [isMatching, Option.any_some, hresolution]
          rfl
        rw [hnot]
        simp only [hresolution]
        exact ⟨_, [], Accounted.reported _ (by simp) walk⟩
      | ok mappings =>
        have hmatching : isMatching (some candidate) = true := by
          rw [isMatching, Option.any_some, hresolution]
          rfl
        rw [hmatching]
        simp only [hresolution]
        exact accounted_matched walk

lemma accounted_addSheet (walk : ParseWalk) (sheet : StructuredSheetRows) : ∃ added kept,
    Accounted maxRows (if isImportable dataset sheet then 1 else 0) (dataOrigins dataset sheet) walk
      (addSheet dataset maxRows window walk sheet) added kept := by
  have hquiet : isImportable dataset sheet = false → ∀ {walk' : ParseWalk} {added},
      Accounted maxRows 0 [] walk walk' added [] → ∃ added kept,
        Accounted maxRows (if isImportable dataset sheet then 1 else 0) (dataOrigins dataset sheet)
          walk walk' added kept := by
    intro hmatched walk' added h
    simp only [dataOrigins, hmatched]
    exact ⟨added, [], h⟩
  have himport : isEmpty sheet.rows = false → ∃ added kept,
      Accounted maxRows (if isImportable dataset sheet then 1 else 0) (dataOrigins dataset sheet) walk
        (addImportSheet dataset maxRows window sheet (findHeader dataset sheet.rows)
          (walk.look (isMatching (findHeader dataset sheet.rows)))) added kept := by
    intro hempty
    obtain ⟨added, kept, h⟩ := accounted_addImportSheet
      (walk.look (isMatching (findHeader dataset sheet.rows))) rfl hempty
    exact ⟨added, kept, h.issues, h.rows, h.order, h.accounted, h.stays, h.limit, h.matched⟩
  unfold addSheet
  dsimp only
  generalize dataOrigins dataset sheet = items at hquiet himport ⊢
  generalize (if isImportable dataset sheet then 1 else 0) = n at hquiet himport ⊢
  split_ifs with hempty hpolicy hhidden hmatching hmatching
  · exact hquiet (by simp [isImportable, hempty]) (.refl walk)
  · exact hquiet (by simp [isImportable, hhidden]) (.quiet [_] rfl rfl rfl rfl)
  · exact hquiet (by simp [isImportable, hhidden]) (.quiet [] rfl rfl rfl rfl)
  · refine hquiet ?_ (.quiet [] rfl rfl rfl rfl)
    have hnot : isMatching (findHeader dataset sheet.rows) = false := by simpa using hmatching
    rw [isImportable, hnot, Bool.and_false]
  · exact himport (by simpa using hempty)
  · exact himport (by simpa using hempty)

/-! ### Files -/

lemma checkSheets_cases (dataset : StructuredDatasetName) (walk : ParseWalk) :
    checkSheets dataset walk = walk ∨
    (∃ issue legacyMessage, checkSheets dataset walk = walk.report issue legacyMessage) ∨
    (dataset = .supplierCatalog ∧ 1 < walk.matchedSheetCount ∧ ∃ issue legacyMessage,
      issue.code = "INVALID_SHEET_COUNT" ∧
        checkSheets dataset walk = ParseWalk.report { walk with rows := [] } issue legacyMessage) := by
  unfold checkSheets
  dsimp only
  split_ifs with hmatching hsuppliers
  · exact .inr (.inl ⟨_, _, rfl⟩)
  · simp only [Bool.and_eq_true, decide_eq_true_eq] at hsuppliers
    exact .inr (.inr ⟨hsuppliers.1, hsuppliers.2, _, _, rfl, rfl⟩)
  · exact .inr (.inl ⟨_, _, rfl⟩)
  · exact .inr (.inl ⟨_, _, rfl⟩)
  · exact .inl rfl

/-- What a result and the issues that were counted say of the data rows of the sheets. -/
structure AccountsFor (dataset : StructuredDatasetName) (maxRows : ℕ)
    (sheets : List StructuredSheetRows) (result : StructuredParseResult)
    (counted : List StructuredValidationIssue) : Prop where
  count : result.validationErrorCount = counted.length
  errors : result.validationErrors = counted.take maxRetainedValidationErrors
  order : (result.rows.map (·.origin)).Sublist (sheets.flatMap (dataOrigins dataset))
  once : (result.rows.map (·.origin)).Nodup
  accounted : ∀ origin ∈ sheets.flatMap (dataOrigins dataset),
    origin ∈ result.rows.map (·.origin) ∨ (∃ issue ∈ counted, issue.Names origin) ∨
    (maxRows ≤ result.rows.length ∧ ∃ issue ∈ counted, issue.code = "ROW_LIMIT_EXCEEDED") ∨
    (dataset = .supplierCatalog ∧ 1 < sheets.countP (isImportable dataset) ∧
      ∃ issue ∈ counted, issue.code = "INVALID_SHEET_COUNT")

lemma originsBelow_nodup (index : ℕ) : (originsBelow dataset sheet index).Nodup := by
  refine .of_map RowOrigin.rowNumber ?_
  have hnumbers : ((originsBelow dataset sheet index).map RowOrigin.rowNumber).Sublist
      ((sheet.rows.zipIdx 1).map (·.2)) := by
    unfold originsBelow
    rw [List.map_map]
    exact (List.filter_sublist.trans (List.drop_sublist ..)).map _
  rw [List.zipIdx_map_snd] at hnumbers
  exact hnumbers.nodup List.nodup_range'

lemma sheetIndex_of_mem (h : origin ∈ dataOrigins dataset sheet) :
    origin.sheetIndex = sheet.sheetIndex := by
  unfold dataOrigins at h
  split_ifs at h
  · cases hfound : findHeader dataset sheet.rows with
    | none => simp [hfound] at h
    | some candidate =>
      rw [hfound] at h
      obtain ⟨row, -, rfl⟩ := List.mem_map.mp h
      rfl
  · cases h

lemma dataOrigins_nodup {sheets : List StructuredSheetRows}
    (h : (sheets.map (·.sheetIndex)).Nodup) : (sheets.flatMap (dataOrigins dataset)).Nodup := by
  refine List.nodup_flatMap.mpr ⟨fun sheet _ => ?_, (List.pairwise_map.mp h).imp fun hne => ?_⟩
  · unfold dataOrigins
    split_ifs
    · cases findHeader dataset sheet.rows with
      | none => exact List.nodup_nil
      | some candidate => exact originsBelow_nodup candidate.index
    · exact List.nodup_nil
  · intro origin hfirst hsecond
    exact hne ((sheetIndex_of_mem hfirst).symm.trans (sheetIndex_of_mem hsecond))

variable {Content : Type} {reader : FileReader Content} {entryId : ℕ → String}
  {input : ParseStructuredFileInput Content} {sheets : List StructuredSheetRows}

lemma readImport_ok
    (h : readImport reader input = .ok (window, sheets)) :
    assertFileType reader input = .ok () ∧ readStructuredSheets reader input = .ok sheets := by
  unfold readImport at h
  obtain ⟨_, htype, h⟩ := Fallible.bind_ok.mp h
  obtain ⟨_, _, h⟩ := Fallible.bind_ok.mp h
  obtain ⟨_, hsheets, h⟩ := Fallible.bind_ok.mp h
  cases h
  exact ⟨htype, hsheets⟩

lemma sheetIndex_nodup (h : readStructuredSheets reader input = .ok sheets) :
    (sheets.map (·.sheetIndex)).Nodup := by
  obtain ⟨read, rfl⟩ : ∃ read : List XlsxSheetRows,
      sheets = read.mapIdx fun sheetIndex sheet => { sheet with sheetIndex } := by
    unfold readStructuredSheets at h
    dsimp only at h
    split at h
    all_goals
      obtain ⟨read, -, h⟩ := Fallible.bind_ok.mp h
      cases h
      exact ⟨_, rfl⟩
  have hindexes : (read.mapIdx fun sheetIndex sheet =>
      ({ sheet with sheetIndex } : StructuredSheetRows)).map (·.sheetIndex) =
        List.range read.length := List.ext_getElem (by simp) (by simp)
  rw [hindexes]
  exact List.nodup_range

variable (reader entryId) in
lemma parse_sheets (hledger : input.dataset ≠ .deliveryLedger) (hcards : input.dataset ≠ .costCards)
    (hread : readImport reader input = .ok (window, sheets)) (mode : Option ValidationMode) :
    parseStructuredFile reader entryId { input with validationMode := mode } =
      (checkSheets input.dataset (sheets.foldl (addSheet input.dataset
        input.limits.maxStructuredImportRows window) {})).finish mode none := by
  have hpolicy : (getImportRegistry input.dataset).metadataPolicy ≠ .derivedReceipt := by
    cases hdataset : input.dataset <;> simp_all [getImportRegistry]
  have hread' : readImport reader { input with validationMode := mode } = .ok (window, sheets) :=
    hread
  unfold parseStructuredFile
  rw [if_neg hcards, hread']
  exact if_neg hpolicy

lemma finish_eq (walk : ParseWalk) : ∃ result,
    walk.finish (some .collect) none = .ok result ∧ result.rows = walk.rows ∧
    result.validationErrors = walk.issues.issues ∧
    result.validationErrorCount = walk.issues.count ∧
    ∀ mode ≠ some ValidationMode.collect, ∀ thrown,
      walk.finish mode none = .ok thrown ↔ walk.issues.count = 0 ∧ thrown = result := by
  refine ⟨_, if_neg (by simp), rfl, rfl, rfl, fun mode hmode thrown => ?_⟩
  unfold ParseWalk.finish finishParse
  by_cases hcount : walk.issues.count = 0
  · rw [if_neg (by simp [hcount]), Except.ok.injEq]
    exact ⟨fun h => ⟨hcount, h.symm⟩, fun h => h.2.symm⟩
  · rw [if_pos (by simp [hcount, hmode])]
    exact ⟨nofun, fun h => absurd h.1 hcount⟩

variable (reader entryId input) in
/-- Every data row is accounted for, and a parse that throws at an issue gives the same result
where none is counted. -/
theorem rows_accounted (hledger : input.dataset ≠ .deliveryLedger)
    (hcards : input.dataset ≠ .costCards) (hmode : input.validationMode = some .collect)
    (hread : readImport reader input = .ok (window, sheets)) :
    ∃ result counted, parseStructuredFile reader entryId input = .ok result ∧
      AccountsFor input.dataset input.limits.maxStructuredImportRows sheets result counted ∧
      ∀ mode ≠ some ValidationMode.collect, ∀ thrown,
        parseStructuredFile reader entryId { input with validationMode := mode } = .ok thrown ↔
          result.validationErrorCount = 0 ∧ thrown = result := by
  have hself : { input with validationMode := some .collect } = input := by rw [← hmode]
  obtain ⟨added, kept, h⟩ : ∃ added kept, Accounted input.limits.maxStructuredImportRows
      (sheets.countP (isImportable input.dataset)) (sheets.flatMap (dataOrigins input.dataset)) {}
      (sheets.foldl (addSheet input.dataset input.limits.maxStructuredImportRows window) {})
      added kept := accounted_foldl accounted_addSheet sheets {}
  generalize hwalk : sheets.foldl (addSheet input.dataset
    input.limits.maxStructuredImportRows window) {} = walk at h
  have hparse := fun mode => hwalk ▸ parse_sheets reader entryId hledger hcards hread mode
  obtain ⟨result, hresult, hrows, herrors, hcount, hthrown⟩ :=
    finish_eq (checkSheets input.dataset walk)
  have hkept : walk.rows = kept := by rw [h.rows]; rfl
  have hmatched : walk.matchedSheetCount = sheets.countP (isImportable input.dataset) := by
    rw [h.matched]
    exact Nat.zero_add _
  -- what the workbook as a whole adds
  obtain ⟨counted, hsub, hissues, hcleared⟩ : ∃ counted, added ⊆ counted ∧
      (checkSheets input.dataset walk).issues.toIssueList = IssueList.addAll {} counted ∧
      (result.rows = kept ∨ result.rows = [] ∧ input.dataset = .supplierCatalog ∧
        1 < walk.matchedSheetCount ∧ ∃ issue ∈ counted, issue.code = "INVALID_SHEET_COUNT") := by
    have hadd : ∀ issue, IssueList.addAll {} (added ++ [issue]) =
        walk.issues.toIssueList.add issue := fun issue => by
      rw [h.issues, IssueList.addAll, List.foldl_append]
      rfl
    rcases checkSheets_cases input.dataset walk with heq | ⟨issue, message, heq⟩ |
      ⟨hsupplier, hmany, issue, message, hcode, heq⟩
    · rw [heq] at hrows ⊢
      exact ⟨added, fun _ => id, h.issues, .inl (hrows.trans hkept)⟩
    · rw [heq] at hrows ⊢
      exact ⟨added ++ [issue], List.subset_append_left _ _, (hadd issue).symm,
        .inl (hrows.trans hkept)⟩
    · rw [heq] at hrows ⊢
      exact ⟨added ++ [issue], List.subset_append_left _ _, (hadd issue).symm,
        .inr ⟨hrows, hsupplier, hmany, issue, by simp, hcode⟩⟩
  have horder : (result.rows.map (·.origin)).Sublist
      (sheets.flatMap (dataOrigins input.dataset)) := by
    rcases hcleared with hrows | ⟨hrows, -⟩
    · exact hrows ▸ h.order
    · exact hrows ▸ List.nil_sublist _
  refine ⟨result, counted, ?_, ⟨?_, ?_, horder, ?_, fun origin horigin => ?_⟩,
    fun mode hmode thrown => ?_⟩
  · rw [← hself, hparse]
    exact hresult
  · rw [hcount, hissues, IssueList.count_addAll]
    exact Nat.zero_add _
  · rw [herrors, hissues]
    exact issues_addAll (show ({} : IssueList).issues = [].take _ from rfl) counted
  · exact horder.nodup (dataOrigins_nodup (sheetIndex_nodup (readImport_ok hread).2))
  · rcases hcleared with hrows | ⟨-, hsupplier, hmany, hissue⟩
    · rcases h.accounted origin horigin with hkept | ⟨issue, hissue, hnames⟩ | hlimit
      · exact .inl (hrows ▸ hkept)
      · exact .inr (.inl ⟨issue, hsub hissue, hnames⟩)
      · rcases h.limit hlimit with hnever | ⟨hfull, issue, hissue, hcode⟩
        · cases hnever
        · exact .inr (.inr (.inl ⟨hrows ▸ hkept ▸ hfull, issue, hsub hissue, hcode⟩))
    · exact .inr (.inr (.inr ⟨hsupplier, hmatched ▸ hmany, hissue⟩))
  · rw [hparse, hthrown mode hmode, hcount]

/-- A file as the sheets of its workbook. -/
def workbookReader : FileReader (List XlsxSheetRows) where
  byteLength _ := 8192
  hasZipSignature _ := true
  includesZero _ := true
  decode _ := none
  parseCsv _ _ := .ok []
  readXlsxRows content _ _ := .ok content

/-- The rows of a supplier catalog with one supplier. -/
def supplierRows : List (List String) := [["供应商名称", "税率"], ["甲", "0.13"]]

/-- A catalog with one supplier and one without a name. -/
def supplierWorkbook : ParseStructuredFileInput (List XlsxSheetRows) where
  dataset := .supplierCatalog
  fileName := "suppliers.xlsx"
  fileType := .xlsx
  content := [⟨"Sheet1", false, supplierRows ++ [["", "0.06"]]⟩]
  limits := ⟨100000, 20, 32767, 209715200, 10000, 100⟩
  validationMode := some .collect

theorem suppliers_accounted : ∃ sheets result counted,
    parseStructuredFile workbookReader (fun _ => "") supplierWorkbook = .ok result ∧
      AccountsFor .supplierCatalog 100000 sheets result counted := by
  obtain ⟨result, counted, hparse, haccounts, -⟩ :=
    rows_accounted workbookReader (fun _ => "") supplierWorkbook (by decide) (by decide) rfl rfl
  exact ⟨_, result, counted, hparse, haccounts⟩

end Import
end SmeDataCenter
