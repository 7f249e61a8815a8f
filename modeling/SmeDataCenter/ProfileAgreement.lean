import Mathlib.Algebra.GroupWithZero.Nat
import SmeDataCenter.ParsedRows

/-!
# Profiles agree with parses

A parse that reports nothing goes through the sheets of a file as a profile does. Along both walks
the sheets found so far are the same, and so is the number of their rows. A profile then fails only
where it asks for more: of a supplier catalog it asks for a visible sheet, where a parse is content
with a hidden one, and a cost card file it reads with other options.
-/

namespace SmeDataCenter
namespace Import

open StructuredQuery (StructuredDatasetName)
open Fallible (bind_ok)

/-! ### A walk that reports nothing -/

/-- Nothing has been reported. -/
def ParseWalk.Clean (walk : ParseWalk) : Prop :=
  walk.issues.count = 0 ∧ walk.rowLimitReported = false

@[simp] lemma ParseWalk.count_report (walk : ParseWalk) (issue : StructuredValidationIssue)
    (legacyMessage : String) :
    (walk.report issue legacyMessage).issues.count = walk.issues.count + 1 := rfl

@[simp] lemma ParseWalk.count_reportAll (walk : ParseWalk)
    (issues : List (StructuredValidationIssue × String)) :
    (walk.reportAll issues).issues.count = walk.issues.count + issues.length := by
  induction issues generalizing walk with
  | nil => rfl
  | cons issue issues ih =>
    have hstep : walk.reportAll (issue :: issues) =
        (walk.report issue.1 issue.2).reportAll issues := rfl
    rw [hstep, ih, count_report, List.length_cons]
    omega

variable {dataset : StructuredDatasetName} {maxRows : ℕ} {window : Option DateWindow}

lemma Accounted.le_count {n : ℕ} {items : List RowOrigin} {walk walk' : ParseWalk} {added kept}
    (h : Accounted maxRows n items walk walk' added kept) : walk.issues.count ≤ walk'.issues.count := by
  rw [h.issues, IssueList.count_addAll]
  exact Nat.le_add_right _ _

/-! ### Data rows -/

/-- What data rows leave of a walk when they report nothing: they become rows. -/
structure RowsAdded (maxRows n : ℕ) (walk walk' : ParseWalk) : Prop where
  clean : walk'.Clean
  sheetSummary : walk'.sheetSummary = walk.sheetSummary
  matchedSheetCount : walk'.matchedSheetCount = walk.matchedSheetCount
  matchingSheetFound : walk'.matchingSheetFound = walk.matchingSheetFound
  matchingDataRowCount : walk'.matchingDataRowCount = walk.matchingDataRowCount
  rows : walk'.rows.length = walk.rows.length + n
  limit : walk.rows.length ≤ maxRows → walk'.rows.length ≤ maxRows

variable {sheet : StructuredSheetRows} {walk : ParseWalk}

lemma rowsAdded_addRow {n : ℕ} {payload : Payload} (hclean : walk.Clean)
    (h : (addRow dataset maxRows sheet n walk payload).issues.count = 0) :
    RowsAdded maxRows 1 walk (addRow dataset maxRows sheet n walk payload) := by
  unfold addRow at h ⊢
  dsimp only at h ⊢
  by_cases hmax : maxRows ≤ walk.rows.length
  · rw [if_pos hmax, hclean.2] at h
    exact absurd h (Nat.succ_ne_zero _)
  · rw [if_neg hmax] at h ⊢
    split at h
    · exact absurd h (Nat.succ_ne_zero _)
    · rename_i hkey
      rw [if_neg hkey]
      exact ⟨hclean, rfl, rfl, rfl, rfl, by simp, fun _ => by simp; omega⟩

variable {mappings : List HeaderMapping}

lemma rowsAdded_addDataRow {width : ℕ} {item : DataRow} (hclean : walk.Clean)
    (h : (addDataRow dataset maxRows window sheet width mappings walk item).issues.count = 0) :
    exceedsWidth item.row width = false ∧
      RowsAdded maxRows 1 walk
        (addDataRow dataset maxRows window sheet width mappings walk item) := by
  unfold addDataRow at h ⊢
  dsimp only at h ⊢
  by_cases hwidth : exceedsWidth item.row width = true
  · rw [if_pos hwidth] at h
    exact absurd h (Nat.succ_ne_zero _)
  · rw [if_neg hwidth] at h ⊢
    by_cases herrors : (payloadFor dataset mappings item.row).2 = []
    · rw [if_neg (not_not.mpr herrors)] at h ⊢
      split at h
      · exact absurd h (Nat.succ_ne_zero _)
      · rename_i hdate
        rw [if_neg hdate]
        exact ⟨by simpa using hwidth, rowsAdded_addRow hclean h⟩
    · rw [if_pos herrors, ParseWalk.count_reportAll, List.length_map] at h
      exact absurd (List.length_eq_zero_iff.mp (by omega)) herrors

lemma rowsAdded_foldl {width : ℕ} {data : List DataRow} (hclean : walk.Clean)
    (h : (data.foldl (addDataRow dataset maxRows window sheet width mappings)
      walk).issues.count = 0) :
    (∀ item ∈ data, exceedsWidth item.row width = false) ∧
      RowsAdded maxRows data.length walk
        (data.foldl (addDataRow dataset maxRows window sheet width mappings) walk) := by
  induction data generalizing walk with
  | nil => exact ⟨by simp, hclean, rfl, rfl, rfl, rfl, rfl, id⟩
  | cons item data ih =>
    obtain ⟨_, _, hrows⟩ : ∃ added kept, Accounted maxRows _ _ _ _ added kept :=
      accounted_foldl (p := fun _ => false) (fun _ _ => accounted_addDataRow) data
        (addDataRow dataset maxRows window sheet width mappings walk item)
    have hstep : (addDataRow dataset maxRows window sheet width mappings walk
        item).issues.count = 0 := Nat.le_zero.mp (h ▸ hrows.le_count)
    obtain ⟨hwidth, hadded⟩ := rowsAdded_addDataRow hclean hstep
    obtain ⟨hwidths, hrest⟩ := ih hadded.clean h
    exact ⟨List.forall_mem_cons.mpr ⟨hwidth, hwidths⟩, hrest.clean,
      hrest.sheetSummary.trans hadded.sheetSummary,
      hrest.matchedSheetCount.trans hadded.matchedSheetCount,
      hrest.matchingSheetFound.trans hadded.matchingSheetFound,
      hrest.matchingDataRowCount.trans hadded.matchingDataRowCount,
      by rw [List.foldl_cons, hrest.rows, hadded.rows, List.length_cons]; omega,
      fun hle => hrest.limit (hadded.limit hle)⟩

/-! ### Sheets -/

/-- A parse and a profile that have gone through the same sheets. -/
structure Beside (maxRows : ℕ) (walk : ParseWalk) (profile : ProfileWalk) : Prop where
  clean : walk.Clean
  facts : profile.sheets.map StructuredSheetProfile.facts =
    walk.sheetSummary.map StructuredSheetSummary.facts
  matchedSheetCount : profile.matchedSheetCount = walk.matchedSheetCount
  dataRowCount : profile.dataRowCount = walk.matchingDataRowCount
  rows : walk.rows.length = walk.matchingDataRowCount
  limit : walk.rows.length ≤ maxRows

/-- Are the headers of a sheet that is not empty matched, whether or not it is hidden? -/
def hasMatchingRows (dataset : StructuredDatasetName) (sheet : StructuredSheetRows) : Bool :=
  !isEmpty sheet.rows && isMatching (findHeader dataset sheet.rows)

variable {profile : ProfileWalk}

lemma beside_importSheet {candidate : Option HeaderCandidate}
    (hbeside : Beside maxRows walk profile)
    (hcandidate : ∀ c ∈ candidate, c.resolution ≠ .error [])
    (h : (addImportSheet dataset maxRows window sheet candidate walk).issues.count = 0) :
    sheet.hidden = false ∧ isMatching candidate = true ∧
      (addImportSheet dataset maxRows window sheet candidate walk).matchedSheetCount =
        walk.matchedSheetCount + 1 ∧
      (addImportSheet dataset maxRows window sheet candidate walk).matchingSheetFound =
        walk.matchingSheetFound ∧
      ∃ profile', profileImportSheet dataset maxRows sheet candidate profile = .ok profile' ∧
        Beside maxRows (addImportSheet dataset maxRows window sheet candidate walk) profile' := by
  unfold addImportSheet at h ⊢
  unfold profileImportSheet
  by_cases hhidden : sheet.hidden = true
  · rw [if_pos hhidden] at h
    exact absurd h (Nat.succ_ne_zero _)
  rw [if_neg hhidden] at h ⊢
  rw [if_neg hhidden]
  cases candidate with
  | none => exact absurd h (Nat.succ_ne_zero _)
  | some candidate =>
    obtain ⟨index, width, resolution⟩ := candidate
    cases resolution with
    | error errors =>
      dsimp only at h
      rw [ParseWalk.count_reportAll, List.length_map] at h
      have herrors : errors = [] := List.length_eq_zero_iff.mp (by omega)
      exact absurd (herrors ▸ rfl) (hcandidate _ rfl)
    | ok mappings =>
      dsimp only at h ⊢
      have hclean : (walk.withSheet sheet index
          (dataRowsFor dataset sheet.rows index).length).Clean := hbeside.clean
      obtain ⟨hwidths, hadded⟩ := rowsAdded_foldl hclean h
      have hfind : (dataRowsFor dataset sheet.rows index).find?
          (fun item => exceedsWidth item.row width) = none :=
        List.find?_eq_none.mpr fun item hitem => by simp [hwidths item hitem]
      have hlimit := hadded.limit hbeside.limit
      have hrows := hadded.rows
      have hbefore := hbeside.rows
      have hcount := hbeside.dataRowCount
      have hkept : (walk.withSheet sheet index
          (dataRowsFor dataset sheet.rows index).length).rows = walk.rows := rfl
      rw [hkept] at hrows
      refine ⟨by simpa using hhidden, rfl, hadded.matchedSheetCount, hadded.matchingSheetFound,
        profile.withSheet sheet index width (dataRowsFor dataset sheet.rows index).length, ?_, ?_⟩
      · simp only [Option.filter_some, Except.isOk, Except.toBool, if_true, hfind]
        rw [if_neg (by omega)]
      · refine ⟨hadded.clean, ?_, ?_, ?_, ?_, hlimit⟩
        · rw [hadded.sheetSummary]
          simp [ProfileWalk.withSheet, ParseWalk.withSheet, hbeside.facts,
            StructuredSheetProfile.facts, StructuredSheetSummary.facts]
        · rw [hadded.matchedSheetCount]
          simp [ProfileWalk.withSheet, ParseWalk.withSheet, hbeside.matchedSheetCount]
        · rw [hadded.matchingDataRowCount]
          simp [ProfileWalk.withSheet, ParseWalk.withSheet, hbeside.dataRowCount]
        · rw [hadded.matchingDataRowCount, hrows]
          simp only [ParseWalk.withSheet]
          omega

lemma findHeaderFrom_ne {index : ℕ} {fallback : Option HeaderCandidate}
    {rows : List (List String)} (h : ∀ c ∈ fallback, c.resolution ≠ .error []) :
    ∀ c ∈ findHeaderFrom dataset index fallback rows, c.resolution ≠ .error [] := by
  induction rows generalizing index fallback with
  | nil => exact h
  | cons row rows ih =>
    unfold findHeaderFrom
    dsimp only
    split
    · intro c hc
      cases hc
      exact resolveStructuredHeaders_ne dataset _
    · refine ih fun c hc => ?_
      split at hc
      · cases hc
        exact resolveStructuredHeaders_ne dataset _
      · exact h c hc

lemma findHeader_ne {rows : List (List String)} :
    ∀ c ∈ findHeader dataset rows, c.resolution ≠ .error [] :=
  findHeaderFrom_ne (by simp)

/-- A sheet of both walks, parsed without a report: it is profiled too. It counts when it is
importable, and a sheet that matches is importable, except for a hidden one of a supplier
catalog. -/
structure SheetBeside (dataset : StructuredDatasetName) (maxRows : ℕ) (walk walk' : ParseWalk)
    (sheet : StructuredSheetRows) (profiled : Except String ProfileWalk) : Prop where
  matchedSheetCount : walk'.matchedSheetCount =
    walk.matchedSheetCount + (if isImportable dataset sheet then 1 else 0)
  matchingSheetFound : walk'.matchingSheetFound =
    (walk.matchingSheetFound || hasMatchingRows dataset sheet)
  importable : dataset ≠ .supplierCatalog → hasMatchingRows dataset sheet = true →
    isImportable dataset sheet = true
  beside : ∃ profile', profiled = .ok profile' ∧ Beside maxRows walk' profile'

lemma sheetBeside_import (hrows : isEmpty sheet.rows = false)
    (hbeside : Beside maxRows walk profile)
    (h : (addImportSheet dataset maxRows window sheet (findHeader dataset sheet.rows)
      (walk.look (isMatching (findHeader dataset sheet.rows)))).issues.count = 0) :
    SheetBeside dataset maxRows walk
      (addImportSheet dataset maxRows window sheet (findHeader dataset sheet.rows)
        (walk.look (isMatching (findHeader dataset sheet.rows)))) sheet
      (profileImportSheet dataset maxRows sheet (findHeader dataset sheet.rows) profile) := by
  have hlook : Beside maxRows (walk.look (isMatching (findHeader dataset sheet.rows))) profile :=
    ⟨hbeside.clean, hbeside.facts, hbeside.matchedSheetCount, hbeside.dataRowCount, hbeside.rows,
      hbeside.limit⟩
  obtain ⟨hhidden, hmatch, hmatched, hfound, hprofiled⟩ :=
    beside_importSheet hlook findHeader_ne h
  have himportable : isImportable dataset sheet = true := by
    simp [isImportable, hrows, hhidden, hmatch]
  refine ⟨?_, ?_, fun _ _ => himportable, hprofiled⟩
  · rw [hmatched, himportable]
    rfl
  · rw [hfound]
    simp [hasMatchingRows, hrows, ParseWalk.look]

theorem sheetBeside_addSheet (hbeside : Beside maxRows walk profile)
    (h : (addSheet dataset maxRows window walk sheet).issues.count = 0) :
    SheetBeside dataset maxRows walk (addSheet dataset maxRows window walk sheet) sheet
      (profileSheet dataset maxRows profile sheet) := by
  unfold addSheet at h ⊢
  unfold profileSheet
  dsimp only at h ⊢
  by_cases hempty : isEmpty sheet.rows = true
  · rw [if_pos hempty, if_pos hempty]
    exact ⟨by simp [isImportable, hempty], by simp [hasMatchingRows, hempty],
      by simp [hasMatchingRows, hempty], _, rfl, hbeside.clean, hbeside.facts,
      hbeside.matchedSheetCount, hbeside.dataRowCount, hbeside.rows, hbeside.limit⟩
  rw [if_neg hempty] at h
  rw [if_neg hempty, if_neg hempty]
  have hrows : isEmpty sheet.rows = false := by simpa using hempty
  by_cases hpolicy : (getImportRegistry dataset).sheetPolicy = .importMatchingVisible
  · rw [if_pos hpolicy] at h
    rw [if_pos hpolicy, if_pos hpolicy]
    by_cases hhidden : sheet.hidden = true
    · rw [if_pos hhidden] at h
      rw [if_pos hhidden, if_pos hhidden]
      by_cases hrefused : (isMatching (findHeader dataset sheet.rows) &&
          decide (dataset ≠ .supplierCatalog)) = true
      · rw [if_pos hrefused] at h
        exact absurd h (Nat.succ_ne_zero _)
      · rw [if_neg hrefused, if_neg hrefused]
        refine ⟨by simp [isImportable, hhidden, ParseWalk.look],
          by simp [hasMatchingRows, hrows, ParseWalk.look], fun hdataset hmatch => ?_, profile,
          rfl, hbeside.clean, hbeside.facts, hbeside.matchedSheetCount, hbeside.dataRowCount,
          hbeside.rows, hbeside.limit⟩
        have hmatch' : isMatching (findHeader dataset sheet.rows) = true := by
          simpa [hasMatchingRows, hrows] using hmatch
        exact absurd (by simp [hmatch', hdataset]) hrefused
    · rw [if_neg hhidden] at h
      rw [if_neg hhidden, if_neg hhidden]
      by_cases hmatch : (!isMatching (findHeader dataset sheet.rows)) = true
      · rw [if_pos hmatch, if_pos hmatch]
        have hmatch' : isMatching (findHeader dataset sheet.rows) = false := by simpa using hmatch
        exact ⟨by simp [isImportable, hmatch', ParseWalk.look],
          by simp [hasMatchingRows, hmatch', ParseWalk.look], by simp [hasMatchingRows, hmatch'],
          profile, rfl, hbeside.clean, hbeside.facts, hbeside.matchedSheetCount,
          hbeside.dataRowCount, hbeside.rows, hbeside.limit⟩
      · rw [if_neg hmatch] at h
        rw [if_neg hmatch, if_neg hmatch]
        exact sheetBeside_import hrows hbeside h
  · rw [if_neg hpolicy] at h
    rw [if_neg hpolicy, if_neg hpolicy]
    exact sheetBeside_import hrows hbeside h

/-- All sheets of both walks. -/
structure SheetsBeside (dataset : StructuredDatasetName) (maxRows : ℕ) (walk walk' : ParseWalk)
    (sheets : List StructuredSheetRows) (profiled : Except String ProfileWalk) : Prop where
  matchedSheetCount : walk'.matchedSheetCount =
    walk.matchedSheetCount + sheets.countP (isImportable dataset)
  matchingSheetFound : walk'.matchingSheetFound =
    (walk.matchingSheetFound || sheets.any (hasMatchingRows dataset))
  importable : dataset ≠ .supplierCatalog → ∀ sheet ∈ sheets,
    hasMatchingRows dataset sheet = true → isImportable dataset sheet = true
  beside : ∃ profile', profiled = .ok profile' ∧ Beside maxRows walk' profile'

variable {sheets : List StructuredSheetRows}

theorem sheetsBeside_foldl (hbeside : Beside maxRows walk profile)
    (h : (sheets.foldl (addSheet dataset maxRows window) walk).issues.count = 0) :
    SheetsBeside dataset maxRows walk (sheets.foldl (addSheet dataset maxRows window) walk) sheets
      (sheets.foldlM (profileSheet dataset maxRows) profile) := by
  induction sheets generalizing walk profile with
  | nil => exact ⟨rfl, by simp, by simp, profile, rfl, hbeside⟩
  | cons sheet sheets ih =>
    obtain ⟨_, _, hsheets⟩ := accounted_foldl accounted_addSheet sheets
      (addSheet dataset maxRows window walk sheet)
    have hstep : (addSheet dataset maxRows window walk sheet).issues.count = 0 :=
      Nat.le_zero.mp (h ▸ hsheets.le_count)
    have hsheet := sheetBeside_addSheet hbeside hstep
    obtain ⟨profile', hprofile, hbeside'⟩ := hsheet.beside
    have hsheets := ih hbeside' h
    refine ⟨?_, ?_, fun hdataset => List.forall_mem_cons.mpr
      ⟨hsheet.importable hdataset, hsheets.importable hdataset⟩, ?_⟩
    · rw [List.foldl_cons, hsheets.matchedSheetCount, hsheet.matchedSheetCount, List.countP_cons]
      omega
    · rw [List.foldl_cons, hsheets.matchingSheetFound, hsheet.matchingSheetFound, List.any_cons,
        Bool.or_assoc]
    · rw [List.foldlM_cons, hprofile]
      exact hsheets.beside

/-! ### Whole files -/

variable {Content : Type} {reader : FileReader Content} {entryId : ℕ → String}
  {input : ParseStructuredFileInput Content} {result : StructuredParseResult}

lemma finish_ok {mode : Option ValidationMode} {metadata : Option StructuredDerivedMetadata}
    (hmode : mode ≠ some .collect) (h : walk.finish mode metadata = .ok result) :
    walk.issues.count = 0 ∧ result.sheetSummary = walk.sheetSummary := by
  unfold ParseWalk.finish finishParse at h
  by_cases hcount : walk.issues.count = 0
  · rw [if_neg (by simp [hcount])] at h
    cases h
    exact ⟨hcount, rfl⟩
  · rw [if_pos (by simp [hcount, hmode])] at h
    cases h

lemma parseStructuredFile_read (hdataset : input.dataset ≠ .costCards)
    (hmode : input.validationMode ≠ some .collect)
    (h : parseStructuredFile reader entryId input = .ok result) :
    ∃ window sheets, readImport reader input = .ok (window, sheets) := by
  unfold parseStructuredFile at h
  rw [if_neg hdataset] at h
  cases hread : readImport reader input with
  | error message =>
    rw [hread] at h
    exact absurd (finish_ok hmode h).1 (Nat.succ_ne_zero _)
  | ok imported => exact ⟨imported.1, imported.2, rfl⟩

lemma count_checkSheets (h : (checkSheets dataset walk).issues.count = 0) :
    checkSheets dataset walk = walk ∧
      ((getImportRegistry dataset).sheetPolicy = .importMatchingVisible →
        walk.matchingSheetFound = true ∧
          (0 < walk.matchedSheetCount → walk.matchingDataRowCount ≠ 0)) ∧
      (dataset = .supplierCatalog → walk.matchedSheetCount ≤ 1) := by
  unfold checkSheets at h ⊢
  dsimp only at h ⊢
  split_ifs at h ⊢ with hfound hmany hempty hnone
  · exact absurd h (Nat.succ_ne_zero _)
  · exact absurd h (Nat.succ_ne_zero _)
  · exact absurd h (Nat.succ_ne_zero _)
  · exact absurd h (Nat.succ_ne_zero _)
  · refine ⟨rfl, fun hpolicy => ⟨?_, fun hpos hrows => ?_⟩, fun hdataset => ?_⟩
    · simpa [hpolicy] using hfound
    · exact hempty (by simp [hpolicy, hpos, hrows])
    · by_contra hlt
      exact hmany (by simp [hdataset]; omega)

lemma checkProfile_ok (hbeside : Beside maxRows walk profile)
    (h : (checkSheets dataset walk).issues.count = 0) :
    (checkProfile dataset profile = .ok profile ↔
      ((getImportRegistry dataset).sheetPolicy = .importMatchingVisible →
        0 < walk.matchedSheetCount)) ∧
    (∀ profile', checkProfile dataset profile = .ok profile' → profile' = profile) := by
  obtain ⟨-, hpolicies, hmany⟩ := count_checkSheets h
  unfold checkProfile
  dsimp only
  rw [hbeside.matchedSheetCount, hbeside.dataRowCount]
  split_ifs with hnone hlt hempty
  · refine ⟨⟨nofun, fun hpos => ?_⟩, nofun⟩
    simp only [Bool.and_eq_true, decide_eq_true_eq] at hnone
    exact absurd (hpos hnone.1) (by omega)
  · simp only [Bool.and_eq_true, decide_eq_true_eq] at hlt
    exact absurd (hmany hlt.1) (by omega)
  · simp only [Bool.and_eq_true, decide_eq_true_eq] at hnone hempty
    refine absurd hempty.2 ((hpolicies hempty.1).2 ?_)
    by_contra hpos
    exact hnone ⟨hempty.1, by omega⟩
  · refine ⟨⟨fun _ hpolicy => ?_, fun _ => rfl⟩, fun _ hok => (Except.ok.inj hok).symm⟩
    by_contra hpos
    exact hnone (by simp only [Bool.and_eq_true, decide_eq_true_eq]; exact ⟨hpolicy, by omega⟩)

/-- **Sheets of rows.** A profile follows a parse unless its policy asks for a visible sheet that
matches and there is none. -/
theorem profileAgrees_rows (hdataset : input.dataset ≠ .costCards)
    (hpolicy : (getImportRegistry input.dataset).metadataPolicy ≠ .derivedReceipt)
    (hmode : input.validationMode ≠ some .collect)
    (h : parseStructuredFile reader entryId input = .ok result) :
    ∃ sheets, readStructuredSheets reader input = .ok sheets ∧
      ((getImportRegistry input.dataset).sheetPolicy = .importMatchingVisible →
        sheets.any (hasMatchingRows input.dataset) = true) ∧
      (input.dataset ≠ .supplierCatalog → ∀ sheet ∈ sheets,
        hasMatchingRows input.dataset sheet = true → isImportable input.dataset sheet = true) ∧
      (ProfileAgrees (profileStructuredFile reader entryId input) result ↔
        ((getImportRegistry input.dataset).sheetPolicy = .importMatchingVisible →
          ∃ sheet ∈ sheets, isImportable input.dataset sheet = true)) := by
  obtain ⟨window, sheets, hread⟩ := parseStructuredFile_read hdataset hmode h
  obtain ⟨htype, hsheets⟩ := readImport_ok hread
  unfold parseStructuredFile at h
  rw [if_neg hdataset, hread] at h
  dsimp only at h
  rw [if_neg hpolicy] at h
  obtain ⟨hcount, hsummary⟩ := finish_ok hmode h
  obtain ⟨hchecked, hpolicies, -⟩ := count_checkSheets hcount
  have hfold := hcount
  rw [hchecked] at hfold hsummary
  have hstart : Beside input.limits.maxStructuredImportRows {} {} :=
    ⟨⟨rfl, rfl⟩, rfl, rfl, rfl, rfl, Nat.zero_le _⟩
  have hbeside := sheetsBeside_foldl hstart hfold
  obtain ⟨profile, hprofile, hend⟩ := hbeside.beside
  obtain ⟨hiff, honly⟩ := checkProfile_ok hend hcount
  refine ⟨sheets, hsheets, fun hvisible => ?_, hbeside.importable, ?_⟩
  · have hfound := (hpolicies hvisible).1
    rw [hbeside.matchingSheetFound] at hfound
    simpa using hfound
  have hpos : 0 < (sheets.foldl (addSheet input.dataset input.limits.maxStructuredImportRows
      window) {}).matchedSheetCount ↔
        ∃ sheet ∈ sheets, isImportable input.dataset sheet = true := by
    rw [hbeside.matchedSheetCount, Nat.zero_add, List.countP_pos_iff]
  rw [← hpos, ← hiff]
  have hrun : profileStructuredFile reader entryId input = (do
      let walk ← checkProfile input.dataset profile
      .ok ⟨input.dataset, input.fileName, walk.sheets, walk.ignoredEmptySheets, none⟩) := by
    unfold profileStructuredFile
    rw [if_neg hpolicy, htype, hsheets]
    change (sheets.foldlM (profileSheet input.dataset input.limits.maxStructuredImportRows) {} >>=
      fun walk => checkProfile input.dataset walk >>= fun walk =>
        .ok (⟨input.dataset, input.fileName, walk.sheets, walk.ignoredEmptySheets, none⟩ :
          StructuredWorkbookProfile)) = _
    rw [hprofile]
    rfl
  constructor
  · rintro ⟨p, hp, -⟩
    rw [hrun] at hp
    obtain ⟨profile', hcheck, -⟩ := bind_ok.mp hp
    rw [honly _ hcheck] at hcheck
    exact hcheck
  · intro hcheck
    refine ⟨_, by rw [hrun, hcheck]; rfl, ?_⟩
    rw [hsummary]
    exact hend.facts

lemma profileAgrees_receipt (hpolicy : input.dataset = .deliveryLedger)
    (h : parseStructuredFile reader entryId input = .ok result) :
    ProfileAgrees (profileStructuredFile reader entryId input) result := by
  have hsame : parseStructuredFile reader entryId
      { input with startDate := none, endDate := none } =
        parseStructuredFile reader entryId input := by
    have hread : readImport reader { input with startDate := none, endDate := none } =
        readImport reader input := by
      unfold readImport
      rw [hpolicy]
      rfl
    have hdataset : input.dataset ≠ .costCards := by rw [hpolicy]; exact nofun
    unfold parseStructuredFile
    rw [hread, if_neg hdataset, if_neg hdataset]
  refine ⟨⟨input.dataset, input.fileName, result.sheetSummary.map profileOfSummary, [],
    result.derivedMetadata⟩, ?_, ?_⟩
  · unfold profileStructuredFile
    rw [if_pos (by rw [hpolicy]; rfl), hsame, h]
    rfl
  · simp [StructuredSheetProfile.facts, StructuredSheetSummary.facts, profileOfSummary]

/-! ### Cost card files -/

lemma parseCostCardFile_ok (hmode : input.validationMode ≠ some .collect)
    (h : parseCostCardFile reader input = .ok result) :
    ∃ walk, walkCostCardFile reader input = .ok walk ∧ walk.issues.count = 0 ∧
      result.sheetSummary = walk.result.sheetSummary := by
  unfold parseCostCardFile at h
  dsimp only at h
  by_cases hcount : (CostCardWalk.settle (walkCostCardFile reader input)).issues.count = 0
  · rw [if_neg (by simp [hcount])] at h
    cases hwalk : walkCostCardFile reader input with
    | error thrown =>
      rw [hwalk] at hcount
      exact absurd hcount (Nat.succ_ne_zero _)
    | ok walk =>
      rw [hwalk] at h hcount
      cases h
      exact ⟨walk, rfl, hcount, rfl⟩
  · rw [if_pos (by simp [hcount, hmode])] at h
    cases h

/-- What a part of the walk keeps, and how far it counts. -/
structure ItemsAdded (rowLimit n : ℕ) (walk walk' : CostCardWalk) : Prop where
  sheetSummary : walk'.result.sheetSummary = walk.result.sheetSummary
  itemRowCount : walk'.itemRowCount = walk.itemRowCount + n
  limit : walk.itemRowCount ≤ rowLimit → walk'.itemRowCount ≤ rowLimit
  count : walk.issues.count ≤ walk'.issues.count

variable {walk' : CostCardWalk} {rowLimit : ℕ}

lemma itemsAdded_addItemRow {sheetIndex : ℕ} {sheet : CostCardSheet} {walk : CostCardWalk}
    {row : List String × ℕ}
    (h : addItemRow rowLimit sheetIndex sheet mappings walk row = .ok walk') :
    ItemsAdded rowLimit 1 walk walk' := by
  unfold addItemRow at h
  dsimp only at h
  split_ifs at h with hlimit hwidth
  · cases h
    exact ⟨rfl, rfl, fun _ => by simpa using hlimit, Nat.le_succ _⟩
  · cases h
    exact ⟨rfl, rfl, fun _ => by simpa using hlimit, by simp⟩

lemma itemsAdded_foldlM {sheetIndex : ℕ} {sheet : CostCardSheet} {rows : List (List String × ℕ)}
    {walk : CostCardWalk}
    (h : rows.foldlM (addItemRow rowLimit sheetIndex sheet mappings) walk = .ok walk') :
    ItemsAdded rowLimit rows.length walk walk' := by
  induction rows generalizing walk with
  | nil =>
    cases h
    exact ⟨rfl, rfl, id, le_rfl⟩
  | cons row rows ih =>
    rw [List.foldlM_cons] at h
    obtain ⟨walk₁, hstep, hrest⟩ := bind_ok.mp h
    have hrow := itemsAdded_addItemRow hstep
    have hrows := ih hrest
    exact ⟨hrows.sheetSummary.trans hrow.sheetSummary,
      by rw [hrows.itemRowCount, hrow.itemRowCount, List.length_cons]; omega,
      fun hle => hrows.limit (hrow.limit hle), hrow.count.trans hrows.count⟩

/-- What sheets add to a walk that reports nothing: their facts, and their rows to the count. -/
structure CardSheetsAdded (fileType : FileType) (rowLimit : ℕ) (walk walk' : CostCardWalk)
    (sheets : List (CostCardSheet × ℕ)) : Prop where
  facts : walk'.result.sheetSummary.map StructuredSheetSummary.facts =
    walk.result.sheetSummary.map StructuredSheetSummary.facts ++
      sheets.filterMap (costCardSheetFacts fileType)
  itemRowCount : walk'.itemRowCount = walk.itemRowCount +
    ((sheets.filterMap (costCardSheetFacts fileType)).map (·.dataRowCount)).sum
  limit : walk.itemRowCount ≤ rowLimit → walk'.itemRowCount ≤ rowLimit

lemma addCostCardSheet_ok {fileType : FileType} {walk : CostCardWalk} {sheet : CostCardSheet × ℕ}
    (h : addCostCardSheet fileType rowLimit walk sheet = .ok walk') :
    walk.issues.count ≤ walk'.issues.count ∧
      (walk'.issues.count = 0 → CardSheetsAdded fileType rowLimit walk walk' [sheet]) := by
  obtain ⟨sheet, sheetIndex⟩ := sheet
  unfold addCostCardSheet at h
  dsimp only at h
  by_cases hempty : isEmpty sheet.rows = true
  · rw [if_pos hempty] at h
    cases h
    have hfacts : costCardSheetFacts fileType (sheet, sheetIndex) = none := by
      simp [costCardSheetFacts, hempty]
    exact ⟨le_rfl, fun _ => ⟨by simp [hfacts], by simp [hfacts], id⟩⟩
  rw [if_neg hempty] at h
  have hrows : isEmpty sheet.rows = false := by simpa using hempty
  cases hcandidate : candidateRow fileType sheet.rows with
  | none =>
    rw [hcandidate] at h
    cases h
    have hfacts : costCardSheetFacts fileType (sheet, sheetIndex) = none := by
      simp [costCardSheetFacts, hcandidate]
    exact ⟨le_rfl, fun _ => ⟨by simp [hfacts], by simp [hfacts], id⟩⟩
  | some candidate =>
    rw [hcandidate] at h
    dsimp only at h
    by_cases hhidden : sheet.hidden = true
    · rw [if_pos hhidden] at h
      cases h
      exact ⟨Nat.le_succ _, fun hcount => absurd hcount (Nat.succ_ne_zero _)⟩
    rw [if_neg hhidden] at h
    cases hresolve : resolveStructuredHeaders .costCards (sheet.rows[candidate]?.getD []) with
    | error errors =>
      rw [hresolve] at h
      cases h
      refine ⟨by simp, fun hcount => ?_⟩
      rw [IssueList.count_addAll, List.length_map] at hcount
      have herrors : errors = [] := List.length_eq_zero_iff.mp (by omega)
      exact absurd (herrors ▸ hresolve) (resolveStructuredHeaders_ne _ _)
    | ok mappings =>
      rw [hresolve] at h
      obtain ⟨walk₁, hitems, hend⟩ := bind_ok.mp h
      cases hend
      have hadded := itemsAdded_foldlM hitems
      have hfacts : costCardSheetFacts fileType (sheet, sheetIndex) =
          some ⟨sheetIndex, sheet.name, false, candidate + 1,
            (itemRows sheet candidate).length⟩ := by
        simp [costCardSheetFacts, hrows, hcandidate]
      refine ⟨hadded.count, fun _ => ⟨?_, ?_, hadded.limit⟩⟩
      · simp [hadded.sheetSummary, hfacts, StructuredSheetSummary.facts]
      · simp [hadded.itemRowCount, hfacts]

lemma cardSheets_foldlM {fileType : FileType} {sheets : List (CostCardSheet × ℕ)}
    {walk : CostCardWalk}
    (h : sheets.foldlM (addCostCardSheet fileType rowLimit) walk = .ok walk') :
    walk.issues.count ≤ walk'.issues.count ∧
      (walk'.issues.count = 0 → CardSheetsAdded fileType rowLimit walk walk' sheets) := by
  induction sheets generalizing walk with
  | nil =>
    cases h
    exact ⟨le_rfl, fun _ => ⟨by simp, by simp, id⟩⟩
  | cons sheet sheets ih =>
    rw [List.foldlM_cons] at h
    obtain ⟨walk₁, hstep, hrest⟩ := bind_ok.mp h
    obtain ⟨hle, hsheet⟩ := addCostCardSheet_ok hstep
    obtain ⟨hle', hsheets⟩ := ih hrest
    refine ⟨hle.trans hle', fun hcount => ?_⟩
    have hfirst := hsheet (Nat.le_zero.mp (hcount ▸ hle'))
    have hothers := hsheets hcount
    have hsplit : (sheet :: sheets).filterMap (costCardSheetFacts fileType) =
        [sheet].filterMap (costCardSheetFacts fileType) ++
          sheets.filterMap (costCardSheetFacts fileType) := by
      rw [← List.filterMap_append, List.singleton_append]
    refine ⟨?_, ?_, fun hlimit => hothers.limit (hfirst.limit hlimit)⟩
    · rw [hothers.facts, hfirst.facts, hsplit, List.append_assoc]
    · rw [hothers.itemRowCount, hfirst.itemRowCount, hsplit, List.map_append, List.sum_append]
      omega

lemma count_checkCostCardRows {walk : CostCardWalk} (h : checkCostCardRows walk = .ok walk')
    (hcount : walk'.issues.count = 0) :
    walk.issues.count = 0 ∧ walk'.result.sheetSummary = walk.result.sheetSummary := by
  unfold checkCostCardRows at h
  dsimp only at h
  by_cases hempty : (decide (walk.result.sheetSummary = []) || decide (walk.result.rows = [])) =
      true
  · rw [if_pos hempty, if_pos (by simp)] at h
    cases h
    exact absurd hcount (Nat.succ_ne_zero _)
  · rw [if_neg hempty] at h
    by_cases hwalk : walk.issues.count = 0
    · rw [if_neg (by simp [hwalk])] at h
      cases hgroup : groupCostCardRows walk.result.rows "validation" with
      | error message =>
        rw [hgroup] at h
        cases h
      | ok grouped =>
        rw [hgroup] at h
        cases h
        exact ⟨hwalk, rfl⟩
    · rw [if_pos (by simp [hwalk])] at h
      cases h
      exact absurd hcount hwalk

lemma parseCostCardFile_facts (hmode : input.validationMode ≠ some .collect)
    (h : parseCostCardFile reader input = .ok result) :
    ∃ cards, readCostCardSheets reader input
          (min input.limits.maxStructuredImportRows inputRowLimit) = .ok cards ∧
      result.sheetSummary.map StructuredSheetSummary.facts =
        cards.zipIdx.filterMap (costCardSheetFacts input.fileType) ∧
      ((cards.zipIdx.filterMap (costCardSheetFacts input.fileType)).map (·.dataRowCount)).sum ≤
        input.limits.maxStructuredImportRows := by
  obtain ⟨walk, hwalk, hcount, hsummary⟩ := parseCostCardFile_ok hmode h
  unfold walkCostCardFile at hwalk
  split_ifs at hwalk with hname hsize hdates
  dsimp only at hwalk
  cases hread : readCostCardSheets reader input
      (min input.limits.maxStructuredImportRows inputRowLimit) with
  | error message =>
    rw [hread] at hwalk
    cases hwalk
  | ok cards =>
    rw [hread] at hwalk
    obtain ⟨walk₁, hfold, hcheck⟩ := bind_ok.mp hwalk
    obtain ⟨hcount₁, hsummary₁⟩ := count_checkCostCardRows hcheck hcount
    have hadded := (cardSheets_foldlM hfold).2 hcount₁
    refine ⟨cards, rfl, ?_, ?_⟩
    · rw [hsummary, hsummary₁, hadded.facts]
      rfl
    · have hlimit := hadded.limit (Nat.zero_le _)
      rw [hadded.itemRowCount] at hlimit
      have hmin := Nat.min_le_left input.limits.maxStructuredImportRows inputRowLimit
      change 0 + _ ≤ _ at hlimit
      omega

/-! ### Profiles of cost card files -/

/-- Nothing stands against profiling a sheet: it is empty, or importable and within its width. -/
def ProfilableSheet (dataset : StructuredDatasetName) (sheet : StructuredSheetRows) : Prop :=
  isEmpty sheet.rows = false →
    isImportable dataset sheet = true ∧ withinWidth dataset sheet = true

/-- The number of data rows that a sheet has by its facts. -/
def factRows (facts : List SheetFacts) : ℕ := (facts.map (·.dataRowCount)).sum

/-- What profiled sheets add to a walk. -/
structure SheetsProfiled (dataset : StructuredDatasetName) (walk walk' : ProfileWalk)
    (sheets : List StructuredSheetRows) : Prop where
  profilable : ∀ sheet ∈ sheets, ProfilableSheet dataset sheet
  facts : walk'.sheets.map StructuredSheetProfile.facts =
    walk.sheets.map StructuredSheetProfile.facts ++ sheets.filterMap (sheetFacts dataset)
  dataRowCount : walk'.dataRowCount =
    walk.dataRowCount + factRows (sheets.filterMap (sheetFacts dataset))

lemma isImportable_iff (hrows : isEmpty sheet.rows = false) :
    isImportable dataset sheet = true ↔ sheet.hidden = false ∧
      ∃ c, (findHeader dataset sheet.rows).filter (fun c => c.resolution.isOk) = some c ∧
        findHeader dataset sheet.rows = some c := by
  simp only [isImportable, hrows, isMatching, Bool.not_false, Bool.true_and, Bool.and_eq_true,
    Bool.not_eq_true', Option.any_eq_true, Option.filter_eq_some_iff]
  constructor
  · rintro ⟨hhidden, c, hc, hok⟩
    exact ⟨hhidden, c, ⟨hc, hok⟩, hc⟩
  · rintro ⟨hhidden, c, ⟨hc, hok⟩, -⟩
    exact ⟨hhidden, c, hc, hok⟩

lemma profileImportSheet_ok {walk walk' : ProfileWalk} (hrows : isEmpty sheet.rows = false) :
    profileImportSheet dataset maxRows sheet (findHeader dataset sheet.rows) walk = .ok walk' ↔
      (isImportable dataset sheet = true ∧ withinWidth dataset sheet = true) ∧
        ∃ c, findHeader dataset sheet.rows = some c ∧
          walk.dataRowCount + (dataRowsFor dataset sheet.rows c.index).length ≤ maxRows ∧
          walk' = walk.withSheet sheet c.index c.width
            (dataRowsFor dataset sheet.rows c.index).length := by
  rw [isImportable_iff hrows]
  unfold profileImportSheet
  by_cases hhidden : sheet.hidden = true
  · rw [if_pos hhidden]
    exact ⟨nofun, fun h => absurd hhidden (by simp [h.1.1.1])⟩
  rw [if_neg hhidden]
  have hvisible : sheet.hidden = false := by simpa using hhidden
  cases hfilter : (findHeader dataset sheet.rows).filter fun c => c.resolution.isOk with
  | none => exact ⟨nofun, fun h => absurd h.1.1.2.choose_spec.1 nofun⟩
  | some candidate =>
    have hfind := (Option.filter_eq_some_iff.mp hfilter).1
    dsimp only
    cases hwide : (dataRowsFor dataset sheet.rows candidate.index).find? fun item =>
        exceedsWidth item.row candidate.width with
    | some item =>
      refine ⟨nofun, fun h => ?_⟩
      have hwithin := h.1.2
      simp only [withinWidth, hfind, Option.all_some, List.all_eq_true] at hwithin
      have hnot := hwithin item (List.mem_of_find?_eq_some hwide)
      have hdoes : exceedsWidth item.row candidate.width = true :=
        List.find?_some (p := fun item : DataRow => exceedsWidth item.row candidate.width) hwide
      rw [hdoes] at hnot
      exact absurd hnot (by simp)
    | none =>
      dsimp only
      have hwithin : withinWidth dataset sheet = true := by
        simp only [withinWidth, hfind, Option.all_some, List.all_eq_true]
        intro item hitem
        simpa using List.find?_eq_none.mp hwide item hitem
      by_cases hlimit : maxRows <
          walk.dataRowCount + (dataRowsFor dataset sheet.rows candidate.index).length
      · rw [if_pos hlimit]
        refine ⟨nofun, ?_⟩
        rintro ⟨-, c, hc, hle, -⟩
        rw [hfind] at hc
        cases hc
        omega
      · rw [if_neg hlimit]
        constructor
        · rintro ⟨⟩
          exact ⟨⟨⟨hvisible, candidate, rfl, hfind⟩, hwithin⟩, candidate, hfind, by omega, rfl⟩
        · rintro ⟨-, c, hc, -, rfl⟩
          rw [hfind] at hc
          cases hc
          rfl

/-- Where every sheet that is not empty counts, a sheet is profiled when nothing stands against
it and its rows still fit. -/
lemma profileSheet_ok (hpolicy : (getImportRegistry dataset).sheetPolicy ≠ .importMatchingVisible)
    {walk : ProfileWalk} :
    (∀ walk', profileSheet dataset maxRows walk sheet = .ok walk' →
      SheetsProfiled dataset walk walk' [sheet]) ∧
    (ProfilableSheet dataset sheet →
      walk.dataRowCount + factRows ([sheet].filterMap (sheetFacts dataset)) ≤ maxRows →
      ∃ walk', profileSheet dataset maxRows walk sheet = .ok walk') := by
  unfold profileSheet
  by_cases hempty : isEmpty sheet.rows = true
  · rw [if_pos hempty]
    have hfacts : sheetFacts dataset sheet = none := by simp [sheetFacts, hempty]
    refine ⟨?_, fun _ _ => ⟨_, rfl⟩⟩
    rintro walk' ⟨⟩
    exact ⟨by simp [ProfilableSheet, hempty], by simp [hfacts], by simp [hfacts, factRows]⟩
  have hrows : isEmpty sheet.rows = false := by simpa using hempty
  rw [if_neg hempty]
  dsimp only
  rw [if_neg hpolicy]
  constructor
  · intro walk' h
    obtain ⟨hprofilable, c, hc, -, rfl⟩ := (profileImportSheet_ok hrows).mp h
    have hfacts : sheetFacts dataset sheet = some ⟨sheet.sheetIndex, sheet.name, sheet.hidden,
        c.index + 1, (dataRowsFor dataset sheet.rows c.index).length⟩ := by
      simp [sheetFacts, hrows, hc]
    exact ⟨by simpa [ProfilableSheet, hrows] using hprofilable,
      by simp [hfacts, ProfileWalk.withSheet, StructuredSheetProfile.facts],
      by simp [hfacts, ProfileWalk.withSheet, factRows]⟩
  · intro hprofilable hlimit
    have himportable := hprofilable hrows
    obtain ⟨-, c, -, hc⟩ := (isImportable_iff hrows).mp himportable.1
    refine ⟨_, (profileImportSheet_ok hrows).mpr ⟨himportable, c, hc, ?_, rfl⟩⟩
    simpa [sheetFacts, hrows, hc, factRows] using hlimit

lemma profileSheets_ok
    (hpolicy : (getImportRegistry dataset).sheetPolicy ≠ .importMatchingVisible)
    {walk : ProfileWalk} :
    (∀ walk', sheets.foldlM (profileSheet dataset maxRows) walk = .ok walk' →
      SheetsProfiled dataset walk walk' sheets) ∧
    ((∀ sheet ∈ sheets, ProfilableSheet dataset sheet) →
      walk.dataRowCount + factRows (sheets.filterMap (sheetFacts dataset)) ≤ maxRows →
      ∃ walk', sheets.foldlM (profileSheet dataset maxRows) walk = .ok walk') := by
  induction sheets generalizing walk with
  | nil =>
    refine ⟨?_, fun _ _ => ⟨walk, rfl⟩⟩
    rintro walk' ⟨⟩
    exact ⟨by simp, by simp, by simp [factRows]⟩
  | cons sheet sheets ih =>
    have hsplit : (sheet :: sheets).filterMap (sheetFacts dataset) =
        [sheet].filterMap (sheetFacts dataset) ++ sheets.filterMap (sheetFacts dataset) := by
      rw [← List.filterMap_append, List.singleton_append]
    have hsum : factRows ((sheet :: sheets).filterMap (sheetFacts dataset)) =
        factRows ([sheet].filterMap (sheetFacts dataset)) +
          factRows (sheets.filterMap (sheetFacts dataset)) := by
      rw [hsplit, factRows, List.map_append, List.sum_append]
      rfl
    constructor
    · intro walk' h
      rw [List.foldlM_cons] at h
      obtain ⟨walk₁, hstep, hrest⟩ := bind_ok.mp h
      have hfirst := (profileSheet_ok hpolicy).1 walk₁ hstep
      have hothers := ih.1 walk' hrest
      refine ⟨List.forall_mem_cons.mpr ⟨hfirst.profilable sheet (by simp), hothers.profilable⟩,
        ?_, ?_⟩
      · rw [hothers.facts, hfirst.facts, hsplit, List.append_assoc]
      · rw [hothers.dataRowCount, hfirst.dataRowCount, hsum]
        omega
    · intro hprofilable hlimit
      rw [hsum] at hlimit
      have hnext : ∃ walk₁, profileSheet dataset maxRows walk sheet = .ok walk₁ :=
        (profileSheet_ok hpolicy).2 (hprofilable sheet (by simp)) (by omega)
      obtain ⟨walk₁, hstep⟩ := hnext
      have hfirst := (profileSheet_ok hpolicy).1 walk₁ hstep
      obtain ⟨walk', hrest⟩ := ih.2 (fun other hother => hprofilable other (by simp [hother]))
        (by rw [hfirst.dataRowCount]; omega)
      exact ⟨walk', by rw [List.foldlM_cons, hstep]; exact hrest⟩

lemma profileStructuredFile_ok
    (hmetadata : (getImportRegistry input.dataset).metadataPolicy ≠ .derivedReceipt)
    (hpolicy : (getImportRegistry input.dataset).sheetPolicy ≠ .importMatchingVisible)
    (hsupplier : input.dataset ≠ .supplierCatalog) {profile : StructuredWorkbookProfile} :
    profileStructuredFile reader entryId input = .ok profile ↔
      assertFileType reader input = .ok () ∧
        ∃ sheets, readStructuredSheets reader input = .ok sheets ∧
          ∃ walk, sheets.foldlM (profileSheet input.dataset
              input.limits.maxStructuredImportRows) {} = .ok walk ∧
            ⟨input.dataset, input.fileName, walk.sheets, walk.ignoredEmptySheets, none⟩ =
              profile := by
  have hcheck (walk : ProfileWalk) : checkProfile input.dataset walk = .ok walk := by
    unfold checkProfile
    dsimp only
    rw [if_neg (by simp [hpolicy]), if_neg (by simp [hsupplier]), if_neg (by simp [hpolicy])]
  unfold profileStructuredFile
  rw [if_neg hmetadata]
  constructor
  · intro h
    obtain ⟨⟨⟩, htype, h⟩ := bind_ok.mp h
    obtain ⟨sheets, hsheets, h⟩ := bind_ok.mp h
    obtain ⟨walk, hwalk, h⟩ := bind_ok.mp h
    rw [hcheck] at h
    exact ⟨htype, sheets, hsheets, walk, hwalk, Except.ok.inj h⟩
  · rintro ⟨htype, sheets, hsheets, walk, hwalk, rfl⟩
    refine bind_ok.mpr ⟨(), htype, bind_ok.mpr ⟨sheets, hsheets,
      bind_ok.mpr ⟨walk, hwalk, ?_⟩⟩⟩
    rw [hcheck]
    rfl

/-- **Cost cards.** A profile follows a parse of a cost card file when the sheets it reads are
those of the parse. -/
theorem profileAgrees_costCards (hdataset : input.dataset = .costCards)
    (hmode : input.validationMode ≠ some .collect)
    (h : parseStructuredFile reader entryId input = .ok result) :
    ProfileAgrees (profileStructuredFile reader entryId input) result ↔
      CostCardSheetsAgree reader input := by
  unfold parseStructuredFile at h
  rw [if_pos hdataset] at h
  obtain ⟨cards, hcards, hfacts, hsum⟩ := parseCostCardFile_facts hmode h
  have hpolicy : (getImportRegistry input.dataset).sheetPolicy ≠ .importMatchingVisible := by
    rw [hdataset]
    exact nofun
  have hmetadata : (getImportRegistry input.dataset).metadataPolicy ≠ .derivedReceipt := by
    rw [hdataset]
    exact nofun
  have hsupplier : input.dataset ≠ .supplierCatalog := by
    rw [hdataset]
    exact nofun
  constructor
  · rintro ⟨profile, hprofile, hsame⟩
    obtain ⟨htype, sheets, hsheets, walk, hwalk, rfl⟩ :=
      (profileStructuredFile_ok hmetadata hpolicy hsupplier).mp hprofile
    have hprofiled := (profileSheets_ok hpolicy).1 walk hwalk
    rw [hdataset] at hprofiled
    refine ⟨htype, sheets, cards, hsheets, hcards, hprofiled.profilable, ?_⟩
    rw [← hfacts, ← hsame]
    exact hprofiled.facts.symm
  · rintro ⟨htype, sheets, cards', hsheets, hcards', hprofilable, hsame⟩
    rw [hcards] at hcards'
    cases hcards'
    have hlimit : ({} : ProfileWalk).dataRowCount +
        factRows (sheets.filterMap (sheetFacts input.dataset)) ≤
          input.limits.maxStructuredImportRows := by
      rw [hdataset, hsame]
      change 0 + factRows _ ≤ _
      rw [Nat.zero_add]
      exact hsum
    obtain ⟨walk, hwalk⟩ := (profileSheets_ok hpolicy).2 (by rw [hdataset]; exact hprofilable)
      hlimit
    have hprofiled := (profileSheets_ok hpolicy).1 walk hwalk
    rw [hdataset] at hprofiled
    refine ⟨_, (profileStructuredFile_ok hmetadata hpolicy hsupplier).mpr
      ⟨htype, sheets, hsheets, walk, hwalk, rfl⟩, ?_⟩
    rw [hfacts, ← hsame]
    exact hprofiled.facts

/-- **Profiles and parses.** Where a parse that throws at an issue succeeds, the profile of the
same file succeeds with the same sheets, header rows and numbers of rows exactly when a supplier
catalog has a visible sheet that matches, and the two readings of a cost card file agree. -/
theorem profile_agrees_iff {Content : Type} (reader : FileReader Content)
    (entryId : ℕ → String) (input : ParseStructuredFileInput Content)
    (result : StructuredParseResult) (hmode : input.validationMode ≠ some .collect)
    (h : parseStructuredFile reader entryId input = .ok result) :
    ProfileAgrees (profileStructuredFile reader entryId input) result ↔
      Profilable reader input := by
  by_cases hcards : input.dataset = .costCards
  · rw [profileAgrees_costCards hcards hmode h]
    unfold Profilable
    rw [hcards]
  by_cases hreceipt : input.dataset = .deliveryLedger
  · refine iff_of_true (profileAgrees_receipt hreceipt h) ?_
    unfold Profilable
    rw [hreceipt]
    trivial
  have hmetadata : (getImportRegistry input.dataset).metadataPolicy ≠ .derivedReceipt := by
    cases hdataset : input.dataset <;> first | exact absurd hdataset hreceipt | exact nofun
  obtain ⟨sheets, hsheets, hmatching, himportable, hiff⟩ :=
    profileAgrees_rows hcards hmetadata hmode h
  rw [hiff]
  unfold Profilable
  cases hdataset : input.dataset with
  | supplierCatalog =>
    rw [hdataset] at hiff
    simp only [hsheets, Except.ok.injEq, exists_eq_left']
    exact ⟨fun hall => hall rfl, fun hex _ => hex⟩
  | dishCatalog =>
    refine iff_of_true (fun hpolicy => ?_) trivial
    rw [hdataset] at hmatching himportable
    obtain ⟨sheet, hsheet, hmatch⟩ := List.any_eq_true.mp (hmatching hpolicy)
    exact ⟨sheet, hsheet, himportable nofun sheet hsheet hmatch⟩
  | costCards => exact absurd hdataset hcards
  | deliveryLedger => exact absurd hdataset hreceipt
  | dishes => exact iff_of_true nofun trivial
  | business => exact iff_of_true nofun trivial
  | vip => exact iff_of_true nofun trivial
  | inStoreOrders => exact iff_of_true nofun trivial
  | takeawayOrders => exact iff_of_true nofun trivial

/-- A receipt with one item. -/
def receiptWorkbook : ParseStructuredFileInput (List XlsxSheetRows) where
  dataset := .deliveryLedger
  fileName := "receipt.xlsx"
  fileType := .xlsx
  content := [⟨"Sheet1", false,
    [["单据号", "R1", "订货机构", "甲店", "送货机构", "乙公司", "收货日期", "2024-01-02"],
     ["序号", "物品名称", "规格型号", "收货数量", "收货金额"], ["1", "菜", "公斤", "3", "2.5"]]⟩]
  limits := ⟨100000, 20, 32767, 209715200, 10000, 100⟩

/-- What the receipt is parsed to. -/
def receiptResult : StructuredParseResult where
  sheetSummary := [⟨0, "Sheet1", false, 2, some 5, 1⟩]
  rows := [⟨0, "Sheet1", 3,
    [("entry_id", .text ""), ("purchase_date", .text "2024-01-02"), ("store_name", .text "甲店"),
     ("receipt_id", .text "R1"), ("supplier_name", .text "乙公司"),
     ("production_date_or_batch", .null), ("shelf_life", .null),
     ("purchase_amount", .number "2.5"), ("purchase_quantity", .number "3"),
     ("specification", .text "公斤"), ("item_name", .text "菜")]⟩]
  derivedMetadata := some ⟨"R1", "2024-01-02"⟩

theorem receiptWorkbook_agrees :
    ProfileAgrees (profileStructuredFile workbookReader (fun _ => "") receiptWorkbook)
      receiptResult :=
  (profile_agrees_iff workbookReader (fun _ => "") receiptWorkbook receiptResult nofun
    (by decide +kernel)).mpr trivial

/-- A supplier catalog whose only sheet is hidden. -/
def hiddenSupplierWorkbook : ParseStructuredFileInput (List XlsxSheetRows) where
  dataset := .supplierCatalog
  fileName := "suppliers.xlsx"
  fileType := .xlsx
  content := [⟨"Sheet1", true, supplierRows⟩]
  limits := ⟨100000, 20, 32767, 209715200, 10000, 100⟩

lemma supplierRows_matching : isMatching (findHeader .supplierCatalog supplierRows) = true := by
  decide +kernel

/-- A parse that throws at an issue accepts a catalog whose only sheet is hidden, and gives no
rows; the profile of the file fails. -/
theorem hidden_supplierWorkbook :
    parseStructuredFile workbookReader (fun _ => "") hiddenSupplierWorkbook = .ok {} ∧
      ¬ ProfileAgrees (profileStructuredFile workbookReader (fun _ => "") hiddenSupplierWorkbook)
        {} := by
  have hempty : isEmpty supplierRows = false := by decide
  have hread : readStructuredSheets workbookReader hiddenSupplierWorkbook =
      .ok [⟨⟨"Sheet1", true, supplierRows⟩, 0⟩] := rfl
  have htype : assertFileType workbookReader hiddenSupplierWorkbook = .ok () := by decide
  have hsheet : addSheet .supplierCatalog 100000 none {} ⟨⟨"Sheet1", true, supplierRows⟩, 0⟩ =
      ParseWalk.look {} true := by
    simp [addSheet, hempty, supplierRows_matching, getImportRegistry]
  have hprofiled : profileSheet .supplierCatalog 100000 {} ⟨⟨"Sheet1", true, supplierRows⟩, 0⟩ =
      .ok {} := by
    simp [profileSheet, hempty, getImportRegistry]
  constructor
  · have himport : readImport workbookReader hiddenSupplierWorkbook =
        .ok (none, [⟨⟨"Sheet1", true, supplierRows⟩, 0⟩]) := by
      unfold readImport
      rw [htype, hread]
      rfl
    unfold parseStructuredFile
    rw [if_neg (by decide), himport]
    dsimp only
    rw [if_neg (by decide), show hiddenSupplierWorkbook.dataset = .supplierCatalog from rfl,
      show hiddenSupplierWorkbook.limits.maxStructuredImportRows = 100000 from rfl,
      List.foldl_cons, List.foldl_nil, hsheet]
    rfl
  · rintro ⟨profile, hok, -⟩
    unfold profileStructuredFile at hok
    rw [if_neg (by decide)] at hok
    obtain ⟨⟨⟩, -, hok⟩ := bind_ok.mp hok
    obtain ⟨sheets, hsheets, hok⟩ := bind_ok.mp hok
    rw [hread] at hsheets
    cases hsheets
    obtain ⟨walk, hwalk, hok⟩ := bind_ok.mp hok
    rw [List.foldlM_cons] at hwalk
    obtain ⟨walk₁, hstep, hwalk⟩ := bind_ok.mp hwalk
    cases hprofiled.symm.trans hstep
    cases hwalk
    obtain ⟨walk', hcheck, -⟩ := bind_ok.mp hok
    cases hcheck

end Import
end SmeDataCenter
