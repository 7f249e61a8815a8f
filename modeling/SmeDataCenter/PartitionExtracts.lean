import Mathlib.Data.List.Infix
import SmeDataCenter.CalendarTexts
import SmeDataCenter.CatalogCollation

/-!
# Extracts of partitions

A launcher asks for the manifest of some partitions, checks it, and downloads the files into one
directory, several at a time. A file is named by the dataset, the date and a digest of its store;
each download writes to its file what it hashes, and is done when size and checksum are those of
the manifest.
-/

namespace SmeDataCenter
namespace PartitionExtracts

open CalendarTexts DecimalNumerals

structure ManifestScope where
  dataset : PartitionDataset
  enterpriseName : String
  startDate : String
  endDate : String
  storeIds : Option (List String)
  storeNameContains : Option (List String)

/-- A file of a manifest that its schema admits. -/
structure PartitionFile where
  businessDate : String
  storeId : Option String
  storeName : String
  rowCount : ℕ
  byteSize : ℕ
  checksumSha256 : String
  /-- `z.iso.date()` -/
  isoDate : (readIsoDate businessDate.toList).isSome = true
  deriving DecidableEq

structure RemoteManifest where
  dataset : PartitionDataset
  enterpriseName : String
  startDate : String
  endDate : String
  partitionCount : ℕ
  totalRowCount : ℕ
  partitions : List PartitionFile
  deriving DecidableEq

/-! ### The manifest -/

/-- `Number.MAX_SAFE_INTEGER` -/
def maxSafeInteger : ℕ := 2 ^ 53 - 1

def partitionFileMatchesScope (file : PartitionFile) (scope : ManifestScope) : Bool :=
  stringLe scope.startDate file.businessDate && stringLe file.businessDate scope.endDate &&
    scope.storeIds.all (fun ids => ids.contains (file.storeId.getD "")) &&
    scope.storeNameContains.all fun names =>
      names.any fun name => decide (name.toList <:+: file.storeName.toList)

def checkFiles (scope : ManifestScope) : List PartitionFile → Except String Unit
  | [] => .ok ()
  | file :: files =>
    if !partitionFileMatchesScope file scope then
      .error "Partition manifest file does not match requested scope."
    else if maxSafeInteger < file.byteSize || file.byteSize < file.rowCount then
      .error "Invalid partition manifest file counts."
    else checkFiles scope files

/-- `requestManifest`, from the response on. -/
def acceptManifest (scope : ManifestScope) (manifest : RemoteManifest) :
    Except String RemoteManifest :=
  if manifest.dataset ≠ scope.dataset || manifest.enterpriseName ≠ scope.enterpriseName ||
      manifest.startDate ≠ scope.startDate || manifest.endDate ≠ scope.endDate ||
      !decide (stringLe manifest.startDate manifest.endDate) then
    .error "Partition manifest does not match requested scope."
  else do
    checkFiles scope manifest.partitions
    if manifest.partitionCount ≠ manifest.partitions.length ||
        manifest.totalRowCount ≠ (manifest.partitions.map (·.rowCount)).sum then
      throw "Partition manifest totals do not match its files."
    else return manifest

/-! ### File names -/

/-- The text whose digest names the store of a file. -/
def storeText (file : PartitionFile) : String :=
  file.storeId.getD "name" ++ ":" ++ file.storeName

/-- `businessDate.replaceAll("-", "")` -/
def compactDate (businessDate : String) : String :=
  String.ofList (businessDate.toList.filter (· ≠ '-'))

section

variable (storeDigest : String → String)

def fileName (dataset : PartitionDataset) (file : PartitionFile) : String :=
  dataset.text ++ "_" ++ compactDate file.businessDate ++ "_" ++ storeDigest (storeText file) ++
    ".csv"

def fileNames (manifest : RemoteManifest) : List String :=
  manifest.partitions.map (fileName storeDigest manifest.dataset)

end

/-! ### Downloads -/

/-- A download: what it has hashed since it last began, and whether it is done. -/
structure Download where
  hashed : Option (List UInt8) := none
  done : Bool := false

/-- The files of the directory, and the downloads by their places in the manifest. -/
structure Transfer where
  files : String → Option (List UInt8)
  downloads : ℕ → Download

inductive TransferEvent where
  /-- An attempt begins: the file is emptied. -/
  | begin (place : ℕ)
  | write (place : ℕ) (chunk : List UInt8)
  /-- Size and checksum are compared with the manifest. -/
  | finish (place : ℕ)

/-- A chunk is written to a file at a position. -/
def writeAt (content : List UInt8) (position : ℕ) (chunk : List UInt8) : List UInt8 :=
  content.take position ++ List.replicate (position - content.length) 0 ++ chunk ++
    content.drop (position + chunk.length)

/-- What an event changes of the transfer: the file `name`, and the download at its place. -/
def Transfer.set (t : Transfer) (place : ℕ) (name : String) (content : List UInt8)
    (download : Download) : Transfer where
  files := Function.update t.files name (some content)
  downloads := Function.update t.downloads place download

/-- A chunk that is not too much is hashed and written. -/
def writeChunk (t : Transfer) (place : ℕ) (name : String) (file : PartitionFile)
    (chunk : List UInt8) : Transfer :=
  match (t.downloads place).hashed with
  | none => t
  | some hashed =>
    if file.byteSize < hashed.length + chunk.length then t
    else t.set place name (writeAt ((t.files name).getD []) hashed.length chunk)
      ⟨some (hashed ++ chunk), false⟩

def finishDownload (sha256 : List UInt8 → String) (t : Transfer) (place : ℕ)
    (file : PartitionFile) : Transfer :=
  match (t.downloads place).hashed with
  | none => t
  | some hashed =>
    if hashed.length = file.byteSize ∧ sha256 hashed = file.checksumSha256 then
      { t with downloads := Function.update t.downloads place ⟨some hashed, true⟩ }
    else t

def TransferEvent.place : TransferEvent → ℕ
  | .begin place => place
  | .write place _ => place
  | .finish place => place

/-- One event of the downloads, of which `entry` gives the file names and the files. An event that
a download refuses leaves everything as it is. -/
def transferStep (sha256 : List UInt8 → String) (entry : ℕ → Option (String × PartitionFile))
    (t : Transfer) (event : TransferEvent) : Transfer :=
  match entry event.place with
  | none => t
  | some (name, file) =>
    if (t.downloads event.place).done then t
    else match event with
      | .begin place => t.set place name [] ⟨some [], false⟩
      | .write place chunk => writeChunk t place name file chunk
      | .finish place => finishDownload sha256 t place file

/-- The transfer before any download: the directory is empty. -/
def emptyTransfer : Transfer := ⟨fun _ => none, fun _ => {}⟩

/-- The downloads of a manifest. -/
def manifestEntry (storeDigest : String → String) (manifest : RemoteManifest) (place : ℕ) :
    Option (String × PartitionFile) :=
  manifest.partitions[place]?.map fun file =>
    (fileName storeDigest manifest.dataset file, file)

/-- All downloads of a manifest are done. -/
def IsSuccess (manifest : RemoteManifest) (t : Transfer) : Prop :=
  ∀ place < manifest.partitions.length, (t.downloads place).done = true

/-- A file of the directory has the size and the checksum of an entry. -/
def Holds (sha256 : List UInt8 → String) (t : Transfer) (name : String) (file : PartitionFile) :
    Prop :=
  ∃ content, t.files name = some content ∧ content.length = file.byteSize ∧
    sha256 content = file.checksumSha256

/-! ### What the directory holds -/

section

variable {sha256 : List UInt8 → String} {entry : ℕ → Option (String × PartitionFile)}

/-- Where no two downloads share a file, each file holds what its download hashed, and what is done
was verified. -/
structure IsSound (sha256 : List UInt8 → String) (entry : ℕ → Option (String × PartitionFile))
    (t : Transfer) : Prop where
  written : ∀ place name file hashed, entry place = some (name, file) →
    (t.downloads place).hashed = some hashed → t.files name = some hashed
  verified : ∀ place, (t.downloads place).done = true → ∃ name file hashed,
    entry place = some (name, file) ∧ (t.downloads place).hashed = some hashed ∧
      hashed.length = file.byteSize ∧ sha256 hashed = file.checksumSha256

lemma isSound_empty : IsSound sha256 entry emptyTransfer := by
  constructor
  · intro place name file hashed _ hhashed
    cases hhashed
  · intro place hdone
    cases hdone

/-- Every download writes to a file of its own. -/
def OwnFiles (entry : ℕ → Option (String × PartitionFile)) : Prop :=
  ∀ place other name file file', entry place = some (name, file) →
    entry other = some (name, file') → place = other

lemma writeAt_end (content chunk : List UInt8) :
    writeAt content content.length chunk = content ++ chunk := by
  simp [writeAt]

lemma IsSound.set {t : Transfer} (h : IsSound sha256 entry t) (hown : OwnFiles entry) {place : ℕ}
    {name : String} {file : PartitionFile} (hentry : entry place = some (name, file))
    (content : List UInt8) :
    IsSound sha256 entry (t.set place name content ⟨some content, false⟩) := by
  unfold Transfer.set
  constructor
  · intro other name' file' hashed hother hhashed
    dsimp only at hhashed ⊢
    by_cases hplace : other = place
    · subst hplace
      rw [hentry] at hother
      cases hother
      rw [Function.update_self] at hhashed ⊢
      exact hhashed
    · rw [Function.update_of_ne hplace] at hhashed
      have hname : name' ≠ name := by
        rintro rfl
        exact hplace (hown other place name' file' file hother hentry)
      rw [Function.update_of_ne hname]
      exact h.written other name' file' hashed hother hhashed
  · intro other hdone
    dsimp only at hdone ⊢
    by_cases hplace : other = place
    · subst hplace
      rw [Function.update_self] at hdone
      cases hdone
    · rw [Function.update_of_ne hplace] at hdone ⊢
      exact h.verified other hdone

lemma IsSound.finish {t : Transfer} (h : IsSound sha256 entry t) {place : ℕ} {name : String}
    {file : PartitionFile} (hentry : entry place = some (name, file)) :
    IsSound sha256 entry (finishDownload sha256 t place file) := by
  unfold finishDownload
  split
  · exact h
  · next hashed hhashed =>
    split_ifs with hverified
    · constructor
      · intro other name' file' hashed' hother hhashed'
        dsimp only at hhashed' ⊢
        by_cases hplace : other = place
        · subst hplace
          rw [Function.update_self] at hhashed'
          exact h.written other name' file' hashed' hother (hhashed.trans hhashed')
        · rw [Function.update_of_ne hplace] at hhashed'
          exact h.written other name' file' hashed' hother hhashed'
      · intro other hdone
        dsimp only at hdone ⊢
        by_cases hplace : other = place
        · subst hplace
          rw [Function.update_self]
          exact ⟨name, file, hashed, hentry, rfl, hverified⟩
        · rw [Function.update_of_ne hplace] at hdone ⊢
          exact h.verified other hdone
    · exact h

lemma IsSound.step {t : Transfer} (h : IsSound sha256 entry t) (hown : OwnFiles entry)
    (event : TransferEvent) : IsSound sha256 entry (transferStep sha256 entry t event) := by
  unfold transferStep
  split
  · exact h
  · next name file hentry =>
    split_ifs with hdone
    · exact h
    · cases event with
      | begin place => exact h.set hown hentry []
      | write place chunk =>
        dsimp only
        unfold writeChunk
        split
        · exact h
        · next hashed hhashed =>
          split_ifs with hsize
          · exact h
          · rw [h.written place name file hashed hentry hhashed, Option.getD_some, writeAt_end]
            exact h.set hown hentry _
      | finish place => exact h.finish hentry

/-- In every run of the downloads each file holds what its download hashed. -/
theorem isSound_run (hown : OwnFiles entry) (events : List TransferEvent) :
    IsSound sha256 entry (Runs.run (transferStep sha256 entry) emptyTransfer events) := by
  induction events using List.reverseRecOn with
  | nil => exact isSound_empty
  | append_singleton events event ih =>
    rw [Runs.run_append]
    exact ih.step hown event

end

/-! ### Names -/

lemma compactDate_parts {date : String} {year month day : Text}
    (h : DateParts date.toList year month day) :
    (compactDate date).toList = year ++ (month ++ day) := by
  have hdigits {part : Text} (hpart : IsDigits part) : part.filter (· ≠ '-') = part := by
    apply List.filter_eq_self.mpr
    intro c hc
    have hne : c ≠ '-' := by
      rintro rfl
      exact notMem_of_isDigits hpart (by decide) hc
    exact decide_eq_true hne
  rw [compactDate, String.toList_ofList, h.text_eq, List.filter_append, List.filter_cons,
    List.filter_append, List.filter_cons, hdigits h.year.1, hdigits h.month.1, hdigits h.day.1]
  simp

lemma compactDate_inj {file other : PartitionFile}
    (h : compactDate file.businessDate = compactDate other.businessDate) :
    file.businessDate = other.businessDate := by
  obtain ⟨year, month, day, hparts⟩ := exists_dateParts file.isoDate
  obtain ⟨year', month', day', hparts'⟩ := exists_dateParts other.isoDate
  have hlists := congrArg String.toList h
  rw [compactDate_parts hparts, compactDate_parts hparts'] at hlists
  obtain ⟨hyear, hrest⟩ := List.append_inj hlists (hparts.year.2.trans hparts'.year.2.symm)
  obtain ⟨hmonth, hday⟩ := List.append_inj hrest (hparts.month.2.trans hparts'.month.2.symm)
  apply String.toList_injective
  rw [hparts.text_eq, hparts'.text_eq, hyear, hmonth, hday]

lemma compactDate_length (file : PartitionFile) :
    (compactDate file.businessDate).toList.length = 8 := by
  obtain ⟨year, month, day, hparts⟩ := exists_dateParts file.isoDate
  rw [compactDate_parts hparts, List.length_append, List.length_append, hparts.year.2,
    hparts.month.2, hparts.day.2]

section

variable {storeDigest : String → String} {sha256 : List UInt8 → String}
  {manifest : RemoteManifest}

lemma fileName_inj {dataset : PartitionDataset} {file other : PartitionFile}
    (h : fileName storeDigest dataset file = fileName storeDigest dataset other) :
    file.businessDate = other.businessDate ∧
      storeDigest (storeText file) = storeDigest (storeText other) := by
  have hlists := congrArg String.toList h
  simp only [fileName, String.toList_append, List.append_assoc] at hlists
  have hrest := List.append_cancel_left (List.append_cancel_left hlists)
  have hlength : (compactDate file.businessDate).toList.length =
      (compactDate other.businessDate).toList.length := by
    rw [compactDate_length, compactDate_length]
  obtain ⟨hdate, hdigest⟩ := List.append_inj hrest hlength
  have hdigest := List.append_cancel_right (List.append_cancel_left hdigest)
  exact ⟨compactDate_inj (String.toList_injective hdate), String.toList_injective hdigest⟩

/-- No two entries have one date and one text of the store. -/
def DistinctTexts (manifest : RemoteManifest) : Prop :=
  (manifest.partitions.map fun file => (file.businessDate, storeText file)).Nodup

lemma fileNames_nodup (hdigest : ∀ file ∈ manifest.partitions, ∀ other ∈ manifest.partitions,
      storeDigest (storeText file) = storeDigest (storeText other) →
        storeText file = storeText other) :
    (fileNames storeDigest manifest).Nodup ↔ DistinctTexts manifest := by
  unfold fileNames DistinctTexts
  constructor
  · intro h
    refine List.Nodup.map_on (fun file hfile other hother heq => ?_) h.of_map
    obtain ⟨hdate, htext⟩ := Prod.mk.inj heq
    refine List.inj_on_of_nodup_map h hfile hother ?_
    rw [fileName, fileName, hdate, htext]
  · intro h
    refine List.Nodup.map_on (fun file hfile other hother heq => ?_) h.of_map
    obtain ⟨hdate, hsame⟩ := fileName_inj heq
    exact List.inj_on_of_nodup_map h hfile hother
      (Prod.ext hdate (hdigest file hfile other hother hsame))

lemma ownFiles_of_nodup (h : (fileNames storeDigest manifest).Nodup) :
    OwnFiles (manifestEntry storeDigest manifest) := by
  intro place other name file file' hplace hother
  obtain ⟨file₁, hfile₁, heq₁⟩ := Option.map_eq_some_iff.mp hplace
  obtain ⟨file₂, hfile₂, heq₂⟩ := Option.map_eq_some_iff.mp hother
  have hname₁ : (fileNames storeDigest manifest)[place]? = some name := by
    rw [fileNames, List.getElem?_map, hfile₁, Option.map_some, (Prod.mk.inj heq₁).1]
  have hname₂ : (fileNames storeDigest manifest)[other]? = some name := by
    rw [fileNames, List.getElem?_map, hfile₂, Option.map_some, (Prod.mk.inj heq₂).1]
  obtain ⟨hlt, -⟩ := List.getElem?_eq_some_iff.mp hname₁
  exact (List.getElem?_inj hlt h).mp (hname₁.trans hname₂.symm)

lemma holds_of_success (h : (fileNames storeDigest manifest).Nodup) (events : List TransferEvent)
    (hsuccess : IsSuccess manifest
      (Runs.run (transferStep sha256 (manifestEntry storeDigest manifest)) emptyTransfer events)) :
    ∀ file ∈ manifest.partitions, Holds sha256
      (Runs.run (transferStep sha256 (manifestEntry storeDigest manifest)) emptyTransfer events)
      (fileName storeDigest manifest.dataset file) file := by
  intro file hfile
  obtain ⟨place, hplace, rfl⟩ := List.mem_iff_getElem.mp hfile
  have hsound := @isSound_run sha256 _ (ownFiles_of_nodup h) events
  obtain ⟨name, file', hashed, hentry, hhashed, hsize, hchecksum⟩ :=
    hsound.verified place (hsuccess place hplace)
  have hwritten := hsound.written place name file' hashed hentry hhashed
  rw [manifestEntry, List.getElem?_eq_getElem hplace, Option.map_some] at hentry
  cases hentry
  exact ⟨hashed, hwritten, hsize, hchecksum⟩

end

/-- What a download of a manifest promises: its files have names of their own, and when all are
done the directory holds every entry. -/
def Keeps (storeDigest : String → String) (sha256 : List UInt8 → String)
    (manifest : RemoteManifest) : Prop :=
  (fileNames storeDigest manifest).Nodup ∧ ∀ events,
    let transfer :=
      Runs.run (transferStep sha256 (manifestEntry storeDigest manifest)) emptyTransfer events
    IsSuccess manifest transfer → ∀ file ∈ manifest.partitions,
      Holds sha256 transfer (fileName storeDigest manifest.dataset file) file

/-- The promise is kept just for the manifests whose entries differ in date or in the text of
their store. -/
theorem downloadManifest_keeps (storeDigest : String → String) (sha256 : List UInt8 → String)
    (manifest : RemoteManifest)
    (hdigest : ∀ file ∈ manifest.partitions, ∀ other ∈ manifest.partitions,
      storeDigest (storeText file) = storeDigest (storeText other) →
        storeText file = storeText other) :
    Keeps storeDigest sha256 manifest ↔ DistinctTexts manifest := by
  constructor
  · intro h
    exact (fileNames_nodup hdigest).mp h.1
  · intro h
    have hnames := (fileNames_nodup hdigest).mpr h
    refine ⟨hnames, fun events => ?_⟩
    intro transfer hsuccess
    exact holds_of_success hnames events hsuccess

/-- A file of the store `storeName` on the second of January. -/
def januaryFile (storeId : Option String) (storeName checksum : String) : PartitionFile where
  businessDate := "2026-01-02"
  storeId := storeId
  storeName := storeName
  rowCount := 1
  byteSize := 8
  checksumSha256 := checksum
  isoDate := by decide +kernel

def januaryScope : ManifestScope where
  dataset := .business
  enterpriseName := "e"
  startDate := "2026-01-01"
  endDate := "2026-01-31"
  storeIds := none
  storeNameContains := none

def januaryManifest (partitions : List PartitionFile) : RemoteManifest where
  dataset := .business
  enterpriseName := "e"
  startDate := "2026-01-01"
  endDate := "2026-01-31"
  partitionCount := partitions.length
  totalRowCount := (partitions.map (·.rowCount)).sum
  partitions := partitions

theorem downloadManifest_keeps_two_stores :
    Keeps id (fun _ => "") (januaryManifest
      [januaryFile (some "1") "x" "", januaryFile (some "2") "x" ""]) := by
  refine (downloadManifest_keeps id (fun _ => "") _ ?_).mpr ?_
  · intro file _ other _ h
    exact h
  · unfold DistinctTexts
    decide +kernel

/-- A store without an id and a store whose id is `name`. -/
def mixedManifest : RemoteManifest :=
  januaryManifest [januaryFile none "x" "a", januaryFile (some "name") "x" "b"]

/-- The two entries are different stores, and go to one file. -/
theorem mixedManifest_one_file : acceptManifest januaryScope mixedManifest = .ok mixedManifest ∧
    (mixedManifest.partitions.map fun file =>
      (file.businessDate, file.storeId, file.storeName)).Nodup ∧
    ∀ storeDigest sha256, ¬ Keeps storeDigest sha256 mixedManifest := by
  refine ⟨by decide +kernel, by decide +kernel, fun storeDigest sha256 h => ?_⟩
  have htexts : storeText (januaryFile none "x" "a") =
      storeText (januaryFile (some "name") "x" "b") := by decide +kernel
  have hnames := h.1
  simp only [fileNames, mixedManifest, januaryManifest, List.map_cons, List.map_nil,
    List.nodup_cons, List.mem_singleton] at hnames
  apply hnames.1
  rw [fileName, fileName, htexts]
  rfl

end PartitionExtracts
end SmeDataCenter
