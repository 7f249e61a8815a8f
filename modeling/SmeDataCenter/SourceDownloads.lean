import Mathlib.Data.List.Nodup
import SmeDataCenter.Fallible

/-!
# Download links of source documents

Links are issued for the documents that a request names and its employee may read. The storage is
asked for each document, and the links are on record before anyone gets one; an explicit request
gets all of its links or none. What each call to the storage and to the record answers is open.
-/

namespace SmeDataCenter
namespace SourceDownloads

open Fallible

structure RequestedSource where
  sourceDocumentId : String
  documentTitle : Option String

/-- A document that the repository returns. `importDataset` is missing where the document has none
of its own, and `none` where it was not imported. -/
structure SourceDocumentRecord where
  sourceDocumentId : String
  status : String
  storageObjectKey : String
  originalFileName : Option String
  contentType : Option String
  byteSize : Option ℕ
  importDataset : Option (Option String)

inductive DownloadStatus where
  | available
  | unavailable
  deriving DecidableEq

structure EvidenceSourceDownload where
  sourceDocumentId : String
  documentTitle : String
  originalFileName : Option String
  contentType : Option String
  byteSize : Option ℕ
  downloadStatus : DownloadStatus
  downloadUrl : Option String
  expiresAt : Option ℕ

inductive IssueReason where
  | explicitRequest
  | evidenceSearchAuto
  deriving DecidableEq

structure IssueRequest where
  requestedSources : List RequestedSource
  reason : IssueReason
  /-- Is the employee disabled? -/
  disabled : Bool

/-- What the calls of one request answer; those to the storage by the place of the document in the
request. -/
structure Outcomes where
  findDownloadableSourceDocuments : List String → Except String (List SourceDocumentRecord)
  /-- `statObject` before any link is made: does it succeed? -/
  preflight : ℕ → Bool
  statObject : ℕ → Bool
  createDownloadUrl : ℕ → Option String
  recordDownloadsIssued : List String → Bool
  /-- The time in milliseconds. -/
  now : ℕ

/-- An answer, with the lists of documents that were put on record for it. -/
structure Issuance where
  sources : List EvidenceSourceDownload
  warnings : List String
  recorded : List (List String) := []

def expiresMilliseconds : ℕ := 24 * 60 * 60 * 1000

/-- `dedupeRequestedSources`, after the ids `seen`. -/
def dedupeFrom (seen : List String) : List RequestedSource → List RequestedSource
  | [] => []
  | source :: sources =>
    if seen.contains source.sourceDocumentId then dedupeFrom seen sources
    else source :: dedupeFrom (source.sourceDocumentId :: seen) sources

def dedupeRequestedSources (sources : List RequestedSource) : List RequestedSource :=
  dedupeFrom [] sources

def unavailableSource (source : RequestedSource) : EvidenceSourceDownload where
  sourceDocumentId := source.sourceDocumentId
  documentTitle := source.documentTitle.getD source.sourceDocumentId
  originalFileName := none
  contentType := none
  byteSize := none
  downloadStatus := .unavailable
  downloadUrl := none
  expiresAt := none

/-- May a link be made for an authorized document? -/
def isDownloadable (reason : IssueReason) (document : SourceDocumentRecord) : Bool :=
  document.importDataset ≠ none && document.importDataset ≠ some (some "delivery_ledger") &&
    (reason ≠ .evidenceSearchAuto || document.status = "active")

/-- `authorizedById.get(id)`: of two documents of one id the last. -/
def authorizedById (reason : IssueReason) (authorized : List SourceDocumentRecord) (id : String) :
    Option SourceDocumentRecord :=
  (authorized.filter (isDownloadable reason)).reverse.find? fun document =>
    document.sourceDocumentId = id

def allUnavailable (requested : List RequestedSource) : Issuance where
  sources := requested.map unavailableSource
  warnings := ["SOURCE_DOWNLOAD_URL_UNAVAILABLE"]

def isAvailable (source : EvidenceSourceDownload) : Bool := source.downloadStatus = .available

/-- What became of a document of the request, at its place. -/
def settleSource (outcomes : Outcomes) (document : Option SourceDocumentRecord)
    (requested : RequestedSource × ℕ) : EvidenceSourceDownload :=
  match document with
  | none => unavailableSource requested.1
  | some document =>
    if outcomes.statObject requested.2 then
      match outcomes.createDownloadUrl requested.2 with
      | none => unavailableSource requested.1
      | some downloadUrl =>
        { sourceDocumentId := requested.1.sourceDocumentId
          documentTitle := requested.1.documentTitle.getD requested.1.sourceDocumentId
          originalFileName := document.originalFileName
          contentType := document.contentType
          byteSize := document.byteSize
          downloadStatus := .available
          downloadUrl := some downloadUrl
          expiresAt := some (outcomes.now + expiresMilliseconds) }
    else unavailableSource requested.1

def warningsOf (sources : List EvidenceSourceDownload) : List String :=
  if sources.any fun source => source.downloadStatus = .unavailable then
    ["SOURCE_DOWNLOAD_URL_UNAVAILABLE"]
  else []

/-- A link that was not recorded is taken back. -/
def takeBack (issuedIds : List String) (pair : EvidenceSourceDownload × RequestedSource) :
    EvidenceSourceDownload :=
  if issuedIds.contains pair.1.sourceDocumentId then unavailableSource pair.2 else pair.1

/-- The links are recorded; where that fails, they are taken back. -/
def recordIssued (outcomes : Outcomes) (requested : List RequestedSource)
    (sources : List EvidenceSourceDownload) : Issuance :=
  let issuedIds := (sources.filter isAvailable).map (·.sourceDocumentId)
  if issuedIds = [] then ⟨sources, warningsOf sources, []⟩
  else if outcomes.recordDownloadsIssued issuedIds then
    ⟨sources, warningsOf sources, [issuedIds]⟩
  else
    let sources := (sources.zip requested).map (takeBack issuedIds)
    ⟨sources, warningsOf sources, []⟩

/-- The documents that are found for a request. -/
def authorizedFor (outcomes : Outcomes) (request : IssueRequest) :
    Except String (List SourceDocumentRecord) :=
  if request.disabled then .ok []
  else outcomes.findDownloadableSourceDocuments
    ((dedupeRequestedSources request.requestedSources).map (·.sourceDocumentId))

def issueMany (outcomes : Outcomes) (request : IssueRequest) : Except String Issuance :=
  let requested := dedupeRequestedSources request.requestedSources
  if 50 < requested.length then
    .error "Source document download issuance is limited to 50 documents."
  else if requested = [] then .ok ⟨[], [], []⟩
  else do
    let authorized ← authorizedFor outcomes request
    let documentOf (source : RequestedSource) : Option SourceDocumentRecord :=
      authorizedById request.reason authorized source.sourceDocumentId
    if request.reason = .explicitRequest && requested.any fun source =>
        (documentOf source).isNone then
      return allUnavailable requested
    else if request.reason = .explicitRequest && requested.zipIdx.any fun source =>
        !outcomes.preflight source.2 then
      return allUnavailable requested
    else
      let sources := requested.zipIdx.map fun source =>
        settleSource outcomes (documentOf source.1) source
      if request.reason = .explicitRequest && sources.any fun source => !isAvailable source then
        return allUnavailable requested
      else return recordIssued outcomes requested sources

/-! ### The requested documents -/

lemma dedupeFrom_ids (seen : List String) (sources : List RequestedSource) :
    (dedupeFrom seen sources).map (·.sourceDocumentId) =
      ((sources.map (·.sourceDocumentId)).filter fun id => !seen.contains id).eraseDups := by
  induction sources generalizing seen with
  | nil => rfl
  | cons source sources ih =>
    rw [dedupeFrom, List.map_cons]
    by_cases hseen : seen.contains source.sourceDocumentId = true
    · rw [if_pos hseen, ih, List.filter_cons_of_neg (by simpa using hseen)]
    · rw [if_neg hseen, List.map_cons, ih, List.filter_cons_of_pos (by simpa using hseen),
        List.eraseDups_cons, List.filter_filter]
      congr 2
      refine List.filter_congr fun id _ => ?_
      rw [List.contains_cons, Bool.not_or, Bool.beq_comm]

lemma dedupe_ids (sources : List RequestedSource) :
    (dedupeRequestedSources sources).map (·.sourceDocumentId) =
      (sources.map (·.sourceDocumentId)).eraseDups := by
  have hids := dedupeFrom_ids [] sources
  have hall : (sources.map (·.sourceDocumentId)).filter
      (fun id => !([] : List String).contains id) = sources.map (·.sourceDocumentId) :=
    List.filter_eq_self.mpr fun _ _ => rfl
  rw [hall] at hids
  exact hids

/-! ### Answers -/

/-- A link is with an available document only. -/
def IsConsistent (source : EvidenceSourceDownload) : Prop :=
  isAvailable source = false → source.downloadUrl = none

lemma settleSource_cases (outcomes : Outcomes) (document : Option SourceDocumentRecord)
    (requested : RequestedSource × ℕ) :
    settleSource outcomes document requested = unavailableSource requested.1 ∨
      (isAvailable (settleSource outcomes document requested) = true ∧ document.isSome = true) := by
  unfold settleSource
  cases document with
  | none => exact .inl rfl
  | some document =>
    dsimp only
    split
    · cases outcomes.createDownloadUrl requested.2 with
      | none => exact .inl rfl
      | some downloadUrl => exact .inr ⟨rfl, rfl⟩
    · exact .inl rfl

lemma settleSource_id (outcomes : Outcomes) (document : Option SourceDocumentRecord)
    (requested : RequestedSource × ℕ) :
    (settleSource outcomes document requested).sourceDocumentId =
      requested.1.sourceDocumentId := by
  unfold settleSource
  cases document with
  | none => rfl
  | some document =>
    dsimp only
    split
    · cases outcomes.createDownloadUrl requested.2 <;> rfl
    · rfl

lemma settleSource_consistent (outcomes : Outcomes) (document : Option SourceDocumentRecord)
    (requested : RequestedSource × ℕ) :
    IsConsistent (settleSource outcomes document requested) := by
  intro hnot
  rcases settleSource_cases outcomes document requested with h | ⟨h, -⟩
  · rw [h]
    rfl
  · rw [h] at hnot
    cases hnot

section

variable {outcomes : Outcomes} {requested : List RequestedSource}
  {sources : List EvidenceSourceDownload}

lemma takeBack_ids {issuedIds : List String}
    (hids : sources.map (·.sourceDocumentId) = requested.map (·.sourceDocumentId)) :
    ((sources.zip requested).map (takeBack issuedIds)).map (·.sourceDocumentId) =
      requested.map (·.sourceDocumentId) := by
  induction sources generalizing requested with
  | nil =>
    rw [List.map_nil, eq_comm, List.map_eq_nil_iff] at hids
    rw [hids]
    rfl
  | cons source sources ih =>
    cases requested with
    | nil => cases hids
    | cons requestedSource requested =>
      obtain ⟨hhead, htail⟩ := List.cons.inj hids
      rw [List.zip_cons_cons, List.map_cons, List.map_cons, ih htail, List.map_cons]
      congr 1
      unfold takeBack
      split
      · rfl
      · exact hhead

lemma recordIssued_spec (hconsistent : ∀ source ∈ sources, IsConsistent source)
    (hids : sources.map (·.sourceDocumentId) = requested.map (·.sourceDocumentId)) :
    (recordIssued outcomes requested sources).sources.map (·.sourceDocumentId) =
        requested.map (·.sourceDocumentId) ∧
    (∀ source ∈ (recordIssued outcomes requested sources).sources, source.downloadUrl ≠ none →
      source ∈ sources ∧ isAvailable source = true ∧
      ∃ ids ∈ (recordIssued outcomes requested sources).recorded,
        source.sourceDocumentId ∈ ids ∧ outcomes.recordDownloadsIssued ids = true) ∧
    ((∀ source ∈ sources, isAvailable source = true) →
      (∀ source ∈ (recordIssued outcomes requested sources).sources,
        isAvailable source = true) ∨
      ∀ source ∈ (recordIssued outcomes requested sources).sources,
        isAvailable source = false) := by
  have hlink {source : EvidenceSourceDownload} (h : source ∈ sources)
      (hurl : source.downloadUrl ≠ none) : isAvailable source = true := by
    by_contra hnot
    exact hurl (hconsistent source h (Bool.not_eq_true _ ▸ hnot))
  have hissued {source : EvidenceSourceDownload} (h : source ∈ sources)
      (havailable : isAvailable source = true) :
      source.sourceDocumentId ∈ (sources.filter isAvailable).map (·.sourceDocumentId) :=
    List.mem_map_of_mem (List.mem_filter.mpr ⟨h, havailable⟩)
  generalize hissuedIds : (sources.filter isAvailable).map (·.sourceDocumentId) = issuedIds
    at hissued
  unfold recordIssued
  dsimp only
  rw [hissuedIds]
  by_cases hnone : issuedIds = []
  · rw [if_pos hnone]
    refine ⟨hids, fun source h hurl => ?_, fun hall => .inl hall⟩
    have hmem := hissued h (hlink h hurl)
    rw [hnone] at hmem
    cases hmem
  by_cases hrecorded : outcomes.recordDownloadsIssued issuedIds = true
  · rw [if_neg hnone, if_pos hrecorded]
    refine ⟨hids, fun source h hurl => ?_, fun hall => .inl hall⟩
    exact ⟨h, hlink h hurl, issuedIds, List.mem_singleton_self _, hissued h (hlink h hurl),
      hrecorded⟩
  · rw [if_neg hnone, if_neg hrecorded]
    refine ⟨takeBack_ids hids, fun source h hurl => ?_, fun hall => .inr fun source h => ?_⟩
    · obtain ⟨pair, hpair, rfl⟩ := List.mem_map.mp h
      have hsettled := (List.of_mem_zip hpair).1
      unfold takeBack at hurl
      split_ifs at hurl with hcontains
      · exact absurd rfl hurl
      · exact absurd (List.contains_iff_mem.mpr (hissued hsettled (hlink hsettled hurl)))
          hcontains
    · obtain ⟨pair, hpair, rfl⟩ := List.mem_map.mp h
      have hsettled := (List.of_mem_zip hpair).1
      rw [takeBack, if_pos (List.contains_iff_mem.mpr (hissued hsettled (hall _ hsettled)))]
      rfl

end

/-! ### Issuance -/

section

variable {outcomes : Outcomes} {request : IssueRequest} {result : Issuance}

/-- The links of the authorized documents, before any is recorded. -/
def settledSources (outcomes : Outcomes) (request : IssueRequest)
    (authorized : List SourceDocumentRecord) : List EvidenceSourceDownload :=
  (dedupeRequestedSources request.requestedSources).zipIdx.map fun source =>
    settleSource outcomes (authorizedById request.reason authorized source.1.sourceDocumentId)
      source

lemma issueMany_cases (h : issueMany outcomes request = .ok result) :
    (dedupeRequestedSources request.requestedSources = [] ∧ result = ⟨[], [], []⟩) ∨
      ∃ authorized, authorizedFor outcomes request = .ok authorized ∧
        (result = allUnavailable (dedupeRequestedSources request.requestedSources) ∨
          (result = recordIssued outcomes (dedupeRequestedSources request.requestedSources)
              (settledSources outcomes request authorized) ∧
            (request.reason = .explicitRequest →
              ∀ source ∈ settledSources outcomes request authorized,
                isAvailable source = true))) := by
  unfold issueMany at h
  dsimp only at h
  by_cases hlimit : 50 < (dedupeRequestedSources request.requestedSources).length
  · rw [if_pos hlimit] at h
    cases h
  by_cases hnone : dedupeRequestedSources request.requestedSources = []
  · rw [if_neg hlimit, if_pos hnone] at h
    exact .inl ⟨hnone, (Except.ok.inj h).symm⟩
  rw [if_neg hlimit, if_neg hnone] at h
  obtain ⟨authorized, hauthorized, h⟩ := bind_ok.mp h
  refine .inr ⟨authorized, hauthorized, ?_⟩
  split_ifs at h with hmissing hpreflight hpartial
  · exact .inl (Except.ok.inj h).symm
  · exact .inl (Except.ok.inj h).symm
  · exact .inl (Except.ok.inj h).symm
  · refine .inr ⟨(Except.ok.inj h).symm, fun hreason source hsource => ?_⟩
    by_contra hnot
    rw [Bool.not_eq_true] at hnot
    refine hpartial ?_
    rw [Bool.and_eq_true, List.any_eq_true]
    exact ⟨decide_eq_true hreason, source, hsource, by rw [hnot]; rfl⟩

lemma issueMany_answers {authorized : List SourceDocumentRecord}
    (hlimit : (dedupeRequestedSources request.requestedSources).length ≤ 50)
    (hauthorized : authorizedFor outcomes request = .ok authorized) :
    ∃ result, issueMany outcomes request = .ok result := by
  unfold issueMany
  dsimp only
  rw [if_neg (Nat.not_lt.mpr hlimit)]
  by_cases hnone : dedupeRequestedSources request.requestedSources = []
  · exact ⟨_, if_pos hnone⟩
  · rw [if_neg hnone]
    rw [hauthorized]
    dsimp only [bind, Except.bind]
    split_ifs
    all_goals exact ⟨_, rfl⟩

lemma settledSources_ids (outcomes : Outcomes) (request : IssueRequest)
    (authorized : List SourceDocumentRecord) :
    (settledSources outcomes request authorized).map (·.sourceDocumentId) =
      (dedupeRequestedSources request.requestedSources).map (·.sourceDocumentId) := by
  unfold settledSources
  rw [List.map_map]
  have hid : ((·.sourceDocumentId) ∘ fun source : RequestedSource × ℕ =>
      settleSource outcomes (authorizedById request.reason authorized source.1.sourceDocumentId)
        source) = (·.sourceDocumentId) ∘ Prod.fst :=
    funext fun source => settleSource_id outcomes _ source
  rw [hid, ← List.map_map, List.zipIdx_map_fst]

lemma settledSources_authorized {authorized : List SourceDocumentRecord}
    {source : EvidenceSourceDownload} (h : source ∈ settledSources outcomes request authorized)
    (havailable : isAvailable source = true) :
    ∃ document ∈ authorized, document.sourceDocumentId = source.sourceDocumentId ∧
      isDownloadable request.reason document = true := by
  obtain ⟨requested, -, rfl⟩ := List.mem_map.mp h
  rcases settleSource_cases outcomes
    (authorizedById request.reason authorized requested.1.sourceDocumentId) requested with
    hnone | ⟨-, hsome⟩
  · rw [hnone] at havailable
    cases havailable
  · obtain ⟨document, hdocument⟩ := Option.isSome_iff_exists.mp hsome
    unfold authorizedById at hdocument
    have hfound := List.mem_of_find?_eq_some hdocument
    have hsame := List.find?_some hdocument
    obtain ⟨hmem, hdownloadable⟩ := List.mem_filter.mp (List.mem_reverse.mp hfound)
    refine ⟨document, hmem, ?_, hdownloadable⟩
    rw [settleSource_id]
    exact of_decide_eq_true hsame

/-- A link in an answer: who it is for, and on what record. -/
structure IsOnRecord (outcomes : Outcomes) (request : IssueRequest) (result : Issuance)
    (source : EvidenceSourceDownload) : Prop where
  enabled : request.disabled = false
  authorized : ∃ authorized, outcomes.findDownloadableSourceDocuments
      ((dedupeRequestedSources request.requestedSources).map (·.sourceDocumentId)) =
        .ok authorized ∧
    ∃ document ∈ authorized, document.sourceDocumentId = source.sourceDocumentId ∧
      isDownloadable request.reason document = true
  recorded : ∃ ids ∈ result.recorded, source.sourceDocumentId ∈ ids ∧
    outcomes.recordDownloadsIssued ids = true

lemma allUnavailable_none {requested : List RequestedSource} {source : EvidenceSourceDownload}
    (h : source ∈ (allUnavailable requested).sources) :
    isAvailable source = false ∧ source.downloadUrl = none := by
  obtain ⟨requestedSource, -, rfl⟩ := List.mem_map.mp h
  exact ⟨rfl, rfl⟩

lemma issueMany_spec (h : issueMany outcomes request = .ok result) :
    result.sources.map (·.sourceDocumentId) =
        (request.requestedSources.map (·.sourceDocumentId)).eraseDups ∧
    (∀ source ∈ result.sources, source.downloadUrl ≠ none →
      IsOnRecord outcomes request result source) ∧
    (request.reason = .explicitRequest →
      (∀ source ∈ result.sources, isAvailable source = true) ∨
      ∀ source ∈ result.sources, isAvailable source = false) := by
  rw [← dedupe_ids]
  rcases issueMany_cases h with ⟨hnone, rfl⟩ | ⟨authorized, hauthorized, rfl | ⟨rfl, hall⟩⟩
  · rw [hnone]
    exact ⟨rfl, nofun, fun _ => .inl nofun⟩
  · refine ⟨?_, fun source hsource hurl => ?_, fun _ => .inr fun source hsource => ?_⟩
    · unfold allUnavailable
      rw [List.map_map]
      rfl
    · exact absurd (allUnavailable_none hsource).2 hurl
    · exact (allUnavailable_none hsource).1
  · have hids := settledSources_ids outcomes request authorized
    have hconsistent : ∀ source ∈ settledSources outcomes request authorized,
        IsConsistent source := by
      intro source hsource
      obtain ⟨requested, -, rfl⟩ := List.mem_map.mp hsource
      exact settleSource_consistent outcomes _ requested
    obtain ⟨hresult, hlinks, htogether⟩ := @recordIssued_spec outcomes _ _ hconsistent hids
    refine ⟨hresult, fun source hsource hurl => ?_, fun hreason => htogether (hall hreason)⟩
    obtain ⟨hsettled, havailable, hrecorded⟩ := hlinks source hsource hurl
    obtain ⟨document, hdocument, hid, hdownloadable⟩ :=
      settledSources_authorized hsettled havailable
    unfold authorizedFor at hauthorized
    by_cases hdisabled : request.disabled = true
    · rw [if_pos hdisabled] at hauthorized
      cases hauthorized
      cases hdocument
    · rw [if_neg hdisabled] at hauthorized
      exact ⟨Bool.not_eq_true _ ▸ hdisabled,
        ⟨authorized, hauthorized, document, hdocument, hid, hdownloadable⟩, hrecorded⟩

end

/-- A request of at most fifty documents is answered whatever its calls to the storage and the
record do. Every answer has one result for each requested document, in the order of the request; a
link is only for a document that was found for it and put on record; and an explicit request gets
all links or none. -/
theorem issueMany_on_record (outcomes : Outcomes) (request : IssueRequest) :
    (∀ authorized, authorizedFor outcomes request = .ok authorized →
      (request.requestedSources.map (·.sourceDocumentId)).eraseDups.length ≤ 50 →
        ∃ result, issueMany outcomes request = .ok result) ∧
    ∀ result, issueMany outcomes request = .ok result →
      result.sources.map (·.sourceDocumentId) =
        (request.requestedSources.map (·.sourceDocumentId)).eraseDups ∧
      (∀ source ∈ result.sources, source.downloadUrl ≠ none →
        IsOnRecord outcomes request result source) ∧
      (request.reason = .explicitRequest →
        (∀ source ∈ result.sources, isAvailable source = true) ∨
        ∀ source ∈ result.sources, isAvailable source = false) := by
  refine ⟨fun authorized hauthorized hlimit => ?_, fun result => issueMany_spec⟩
  rw [← dedupe_ids, List.length_map] at hlimit
  exact issueMany_answers hlimit hauthorized

/-- Calls that all succeed, where no document is found. -/
def nothingFound : Outcomes where
  findDownloadableSourceDocuments _ := .ok []
  preflight _ := true
  statObject _ := true
  createDownloadUrl _ := some "https://storage.example/object"
  recordDownloadsIssued _ := true
  now := 0

/-- A request that names a document twice. -/
def repeatedRequest : IssueRequest :=
  ⟨[⟨"a", none⟩, ⟨"b", none⟩, ⟨"a", none⟩], .explicitRequest, false⟩

theorem repeated_request_answered : ∃ result, issueMany nothingFound repeatedRequest = .ok result ∧
    result.sources.map (·.sourceDocumentId) = ["a", "b"] := by
  obtain ⟨hanswers, hspec⟩ := issueMany_on_record nothingFound repeatedRequest
  obtain ⟨result, hresult⟩ := hanswers [] rfl (by decide)
  exact ⟨result, hresult, (hspec result hresult).1⟩

/-- A request of fifty-one documents has no answer. -/
theorem many_sources_refused : ¬ ∀ (outcomes : Outcomes) (request : IssueRequest),
    (∃ authorized, authorizedFor outcomes request = .ok authorized) →
      ∃ result, issueMany outcomes request = .ok result ∧
        result.sources.map (·.sourceDocumentId) =
          (request.requestedSources.map (·.sourceDocumentId)).eraseDups := by
  intro h
  obtain ⟨result, hresult, -⟩ := h nothingFound
    ⟨(List.range 51).map fun n => ⟨toString n, none⟩, .explicitRequest, false⟩ ⟨[], rfl⟩
  have hrefused : (issueMany nothingFound
      ⟨(List.range 51).map fun n => ⟨toString n, none⟩, .explicitRequest, false⟩).toOption =
        none := by decide +kernel
  rw [hresult] at hrefused
  cases hrefused

end SourceDownloads
end SmeDataCenter
