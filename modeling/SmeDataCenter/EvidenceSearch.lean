import Mathlib.Data.List.Sort
import SmeDataCenter.BusinessAuthorization
import SmeDataCenter.EvidenceChunks
import SmeDataCenter.WorkerTables

/-!
# Evidence search

`searchEvidence`: the chunks that a vector search has found are looked up in the database again,
scored by a rerank model, pruned and sorted, and a page of them is cut out at the offset of the
cursor. The database returns the chunks in any order, and every page goes through all of it anew.
Scores are numbers of some ordered type with a rounded difference; chunk ids are ordered as
`localeCompare` orders what the chunker makes of a digest.
-/

namespace SmeDataCenter
namespace EvidenceSearch

open EvidenceChunks (Units)

/-! ### Configuration -/

inductive RerankProviderName where
  | fake
  | openaiCompatible
  | dashscope
  deriving DecidableEq

inductive RelevanceMode where
  | disabled
  | rerankFloorAndGap
  deriving DecidableEq

structure EvidenceRelevancePolicy (Score : Type) where
  mode : RelevanceMode
  rerankMinScore : Score
  rerankMinGap : Score
  rerankLowClusterMaxScore : Score

structure RetrievalModelConfig (Score : Type) where
  version : String
  /-- `none` when reranking is disabled. -/
  rerank : Option RerankProviderName
  relevance : EvidenceRelevancePolicy Score

/-- What the code does with numbers besides comparing them. -/
structure Numbers (Score : Type) where
  sub : Score → Score → Score
  isFinite : Score → Bool

/-- A rerank model: its score of a text, and what a service that runs it answers for some texts,
an index and a score each. -/
structure RerankModel (Score : Type) where
  score : Units → Units → Score
  respond : Units → List Units → List (ℕ × Score)

/-- The service answers with the score of every text, in any order. -/
def RerankModel.Answers {Score : Type} (model : RerankModel Score) : Prop :=
  ∀ query texts, (model.respond query texts).Perm
    (texts.mapIdx fun index text => (index, model.score query text))

/-! ### Candidates and chunks -/

variable {Score ChunkId : Type}

structure QdrantEvidenceCandidate (Score ChunkId : Type) where
  chunkId : ChunkId
  documentId : String
  qdrantPointId : String
  contentVersion : ℕ
  retrievalConfigVersion : String
  hybridScore : Score
  matchedBy : List String

structure SourceLocation where
  sectionHeadingPath : List String
  blockType : Option String
  pageNumber : Option ℕ

structure EvidenceDocument where
  orgId : String
  status : DocumentStatus
  documentKind : DocumentKind
  archivedAt : Option ℕ
  contentVersion : ℕ
  title : String
  fileType : Option String
  confidentialityLevel : ℤ
  businessResources : List ResourceReadRequirement

structure DocumentIndex where
  id : String
  documentId : String
  retrievalConfigVersion : String
  contentVersion : ℕ
  ready : Bool

/-- A row of `document_chunks`, with its document and its index. -/
structure DocumentChunk (ChunkId : Type) where
  documentId : String
  chunkId : Option ChunkId
  chunkText : Units
  indexType : String
  contentVersion : ℕ
  retrievalConfigVersion : Option String
  qdrantPointId : Option String
  sourceLocation : SourceLocation
  document : EvidenceDocument
  documentIndex : Option DocumentIndex

structure RevalidatedEvidenceCandidate (Score ChunkId : Type) extends
    QdrantEvidenceCandidate Score ChunkId where
  text : Units
  documentTitle : String
  fileType : Option String
  sourceLocation : SourceLocation

structure ScoredCandidate (Score ChunkId : Type) extends
    RevalidatedEvidenceCandidate Score ChunkId where
  rerankScore : Option Score

/-- The rows of the chunks. A chunk id stands once in an index, an index is the only one of its
document, configuration and content version, and a chunk is written with what its index is of. -/
structure EvidenceCatalog (ChunkId : Type) where
  chunks : List (DocumentChunk ChunkId)
  chunkIds : chunks.Pairwise fun a b =>
    ¬ ∃ i j, a.documentIndex = some i ∧ b.documentIndex = some j ∧ i.id = j.id ∧
      a.chunkId = b.chunkId ∧ a.chunkId ≠ none
  indexes : ∀ a ∈ chunks, ∀ b ∈ chunks, ∀ i ∈ a.documentIndex, ∀ j ∈ b.documentIndex,
    i.documentId = j.documentId → i.retrievalConfigVersion = j.retrievalConfigVersion →
      i.contentVersion = j.contentVersion → i.id = j.id
  written : ∀ chunk ∈ chunks, ∀ index ∈ chunk.documentIndex,
    index.documentId = chunk.documentId ∧
      chunk.retrievalConfigVersion = some index.retrievalConfigVersion

/-! ### Requests -/

structure EvidenceSearchFilters where
  fileTypes : List String
  documentIds : List String

structure Employee where
  id : String
  disabled : Bool

structure EvidenceSearchInput where
  orgId : String
  employee : Employee
  authorization : AuthorizationSnapshot
  /-- The account that the snapshot was loaded for. -/
  authorizedEmployeeId : String
  query : Units
  filters : EvidenceSearchFilters
  limit : ℕ
  /-- The digest of all of this and of the version of the configuration. -/
  scopeHash : String

/-- A cursor, as far as its signature bears it out. -/
structure EvidenceCursor where
  scopeHash : String
  offset : ℕ
  expiresAt : ℕ

inductive EvidenceSearchCursorError where
  | invalidCursor
  | cursorExpired
  deriving DecidableEq

def EVIDENCE_CURSOR_TTL_SECONDS : ℕ := 900

def decodeEvidenceCursor (cursor : EvidenceCursor) (expectedScopeHash : String) (now : ℕ) :
    Except EvidenceSearchCursorError ℕ :=
  if cursor.scopeHash ≠ expectedScopeHash then .error .invalidCursor
  else if cursor.expiresAt < now then .error .cursorExpired
  else .ok cursor.offset

/-! ### Revalidation -/

section

variable [DecidableEq ChunkId]

/-- `candidateByPointId.get`: a later candidate replaces an earlier one of the same point. -/
def candidateByPointId (candidates : List (QdrantEvidenceCandidate Score ChunkId))
    (qdrantPointId : String) : Option (QdrantEvidenceCandidate Score ChunkId) :=
  candidates.reverse.find? (·.qdrantPointId = qdrantPointId)

/-- The chunks that the query asks for, besides their points. -/
def DocumentChunk.isQueried (orgId : String) (chunk : DocumentChunk ChunkId) : Bool :=
  chunk.indexType = "evidence" && chunk.document.orgId = orgId &&
    chunk.document.status = .active && chunk.document.documentKind = .evidence &&
    chunk.document.archivedAt.isNone && chunk.documentIndex.any (·.ready)

/-- Is the chunk the one that the candidate was found for, and of the current content? -/
def sameContent (chunk : DocumentChunk ChunkId)
    (candidate : QdrantEvidenceCandidate Score ChunkId) : Bool :=
  chunk.documentId = candidate.documentId && chunk.chunkId = some candidate.chunkId &&
    chunk.contentVersion = candidate.contentVersion &&
    chunk.document.contentVersion = candidate.contentVersion &&
    chunk.retrievalConfigVersion = some candidate.retrievalConfigVersion &&
    chunk.documentIndex.any (·.contentVersion = candidate.contentVersion)

def canEmployeeAccessDocument (authorization : AuthorizationSnapshot)
    (confidentialityLevel : ℤ) : Bool :=
  !authorization.disabled && decide (confidentialityLevel ≤ authorization.clearance)

def isReadable (authorization : AuthorizationSnapshot) (document : EvidenceDocument) : Bool :=
  if authorization.mode = .enabled then
    !document.businessResources.isEmpty && document.businessResources.all fun resource =>
      canReadResource authorization resource = .allowed
  else canEmployeeAccessDocument authorization document.confidentialityLevel

def EvidenceSearchFilters.accept (filters : EvidenceSearchFilters)
    (chunk : DocumentChunk ChunkId) : Bool :=
  (filters.documentIds.isEmpty || filters.documentIds.contains chunk.documentId) &&
    (filters.fileTypes.isEmpty ||
      chunk.document.fileType.any fun fileType =>
        fileType ≠ "" && filters.fileTypes.contains fileType)

def revalidateChunk (input : EvidenceSearchInput)
    (candidates : List (QdrantEvidenceCandidate Score ChunkId)) (chunk : DocumentChunk ChunkId) :
    Option (RevalidatedEvidenceCandidate Score ChunkId) :=
  (chunk.qdrantPointId.bind (candidateByPointId candidates)).bind fun candidate =>
    if chunk.isQueried input.orgId && sameContent chunk candidate &&
        isReadable input.authorization chunk.document && input.filters.accept chunk then
      some
        { toQdrantEvidenceCandidate := candidate
          text := chunk.chunkText
          documentTitle := chunk.document.title
          fileType := chunk.document.fileType
          sourceLocation := chunk.sourceLocation }
    else none

/-- The candidates that are readable now, in the order in which the query has returned them. -/
def revalidate (input : EvidenceSearchInput)
    (candidates : List (QdrantEvidenceCandidate Score ChunkId))
    (chunks : List (DocumentChunk ChunkId)) :
    List (RevalidatedEvidenceCandidate Score ChunkId) :=
  if input.employee.disabled || candidates.isEmpty || input.authorization.disabled ||
      input.authorization.orgId ≠ input.orgId ||
      input.authorizedEmployeeId ≠ input.employee.id ||
      input.authorization.mode = .suspended then []
  else chunks.filterMap (revalidateChunk input candidates)

end

/-! ### Reranking -/

def RERANK_REQUEST_TOKEN_BUDGET : ℕ := 100000
def RERANK_MAX_DOCUMENTS : ℕ := 500
def RERANK_MAX_TOKENS_PER_INPUT : ℕ := 30000

/-- One token a character. -/
def estimateRerankTokens (text : Units) : ℕ := text.length

structure RerankDocument where
  index : ℕ
  text : Units

/-- The loop over the documents, with the number of those that were selected and their tokens. -/
def selectDocuments (queryTokens : ℕ) :
    ℕ → ℕ → List RerankDocument → List RerankDocument
  | _, _, [] => []
  | selected, documentTokens, document :: documents =>
    let estimated := estimateRerankTokens document.text
    if RERANK_MAX_TOKENS_PER_INPUT < estimated then
      selectDocuments queryTokens selected documentTokens documents
    else if RERANK_REQUEST_TOKEN_BUDGET <
        documentTokens + estimated + queryTokens * (selected + 1) then []
    else document ::
      selectDocuments queryTokens (selected + 1) (documentTokens + estimated) documents

def limitRerankDocuments (documents : List RerankDocument) (query : Units) :
    List RerankDocument :=
  if RERANK_MAX_TOKENS_PER_INPUT < estimateRerankTokens query then []
  else selectDocuments (estimateRerankTokens query) 0 0 (documents.take RERANK_MAX_DOCUMENTS)

/-- The documents with a text, which is trimmed, under the indices they stand at. -/
def rerankDocuments (texts : List Units) : List RerankDocument :=
  (texts.mapIdx fun index text => (⟨index, EvidenceChunks.trim text⟩ : RerankDocument)).filter
    fun document => 0 < document.text.length

/-- `rerank` of a provider: an index into the texts and a score each. -/
def rerank [Zero Score] (provider : RerankProviderName) (model : RerankModel Score)
    (query : Units) (texts : List Units) : List (ℕ × Score) :=
  match provider with
  | .fake => texts.mapIdx fun index text => (index, model.score query text)
  | .openaiCompatible => model.respond query texts
  | .dashscope =>
    if (rerankDocuments texts).isEmpty then texts.mapIdx fun index _ => (index, 0)
    else
      let requested := limitRerankDocuments (rerankDocuments texts) query
      if requested.isEmpty then []
      else (model.respond query (requested.map (·.text))).filterMap fun (index, score) =>
        requested[index]?.map fun document => (document.index, score)

/-! ### Pruning -/

section

variable [LinearOrder Score] [LinearOrder ChunkId]

structure PruneResult (Score ChunkId : Type) where
  kept : List (ScoredCandidate Score ChunkId)
  droppedCount : ℕ
  warnings : List String

/-- Higher scores first, and equal ones by their ids. -/
def rankBy (score : ScoredCandidate Score ChunkId → Score)
    (candidates : List (ScoredCandidate Score ChunkId)) :
    List (ScoredCandidate Score ChunkId) :=
  candidates.insertionSort fun a b =>
    score b < score a ∨ (score a = score b ∧ a.chunkId ≤ b.chunkId)

/-- `compareEvidenceCandidates` compares by this score. -/
def ScoredCandidate.orderScore (candidate : ScoredCandidate Score ChunkId) : Score :=
  candidate.rerankScore.getD candidate.hybridScore

/-- The greatest gap between neighbours so far, with its index. -/
def largestGap (numbers : Numbers Score) : ℕ → Option (Score × ℕ) → List Score →
    Option (Score × ℕ)
  | index, found, current :: next :: scores =>
    let gap := numbers.sub current next
    largestGap numbers (index + 1)
      (if found.all fun (largest, _) => largest < gap then some (gap, index) else found)
      (next :: scores)
  | _, found, _ => found

/-- How many of the sorted candidates above the floor are kept. -/
def keptCount (numbers : Numbers Score) (policy : EvidenceRelevancePolicy Score)
    (scores : List Score) : ℕ :=
  match largestGap numbers 0 none scores with
  | none => scores.length
  | some (gap, index) =>
    if policy.rerankMinGap ≤ gap ∧
        scores[index + 1]?.any (· ≤ policy.rerankLowClusterMaxScore) = true then index + 1
    else scores.length

def ScoredCandidate.score (missing : Score) (candidate : ScoredCandidate Score ChunkId) : Score :=
  candidate.rerankScore.getD missing

/-- The candidates with a finite score, sorted, from the floor up. -/
def aboveFloor (numbers : Numbers Score) (policy : EvidenceRelevancePolicy Score)
    (candidates : List (ScoredCandidate Score ChunkId)) : List (ScoredCandidate Score ChunkId) :=
  (rankBy (·.score policy.rerankMinScore)
    (candidates.filter fun candidate => candidate.rerankScore.any numbers.isFinite)).filter
      fun candidate => policy.rerankMinScore ≤ candidate.score policy.rerankMinScore

def pruneEvidenceCandidates (numbers : Numbers Score) (policy : EvidenceRelevancePolicy Score)
    (candidates : List (ScoredCandidate Score ChunkId)) : PruneResult Score ChunkId :=
  match policy.mode with
  | .disabled => ⟨candidates, 0, []⟩
  | .rerankFloorAndGap =>
    let above := aboveFloor numbers policy candidates
    let kept := above.take
      (keptCount numbers policy (above.map (·.score policy.rerankMinScore)))
    ⟨kept, candidates.length - kept.length,
      if candidates.all fun candidate => candidate.rerankScore.any numbers.isFinite then []
      else ["RERANK_INCOMPLETE"]⟩

/-- The candidates whose id has not been seen before. -/
def dedupeFrom : List ChunkId → List (ScoredCandidate Score ChunkId) →
    List (ScoredCandidate Score ChunkId)
  | _, [] => []
  | seen, candidate :: candidates =>
    if candidate.chunkId ∈ seen then dedupeFrom seen candidates
    else candidate :: dedupeFrom (candidate.chunkId :: seen) candidates

def dedupeEvidenceCandidates (candidates : List (ScoredCandidate Score ChunkId)) :
    List (ScoredCandidate Score ChunkId) :=
  dedupeFrom [] candidates

end

/-! ### The service -/

structure EvidenceSearchResultItem (Score ChunkId : Type) where
  chunkId : ChunkId
  documentId : String
  documentTitle : String
  text : Units
  fileType : Option String
  source : SourceLocation
  hybrid : Score
  rerank : Option Score
  matchedBy : List String

structure EvidenceSearchResult (Score ChunkId : Type) where
  results : List (EvidenceSearchResultItem Score ChunkId)
  nextCursor : Option EvidenceCursor
  droppedCount : ℕ
  warnings : List String

def ScoredCandidate.item (candidate : ScoredCandidate Score ChunkId) :
    EvidenceSearchResultItem Score ChunkId where
  chunkId := candidate.chunkId
  documentId := candidate.documentId
  documentTitle := candidate.documentTitle
  text := candidate.text
  fileType := candidate.fileType
  source := candidate.sourceLocation
  hybrid := candidate.hybridScore
  rerank := candidate.rerankScore
  matchedBy := candidate.matchedBy ++ if candidate.rerankScore.isNone then [] else ["rerank"]

/-- What the service is set up with. -/
structure EvidenceSearchService (Score : Type) where
  retrievalConfig : RetrievalModelConfig Score
  numbers : Numbers Score
  rerankModel : RerankModel Score

section

variable [LinearOrder Score] [Zero Score] [LinearOrder ChunkId]

/-- `rerankScoreByChunkId`: a later score replaces an earlier one of the same chunk. -/
def rerankScoreByChunkId (revalidated : List (RevalidatedEvidenceCandidate Score ChunkId))
    (scores : List (ℕ × Score)) (chunkId : ChunkId) : Option Score :=
  (scores.reverse.find? fun entry => revalidated[entry.1]?.any (·.chunkId = chunkId)).map (·.2)

def scoredCandidates (service : EvidenceSearchService Score) (query : Units)
    (revalidated : List (RevalidatedEvidenceCandidate Score ChunkId)) :
    List (ScoredCandidate Score ChunkId) :=
  let scores := service.retrievalConfig.rerank.elim [] fun provider =>
    rerank provider service.rerankModel query (revalidated.map (·.text))
  revalidated.map fun candidate =>
    { toRevalidatedEvidenceCandidate := candidate
      rerankScore := rerankScoreByChunkId revalidated scores candidate.chunkId }

/-- The relevance of the scored candidates, which are sorted before when nothing is pruned. -/
def relevance (service : EvidenceSearchService Score)
    (scored : List (ScoredCandidate Score ChunkId)) : PruneResult Score ChunkId :=
  pruneEvidenceCandidates service.numbers service.retrievalConfig.relevance
    (if service.retrievalConfig.relevance.mode = .disabled then
      rankBy ScoredCandidate.orderScore scored
    else scored)

def EVIDENCE_CANDIDATE_WINDOW : ℕ := 200

/-- The page at the offset of the cursor. `chunks` are the rows in the order in which the
database returns them. -/
def searchEvidence (service : EvidenceSearchService Score) (input : EvidenceSearchInput)
    (candidates : List (QdrantEvidenceCandidate Score ChunkId))
    (chunks : List (DocumentChunk ChunkId)) (cursor : Option EvidenceCursor) (now : ℕ) :
    Except EvidenceSearchCursorError (EvidenceSearchResult Score ChunkId) := do
  let offset ← cursor.elim (.ok 0) (decodeEvidenceCursor · input.scopeHash now)
  let pruned := relevance service
    (scoredCandidates service input.query (revalidate input candidates chunks))
  let ordered := dedupeEvidenceCandidates pruned.kept
  let page := (ordered.drop offset).take (input.limit + 1)
  return {
    results := (page.take input.limit).map (·.item)
    nextCursor := if input.limit < page.length then
      some ⟨input.scopeHash, offset + input.limit, now + EVIDENCE_CURSOR_TTL_SECONDS⟩ else none
    droppedCount := pruned.droppedCount
    warnings := (if EVIDENCE_CANDIDATE_WINDOW ≤ candidates.length then
      ["EVIDENCE_CANDIDATE_WINDOW_TRUNCATED"] else []) ++ pruned.warnings }

end

end EvidenceSearch
end SmeDataCenter
