import Mathlib.Algebra.Ring.Int.Defs
import SmeDataCenter.EvidencePages

/-!
# Following the cursors of an evidence search

A reader asks for the first page and follows the cursors to the end, and the database returns the
chunks in an order of its own for each page. The reader is shown what one search without pages
would keep, whatever the orders are, exactly when no request to the rerank service is cut short
where that matters.
-/

namespace SmeDataCenter
namespace EvidenceSearch

open EvidenceChunks (Units)

variable {Score ChunkId : Type} [LinearOrder Score] [Zero Score] [LinearOrder ChunkId]
  {service : EvidenceSearchService Score} {input : EvidenceSearchInput}
  {candidates : List (QdrantEvidenceCandidate Score ChunkId)}
  {chunks chunks' : List (DocumentChunk ChunkId)}

/-! ### The rows of the database -/

section

omit [LinearOrder Score] [Zero Score]

lemma revalidate_perm (h : chunks.Perm chunks') :
    (revalidate input candidates chunks).Perm (revalidate input candidates chunks') := by
  unfold revalidate
  split
  · exact List.Perm.refl _
  · exact h.filterMap _

variable {candidate : RevalidatedEvidenceCandidate Score ChunkId}

lemma mem_revalidate (h : candidate ∈ revalidate input candidates chunks) :
    (∀ order : List (DocumentChunk ChunkId), revalidate input candidates order =
        order.filterMap (revalidateChunk input candidates)) ∧
      ∃ chunk ∈ chunks, revalidateChunk input candidates chunk = some candidate := by
  unfold revalidate at h ⊢
  split at h
  · cases h
  · rename_i hopen
    exact ⟨fun order => if_neg hopen, List.mem_filterMap.mp h⟩

lemma exists_first (h : candidate ∈ revalidate input candidates chunks) :
    ∃ order rest, order.Perm chunks ∧ revalidate input candidates order = candidate :: rest := by
  obtain ⟨hopen, chunk, hmem, hchunk⟩ := mem_revalidate h
  obtain ⟨before, after, rfl⟩ := List.append_of_mem hmem
  refine ⟨chunk :: (before ++ after),
    (before ++ after).filterMap (revalidateChunk input candidates), List.perm_middle.symm, ?_⟩
  rw [hopen, List.filterMap_cons_some hchunk]

lemma exists_last (h : candidate ∈ revalidate input candidates chunks) :
    ∃ order rest, order.Perm chunks ∧
      revalidate input candidates order = rest ++ [candidate] := by
  obtain ⟨hopen, chunk, hmem, hchunk⟩ := mem_revalidate h
  obtain ⟨before, after, rfl⟩ := List.append_of_mem hmem
  refine ⟨(before ++ after) ++ [chunk],
    (before ++ after).filterMap (revalidateChunk input candidates), ?_, ?_⟩
  · exact (List.perm_append_singleton _ _).trans List.perm_middle.symm
  · rw [hopen, List.filterMap_append, List.filterMap_cons_some hchunk, List.filterMap_nil]

lemma revalidateChunk_eq {chunk : DocumentChunk ChunkId}
    {revalidated : RevalidatedEvidenceCandidate Score ChunkId}
    (h : revalidateChunk input candidates chunk = some revalidated) :
    ∃ candidate ∈ candidates, revalidated.chunkId = candidate.chunkId ∧
      sameContent chunk candidate = true := by
  obtain ⟨candidate, hfound, h⟩ := Option.bind_eq_some_iff.mp h
  obtain ⟨pointId, -, hfound⟩ := Option.bind_eq_some_iff.mp hfound
  rw [Option.ite_none_right_eq_some] at h
  obtain ⟨hconditions, h⟩ := h
  simp only [Bool.and_eq_true] at hconditions
  refine ⟨candidate, List.mem_reverse.mp (List.mem_of_find?_eq_some hfound), ?_,
    hconditions.1.1.2⟩
  rw [← Option.some.inj h]

lemma revalidate_nodup (catalog : EvidenceCatalog ChunkId)
    (hids : (candidates.map (·.chunkId)).Nodup) :
    ((revalidate input candidates catalog.chunks).map (·.chunkId)).Nodup := by
  unfold revalidate
  split
  · exact List.nodup_nil
  rw [List.Nodup, List.pairwise_map, List.pairwise_filterMap]
  refine (List.Pairwise.and_mem.mp catalog.chunkIds).imp ?_
  rintro a b ⟨ha, hb, hapart⟩ first hfirst second hsecond hsame
  obtain ⟨candidate, hcandidate, hid, hcontent⟩ := revalidateChunk_eq hfirst
  obtain ⟨candidate', hcandidate', hid', hcontent'⟩ := revalidateChunk_eq hsecond
  have hone : candidate = candidate' := List.inj_on_of_nodup_map hids hcandidate hcandidate'
    (hid.symm.trans (hsame.trans hid'))
  subst hone
  simp only [sameContent, Bool.and_eq_true, decide_eq_true_eq] at hcontent hcontent'
  obtain ⟨⟨⟨⟨⟨hdocument, hchunk⟩, -⟩, -⟩, hversion⟩, hindex⟩ := hcontent
  obtain ⟨⟨⟨⟨⟨hdocument', hchunk'⟩, -⟩, -⟩, hversion'⟩, hindex'⟩ := hcontent'
  obtain ⟨i, hi, hcount⟩ := (Option.any_eq_true _ _).mp hindex
  obtain ⟨j, hj, hcount'⟩ := (Option.any_eq_true _ _).mp hindex'
  have hwritten := catalog.written a ha i hi
  have hwritten' := catalog.written b hb j hj
  refine hapart ⟨i, j, hi, hj, ?_, hchunk.trans hchunk'.symm, by simp [hchunk]⟩
  refine catalog.indexes a ha b hb i hi j hj ?_ ?_ ?_
  · rw [hwritten.1, hwritten'.1, hdocument, hdocument']
  · have hconfig := hwritten.2.symm.trans (hversion.trans (hversion'.symm.trans hwritten'.2))
    exact Option.some.inj hconfig
  · exact (of_decide_eq_true hcount).trans (of_decide_eq_true hcount').symm

end

/-! ### Pages -/

/-- What a search over the rows keeps when it is not cut into pages. -/
def unpaged (service : EvidenceSearchService Score) (input : EvidenceSearchInput)
    (candidates : List (QdrantEvidenceCandidate Score ChunkId))
    (chunks : List (DocumentChunk ChunkId)) : List (EvidenceSearchResultItem Score ChunkId) :=
  (kept service input.query (revalidate input candidates chunks)).map (·.item)

/-- A request for a page: the rows as the database returns them, and the time in seconds. -/
structure PageRequest (ChunkId : Type) where
  chunks : List (DocumentChunk ChunkId)
  now : ℕ

/-- What is read from a page on by following the cursors to the end. -/
inductive Reads (service : EvidenceSearchService Score) (input : EvidenceSearchInput)
    (candidates : List (QdrantEvidenceCandidate Score ChunkId))
    (requests : ℕ → PageRequest ChunkId) :
    ℕ → Option EvidenceCursor → List (EvidenceSearchResultItem Score ChunkId) → Prop
  | last {n : ℕ} {cursor : Option EvidenceCursor} {result : EvidenceSearchResult Score ChunkId}
      (answer : searchEvidence service input candidates (requests n).chunks cursor
        (requests n).now = .ok result) (done : result.nextCursor = none) :
      Reads service input candidates requests n cursor result.results
  | more {n : ℕ} {cursor : Option EvidenceCursor} {result : EvidenceSearchResult Score ChunkId}
      {next : EvidenceCursor} {rest : List (EvidenceSearchResultItem Score ChunkId)}
      (answer : searchEvidence service input candidates (requests n).chunks cursor
        (requests n).now = .ok result) (follows : result.nextCursor = some next)
      (reads : Reads service input candidates requests (n + 1) (some next) rest) :
      Reads service input candidates requests n cursor (result.results ++ rest)

variable {requests : ℕ → PageRequest ChunkId}

variable {cursor : Option EvidenceCursor}

lemma Reads.unique {n : ℕ} {items items' : List (EvidenceSearchResultItem Score ChunkId)}
    (h : Reads service input candidates requests n cursor items)
    (h' : Reads service input candidates requests n cursor items') : items = items' := by
  induction h generalizing items' with
  | last answer done =>
    cases h' with
    | last answer' _ =>
      rw [answer, Except.ok.injEq] at answer'
      rw [answer']
    | more answer' follows _ =>
      rw [answer, Except.ok.injEq] at answer'
      subst answer'
      rw [done] at follows
      cases follows
  | more answer follows _ ih =>
    cases h' with
    | last answer' done =>
      rw [answer, Except.ok.injEq] at answer'
      subst answer'
      rw [done] at follows
      cases follows
    | more answer' follows' reads' =>
      rw [answer, Except.ok.injEq] at answer'
      subst answer'
      rw [follows, Option.some.injEq] at follows'
      subst follows'
      rw [ih reads']

lemma searchEvidence_eq (service : EvidenceSearchService Score)
    (candidates : List (QdrantEvidenceCandidate Score ChunkId))
    (chunks : List (DocumentChunk ChunkId)) {now offset : ℕ}
    (hcursor : cursor.elim (.ok 0) (decodeEvidenceCursor · input.scopeHash now) =
      (.ok offset : Except EvidenceSearchCursorError ℕ)) :
    ∃ result, searchEvidence service input candidates chunks cursor now = .ok result ∧
      result.results = ((unpaged service input candidates chunks).drop offset).take input.limit ∧
      result.nextCursor =
        if offset + input.limit < (unpaged service input candidates chunks).length then
          some ⟨input.scopeHash, offset + input.limit, now + EVIDENCE_CURSOR_TTL_SECONDS⟩
        else none := by
  unfold searchEvidence
  rw [hcursor]
  refine ⟨_, rfl, ?_, ?_⟩
  · rw [List.take_take, min_eq_left (Nat.le_succ _), List.map_take, List.map_drop]
    rfl
  · have hlength : input.limit < ((List.drop offset (dedupeEvidenceCandidates (relevance service
        (scoredCandidates service input.query (revalidate input candidates chunks))).kept)).take
          (input.limit + 1)).length ↔
        offset + input.limit < (unpaged service input candidates chunks).length := by
      rw [List.length_take, List.length_drop, unpaged, List.length_map, kept, ordered]
      omega
    dsimp only
    split_ifs with h h' h'
    · rfl
    · exact absurd (hlength.mp h) h'
    · exact absurd (hlength.mpr h') h
    · rfl

lemma reads_from {items : List (EvidenceSearchResultItem Score ChunkId)}
    (hitems : ∀ n, unpaged service input candidates (requests n).chunks = items)
    (htime : ∀ n, (requests (n + 1)).now ≤ (requests n).now + EVIDENCE_CURSOR_TTL_SECONDS)
    (hlimit : 1 ≤ input.limit) {left : ℕ} {n offset : ℕ}
    (hcursor : cursor.elim (.ok 0) (decodeEvidenceCursor · input.scopeHash (requests n).now) =
      (.ok offset : Except EvidenceSearchCursorError ℕ)) (hleft : items.length ≤ offset + left) :
    Reads service input candidates requests n cursor (items.drop offset) := by
  induction left generalizing n offset cursor with
  | zero =>
    obtain ⟨result, hanswer, hresults, hnext⟩ :=
      searchEvidence_eq service candidates (requests n).chunks hcursor
    rw [hitems] at hresults hnext
    rw [if_neg (by omega)] at hnext
    have hread := Reads.last hanswer hnext
    rwa [hresults, List.take_of_length_le (by rw [List.length_drop]; omega)] at hread
  | succ left ih =>
    obtain ⟨result, hanswer, hresults, hnext⟩ :=
      searchEvidence_eq service candidates (requests n).chunks hcursor
    rw [hitems] at hresults hnext
    by_cases hmore : offset + input.limit < items.length
    · rw [if_pos hmore] at hnext
      have hdecoded : decodeEvidenceCursor ⟨input.scopeHash, offset + input.limit,
          (requests n).now + EVIDENCE_CURSOR_TTL_SECONDS⟩ input.scopeHash (requests (n + 1)).now =
            .ok (offset + input.limit) := by
        have := htime n
        rw [decodeEvidenceCursor, if_neg (by simp), if_neg (by simp only; omega)]
      have hrest : Reads service input candidates requests (n + 1) (some ⟨input.scopeHash,
          offset + input.limit, (requests n).now + EVIDENCE_CURSOR_TTL_SECONDS⟩)
            (items.drop (offset + input.limit)) := ih hdecoded (by omega)
      have hread := Reads.more hanswer hnext hrest
      rwa [hresults, ← List.drop_drop, List.take_append_drop] at hread
    · rw [if_neg hmore] at hnext
      have hread := Reads.last hanswer hnext
      rwa [hresults, List.take_of_length_le (by rw [List.length_drop]; omega)] at hread

/-- Following the cursors shows, in its order and each once, what one search without pages would
keep, whatever the orders are in which the database returns the rows for each page and for that
search, while every page is asked for before the cursor for it expires. -/
def PagesCover (service : EvidenceSearchService Score) (input : EvidenceSearchInput)
    (candidates : List (QdrantEvidenceCandidate Score ChunkId))
    (catalog : EvidenceCatalog ChunkId) : Prop :=
  ∀ requests : ℕ → PageRequest ChunkId, (∀ n, (requests n).chunks.Perm catalog.chunks) →
    (∀ n, (requests (n + 1)).now ≤ (requests n).now + EVIDENCE_CURSOR_TTL_SECONDS) →
    ∀ chunks : List (DocumentChunk ChunkId), chunks.Perm catalog.chunks →
      Reads service input candidates requests 0 none (unpaged service input candidates chunks) ∧
        ((unpaged service input candidates chunks).map (·.chunkId)).Nodup

lemma unpaged_eq_of_cover {catalog : EvidenceCatalog ChunkId}
    (h : PagesCover service input candidates catalog) (hchunks : chunks.Perm catalog.chunks)
    (hchunks' : chunks'.Perm catalog.chunks) :
    unpaged service input candidates chunks = unpaged service input candidates chunks' := by
  have hreads := h (fun _ => ⟨chunks, 0⟩) (fun _ => hchunks) (fun _ => Nat.zero_le _)
  exact (hreads chunks hchunks).1.unique (hreads chunks' hchunks').1

lemma nodup_unpaged (hids : ((revalidate input candidates chunks).map (·.chunkId)).Nodup) :
    ((unpaged service input candidates chunks).map (·.chunkId)).Nodup := by
  have hscored := ids_scored service input.query hids
  have hitems : (unpaged service input candidates chunks).map (·.chunkId) =
      (kept service input.query (revalidate input candidates chunks)).map (·.chunkId) := by
    rw [unpaged, List.map_map]
    rfl
  rw [hitems, kept, ordered_eq_kept hscored]
  exact kept_nodup hscored

lemma untrimmed_of_cover {catalog : EvidenceCatalog ChunkId}
    (hanswers : service.rerankModel.Answers) (hids : (candidates.map (·.chunkId)).Nodup)
    (h : PagesCover service input candidates catalog) :
    Untrimmed service input.query (textsOf (revalidate input candidates catalog.chunks)) := by
  intro hprovider hquery
  by_contra hneither
  rw [not_or] at hneither
  obtain ⟨hfits, hcounts⟩ := hneither
  have hnodup : ∀ order : List (DocumentChunk ChunkId), order.Perm catalog.chunks →
      ((revalidate input candidates order).map (·.chunkId)).Nodup := fun order horder =>
    ((revalidate_perm horder).map _).nodup_iff.mpr (revalidate_nodup catalog hids)
  -- nothing that was sent is kept under all orders
  have hlost : ∀ candidate ∈ revalidate input candidates catalog.chunks,
      isEligible candidate.text = true → ∀ order : List (DocumentChunk ChunkId),
        order.Perm catalog.chunks → ∀ scored ∈ kept service input.query
          (revalidate input candidates order), scored.chunkId = candidate.chunkId →
            scored.rerankScore = none := by
    intro candidate hmem heligible order horder scored hscored hid
    obtain ⟨order', rest, horder', hrest⟩ := exists_last hmem
    have hsame := unpaged_eq_of_cover h horder horder'
    have hitem : scored.item ∈ unpaged service input candidates order' := by
      rw [← hsame]
      exact List.mem_map_of_mem hscored
    obtain ⟨scored', hscored', hitem⟩ := List.mem_map.mp hitem
    have hid' : scored'.chunkId = scored.chunkId :=
      congrArg EvidenceSearchResultItem.chunkId hitem
    have hscore : scored'.rerankScore = scored.rerankScore :=
      congrArg EvidenceSearchResultItem.rerank hitem
    have hnodup' := hnodup order' horder'
    rw [kept, ordered_eq_kept (ids_scored service input.query hnodup')] at hscored'
    have hin := (kept_subperm service _).subset hscored'
    rw [hrest] at hin hnodup'
    rw [← hscore]
    refine unscored_last hanswers hnodup' hprovider hquery heligible (fun hroom => hfits ?_) hin
      (hid'.trans hid)
    rw [← hrest] at hroom
    exact hroom.perm (textsOf_perm (revalidate_perm horder'))
  push Not at hcounts
  obtain ⟨text, htext, heligible, hcount⟩ := hcounts
  obtain ⟨candidate, hmem, rfl⟩ := List.mem_map.mp htext
  obtain ⟨order, rest, horder, hrest⟩ := exists_first hmem
  have hfirst := hnodup order horder
  rw [hrest] at hfirst
  have hscored := scored_first hanswers hfirst hprovider hquery heligible
  rw [← hrest] at hscored hfirst
  have hscoredIds := ids_scored service input.query hfirst
  cases hmode : service.retrievalConfig.relevance.mode with
  | disabled =>
    have hkept : _ ∈ kept service input.query (revalidate input candidates order) :=
      (mem_ordered_disabled hmode hscoredIds).mpr hscored
    have hnone := hlost candidate hmem heligible order horder _ hkept rfl
    cases hnone
  | rerankFloorAndGap =>
    rcases hcount with hdisabled | hpass
    · rw [hmode] at hdisabled
      cases hdisabled
    · -- something is kept, with a score, and it is lost when its row comes last
      obtain ⟨best, others, hbest⟩ := List.exists_cons_of_ne_nil
        (ordered_ne_nil hmode hscoredIds hscored hpass)
      have hkept : best ∈ kept service input.query (revalidate input candidates order) := by
        rw [kept, hbest]
        exact List.mem_cons_self
      obtain ⟨hin, value, hvalue, -⟩ := passes_of_mem_ordered hmode hscoredIds hkept
      have hblank : allBlank (textsOf (revalidate input candidates order)) = false := by
        refine not_allBlank (List.mem_map_of_mem ?_) heligible
        rw [hrest]
        exact List.mem_cons_self
      obtain ⟨found, hfound, hid, hfoundEligible, -⟩ :=
        sent_of_scored hanswers hfirst hprovider hblank hin hvalue
      have hnone := hlost found ((revalidate_perm horder).mem_iff.mp hfound) hfoundEligible order
        horder best hkept hid
      rw [hvalue] at hnone
      cases hnone

/-- **Pages of an evidence search.** Following the cursors covers what one search without pages
would keep exactly when no request to a rerank service with limits is cut short where it matters. -/
theorem pages_cover_iff {Score ChunkId : Type} [LinearOrder Score] [Zero Score]
    [LinearOrder ChunkId] (service : EvidenceSearchService Score) (input : EvidenceSearchInput)
    (candidates : List (QdrantEvidenceCandidate Score ChunkId))
    (catalog : EvidenceCatalog ChunkId) (hanswers : service.rerankModel.Answers)
    (hids : (candidates.map (·.chunkId)).Nodup) (hlimit : 1 ≤ input.limit) :
    PagesCover service input candidates catalog ↔
      Untrimmed service input.query (textsOf (revalidate input candidates catalog.chunks)) := by
  refine ⟨untrimmed_of_cover hanswers hids, fun h requests hrequests htime chunks hchunks => ?_⟩
  have hnodup := @revalidate_nodup _ _ _ input _ catalog hids
  have hsame : ∀ order : List (DocumentChunk ChunkId), order.Perm catalog.chunks →
      unpaged service input candidates order =
        unpaged service input candidates catalog.chunks := by
    intro order horder
    rw [unpaged, unpaged,
      kept_eq_of_untrimmed hanswers hnodup (revalidate_perm horder).symm h]
  rw [hsame chunks hchunks]
  refine ⟨?_, nodup_unpaged hnodup⟩
  have hread : Reads service input candidates requests 0 none
      ((unpaged service input candidates catalog.chunks).drop 0) :=
    reads_from (fun n => hsame _ (hrequests n)) htime hlimit rfl (Nat.le_add_left _ 0)
  exact hread

/-! ### A query that fills the request -/

/-- A rerank service with limits, whose scores are lengths, and no pruning. -/
def lengthService : EvidenceSearchService ℤ where
  retrievalConfig := ⟨"v1", some .dashscope, ⟨.disabled, 0, 1, 0⟩⟩
  numbers := ⟨fun a b => a - b, fun _ => true⟩
  rerankModel :=
    { score := fun _ text => text.length
      respond := fun _ texts => texts.mapIdx fun index text => (index, (text.length : ℤ)) }

/-- A search of an employee who reads all documents without attributes. -/
def searchInput (query : Units) : EvidenceSearchInput where
  orgId := "org"
  employee := ⟨"emp", false⟩
  authorization := ⟨"org", false, 3, .legacy, [], [], List.nodup_nil⟩
  authorizedEmployeeId := "emp"
  query
  filters := ⟨[], []⟩
  limit := 10
  scopeHash := "scope"

/-- A chunk `a` of one document. -/
def shortChunk (ordinal : ℕ) : DocumentChunk ℕ where
  documentId := "doc"
  chunkId := some ordinal
  chunkText := [97]
  indexType := "evidence"
  contentVersion := 1
  retrievalConfigVersion := some "v1"
  qdrantPointId := some (toString ordinal)
  sourceLocation := ⟨[], none, none⟩
  document := ⟨"org", .active, .evidence, none, 1, "title", none, 0, []⟩
  documentIndex := some ⟨"index", "doc", "v1", 1, true⟩

def shortCandidate (ordinal : ℕ) : QdrantEvidenceCandidate ℤ ℕ :=
  ⟨ordinal, "doc", toString ordinal, 1, "v1", 0, []⟩

def shortCatalog (count : ℕ) : EvidenceCatalog ℕ where
  chunks := (List.range count).map shortChunk
  chunkIds := by
    rw [List.pairwise_map]
    refine List.pairwise_lt_range.imp ?_
    rintro a b hlt ⟨i, j, -, -, -, hid, -⟩
    have := Option.some.inj hid
    omega
  indexes := by
    intro a ha b hb i hi j hj _ _ _
    obtain ⟨m, -, rfl⟩ := List.mem_map.mp ha
    obtain ⟨n, -, rfl⟩ := List.mem_map.mp hb
    rw [← Option.some.inj hi, ← Option.some.inj hj]
  written := by
    intro chunk hchunk index hindex
    obtain ⟨n, -, rfl⟩ := List.mem_map.mp hchunk
    rw [← Option.some.inj hindex]
    exact ⟨rfl, rfl⟩

/-- Two chunks and a short query. -/
theorem pages_cover_short :
    PagesCover lengthService (searchInput [97]) ([0, 1].map shortCandidate) (shortCatalog 2) ↔
      Untrimmed lengthService [97] (textsOf (revalidate (searchInput [97])
        ([0, 1].map shortCandidate) (shortCatalog 2).chunks)) :=
  pages_cover_iff lengthService (searchInput [97]) ([0, 1].map shortCandidate) (shortCatalog 2)
    (fun _ _ => List.Perm.refl _) (by decide) (by decide)

/-- Twenty-five chunks of one character, and a query of 4,000: the request has room for 24. -/
theorem long_query_pages_differ : ¬ ∀ (service : EvidenceSearchService ℤ)
    (input : EvidenceSearchInput) (candidates : List (QdrantEvidenceCandidate ℤ ℕ))
    (catalog : EvidenceCatalog ℕ), service.rerankModel.Answers →
      (candidates.map (·.chunkId)).Nodup → 1 ≤ input.limit →
        PagesCover service input candidates catalog := by
  intro h
  have hanswers : lengthService.rerankModel.Answers := fun _ _ => List.Perm.refl _
  have hids : (((List.range 25).map shortCandidate).map (·.chunkId)).Nodup := by decide
  have hcover := h lengthService (searchInput (List.replicate 4000 97))
    ((List.range 25).map shortCandidate) (shortCatalog 25) hanswers hids (by decide)
  have htexts : textsOf (revalidate (searchInput (List.replicate 4000 97))
      ((List.range 25).map shortCandidate) (shortCatalog 25).chunks) =
        List.replicate 25 [97] := by decide +kernel
  have hquery : estimateRerankTokens (List.replicate 4000 (97 : UInt16)) = 4000 :=
    List.length_replicate
  have htrimmed : (trimmedTexts (List.replicate 25 [97])).filter isShort =
      List.replicate 25 [97] := by decide +kernel
  rcases untrimmed_of_cover hanswers hids hcover rfl
    (by rw [isShort, searchInput, hquery]; decide) with hfits | hnone
  · have htokens := hfits.tokens
    rw [htexts, htrimmed, searchInput, hquery] at htokens
    exact absurd htokens (by decide)
  · exact hnone [97] (by rw [htexts]; decide) (by decide) (.inl rfl)

end EvidenceSearch
end SmeDataCenter
