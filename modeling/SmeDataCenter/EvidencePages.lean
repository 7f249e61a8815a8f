import Mathlib.Algebra.GroupWithZero.Nat
import SmeDataCenter.EvidenceSearch

/-!
# Pages of an evidence search

Every page is cut out of an order of its own, so the pages fit together when what is kept does not
depend on the order in which the database returns the chunks. Sorting makes it so, as long as the
scores do not depend on it; a request to a rerank service that does not have room for all texts is
cut short after those that come first.
-/

namespace SmeDataCenter
namespace EvidenceSearch

open EvidenceChunks (Units)

variable {Score ChunkId : Type} [LinearOrder Score] [LinearOrder ChunkId]

/-! ### Sorting and deduplication -/

section

variable {score : ScoredCandidate Score ChunkId → Score}
  {candidates candidates' : List (ScoredCandidate Score ChunkId)}

lemma rankBy_perm (score : ScoredCandidate Score ChunkId → Score)
    (candidates : List (ScoredCandidate Score ChunkId)) :
    (rankBy score candidates).Perm candidates := List.perm_insertionSort _ _

/-- Does a candidate stand before another, or at its place? -/
def Before (score : ScoredCandidate Score ChunkId → Score)
    (a b : ScoredCandidate Score ChunkId) : Prop :=
  score b < score a ∨ (score a = score b ∧ a.chunkId ≤ b.chunkId)

instance : DecidableRel (Before score) := fun _ _ => inferInstanceAs (Decidable (_ ∨ _))

lemma before_total (a b : ScoredCandidate Score ChunkId) : Before score a b ∨ Before score b a := by
  rcases lt_trichotomy (score a) (score b) with h | h | h
  · exact .inr (.inl h)
  · rcases le_total a.chunkId b.chunkId with hid | hid
    · exact .inl (.inr ⟨h, hid⟩)
    · exact .inr (.inr ⟨h.symm, hid⟩)
  · exact .inl (.inl h)

lemma before_trans {a b c : ScoredCandidate Score ChunkId} (hab : Before score a b)
    (hbc : Before score b c) : Before score a c := by
  rcases hab with hab | ⟨hab, hids⟩
  · rcases hbc with hbc | ⟨hbc, -⟩
    · exact .inl (hbc.trans hab)
    · exact .inl (hbc ▸ hab)
  · rcases hbc with hbc | ⟨hbc, hids'⟩
    · exact .inl (hab ▸ hbc)
    · exact .inr ⟨hab.trans hbc, hids.trans hids'⟩

lemma before_antisymm {a b : ScoredCandidate Score ChunkId} (hab : Before score a b)
    (hba : Before score b a) : a.chunkId = b.chunkId := by
  rcases hab with hab | ⟨hab, hids⟩
  · rcases hba with hba | ⟨hba, -⟩
    · exact absurd hba hab.not_gt
    · exact absurd hba hab.ne
  · rcases hba with hba | ⟨-, hids'⟩
    · exact absurd hab hba.ne
    · exact le_antisymm hids hids'

lemma rankBy_sorted (score : ScoredCandidate Score ChunkId → Score)
    (candidates : List (ScoredCandidate Score ChunkId)) :
    (rankBy score candidates).Pairwise (Before score) := by
  have : Std.Total (Before score) := ⟨before_total⟩
  have : IsTrans _ (Before score) := ⟨fun _ _ _ => before_trans⟩
  exact List.pairwise_insertionSort (Before score) candidates

lemma rankBy_eq_of_perm (h : candidates.Perm candidates')
    (hids : (candidates.map (·.chunkId)).Nodup) :
    rankBy score candidates = rankBy score candidates' := by
  have hperm : (rankBy score candidates).Perm (rankBy score candidates') :=
    (rankBy_perm score candidates).trans (h.trans (rankBy_perm score candidates').symm)
  refine hperm.eq_of_pairwise (fun a b ha hb hab hba => ?_) (rankBy_sorted _ _)
    (rankBy_sorted _ _)
  have ha' := (rankBy_perm score candidates).mem_iff.mp ha
  have hb' := h.mem_iff.mpr ((rankBy_perm score candidates').mem_iff.mp hb)
  exact List.inj_on_of_nodup_map hids ha' hb' (before_antisymm hab hba)

omit [LinearOrder Score] in
lemma dedupeFrom_of_nodup {seen : List ChunkId} (hids : (candidates.map (·.chunkId)).Nodup)
    (hseen : ∀ candidate ∈ candidates, candidate.chunkId ∉ seen) :
    dedupeFrom seen candidates = candidates := by
  induction candidates generalizing seen with
  | nil => rfl
  | cons candidate candidates ih =>
    rw [List.map_cons, List.nodup_cons] at hids
    rw [List.forall_mem_cons] at hseen
    rw [dedupeFrom, if_neg hseen.1, ih hids.2]
    intro other hother
    rw [List.mem_cons, not_or]
    refine ⟨fun heq => hids.1 ?_, hseen.2 other hother⟩
    exact heq ▸ List.mem_map_of_mem hother

omit [LinearOrder Score] in
lemma dedupe_of_nodup (hids : (candidates.map (·.chunkId)).Nodup) :
    dedupeEvidenceCandidates candidates = candidates :=
  dedupeFrom_of_nodup hids fun _ _ => List.not_mem_nil

end

/-! ### What is kept -/

variable {candidate : ScoredCandidate Score ChunkId}

section

variable {service : EvidenceSearchService Score}
  {scored scored' : List (ScoredCandidate Score ChunkId)}

/-- The results of a search, when they are not cut into pages. -/
def ordered (service : EvidenceSearchService Score)
    (scored : List (ScoredCandidate Score ChunkId)) : List (ScoredCandidate Score ChunkId) :=
  dedupeEvidenceCandidates (relevance service scored).kept

lemma aboveFloor_sublist (numbers : Numbers Score) (policy : EvidenceRelevancePolicy Score)
    (scored : List (ScoredCandidate Score ChunkId)) :
    ∃ sorted, (aboveFloor numbers policy scored).Sublist sorted ∧ sorted.Perm (scored.filter
      fun candidate => candidate.rerankScore.any numbers.isFinite) :=
  ⟨_, List.filter_sublist, rankBy_perm _ _⟩

lemma kept_subperm (service : EvidenceSearchService Score)
    (scored : List (ScoredCandidate Score ChunkId)) :
    (relevance service scored).kept.Subperm scored := by
  unfold relevance pruneEvidenceCandidates
  cases hmode : service.retrievalConfig.relevance.mode with
  | disabled =>
    simp only [if_true]
    exact (rankBy_perm _ _).subperm
  | rerankFloorAndGap =>
    obtain ⟨sorted, hsub, hperm⟩ :=
      aboveFloor_sublist service.numbers service.retrievalConfig.relevance scored
    exact (((List.take_sublist _ _).trans hsub).subperm.trans hperm.subperm).trans
      List.filter_sublist.subperm

lemma kept_nodup (hids : (scored.map (·.chunkId)).Nodup) :
    ((relevance service scored).kept.map (·.chunkId)).Nodup := by
  obtain ⟨among, hperm, hsub⟩ := kept_subperm service scored
  exact (hperm.map _).nodup_iff.mp (hids.sublist (hsub.map _))

lemma ordered_eq_kept (hids : (scored.map (·.chunkId)).Nodup) :
    ordered service scored = (relevance service scored).kept :=
  dedupe_of_nodup (kept_nodup hids)

lemma ordered_eq_of_perm (h : scored.Perm scored') (hids : (scored.map (·.chunkId)).Nodup) :
    ordered service scored = ordered service scored' := by
  have hids' : (scored'.map (·.chunkId)).Nodup := (h.map _).nodup_iff.mp hids
  rw [ordered_eq_kept hids, ordered_eq_kept hids']
  unfold relevance pruneEvidenceCandidates
  cases hmode : service.retrievalConfig.relevance.mode with
  | disabled =>
    simp only [if_true]
    exact rankBy_eq_of_perm h hids
  | rerankFloorAndGap =>
    have habove : aboveFloor service.numbers service.retrievalConfig.relevance scored =
        aboveFloor service.numbers service.retrievalConfig.relevance scored' := by
      unfold aboveFloor
      rw [rankBy_eq_of_perm (h.filter _) (hids.sublist (List.filter_sublist.map _))]
    simp only [reduceCtorEq, if_false, habove]

/-- The candidates that pass the floor, when candidates are pruned. -/
def Passes (service : EvidenceSearchService Score) (score : Option Score) : Prop :=
  ∃ value, score = some value ∧ service.numbers.isFinite value = true ∧
    service.retrievalConfig.relevance.rerankMinScore ≤ value

lemma mem_aboveFloor :
    candidate ∈ aboveFloor service.numbers service.retrievalConfig.relevance scored ↔
      candidate ∈ scored ∧ Passes service candidate.rerankScore := by
  unfold aboveFloor Passes ScoredCandidate.score
  rw [List.mem_filter, (rankBy_perm _ _).mem_iff, List.mem_filter, and_assoc]
  refine and_congr_right fun _ => ?_
  cases candidate.rerankScore with
  | none => simp
  | some value => simp

lemma mem_ordered_disabled (hmode : service.retrievalConfig.relevance.mode = .disabled)
    (hids : (scored.map (·.chunkId)).Nodup) :
    candidate ∈ ordered service scored ↔ candidate ∈ scored := by
  rw [ordered_eq_kept hids]
  unfold relevance pruneEvidenceCandidates
  simp only [hmode, if_true]
  exact (rankBy_perm _ _).mem_iff

lemma passes_of_mem_ordered (hmode : service.retrievalConfig.relevance.mode = .rerankFloorAndGap)
    (hids : (scored.map (·.chunkId)).Nodup) (h : candidate ∈ ordered service scored) :
    candidate ∈ scored ∧ Passes service candidate.rerankScore := by
  rw [ordered_eq_kept hids] at h
  unfold relevance pruneEvidenceCandidates at h
  simp only [hmode, reduceCtorEq, if_false] at h
  exact mem_aboveFloor.mp (List.mem_of_mem_take h)

lemma keptCount_pos (numbers : Numbers Score) (policy : EvidenceRelevancePolicy Score)
    {scores : List Score} (h : scores ≠ []) : 0 < keptCount numbers policy scores := by
  have hlength : 0 < scores.length := List.length_pos_iff.mpr h
  unfold keptCount
  split
  · exact hlength
  · split
    · exact Nat.succ_pos _
    · exact hlength

lemma ordered_ne_nil (hmode : service.retrievalConfig.relevance.mode = .rerankFloorAndGap)
    (hids : (scored.map (·.chunkId)).Nodup) (hmem : candidate ∈ scored)
    (hpass : Passes service candidate.rerankScore) : ordered service scored ≠ [] := by
  have habove := List.ne_nil_of_mem (mem_aboveFloor.mpr ⟨hmem, hpass⟩)
  have hcount := keptCount_pos service.numbers service.retrievalConfig.relevance
    (fun hnil => habove (List.map_eq_nil_iff.mp hnil) :
      (aboveFloor service.numbers service.retrievalConfig.relevance scored).map
        (·.score service.retrievalConfig.relevance.rerankMinScore) ≠ [])
  rw [ordered_eq_kept hids]
  unfold relevance pruneEvidenceCandidates
  simp only [hmode, reduceCtorEq, if_false]
  rw [ne_eq, List.take_eq_nil_iff, not_or]
  exact ⟨hcount.ne', habove⟩

end

/-! ### The documents of a request -/

variable {texts' : List Units}

section

variable {query text : Units} {texts : List Units} {queryTokens selected documentTokens : ℕ}
  {document : RerankDocument} {documents : List RerankDocument}

/-- May a text stand in a request? -/
def isShort (text : Units) : Bool := estimateRerankTokens text ≤ RERANK_MAX_TOKENS_PER_INPUT

/-- The tokens of some texts, when the query is counted once for each. -/
def tokensOf (queryTokens : ℕ) (texts : List Units) : ℕ :=
  (texts.map fun text => estimateRerankTokens text + queryTokens).sum

lemma tokensOf_cons : tokensOf queryTokens (text :: texts) =
    estimateRerankTokens text + queryTokens + tokensOf queryTokens texts := by
  rw [tokensOf, List.map_cons, List.sum_cons, tokensOf]

lemma tokensOf_perm (h : texts.Perm texts') :
    tokensOf queryTokens texts = tokensOf queryTokens texts' := (h.map _).sum_nat

/-- The texts of the documents that may stand in a request. -/
def shortTexts (documents : List RerankDocument) : List Units :=
  (documents.map (·.text)).filter isShort

lemma selectDocuments_cons_long (h : isShort document.text = false) :
    selectDocuments queryTokens selected documentTokens (document :: documents) =
      selectDocuments queryTokens selected documentTokens documents := by
  have hlong : RERANK_MAX_TOKENS_PER_INPUT < estimateRerankTokens document.text := by
    simpa [isShort] using h
  rw [selectDocuments]
  simp only [if_pos hlong]

lemma selectDocuments_cons_short (h : isShort document.text = true) :
    selectDocuments queryTokens selected documentTokens (document :: documents) =
      if RERANK_REQUEST_TOKEN_BUDGET < documentTokens + estimateRerankTokens document.text +
          queryTokens * (selected + 1) then []
      else document :: selectDocuments queryTokens (selected + 1)
        (documentTokens + estimateRerankTokens document.text) documents := by
  have hshort : ¬ RERANK_MAX_TOKENS_PER_INPUT < estimateRerankTokens document.text := by
    simpa [isShort] using h
  rw [selectDocuments]
  simp only [if_neg hshort]

lemma shortTexts_cons_long (h : isShort document.text = false) :
    shortTexts (document :: documents) = shortTexts documents := by
  rw [shortTexts, List.map_cons, List.filter_cons_of_neg (by simp [h]), shortTexts]

lemma shortTexts_cons_short (h : isShort document.text = true) :
    shortTexts (document :: documents) = document.text :: shortTexts documents := by
  rw [shortTexts, List.map_cons, List.filter_cons_of_pos h, shortTexts]

lemma selectDocuments_all (h : documentTokens + queryTokens * selected +
      tokensOf queryTokens (shortTexts documents) ≤ RERANK_REQUEST_TOKEN_BUDGET) :
    selectDocuments queryTokens selected documentTokens documents =
      documents.filter fun document => isShort document.text := by
  induction documents generalizing selected documentTokens with
  | nil => rfl
  | cons document documents ih =>
    by_cases hshort : isShort document.text = true
    · rw [shortTexts_cons_short hshort, tokensOf_cons] at h
      rw [selectDocuments_cons_short hshort, List.filter_cons_of_pos (by simpa using hshort),
        Nat.mul_succ, if_neg (by omega), ih (by rw [Nat.mul_succ]; omega)]
    · rw [Bool.not_eq_true] at hshort
      rw [shortTexts_cons_long hshort] at h
      rw [selectDocuments_cons_long hshort, List.filter_cons_of_neg (by simp [hshort]), ih h]

lemma selectDocuments_last {last : RerankDocument} (hlast : isShort last.text = true)
    (h : RERANK_REQUEST_TOKEN_BUDGET < documentTokens + queryTokens * selected +
      tokensOf queryTokens (shortTexts (documents ++ [last]))) :
    selectDocuments queryTokens selected documentTokens (documents ++ [last]) =
      selectDocuments queryTokens selected documentTokens documents := by
  induction documents generalizing selected documentTokens with
  | nil =>
    rw [List.nil_append, shortTexts_cons_short hlast, tokensOf_cons] at h
    simp only [shortTexts, List.map_nil, List.filter_nil, tokensOf, List.sum_nil] at h
    rw [List.nil_append, selectDocuments_cons_short hlast, Nat.mul_succ, if_pos (by omega)]
    rfl
  | cons document documents ih =>
    rw [List.cons_append] at h ⊢
    by_cases hshort : isShort document.text = true
    · rw [shortTexts_cons_short hshort, tokensOf_cons] at h
      rw [selectDocuments_cons_short hshort, selectDocuments_cons_short hshort]
      split
      · rfl
      · rw [ih (by rw [Nat.mul_succ]; omega)]
    · rw [Bool.not_eq_true] at hshort
      rw [shortTexts_cons_long hshort] at h
      rw [selectDocuments_cons_long hshort, selectDocuments_cons_long hshort, ih h]

lemma selectDocuments_sublist : (selectDocuments queryTokens selected documentTokens
    documents).Sublist (documents.filter fun document => isShort document.text) := by
  induction documents generalizing selected documentTokens with
  | nil => exact List.Sublist.refl _
  | cons document documents ih =>
    by_cases hshort : isShort document.text = true
    · rw [selectDocuments_cons_short hshort, List.filter_cons_of_pos (by simpa using hshort)]
      split
      · exact List.nil_sublist _
      · exact ih.cons_cons _
    · rw [Bool.not_eq_true] at hshort
      rw [selectDocuments_cons_long hshort, List.filter_cons_of_neg (by simp [hshort])]
      exact ih

/-- The texts that are not blank, trimmed. -/
def trimmedTexts (texts : List Units) : List Units :=
  (texts.map EvidenceChunks.trim).filter fun text => 0 < text.length

lemma texts_rerankDocuments (texts : List Units) :
    (rerankDocuments texts).map (·.text) = trimmedTexts texts := by
  unfold rerankDocuments trimmedTexts
  have htexts : (texts.mapIdx fun index text =>
      (⟨index, EvidenceChunks.trim text⟩ : RerankDocument)).map (·.text) =
        texts.map EvidenceChunks.trim := by
    apply List.ext_getElem?
    intro i
    simp [List.getElem?_map, List.getElem?_mapIdx, Function.comp_def]
  rw [← htexts, List.filter_map]
  rfl

lemma mem_rerankDocuments : document ∈ rerankDocuments texts ↔
    ∃ text, texts[document.index]? = some text ∧ document.text = EvidenceChunks.trim text ∧
      EvidenceChunks.trim text ≠ [] := by
  unfold rerankDocuments
  rw [List.mem_filter, List.mem_mapIdx]
  constructor
  · rintro ⟨⟨i, hi, rfl⟩, hne⟩
    exact ⟨texts[i], List.getElem?_eq_getElem hi, rfl, by simpa [List.length_pos_iff] using hne⟩
  · rintro ⟨text, htext, heq, hne⟩
    obtain ⟨hi, rfl⟩ := List.getElem?_eq_some_iff.mp htext
    refine ⟨⟨document.index, hi, ?_⟩, by simpa [heq, List.length_pos_iff] using hne⟩
    rw [← heq]

/-- Have all texts that may be requested room in one request? -/
structure FitsRequest (query : Units) (texts : List Units) : Prop where
  count : (trimmedTexts texts).length ≤ RERANK_MAX_DOCUMENTS
  tokens : tokensOf (estimateRerankTokens query) ((trimmedTexts texts).filter isShort) ≤
    RERANK_REQUEST_TOKEN_BUDGET

/-- Is the text at an index among those of the request? -/
def isSent (query : Units) (texts : List Units) (index : ℕ) : Bool :=
  (limitRerankDocuments (rerankDocuments texts) query).any (·.index = index)

lemma isSent_of_long_query (h : isShort query = false) (index : ℕ) :
    isSent query texts index = false := by
  have hlong : RERANK_MAX_TOKENS_PER_INPUT < estimateRerankTokens query := by
    simpa [isShort] using h
  rw [isSent, limitRerankDocuments, if_pos hlong]
  rfl

/-- May a text be requested? -/
def isEligible (text : Units) : Bool :=
  0 < (EvidenceChunks.trim text).length && isShort (EvidenceChunks.trim text)

lemma limitRerankDocuments_short (h : isShort query = true) (documents : List RerankDocument) :
    limitRerankDocuments documents query = selectDocuments (estimateRerankTokens query) 0 0
      (documents.take RERANK_MAX_DOCUMENTS) := by
  have hshort : ¬ RERANK_MAX_TOKENS_PER_INPUT < estimateRerankTokens query := by
    simpa [isShort] using h
  rw [limitRerankDocuments, if_neg hshort]

lemma eligible_of_mem (h : document ∈ limitRerankDocuments (rerankDocuments texts) query) :
    ∃ text, texts[document.index]? = some text ∧ isEligible text = true ∧
      document.text = EvidenceChunks.trim text := by
  unfold limitRerankDocuments at h
  split at h
  · cases h
  obtain ⟨hmem, hshort⟩ := List.mem_filter.mp (selectDocuments_sublist.subset h)
  obtain ⟨text, htext, heq, hne⟩ := mem_rerankDocuments.mp (List.mem_of_mem_take hmem)
  refine ⟨text, htext, ?_, heq⟩
  rw [isEligible, ← heq, hshort, Bool.and_true, decide_eq_true_eq, heq]
  exact List.length_pos_iff.mpr hne

lemma isSent_of_fits (hquery : isShort query = true) (h : FitsRequest query texts) {index : ℕ}
    (htext : texts[index]? = some text) : isSent query texts index = isEligible text := by
  have hcount : (rerankDocuments texts).length ≤ RERANK_MAX_DOCUMENTS := by
    have := h.count
    rwa [← texts_rerankDocuments, List.length_map] at this
  have hall : limitRerankDocuments (rerankDocuments texts) query =
      (rerankDocuments texts).filter fun document => isShort document.text := by
    rw [limitRerankDocuments_short hquery, List.take_of_length_le hcount]
    refine selectDocuments_all ?_
    rw [shortTexts, texts_rerankDocuments, Nat.mul_zero, Nat.zero_add]
    exact h.tokens
  rw [Bool.eq_iff_iff, isSent, hall, List.any_eq_true]
  constructor
  · rintro ⟨document, hmem, hindex⟩
    obtain ⟨hmem, hshort⟩ := List.mem_filter.mp hmem
    obtain ⟨text', htext', heq, hne⟩ := mem_rerankDocuments.mp hmem
    rw [of_decide_eq_true hindex, htext, Option.some.injEq] at htext'
    subst htext'
    rw [isEligible, ← heq, hshort, Bool.and_true, decide_eq_true_eq, heq]
    exact List.length_pos_iff.mpr hne
  · intro heligible
    rw [isEligible, Bool.and_eq_true, decide_eq_true_eq] at heligible
    refine ⟨⟨index, EvidenceChunks.trim text⟩, List.mem_filter.mpr ⟨?_, heligible.2⟩, by simp⟩
    exact mem_rerankDocuments.mpr ⟨text, htext, rfl, List.length_pos_iff.mp heligible.1⟩

lemma isSent_first (hquery : isShort query = true) (h : isEligible text = true) :
    isSent query (text :: texts) 0 = true := by
  rw [isEligible, Bool.and_eq_true, decide_eq_true_eq] at h
  have hdocuments : ∃ rest, rerankDocuments (text :: texts) =
      ⟨0, EvidenceChunks.trim text⟩ :: rest := by
    unfold rerankDocuments
    rw [List.mapIdx_cons, List.filter_cons_of_pos (by simpa using h.1)]
    exact ⟨_, rfl⟩
  obtain ⟨rest, hrest⟩ := hdocuments
  have hroom : ¬ RERANK_REQUEST_TOKEN_BUDGET < 0 +
      estimateRerankTokens (EvidenceChunks.trim text) + estimateRerankTokens query * (0 + 1) := by
    have hquery' : estimateRerankTokens query ≤ RERANK_MAX_TOKENS_PER_INPUT :=
      of_decide_eq_true hquery
    have htext : estimateRerankTokens (EvidenceChunks.trim text) ≤ RERANK_MAX_TOKENS_PER_INPUT :=
      of_decide_eq_true h.2
    rw [RERANK_MAX_TOKENS_PER_INPUT] at hquery' htext
    rw [RERANK_REQUEST_TOKEN_BUDGET]
    omega
  rw [isSent, limitRerankDocuments_short hquery, hrest, RERANK_MAX_DOCUMENTS, List.take_succ_cons,
    selectDocuments_cons_short h.2, if_neg hroom]
  simp

lemma isSent_last (hquery : isShort query = true) (h : isEligible text = true)
    (hfits : ¬ FitsRequest query (texts ++ [text])) :
    isSent query (texts ++ [text]) texts.length = false := by
  rw [isEligible, Bool.and_eq_true, decide_eq_true_eq] at h
  have hdocuments : rerankDocuments (texts ++ [text]) =
      rerankDocuments texts ++ [⟨texts.length, EvidenceChunks.trim text⟩] := by
    unfold rerankDocuments
    rw [List.mapIdx_concat, List.filter_append, List.filter_cons_of_pos (by simpa using h.1),
      List.filter_nil]
  -- what is sent stands before the last text
  have hsent : ∀ document ∈ limitRerankDocuments (rerankDocuments (texts ++ [text])) query,
      document ∈ rerankDocuments texts := by
    rw [limitRerankDocuments_short hquery, hdocuments]
    by_cases hcount : RERANK_MAX_DOCUMENTS ≤ (rerankDocuments texts).length
    · rw [List.take_append_of_le_length hcount]
      intro document hmem
      exact List.mem_of_mem_take (List.mem_of_mem_filter (selectDocuments_sublist.subset hmem))
    · have htokens : RERANK_REQUEST_TOKEN_BUDGET < tokensOf (estimateRerankTokens query)
          ((trimmedTexts (texts ++ [text])).filter isShort) := by
        by_contra hle
        refine hfits ⟨?_, not_lt.mp hle⟩
        rw [← texts_rerankDocuments, List.length_map, hdocuments, List.length_append,
          List.length_singleton]
        omega
      rw [← texts_rerankDocuments, hdocuments, ← shortTexts] at htokens
      rw [List.take_of_length_le (by rw [List.length_append, List.length_singleton]; omega),
        selectDocuments_last h.2 (by rwa [Nat.mul_zero, Nat.zero_add])]
      intro document hmem
      exact List.mem_of_mem_filter (selectDocuments_sublist.subset hmem)
  rw [isSent, List.any_eq_false]
  intro document hmem
  obtain ⟨text', htext', -, -⟩ := mem_rerankDocuments.mp (hsent document hmem)
  have hlt := (List.getElem?_eq_some_iff.mp htext').1
  simp only [decide_eq_true_eq]
  omega

end

/-! ### Scores -/

section

omit [LinearOrder Score]

variable [Zero Score] {service : EvidenceSearchService Score} {query text : Units}
  {texts : List Units} {index : ℕ} {score : Score}
  {revalidated : List (RevalidatedEvidenceCandidate Score ChunkId)}

/-- The score of a text, by whether all texts are blank and whether it is sent to a service with
limits. -/
def scoreOf (service : EvidenceSearchService Score) (query : Units) (blank sent : Bool)
    (text : Units) : Option Score :=
  match service.retrievalConfig.rerank with
  | none => none
  | some .dashscope =>
    if blank then some 0
    else if sent then some (service.rerankModel.score query (EvidenceChunks.trim text))
    else none
  | some .fake | some .openaiCompatible => some (service.rerankModel.score query text)

/-- Are all texts blank? -/
def allBlank (texts : List Units) : Bool := (trimmedTexts texts).isEmpty

lemma isEmpty_rerankDocuments (texts : List Units) :
    (rerankDocuments texts).isEmpty = allBlank texts := by
  rw [allBlank, ← texts_rerankDocuments, List.isEmpty_map]

omit [Zero Score] in
lemma mem_mapIdx_score {f : Units → Score} (htext : texts[index]? = some text) :
    (index, score) ∈ (texts.mapIdx fun index text => (index, f text)) ↔ f text = score := by
  obtain ⟨hi, rfl⟩ := List.getElem?_eq_some_iff.mp htext
  rw [List.mem_mapIdx]
  constructor
  · rintro ⟨j, hj, heq⟩
    rw [Prod.mk.injEq] at heq
    obtain ⟨rfl, rfl⟩ := heq
    rfl
  · rintro rfl
    exact ⟨index, hi, rfl⟩

omit [Zero Score] in
lemma mem_requested {model : RerankModel Score} (hanswers : model.Answers)
    {requested : List RerankDocument} :
    (index, score) ∈ ((model.respond query (requested.map (·.text))).filterMap fun (i, score) =>
        requested[i]?.map fun document => (document.index, score)) ↔
      ∃ document ∈ requested, document.index = index ∧
        model.score query document.text = score := by
  rw [List.mem_filterMap]
  constructor
  · rintro ⟨⟨i, score'⟩, hmem, heq⟩
    obtain ⟨document, hdocument, heq⟩ := Option.map_eq_some_iff.mp heq
    rw [Prod.mk.injEq] at heq
    obtain ⟨rfl, rfl⟩ := heq
    have htext : (requested.map (·.text))[i]? = some document.text := by
      rw [List.getElem?_map, hdocument, Option.map_some]
    rw [(hanswers _ _).mem_iff, mem_mapIdx_score htext] at hmem
    exact ⟨document, List.mem_of_getElem? hdocument, rfl, hmem⟩
  · rintro ⟨document, hmem, rfl, rfl⟩
    obtain ⟨i, hdocument⟩ := List.mem_iff_getElem?.mp hmem
    have htext : (requested.map (·.text))[i]? = some document.text := by
      rw [List.getElem?_map, hdocument, Option.map_some]
    refine ⟨(i, model.score query document.text), ?_, ?_⟩
    · rw [(hanswers _ _).mem_iff, mem_mapIdx_score htext]
    · dsimp only
      rw [hdocument]
      rfl

lemma mem_scores (hanswers : service.rerankModel.Answers) (htext : texts[index]? = some text) :
    (index, score) ∈ (service.retrievalConfig.rerank.elim [] fun provider =>
        rerank provider service.rerankModel query texts) ↔
      scoreOf service query (allBlank texts) (isSent query texts index) text = some score := by
  unfold scoreOf
  cases service.retrievalConfig.rerank with
  | none => simp
  | some provider =>
    rw [Option.elim_some]
    cases provider with
    | fake => rw [rerank, mem_mapIdx_score htext, Option.some.injEq]
    | openaiCompatible =>
      rw [rerank, (hanswers _ _).mem_iff, mem_mapIdx_score htext, Option.some.injEq]
    | dashscope =>
      rw [rerank, isEmpty_rerankDocuments]
      by_cases hblank : allBlank texts = true
      · simp only [if_pos hblank]
        rw [mem_mapIdx_score (f := fun _ => 0) htext, Option.some.injEq]
      simp only [if_neg hblank]
      have hsent : (∃ document ∈ limitRerankDocuments (rerankDocuments texts) query,
          document.index = index ∧ service.rerankModel.score query document.text = score) ↔
          (if isSent query texts index = true then
            some (service.rerankModel.score query (EvidenceChunks.trim text)) else none) =
              some score := by
        rw [Option.ite_none_right_eq_some, Option.some.injEq, isSent, List.any_eq_true]
        constructor
        · rintro ⟨document, hmem, rfl, rfl⟩
          obtain ⟨text', htext', -, heq⟩ := eligible_of_mem hmem
          rw [htext, Option.some.injEq] at htext'
          rw [heq, htext']
          exact ⟨⟨document, hmem, by simp⟩, rfl⟩
        · rintro ⟨⟨document, hmem, hindex⟩, rfl⟩
          obtain ⟨text', htext', -, heq⟩ := eligible_of_mem hmem
          rw [of_decide_eq_true hindex, htext, Option.some.injEq] at htext'
          exact ⟨document, hmem, of_decide_eq_true hindex, by rw [heq, htext']⟩
      rw [← hsent, ← mem_requested hanswers]
      by_cases hempty : (limitRerankDocuments (rerankDocuments texts) query).isEmpty = true
      · rw [if_pos hempty, List.isEmpty_iff.mp hempty]
        refine iff_of_false List.not_mem_nil ?_
        rw [mem_requested hanswers]
        rintro ⟨document, hmem, -⟩
        exact List.not_mem_nil hmem
      · rw [if_neg hempty]

omit [Zero Score] in
lemma rerankScoreByChunkId_eq {scores : List (ℕ × Score)}
    {candidate : RevalidatedEvidenceCandidate Score ChunkId}
    (hids : (revalidated.map (·.chunkId)).Nodup) (hat : revalidated[index]? = some candidate)
    (hfun : ∀ score score', (index, score) ∈ scores → (index, score') ∈ scores → score = score') :
    rerankScoreByChunkId revalidated scores candidate.chunkId = some score ↔
      (index, score) ∈ scores := by
  -- an entry that is found stands at the index of the candidate
  have hfound : ∀ entry : ℕ × Score,
      (revalidated[entry.1]?.any (·.chunkId = candidate.chunkId)) = true ↔ entry.1 = index := by
    rintro ⟨j, score'⟩
    constructor
    · intro h
      obtain ⟨other, hother, hid⟩ := (Option.any_eq_true _ _).mp h
      have hlength : j < (revalidated.map (·.chunkId)).length := by
        rw [List.length_map]
        exact (List.getElem?_eq_some_iff.mp hother).1
      refine (List.getElem?_inj hlength hids).mp ?_
      rw [List.getElem?_map, List.getElem?_map, hother, hat, Option.map_some, Option.map_some,
        of_decide_eq_true hid]
    · rintro rfl
      rw [hat]
      simp
  unfold rerankScoreByChunkId
  rw [Option.map_eq_some_iff]
  constructor
  · rintro ⟨entry, hfind, rfl⟩
    have hindex := (hfound entry).mp (List.find?_some (p := fun entry : ℕ × Score =>
      revalidated[entry.1]?.any (·.chunkId = candidate.chunkId)) hfind)
    have hmem := List.mem_reverse.mp (List.mem_of_find?_eq_some hfind)
    rw [← hindex]
    exact hmem
  · intro hmem
    have hsome : (scores.reverse.find? fun entry =>
        revalidated[entry.1]?.any (·.chunkId = candidate.chunkId)).isSome = true :=
      List.find?_isSome.mpr ⟨(index, score), List.mem_reverse.mpr hmem, (hfound _).mpr rfl⟩
    obtain ⟨entry, hfind⟩ := Option.isSome_iff_exists.mp hsome
    refine ⟨entry, hfind, ?_⟩
    have hindex := (hfound entry).mp (List.find?_some (p := fun entry : ℕ × Score =>
      revalidated[entry.1]?.any (·.chunkId = candidate.chunkId)) hfind)
    have hentry := List.mem_reverse.mp (List.mem_of_find?_eq_some hfind)
    exact hfun entry.2 score (hindex ▸ hentry) hmem

/-- A candidate with a score. -/
def RevalidatedEvidenceCandidate.scored
    (candidate : RevalidatedEvidenceCandidate Score ChunkId) (rerankScore : Option Score) :
    ScoredCandidate Score ChunkId :=
  { toRevalidatedEvidenceCandidate := candidate, rerankScore }

lemma scoredCandidates_eq (hanswers : service.rerankModel.Answers)
    (hids : (revalidated.map (·.chunkId)).Nodup) :
    scoredCandidates service query revalidated = revalidated.mapIdx fun index candidate =>
      candidate.scored (scoreOf service query (allBlank (revalidated.map (·.text)))
        (isSent query (revalidated.map (·.text)) index) candidate.text) := by
  apply List.ext_getElem?
  intro i
  rw [scoredCandidates, List.getElem?_map, List.getElem?_mapIdx]
  cases hat : revalidated[i]? with
  | none => rfl
  | some candidate =>
    have htext : (revalidated.map (·.text))[i]? = some candidate.text := by
      rw [List.getElem?_map, hat, Option.map_some]
    simp only [Option.map_some, Option.some.injEq, RevalidatedEvidenceCandidate.scored]
    congr 1
    apply Option.ext
    intro score
    rw [rerankScoreByChunkId_eq hids hat, mem_scores hanswers htext]
    intro score score' h h'
    rw [mem_scores hanswers htext] at h h'
    exact Option.some.inj (h.symm.trans h')

lemma ids_scoredCandidates (service : EvidenceSearchService Score) (query : Units)
    (revalidated : List (RevalidatedEvidenceCandidate Score ChunkId)) :
    (scoredCandidates service query revalidated).map (·.chunkId) =
      revalidated.map (·.chunkId) := by
  rw [scoredCandidates, List.map_map]
  rfl

end

/-! ### The order of the database -/

section

variable [Zero Score] {service : EvidenceSearchService Score} {query : Units}
  {revalidated revalidated' : List (RevalidatedEvidenceCandidate Score ChunkId)}

/-- What a search over some candidates keeps, in its order. -/
def kept (service : EvidenceSearchService Score) (query : Units)
    (revalidated : List (RevalidatedEvidenceCandidate Score ChunkId)) :
    List (ScoredCandidate Score ChunkId) :=
  ordered service (scoredCandidates service query revalidated)

def textsOf (revalidated : List (RevalidatedEvidenceCandidate Score ChunkId)) : List Units :=
  revalidated.map (·.text)

/-- Does a text that may be requested have a say in what is kept? When candidates are pruned, only
with a score from the floor up. -/
def Counts (service : EvidenceSearchService Score) (query text : Units) : Prop :=
  service.retrievalConfig.relevance.mode = .disabled ∨
    Passes service (some (service.rerankModel.score query (EvidenceChunks.trim text)))

/-- A request to a service with limits is cut short nowhere, or only where it does not matter. -/
def Untrimmed (service : EvidenceSearchService Score) (query : Units) (texts : List Units) :
    Prop :=
  service.retrievalConfig.rerank = some .dashscope → isShort query = true →
    FitsRequest query texts ∨
      ∀ text ∈ texts, isEligible text = true → ¬ Counts service query text

omit [LinearOrder Score] [LinearOrder ChunkId] [Zero Score] in
lemma textsOf_perm (h : revalidated.Perm revalidated') :
    (textsOf revalidated).Perm (textsOf revalidated') := h.map _

variable {texts : List Units}

lemma trimmedTexts_perm (h : texts.Perm texts') :
    (trimmedTexts texts).Perm (trimmedTexts texts') := (h.map _).filter _

lemma FitsRequest.perm (h : FitsRequest query texts) (hperm : texts.Perm texts') :
    FitsRequest query texts' := by
  have htrimmed := trimmedTexts_perm hperm
  refine ⟨htrimmed.length_eq ▸ h.count, ?_⟩
  rw [← tokensOf_perm (htrimmed.filter _)]
  exact h.tokens

lemma allBlank_perm (h : texts.Perm texts') : allBlank texts = allBlank texts' := by
  rw [allBlank, allBlank, (trimmedTexts_perm h).isEmpty_eq]

omit [LinearOrder Score] in
lemma ids_scored (service : EvidenceSearchService Score) (query : Units)
    (hids : (revalidated.map (·.chunkId)).Nodup) :
    ((scoredCandidates service query revalidated).map (·.chunkId)).Nodup := by
  rwa [ids_scoredCandidates]

lemma kept_eq_of_fixed (hanswers : service.rerankModel.Answers)
    (hids : (revalidated.map (·.chunkId)).Nodup) (hperm : revalidated.Perm revalidated')
    (sent : Units → Bool)
    (hsent : ∀ order : List (RevalidatedEvidenceCandidate Score ChunkId),
      order.Perm revalidated → ∀ index text, (textsOf order)[index]? = some text →
        scoreOf service query (allBlank (textsOf order)) (isSent query (textsOf order) index) text =
          scoreOf service query (allBlank (textsOf order)) (sent text) text) :
    kept service query revalidated = kept service query revalidated' := by
  have hids' : (revalidated'.map (·.chunkId)).Nodup := (hperm.map _).nodup_iff.mp hids
  have hscored : ∀ order : List (RevalidatedEvidenceCandidate Score ChunkId),
      order.Perm revalidated → (order.map (·.chunkId)).Nodup →
        scoredCandidates service query order = order.map fun candidate =>
          candidate.scored (scoreOf service query (allBlank (textsOf order))
            (sent candidate.text) candidate.text) := by
    intro order horder hnodup
    rw [scoredCandidates_eq hanswers hnodup]
    apply List.ext_getElem?
    intro i
    rw [List.getElem?_mapIdx, List.getElem?_map]
    cases hat : order[i]? with
    | none => rfl
    | some candidate =>
      have htext : (textsOf order)[i]? = some candidate.text := by
        rw [textsOf, List.getElem?_map, hat, Option.map_some]
      rw [Option.map_some, Option.map_some, ← hsent order horder i _ htext, textsOf]
  refine ordered_eq_of_perm ?_ (ids_scored service query hids)
  rw [hscored _ (List.Perm.refl _) hids, hscored _ hperm.symm hids',
    allBlank_perm (textsOf_perm hperm)]
  exact hperm.map _

omit [LinearOrder Score] in
lemma sent_of_scored (hanswers : service.rerankModel.Answers)
    (hids : (revalidated.map (·.chunkId)).Nodup)
    (hprovider : service.retrievalConfig.rerank = some .dashscope)
    (hblank : allBlank (textsOf revalidated) = false)
    (h : candidate ∈ scoredCandidates service query revalidated) {score : Score}
    (hscore : candidate.rerankScore = some score) :
    ∃ found ∈ revalidated, candidate.chunkId = found.chunkId ∧ isEligible found.text = true ∧
      score = service.rerankModel.score query (EvidenceChunks.trim found.text) := by
  rw [scoredCandidates_eq hanswers hids, List.mem_mapIdx] at h
  obtain ⟨i, hi, rfl⟩ := h
  have htext : (textsOf revalidated)[i]? = some revalidated[i].text := by
    rw [textsOf, List.getElem?_map, List.getElem?_eq_getElem hi, Option.map_some]
  have hscore' : scoreOf service query false (isSent query (textsOf revalidated) i)
      revalidated[i].text = some score := by
    rw [← hblank]
    exact hscore
  simp only [scoreOf, hprovider, Bool.false_eq_true, if_false] at hscore'
  rw [Option.ite_none_right_eq_some, Option.some.injEq] at hscore'
  refine ⟨revalidated[i], List.getElem_mem hi, rfl, ?_, hscore'.2.symm⟩
  obtain ⟨document, hmem, hindex⟩ := List.any_eq_true.mp hscore'.1
  obtain ⟨text, hat, heligible, -⟩ := eligible_of_mem hmem
  rw [of_decide_eq_true hindex, htext, Option.some.injEq] at hat
  rwa [hat]

lemma kept_eq_of_untrimmed (hanswers : service.rerankModel.Answers)
    (hids : (revalidated.map (·.chunkId)).Nodup) (hperm : revalidated.Perm revalidated')
    (h : Untrimmed service query (textsOf revalidated)) :
    kept service query revalidated = kept service query revalidated' := by
  by_cases hprovider : service.retrievalConfig.rerank = some .dashscope
  swap
  · refine kept_eq_of_fixed hanswers hids hperm (fun _ => false) fun order _ index text _ => ?_
    unfold scoreOf
    split <;> first | rfl | exact absurd ‹_› hprovider
  by_cases hquery : isShort query = true
  swap
  · refine kept_eq_of_fixed hanswers hids hperm (fun _ => false) fun order _ index text _ => ?_
    rw [isSent_of_long_query (by simpa using hquery)]
  rcases h hprovider hquery with hfits | hnone
  · refine kept_eq_of_fixed hanswers hids hperm isEligible fun order horder index text htext => ?_
    rw [isSent_of_fits hquery (hfits.perm (textsOf_perm horder).symm) htext]
  -- no text that may be requested has a say
  by_cases hblank : allBlank (textsOf revalidated) = true
  · refine kept_eq_of_fixed hanswers hids hperm (fun _ => false)
      fun order horder index text _ => ?_
    have hsame : allBlank (textsOf order) = true := by
      rw [allBlank_perm (textsOf_perm horder), hblank]
    simp [scoreOf, hprovider, hsame]
  rw [Bool.not_eq_true] at hblank
  cases hmode : service.retrievalConfig.relevance.mode with
  | disabled =>
    refine kept_eq_of_fixed hanswers hids hperm (fun _ => false)
      fun order horder index text htext => ?_
    have hnot : isSent query (textsOf order) index = false := by
      rw [isSent, List.any_eq_false]
      intro document hmem hindex
      obtain ⟨text', hat, heligible, -⟩ := eligible_of_mem hmem
      have hin : text' ∈ textsOf revalidated :=
        (textsOf_perm horder).mem_iff.mp
          (List.mem_of_getElem? hat)
      exact hnone text' hin heligible (.inl hmode)
    rw [hnot]
  | rerankFloorAndGap =>
    have hempty : ∀ order : List (RevalidatedEvidenceCandidate Score ChunkId),
        order.Perm revalidated → kept service query order = [] := by
      intro order horder
      have hnodup : (order.map (·.chunkId)).Nodup := (horder.map _).nodup_iff.mpr hids
      refine List.eq_nil_iff_forall_not_mem.mpr fun candidate hcandidate => ?_
      obtain ⟨hmem, value, hvalue, hfinite, hfloor⟩ :=
        passes_of_mem_ordered hmode (ids_scored service query hnodup) hcandidate
      have hsame : allBlank (textsOf order) = false := by
        rw [allBlank_perm (textsOf_perm horder), hblank]
      obtain ⟨found, hfound, -, heligible, rfl⟩ :=
        sent_of_scored hanswers hnodup hprovider hsame hmem hvalue
      have hin : found.text ∈ textsOf revalidated :=
        List.mem_map_of_mem (horder.mem_iff.mp hfound)
      exact hnone found.text hin heligible (.inr ⟨_, rfl, hfinite, hfloor⟩)
    rw [hempty _ (List.Perm.refl _), hempty _ hperm.symm]

/-! ### Orders that differ -/

lemma not_allBlank {text : Units} (hmem : text ∈ texts) (h : isEligible text = true) :
    allBlank texts = false := by
  rw [isEligible, Bool.and_eq_true] at h
  rw [allBlank, List.isEmpty_eq_false_iff]
  exact List.ne_nil_of_mem (List.mem_filter.mpr ⟨List.mem_map_of_mem hmem, h.1⟩)

omit [LinearOrder Score] in
lemma scored_first {candidate : RevalidatedEvidenceCandidate Score ChunkId}
    {rest : List (RevalidatedEvidenceCandidate Score ChunkId)}
    (hanswers : service.rerankModel.Answers)
    (hids : ((candidate :: rest).map (·.chunkId)).Nodup)
    (hprovider : service.retrievalConfig.rerank = some .dashscope)
    (hquery : isShort query = true) (h : isEligible candidate.text = true) :
    candidate.scored (some (service.rerankModel.score query
      (EvidenceChunks.trim candidate.text))) ∈
        scoredCandidates service query (candidate :: rest) := by
  have hblank : allBlank (textsOf (candidate :: rest)) = false :=
    not_allBlank (List.mem_map_of_mem List.mem_cons_self) h
  have hsent : isSent query (textsOf (candidate :: rest)) 0 = true := isSent_first hquery h
  rw [scoredCandidates_eq hanswers hids, List.mapIdx_cons]
  have hscore : scoreOf service query (allBlank (textsOf (candidate :: rest)))
      (isSent query (textsOf (candidate :: rest)) 0) candidate.text =
        some (service.rerankModel.score query (EvidenceChunks.trim candidate.text)) := by
    rw [hblank, hsent]
    simp [scoreOf, hprovider]
  rw [← hscore]
  exact List.mem_cons_self

omit [LinearOrder Score] in
lemma unscored_last {candidate : RevalidatedEvidenceCandidate Score ChunkId}
    {rest : List (RevalidatedEvidenceCandidate Score ChunkId)}
    (hanswers : service.rerankModel.Answers)
    (hids : ((rest ++ [candidate]).map (·.chunkId)).Nodup)
    (hprovider : service.retrievalConfig.rerank = some .dashscope)
    (hquery : isShort query = true) (h : isEligible candidate.text = true)
    (hfits : ¬ FitsRequest query (textsOf (rest ++ [candidate])))
    {scored : ScoredCandidate Score ChunkId}
    (hscored : scored ∈ scoredCandidates service query (rest ++ [candidate]))
    (hid : scored.chunkId = candidate.chunkId) : scored.rerankScore = none := by
  have hblank : allBlank (textsOf (rest ++ [candidate])) = false :=
    not_allBlank (List.mem_map_of_mem List.mem_concat_self) h
  have htexts : textsOf (rest ++ [candidate]) = textsOf rest ++ [candidate.text] := List.map_append
  rw [scoredCandidates_eq hanswers hids, List.mem_mapIdx] at hscored
  obtain ⟨i, hi, rfl⟩ := hscored
  have hlast : i = rest.length := by
    have hlength : i < ((rest ++ [candidate]).map (·.chunkId)).length := by
      rwa [List.length_map]
    refine (List.getElem?_inj hlength hids).mp ?_
    rw [List.getElem?_map, List.getElem?_map, List.getElem?_eq_getElem hi,
      List.getElem?_concat_length, Option.map_some, Option.map_some]
    exact congrArg some hid
  have hsent : isSent query (textsOf (rest ++ [candidate])) i = false := by
    have hnot := isSent_last hquery h (htexts ▸ hfits)
    rwa [textsOf, List.length_map, ← hlast, ← textsOf, ← htexts] at hnot
  change scoreOf service query (allBlank (textsOf (rest ++ [candidate])))
    (isSent query (textsOf (rest ++ [candidate])) i) _ = none
  rw [hblank, hsent]
  simp [scoreOf, hprovider]

end

end EvidenceSearch
end SmeDataCenter
