import SmeDataCenter.EvidenceCursors

/-!
# Pruned evidence

A cut is made only between neighbours whose scores differ, so candidates with one score are kept or
dropped together, and the candidates that are kept are those whose scores are high enough.
-/

namespace SmeDataCenter
namespace EvidenceSearch

variable {Score ChunkId : Type} [LinearOrder Score] [LinearOrder ChunkId]
  {numbers : Numbers Score} {policy : EvidenceRelevancePolicy Score}
  {candidates : List (ScoredCandidate Score ChunkId)} {candidate : ScoredCandidate Score ChunkId}

lemma largestGap_between {index place : ℕ} {found : Option (Score × ℕ)} {scores : List Score}
    {gap : Score} (h : largestGap numbers index found scores = some (gap, place)) :
    found = some (gap, place) ∨ ∃ before current next after,
      scores = before ++ current :: next :: after ∧ place = index + before.length ∧
        gap = numbers.sub current next := by
  induction scores generalizing index found with
  | nil => exact .inl h
  | cons current scores ih =>
    cases scores with
    | nil => exact .inl h
    | cons next scores =>
      rw [largestGap] at h
      rcases ih h with hfound | ⟨before, a, b, after, hscores, hplace, hgap⟩
      · dsimp only at hfound
        split_ifs at hfound
        · cases hfound
          exact .inr ⟨[], current, next, scores, rfl, rfl, rfl⟩
        · exact .inl hfound
      · refine .inr ⟨current :: before, a, b, after, by rw [hscores, List.cons_append], ?_, hgap⟩
        rw [hplace, List.length_cons]
        omega

variable (numbers policy) in
lemma keptCount_separates {scores : List Score} (hsorted : scores.Pairwise (· ≥ ·))
    (hself : ∀ score ∈ scores, numbers.sub score score < policy.rerankMinGap) :
    ∀ a ∈ scores.take (keptCount numbers policy scores),
      ∀ b ∈ scores.drop (keptCount numbers policy scores), b < a := by
  have hall : ∀ a ∈ scores.take scores.length, ∀ b ∈ scores.drop scores.length, b < a := by
    intro a _ b hb
    rw [List.drop_length] at hb
    cases hb
  unfold keptCount
  split
  · exact hall
  · next gap place hlargest =>
    split
    · next hcut =>
      rcases largestGap_between hlargest with
        ⟨⟨⟩⟩ | ⟨before, current, next, after, hscores, hplace, hgap⟩
      obtain rfl : place = before.length := by omega
      have hsplit : scores = (before ++ [current]) ++ next :: after := by simp [hscores]
      have hlength : before.length + 1 = (before ++ [current]).length := by simp
      rw [hsplit, List.pairwise_append] at hsorted
      obtain ⟨hbefore, hafter, hacross⟩ := hsorted
      rw [hsplit, hlength, List.take_left, List.drop_left]
      intro a ha b hb
      by_contra hle
      have hcurrent : current ≤ a := by
        rcases List.mem_append.mp ha with ha | ha
        · exact (List.pairwise_append.mp hbefore).2.2 a ha current (List.mem_singleton_self _)
        · exact (List.mem_singleton.mp ha).ge
      have hnext : b ≤ next := by
        rcases List.mem_cons.mp hb with rfl | hb
        · exact le_rfl
        · exact (List.pairwise_cons.mp hafter).1 b hb
      have hneighbours : next ≤ current :=
        hacross current (by simp) next List.mem_cons_self
      -- scores on both sides of the cut that do not fall make it a cut between equal scores
      have hequal : next = current :=
        le_antisymm hneighbours (hcurrent.trans ((not_lt.mp hle).trans hnext))
      have hmem : current ∈ scores := by simp [hscores]
      rw [hequal] at hgap
      exact absurd (hself current hmem) (not_lt.mpr (hgap ▸ hcut.1))
    · exact hall

/-- The candidate has a score, which is at or above the floor. -/
def Reaches (numbers : Numbers Score) (policy : EvidenceRelevancePolicy Score)
    (candidate : ScoredCandidate Score ChunkId) : Prop :=
  ∃ score, candidate.rerankScore = some score ∧ numbers.isFinite score = true ∧
    policy.rerankMinScore ≤ score

lemma mem_aboveFloor_iff : candidate ∈ aboveFloor numbers policy candidates ↔
    candidate ∈ candidates ∧ Reaches numbers policy candidate := by
  unfold aboveFloor Reaches ScoredCandidate.score
  rw [List.mem_filter, (rankBy_perm _ _).mem_iff, List.mem_filter, and_assoc]
  refine and_congr_right fun _ => ?_
  cases candidate.rerankScore <;> simp

variable (numbers policy candidates) in
lemma aboveFloor_sorted : ((aboveFloor numbers policy candidates).map
    (·.score policy.rerankMinScore)).Pairwise (· ≥ ·) := by
  rw [List.pairwise_map]
  refine ((rankBy_sorted _ _).sublist List.filter_sublist).imp fun hbefore => ?_
  rcases hbefore with h | ⟨h, -⟩
  · exact h.le
  · exact h.ge

/-- What pruning says of the candidates that it keeps. -/
structure PrunesSoundly (numbers : Numbers Score) (policy : EvidenceRelevancePolicy Score)
    (candidates : List (ScoredCandidate Score ChunkId)) : Prop where
  any_order : ∀ candidates', candidates'.Perm candidates → ∀ candidate,
    candidate ∈ (pruneEvidenceCandidates numbers policy candidates').kept ↔
      candidate ∈ (pruneEvidenceCandidates numbers policy candidates).kept
  reaches : ∀ candidate ∈ (pruneEvidenceCandidates numbers policy candidates).kept,
    candidate ∈ candidates ∧ Reaches numbers policy candidate
  upward : ∀ candidate ∈ (pruneEvidenceCandidates numbers policy candidates).kept,
    ∀ other ∈ candidates, ∀ score higher, candidate.rerankScore = some score →
      other.rerankScore = some higher → numbers.isFinite higher = true → score ≤ higher →
        other ∈ (pruneEvidenceCandidates numbers policy candidates).kept
  empty : (pruneEvidenceCandidates numbers policy candidates).kept = [] →
    ∀ candidate ∈ candidates, ¬ Reaches numbers policy candidate
  counted : (pruneEvidenceCandidates numbers policy candidates).kept.length +
    (pruneEvidenceCandidates numbers policy candidates).droppedCount = candidates.length

/-- **Pruning is sound and does not depend on the order of the candidates**, if no score differs
from itself by the gap that is asked for. -/
theorem prunes_soundly (numbers : Numbers Score) (policy : EvidenceRelevancePolicy Score)
    (candidates : List (ScoredCandidate Score ChunkId)) [Zero Score]
    (hself : ∀ score, numbers.isFinite score = true → numbers.sub score score = 0)
    (hmode : policy.mode ≠ .disabled) (hgap : 0 < policy.rerankMinGap)
    (hids : (candidates.map (·.chunkId)).Nodup) : PrunesSoundly numbers policy candidates := by
  have henabled : policy.mode = .rerankFloorAndGap := by
    cases hm : policy.mode with
    | disabled => exact absurd hm hmode
    | rerankFloorAndGap => rfl
  have hkept : ∀ l : List (ScoredCandidate Score ChunkId),
      (pruneEvidenceCandidates numbers policy l).kept = (aboveFloor numbers policy l).take
        (keptCount numbers policy ((aboveFloor numbers policy l).map
          (·.score policy.rerankMinScore))) := by
    intro l
    simp only [pruneEvidenceCandidates, henabled]
  have hlength : (pruneEvidenceCandidates numbers policy candidates).kept.length ≤
      candidates.length := by
    obtain ⟨sorted, hsub, hperm⟩ := aboveFloor_sublist numbers policy candidates
    rw [hkept]
    exact ((List.take_sublist _ _).trans hsub).length_le.trans
      (hperm.length_eq.le.trans (List.length_filter_le _ _))
  refine ⟨?_, ?_, ?_, ?_, ?_⟩
  · intro candidates' hperm candidate
    have habove : aboveFloor numbers policy candidates' = aboveFloor numbers policy candidates := by
      unfold aboveFloor
      rw [rankBy_eq_of_perm (hperm.symm.filter _) (hids.sublist (List.filter_sublist.map _))]
    rw [hkept, hkept, habove]
  · intro candidate hmem
    rw [hkept] at hmem
    exact mem_aboveFloor_iff.mp (List.mem_of_mem_take hmem)
  · intro candidate hmem other hother score higher hscore hhigher hfinite hle
    rw [hkept] at hmem ⊢
    obtain ⟨-, floor, hfloor, -, hreaches⟩ := mem_aboveFloor_iff.mp (List.mem_of_mem_take hmem)
    obtain rfl : floor = score := Option.some.inj (hfloor.symm.trans hscore)
    have habove : other ∈ aboveFloor numbers policy candidates :=
      mem_aboveFloor_iff.mpr ⟨hother, higher, hhigher, hfinite, hreaches.trans hle⟩
    rw [← List.take_append_drop (keptCount numbers policy ((aboveFloor numbers policy candidates).map
      (·.score policy.rerankMinScore))) (aboveFloor numbers policy candidates)] at habove
    rcases List.mem_append.mp habove with hkept' | hdropped
    · exact hkept'
    · -- what is dropped scores lower than what is kept
      refine absurd hle (not_le.mpr (keptCount_separates numbers policy
        (aboveFloor_sorted numbers policy candidates) (fun value hvalue => ?_) floor ?_ higher ?_))
      · obtain ⟨some, hsome, rfl⟩ := List.mem_map.mp hvalue
        obtain ⟨-, value, hvalue, hfinite, -⟩ := mem_aboveFloor_iff.mp hsome
        rw [ScoredCandidate.score, hvalue, Option.getD_some, hself value hfinite]
        exact hgap
      · rw [← List.map_take]
        exact List.mem_map.mpr ⟨candidate, hmem, by simp [ScoredCandidate.score, hscore]⟩
      · rw [← List.map_drop]
        exact List.mem_map.mpr ⟨other, hdropped, by simp [ScoredCandidate.score, hhigher]⟩
  · intro hnil candidate hcandidate hreaches
    have hmem := mem_aboveFloor_iff.mpr ⟨hcandidate, hreaches⟩
    rw [hkept, List.take_eq_nil_iff] at hnil
    rcases hnil with hzero | hnil
    · refine absurd hzero (keptCount_pos numbers policy fun hempty => ?_).ne'
      exact List.ne_nil_of_mem hmem (List.map_eq_nil_iff.mp hempty)
    · exact List.ne_nil_of_mem hmem hnil
  · simp only [pruneEvidenceCandidates, henabled] at hlength ⊢
    omega

/-- Three candidates, of which the last one is far below the others. -/
theorem three_pruned_soundly :
    PrunesSoundly (⟨(· - ·), fun _ => true⟩ : Numbers ℤ) ⟨.rerankFloorAndGap, 1, 3, 5⟩
      ([(0, 9), (1, 8), (2, 2)].map fun (id, score) =>
        { shortCandidate id with
          text := [97], documentTitle := "title", fileType := none
          sourceLocation := ⟨[], none, none⟩, rerankScore := some score }) :=
  prunes_soundly _ _ _ (fun _ _ => sub_self _) (by decide) (by decide) (by decide)

end EvidenceSearch
end SmeDataCenter
