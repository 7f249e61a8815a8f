import Mathlib.Algebra.BigOperators.Group.List.Basic
import Mathlib.Algebra.Order.BigOperators.Group.List
import Mathlib.Algebra.Order.Ring.Int
import SmeDataCenter.CostCardTransfer

/-!
# What the launcher accepts

A manifest is accepted exactly when its entries have the form of the schema, are distinct and
match the selection, and its totals are those of its entries and within the limits.
-/

namespace SmeDataCenter
namespace CostCardCatalog

open ScriptText EnterpriseNames

variable {nfc : String → String} {parseUrl : String → Option (List (String × String))}
  {selection : CostCardSelection} {limits : TransferLimits}

/-! ### One entry -/

/-- An entry meets the filters of the selection. -/
structure MatchesSelection (nfc : String → String) (entry : RemoteEntry)
    (selection : CostCardSelection) : Prop where
  enterprise : ∀ name, selection.enterpriseName = some name → ∃ key,
    enterpriseKeyOf nfc name = some key ∧ enterpriseKeyOf nfc entry.enterpriseName = some key
  ids : ∀ values, selection.costCardIds = some values → entry.costCardId ∈ values
  spus : ∀ values, selection.spuIds = some values → entry.spuId ∈ values
  skus : ∀ values, selection.skuIds = some values → entry.skuId ∈ values
  dish : ∀ value, selection.dishName = some value → entry.dishName = value
  part : ∀ value, selection.dishNameContains = some value → value <:+: entry.dishName
  specification : ∀ value, selection.specificationName = some value →
    entry.specificationName = some value

lemma sameEnterprise_iff {a b : ScriptText} :
    (sameEnterprise nfc a b).getD false = true ↔
      ∃ key, enterpriseKeyOf nfc a = some key ∧ enterpriseKeyOf nfc b = some key := by
  unfold sameEnterprise
  cases ha : enterpriseKeyOf nfc a with
  | none => simp
  | some left =>
    cases hb : enterpriseKeyOf nfc b with
    | none => simp
    | some right => simp [eq_comm]

variable {entry : RemoteEntry}

lemma matchesFilters_iff :
    matchesFilters entry selection = true ↔
      (∀ values, selection.costCardIds = some values → entry.costCardId ∈ values) ∧
      (∀ values, selection.spuIds = some values → entry.spuId ∈ values) ∧
      (∀ values, selection.skuIds = some values → entry.skuId ∈ values) ∧
      (∀ value, selection.dishName = some value → entry.dishName = value) ∧
      (∀ value, selection.dishNameContains = some value → value <:+: entry.dishName) ∧
      ∀ value, selection.specificationName = some value →
        entry.specificationName = some value := by
  simp only [matchesFilters, Bool.and_eq_true, Option.all_eq_true, List.contains_eq_mem,
    decide_eq_true_eq, includes, and_assoc, eq_comm (b := entry.dishName),
    eq_comm (b := entry.specificationName)]

lemma matchesSelection_iff :
    matchesSelection nfc entry selection = true ↔ MatchesSelection nfc entry selection := by
  simp only [matchesSelection, Bool.and_eq_true, Option.all_eq_true, sameEnterprise_iff,
    matchesFilters_iff]
  constructor
  · rintro ⟨h1, h2, h3, h4, h5, h6, h7⟩
    exact ⟨h1, h2, h3, h4, h5, h6, h7⟩
  · rintro ⟨h1, h2, h3, h4, h5, h6, h7⟩
    exact ⟨h1, h2, h3, h4, h5, h6, h7⟩

/-! ### All entries -/

/-- What an entry is told apart by. -/
structure Distinct (nfc : String → String) (cards : List RemoteEntry) : Prop where
  ids : (cards.map (·.costCardId)).Nodup
  fileIds : (cards.map fun entry => lowerId entry.costCardId).Nodup
  identities : (cards.map (entryIdentity nfc)).Nodup
  keyed : ∀ entry ∈ cards, (entryIdentity nfc entry).isSome = true

/-- The totals are as large as the launcher can take. -/
structure WithinTotals (limits : TransferLimits) (rows bytes : ℤ) : Prop where
  rows : rows ≤ maxSafeInteger
  bytes : bytes ≤ limits.partitionDownloadMaxBytes

lemma validateEntry_some {state state' : ValidationState} :
    validateEntry nfc selection limits state entry = some state' ↔
      ∃ identity, entryIdentity nfc entry = some identity ∧
        (entry.costCardId ∉ state.ids ∧ lowerId entry.costCardId ∉ state.fileIds ∧
          identity ∉ state.identities ∧ MatchesSelection nfc entry selection) ∧
        WithinTotals limits (state.rows + entry.itemRowCount) (state.bytes + entry.byteSize) ∧
        state' = {
          ids := entry.costCardId :: state.ids
          fileIds := lowerId entry.costCardId :: state.fileIds
          identities := identity :: state.identities
          rows := state.rows + entry.itemRowCount, bytes := state.bytes + entry.byteSize } := by
  have hsafe : (limits.partitionDownloadMaxBytes : ℤ) ≤ maxSafeInteger := by
    exact_mod_cast limits.safeBytes
  unfold validateEntry
  simp only [Option.bind_eq_bind, Option.bind_eq_some_iff]
  refine exists_congr fun identity => and_congr_right fun _ => ?_
  by_cases hseen : (state.ids.contains entry.costCardId ||
      state.fileIds.contains (lowerId entry.costCardId) || state.identities.contains identity ||
      !matchesSelection nfc entry selection) = true
  · rw [if_pos hseen]
    refine ⟨nofun, ?_⟩
    rintro ⟨⟨h1, h2, h3, h4⟩, -, -⟩
    simp [h1, h2, h3, matchesSelection_iff.mpr h4] at hseen
  · rw [if_neg hseen]
    simp only [Bool.or_eq_true, List.contains_eq_mem, decide_eq_true_eq, Bool.not_eq_true',
      not_or, Bool.not_eq_false, matchesSelection_iff] at hseen
    by_cases htotals : WithinTotals limits (state.rows + entry.itemRowCount)
        (state.bytes + entry.byteSize)
    · have hrows := htotals.rows
      have hbytes := htotals.bytes
      have hwithin : ¬ ((decide ((maxSafeInteger : ℤ) < state.rows + entry.itemRowCount) ||
          decide ((maxSafeInteger : ℤ) < state.bytes + entry.byteSize) ||
          decide ((limits.partitionDownloadMaxBytes : ℤ) < state.bytes + entry.byteSize)) =
            true) := by
        simp only [Bool.or_eq_true, decide_eq_true_eq]
        omega
      rw [if_neg hwithin, Option.some.injEq]
      constructor
      · rintro rfl
        exact ⟨⟨hseen.1.1.1, hseen.1.1.2, hseen.1.2, hseen.2⟩, htotals, rfl⟩
      · rintro ⟨-, -, rfl⟩
        rfl
    · constructor
      · intro h
        split at h
        · cases h
        · next hwithin =>
          simp only [Bool.or_eq_true, decide_eq_true_eq, not_or, not_lt] at hwithin
          exact absurd ⟨hwithin.1.1, hwithin.2⟩ htotals
      · rintro ⟨-, h, -⟩
        exact absurd h htotals

/-- The state after some entries. -/
structure Processed (nfc : String → String) (state : ValidationState) (cards : List RemoteEntry) :
    Prop where
  ids : state.ids = (cards.map (·.costCardId)).reverse
  fileIds : state.fileIds = (cards.map fun entry => lowerId entry.costCardId).reverse
  identities : state.identities.map some = (cards.map (entryIdentity nfc)).reverse
  rows : state.rows = (cards.map (·.itemRowCount)).sum
  bytes : state.bytes = (cards.map (·.byteSize)).sum

lemma processed_nil : Processed nfc {} [] := ⟨rfl, rfl, rfl, rfl, rfl⟩

lemma nodup_append_singleton {α : Type} {as : List α} {a : α} :
    (as ++ [a]).Nodup ↔ as.Nodup ∧ a ∉ as := by
  rw [List.nodup_append]
  constructor
  · rintro ⟨h, -, hdisjoint⟩
    exact ⟨h, fun ha => hdisjoint a ha a (List.mem_singleton_self a) rfl⟩
  · rintro ⟨h, ha⟩
    refine ⟨h, List.nodup_singleton a, ?_⟩
    rintro b hb c hc rfl
    exact ha (List.mem_singleton.mp hc ▸ hb)

variable {cards : List RemoteEntry}

lemma distinct_append_singleton :
    Distinct nfc (cards ++ [entry]) ↔ Distinct nfc cards ∧
      (entry.costCardId ∉ cards.map (·.costCardId) ∧
        lowerId entry.costCardId ∉ cards.map (fun e => lowerId e.costCardId) ∧
        entryIdentity nfc entry ∉ cards.map (entryIdentity nfc)) ∧
      (entryIdentity nfc entry).isSome = true := by
  constructor
  · rintro ⟨h1, h2, h3, h4⟩
    rw [List.map_append, List.map_singleton, nodup_append_singleton] at h1 h2 h3
    exact ⟨⟨h1.1, h2.1, h3.1, fun e he => h4 e (List.mem_append_left _ he)⟩,
      ⟨h1.2, h2.2, h3.2⟩, h4 entry (by simp)⟩
  · rintro ⟨⟨h1, h2, h3, h4⟩, ⟨h5, h6, h7⟩, h8⟩
    refine ⟨?_, ?_, ?_, ?_⟩
    · rw [List.map_append, List.map_singleton, nodup_append_singleton]
      exact ⟨h1, h5⟩
    · rw [List.map_append, List.map_singleton, nodup_append_singleton]
      exact ⟨h2, h6⟩
    · rw [List.map_append, List.map_singleton, nodup_append_singleton]
      exact ⟨h3, h7⟩
    · intro e he
      rcases List.mem_append.mp he with he | he
      · exact h4 e he
      · exact List.mem_singleton.mp he ▸ h8

lemma validateEntry_isSome {state : ValidationState} {done : List RemoteEntry}
    (hdone : Processed nfc state done) (hdistinct : Distinct nfc done) :
    (∃ state', validateEntry nfc selection limits state entry = some state') ↔
      Distinct nfc (done ++ [entry]) ∧ MatchesSelection nfc entry selection ∧
        WithinTotals limits ((done ++ [entry]).map (·.itemRowCount)).sum
          ((done ++ [entry]).map (·.byteSize)).sum := by
  have hsums : ((done ++ [entry]).map (·.itemRowCount)).sum = state.rows + entry.itemRowCount ∧
      ((done ++ [entry]).map (·.byteSize)).sum = state.bytes + entry.byteSize := by
    simp [hdone.rows, hdone.bytes]
  have hseen : ∀ identity, identity ∈ state.identities ↔
      some identity ∈ done.map (entryIdentity nfc) := by
    intro identity
    have hreverse : some identity ∈ (done.map (entryIdentity nfc)).reverse ↔
        some identity ∈ done.map (entryIdentity nfc) := List.mem_reverse
    rw [← hreverse, ← hdone.identities]
    simp
  rw [distinct_append_singleton, hsums.1, hsums.2]
  simp only [validateEntry_some, hdone.ids, hdone.fileIds, List.mem_reverse]
  constructor
  · rintro ⟨state', identity, hidentity, ⟨h1, h2, h3, h4⟩, htotals, -⟩
    refine ⟨⟨hdistinct, ⟨h1, h2, ?_⟩, by simp [hidentity]⟩, h4, htotals⟩
    rw [hidentity]
    exact fun h => h3 ((hseen identity).mpr h)
  · rintro ⟨⟨-, ⟨h1, h2, h3⟩, h4⟩, h5, htotals⟩
    obtain ⟨identity, hidentity⟩ := Option.isSome_iff_exists.mp h4
    rw [hidentity] at h3
    exact ⟨_, identity, hidentity, ⟨h1, h2, fun h => h3 ((hseen identity).mp h), h5⟩, htotals, rfl⟩

lemma validateEntry_processed {state state' : ValidationState} {done : List RemoteEntry}
    (hdone : Processed nfc state done)
    (h : validateEntry nfc selection limits state entry = some state') :
    Processed nfc state' (done ++ [entry]) := by
  obtain ⟨identity, hidentity, -, -, rfl⟩ := validateEntry_some.mp h
  refine ⟨?_, ?_, ?_, ?_, ?_⟩
  · simp [hdone.ids]
  · simp [hdone.fileIds]
  · simp [hdone.identities, hidentity]
  · simp [hdone.rows]
  · simp [hdone.bytes]

/-- The entries of a walk so far: distinct, matching, and within the totals. -/
structure Taken (nfc : String → String) (selection : CostCardSelection) (limits : TransferLimits)
    (cards : List RemoteEntry) : Prop where
  distinct : Distinct nfc cards
  matching : ∀ entry ∈ cards, MatchesSelection nfc entry selection
  totals : WithinTotals limits (cards.map (·.itemRowCount)).sum (cards.map (·.byteSize)).sum

lemma taken_nil : Taken nfc selection limits [] :=
  ⟨⟨List.nodup_nil, List.nodup_nil, List.nodup_nil, nofun⟩, nofun,
    ⟨by simp, by simp⟩⟩

lemma foldlM_validateEntry :
    ∀ {state state' : ValidationState} {done : List RemoteEntry}, Processed nfc state done →
      Taken nfc selection limits done →
      cards.foldlM (validateEntry nfc selection limits) state = some state' →
      Processed nfc state' (done ++ cards) ∧ Taken nfc selection limits (done ++ cards) := by
  induction cards with
  | nil =>
    intro state state' done hdone htaken h
    cases h
    rw [List.append_nil]
    exact ⟨hdone, htaken⟩
  | cons entry cards ih =>
    intro state state' done hdone htaken h
    rw [List.foldlM_cons, Option.bind_eq_bind, Option.bind_eq_some_iff] at h
    obtain ⟨s, hstep, hrest⟩ := h
    obtain ⟨hd, hm, htotals⟩ := (validateEntry_isSome hdone htaken.distinct).mp ⟨s, hstep⟩
    have hall : ∀ e ∈ done ++ [entry], MatchesSelection nfc e selection := by
      intro e he
      rcases List.mem_append.mp he with he | he
      · exact htaken.matching e he
      · exact List.mem_singleton.mp he ▸ hm
    have hrun := ih (validateEntry_processed hdone hstep) ⟨hd, hall, htotals⟩ hrest
    rwa [List.append_assoc] at hrun

lemma Distinct.of_append {rest : List RemoteEntry} (h : Distinct nfc (cards ++ rest)) :
    Distinct nfc cards := by
  obtain ⟨h1, h2, h3, h4⟩ := h
  rw [List.map_append] at h1 h2 h3
  exact ⟨(List.nodup_append.mp h1).1, (List.nodup_append.mp h2).1, (List.nodup_append.mp h3).1,
    fun entry he => h4 entry (List.mem_append_left rest he)⟩

lemma sum_append_le {α : Type} (f : α → ℤ) (as : List α) {bs : List α}
    (h : ∀ b ∈ bs, 0 ≤ f b) : (as.map f).sum ≤ ((as ++ bs).map f).sum := by
  have hrest : 0 ≤ (bs.map f).sum := List.sum_nonneg (by simpa using h)
  rw [List.map_append, List.sum_append]
  omega

lemma exists_foldlM_validateEntry :
    ∀ {state : ValidationState} {done : List RemoteEntry}, Processed nfc state done →
      Distinct nfc (done ++ cards) → (∀ entry ∈ cards, MatchesSelection nfc entry selection) →
      (∀ entry ∈ cards, 0 ≤ entry.itemRowCount ∧ 0 ≤ entry.byteSize) →
      WithinTotals limits ((done ++ cards).map (·.itemRowCount)).sum
        ((done ++ cards).map (·.byteSize)).sum →
      ∃ state', cards.foldlM (validateEntry nfc selection limits) state = some state' := by
  induction cards with
  | nil => exact fun _ _ _ _ _ => ⟨_, rfl⟩
  | cons entry cards ih =>
    intro state done hdone hdistinct hmatches hcounts htotals
    have hsplit : done ++ entry :: cards = (done ++ [entry]) ++ cards := by simp
    rw [hsplit] at hdistinct htotals
    have hrows := sum_append_le (·.itemRowCount) (done ++ [entry])
      fun e he => (hcounts e (List.mem_cons_of_mem entry he)).1
    have hbytes := sum_append_le (·.byteSize) (done ++ [entry])
      fun e he => (hcounts e (List.mem_cons_of_mem entry he)).2
    have hone : WithinTotals limits ((done ++ [entry]).map (·.itemRowCount)).sum
        ((done ++ [entry]).map (·.byteSize)).sum :=
      ⟨hrows.trans htotals.rows, hbytes.trans htotals.bytes⟩
    obtain ⟨s, hstep⟩ := (validateEntry_isSome hdone hdistinct.of_append.of_append).mpr
      ⟨hdistinct.of_append, hmatches entry List.mem_cons_self, hone⟩
    obtain ⟨state', hrest⟩ := ih (validateEntry_processed hdone hstep) hdistinct
      (fun e he => hmatches e (List.mem_cons_of_mem entry he))
      (fun e he => hcounts e (List.mem_cons_of_mem entry he)) htotals
    refine ⟨state', ?_⟩
    rw [List.foldlM_cons, hstep]
    exact hrest

/-! ### The manifest -/

/-- What the launcher wants of a manifest. -/
structure Acceptable (parseUrl : String → Option (List (String × String))) (nfc : String → String)
    (now : ℤ) (value : RemoteManifest) (selection : CostCardSelection) (limits : TransferLimits) :
    Prop where
  schema : manifestSchema parseUrl value = true
  count : value.cardCount = value.cards.length
  cards : value.cardCount ≤ limits.partitionImportMaxPartitions
  unexpired : now < value.expiresAt
  distinct : Distinct nfc value.cards
  matching : ∀ entry ∈ value.cards, MatchesSelection nfc entry selection
  bytes : (value.cards.map (·.byteSize)).sum ≤ limits.partitionDownloadMaxBytes
  rows : value.totalItemRowCount = (value.cards.map (·.itemRowCount)).sum
  requested : ∀ values, selection.costCardIds = some values → ∀ id ∈ values,
    id ∈ value.cards.map (·.costCardId)

lemma schema_counts {value : RemoteManifest} (h : manifestSchema parseUrl value = true) :
    value.totalItemRowCount ≤ maxSafeInteger ∧
      ∀ entry ∈ value.cards, 0 ≤ entry.itemRowCount ∧ 0 ≤ entry.byteSize := by
  simp only [manifestSchema, Bool.and_eq_true, List.all_eq_true, isSafeCount,
    decide_eq_true_eq] at h
  refine ⟨h.1.2.2, fun entry hentry => ?_⟩
  have hschema := h.2 entry hentry
  simp only [entrySchema, Bool.and_eq_true, isSafeCount, decide_eq_true_eq] at hschema
  exact ⟨hschema.1.1.1.1.1.2.1, hschema.1.1.1.1.2.1⟩

lemma requested_iff {ids : List ScriptText} :
    ((selection.costCardIds.getD []).any fun id => !ids.contains id) = true ↔
      ¬ ∀ values, selection.costCardIds = some values → ∀ id ∈ values, id ∈ ids := by
  cases selection.costCardIds with
  | none => simp
  | some values => simp

/-- The launcher accepts exactly the manifests that have all of this. -/
theorem validateManifest_iff {now : ℤ} {value : RemoteManifest} :
    validateManifest parseUrl nfc now value selection limits = some value ↔
      Acceptable parseUrl nfc now value selection limits := by
  unfold validateManifest
  by_cases hschema : manifestSchema parseUrl value = true
  · by_cases hhead : value.cardCount = value.cards.length ∧
        value.cardCount ≤ limits.partitionImportMaxPartitions ∧ now < value.expiresAt
    · have hcond : ¬ (decide (value.cardCount ≠ value.cards.length) ||
          decide ((limits.partitionImportMaxPartitions : ℤ) < value.cardCount) ||
          decide (value.expiresAt ≤ now)) = true := by
        simp only [Bool.or_eq_true, decide_eq_true_eq]
        omega
      rw [if_neg (by simp [hschema]), if_neg hcond]
      simp only [Option.bind_eq_bind, Option.bind_eq_some_iff]
      constructor
      · rintro ⟨state, hfold, hlast⟩
        obtain ⟨hdone, htaken⟩ := foldlM_validateEntry processed_nil taken_nil hfold
        rw [List.nil_append] at hdone htaken
        split at hlast
        · cases hlast
        · next hok =>
          simp only [Bool.or_eq_true, decide_eq_true_eq, not_or, not_not, requested_iff] at hok
          exact {
            schema := hschema, count := hhead.1, cards := hhead.2.1, unexpired := hhead.2.2
            distinct := htaken.distinct, matching := htaken.matching
            bytes := htaken.totals.bytes
            rows := hok.1 ▸ hdone.rows
            requested := by simpa [hdone.ids] using hok.2 }
      · intro h
        have hcounts := schema_counts hschema
        have htotals : WithinTotals limits (value.cards.map (·.itemRowCount)).sum
            (value.cards.map (·.byteSize)).sum := ⟨h.rows ▸ hcounts.1, h.bytes⟩
        obtain ⟨state, hfold⟩ := exists_foldlM_validateEntry processed_nil h.distinct h.matching
          hcounts.2 htotals
        obtain ⟨hdone, -⟩ := foldlM_validateEntry processed_nil taken_nil hfold
        rw [List.nil_append] at hdone
        refine ⟨state, hfold, if_neg ?_⟩
        simp only [Bool.or_eq_true, decide_eq_true_eq, not_or, not_not, requested_iff]
        exact ⟨hdone.rows.trans h.rows.symm, by simpa [hdone.ids] using h.requested⟩
    · have hcond : (decide (value.cardCount ≠ value.cards.length) ||
          decide ((limits.partitionImportMaxPartitions : ℤ) < value.cardCount) ||
          decide (value.expiresAt ≤ now)) = true := by
        simp only [Bool.or_eq_true, decide_eq_true_eq]
        omega
      rw [if_neg (by simp [hschema]), if_pos hcond]
      refine ⟨nofun, fun h => absurd ⟨h.count, h.cards, h.unexpired⟩ hhead⟩
  · rw [if_pos (by simpa using hschema)]
    exact ⟨nofun, fun h => absurd h.schema hschema⟩

lemma validateManifest_eq {now : ℤ} {value accepted : RemoteManifest}
    (h : validateManifest parseUrl nfc now value selection limits = some accepted) :
    accepted = value := by
  unfold validateManifest at h
  split at h
  · cases h
  · split at h
    · cases h
    · simp only [Option.bind_eq_bind, Option.bind_eq_some_iff] at h
      obtain ⟨state, -, h⟩ := h
      split at h
      · cases h
      · exact (Option.some.inj h).symm

end CostCardCatalog
end SmeDataCenter
