import SmeDataCenter.CostCardCatalog

/-!
# What a published catalog holds

Every import and every archiving keeps ids and identities unique and the texts of all cards
within the bounds of the upload schema.
-/

namespace SmeDataCenter
namespace CostCardCatalog

open Import ScriptText EnterpriseNames Fallible

/-! ### Cards of a file -/

/-- The payload of a card holds the values of a row, and the card is of the enterprise. -/
def FromRow (enterpriseKey : String) (identity : CostCardIdentity) (card : Payload) : Prop :=
  (∃ row, costCardScopedValues row .card = .ok card) ∧ identity.enterpriseKey = enterpriseKey

variable {α : Type}

lemma mem_updateOrAppend {p : α → Bool} {update : α → α} {fresh b : α} {as : List α}
    (h : b ∈ updateOrAppend p update fresh as) : b ∈ as ∨ b = fresh ∨ ∃ a ∈ as, b = update a := by
  induction as with
  | nil => exact .inr (.inl (List.mem_singleton.mp h))
  | cons a as ih =>
    rw [updateOrAppend] at h
    split at h
    · rcases List.mem_cons.mp h with rfl | h
      · exact .inr (.inr ⟨a, List.mem_cons_self, rfl⟩)
      · exact .inl (List.mem_cons_of_mem a h)
    · rcases List.mem_cons.mp h with rfl | h
      · exact .inl List.mem_cons_self
      · rcases ih h with h | h | ⟨a', ha', h⟩
        · exact .inl (List.mem_cons_of_mem a h)
        · exact .inr (.inl h)
        · exact .inr (.inr ⟨a', List.mem_cons_of_mem a ha', h⟩)

variable {key : String}

lemma groupRow_fromRow {state state' : GroupState} {row : StructuredImportRow}
    {single : CanonicalCostCard} {candidate : CostCardRecipe}
    (hstate : ∀ c ∈ state.cards, FromRow key c.identity c.card)
    (hsingle : FromRow key single.identity single.card)
    (h : groupRow state row single candidate = .ok state') :
    ∀ c ∈ state'.cards, FromRow key c.identity c.card := by
  obtain ⟨cardIssues, -, h⟩ := bind_ok.mp h
  obtain ⟨recipeIssues, -, h⟩ := bind_ok.mp h
  cases h
  intro c hc
  rcases mem_updateOrAppend hc with hc | rfl | ⟨a, ha, rfl⟩
  · exact hstate c hc
  · exact hsingle
  · exact hstate a ha

lemma addCostCardRow_fromRow {state state' : GroupState} {row : StructuredImportRow}
    (hstate : ∀ c ∈ state.cards, FromRow key c.identity c.card)
    (h : addCostCardRow key state row = .ok state') :
    ∀ c ∈ state'.cards, FromRow key c.identity c.card := by
  unfold addCostCardRow at h
  split at h
  · obtain ⟨single, hsingle, h⟩ := bind_ok.mp h
    obtain ⟨candidate, -, h⟩ := bind_ok.mp h
    refine groupRow_fromRow hstate ?_ h
    obtain ⟨card, hcard, hsingle⟩ := bind_ok.mp hsingle
    obtain ⟨recipe, -, hsingle⟩ := bind_ok.mp hsingle
    cases hsingle
    exact ⟨⟨_, hcard⟩, rfl⟩
  · cases h
    exact hstate

variable {rows : List StructuredImportRow}

lemma groupCostCardRows_fromRow {parsed : CostCardParseResult}
    (h : groupCostCardRows rows key = .ok parsed) :
    ∀ card ∈ parsed.cards, FromRow key card.identity card.card := by
  unfold groupCostCardRows at h
  split at h
  · cases h
  · split at h
    · cases h
    · obtain ⟨state, hfold, h⟩ := bind_ok.mp h
      cases h
      have hstate : ∀ (rows : List StructuredImportRow) (s s' : GroupState),
          (∀ c ∈ s.cards, FromRow key c.identity c.card) →
            rows.foldlM (addCostCardRow key) s = .ok s' →
              ∀ c ∈ s'.cards, FromRow key c.identity c.card := by
        intro rows
        induction rows with
        | nil =>
          intro s s' hs hfold
          exact pure_ok.mp hfold ▸ hs
        | cons row rows ih =>
          intro s s' hs hfold
          rw [List.foldlM_cons] at hfold
          obtain ⟨s₁, hstep, hrest⟩ := bind_ok.mp hfold
          exact ih s₁ s' (addCostCardRow_fromRow hs hstep) hrest
      have hkept : ∀ {p : Prop} [Decidable p] {cards : List CanonicalCostCard}
          {card : CanonicalCostCard}, card ∈ (if p then [] else cards) → card ∈ cards := by
        intro p _ cards card hcard
        split at hcard
        · simp at hcard
        · exact hcard
      intro card hcard
      have hcard := hkept hcard
      rw [List.mem_insertionSort, List.mem_map] at hcard
      obtain ⟨grouped, hgrouped, rfl⟩ := hcard
      exact hstate rows {} state (by simp) hfold grouped hgrouped

lemma exists_of_mapM_some {β : Type} {f : α → Option β} {as : List α} {bs : List β}
    (h : as.mapM f = some bs) {b : β} (hb : b ∈ bs) : ∃ a ∈ as, f a = some b := by
  induction as generalizing bs with
  | nil =>
    cases h
    simp at hb
  | cons a as ih =>
    simp only [List.mapM_cons, Option.bind_eq_bind, Option.bind_eq_some_iff] at h
    obtain ⟨c, hc, cs, hcs, hpure⟩ := h
    cases hpure
    rcases List.mem_cons.mp hb with rfl | hb
    · exact ⟨a, List.mem_cons_self, hc⟩
    · obtain ⟨a', ha', hf⟩ := ih hcs hb
      exact ⟨a', List.mem_cons_of_mem a ha', hf⟩

lemma exportCostCardCsv_keyed {parsed : CostCardParseResult}
    {file : CanonicalCostCard → CostCardFile} {entries : List CostCardCsvExportEntry}
    (hgroup : groupCostCardRows rows key = .ok parsed)
    (h : exportCostCardCsv file parsed = some entries) :
    ∀ entry ∈ entries, entry.identity.enterpriseKey = key := by
  unfold exportCostCardCsv at h
  split at h
  · cases h
  · intro entry hentry
    obtain ⟨card, hcard, hexport⟩ := exists_of_mapM_some h hentry
    unfold exportEntry at hexport
    rw [Option.map_eq_some_iff] at hexport
    obtain ⟨fields, -, rfl⟩ := hexport
    exact (groupCostCardRows_fromRow hgroup card hcard).2

lemma prepareCostCardPublication_keyed {read : List CostCard} {orgId : String}
    {newId : ℕ → CostCardId} {newKey : ℕ → String} {entries : List CostCardCsvExportEntry}
    {candidates : List PreparedCostCardCandidate}
    (hentries : ∀ entry ∈ entries, entry.identity.enterpriseKey = key)
    (h : prepareCostCardPublication read orgId newId newKey entries = .ok candidates) :
    ∀ candidate ∈ candidates, candidate.identity.enterpriseKey = key := by
  intro candidate hcandidate
  obtain ⟨entry, hentry, hprepare⟩ := exists_of_mapM h hcandidate
  obtain ⟨operation, -, hprepare⟩ := bind_ok.mp hprepare
  rw [← pure_ok.mp hprepare]
  have hmem : entry.1 ∈ entries.insertionSort
      fun a b => stringLe a.identity.stringify b.identity.stringify :=
    List.fst_mem_of_mem_zipIdx hentry
  exact hentries entry.1 ((List.mem_insertionSort _).mp hmem)

/-! ### The catalog -/

/-- What a row holds that an import has published. -/
structure Valid (nfc : String → String) (card : CostCard) : Prop where
  keyed : enterpriseKeyOf nfc (ofString card.enterpriseName) = some (ofString card.enterpriseKey)
  named : card.enterpriseName ≠ ""
  sourced : card.sourceNamespace = "meituan"
  spu : ValidText 64 card.spuId
  sku : ValidText 64 card.skuId
  dish : ValidText 512 card.dishName
  specification : ∀ s, card.specificationName = some s → ValidText 255 s
  documented : card.sourceDocumentId ≠ ""
  batched : card.importBatchId ≠ ""
  revised : 1 ≤ card.revision

structure WellFormed (nfc : String → String) (catalog : List CostCard) : Prop where
  ids : (catalog.map (·.id)).Nodup
  identities : (catalog.map (·.uniqueKey)).Nodup
  valid : ∀ card ∈ catalog, Valid nfc card

section

variable {nfc : String → String} {catalog catalog' : List CostCard}

lemma insertCard_wellFormed {card : CostCard} (h : WellFormed nfc catalog)
    (hcard : Valid nfc card) (hinsert : insertCard catalog card = .ok catalog') :
    WellFormed nfc catalog' := by
  unfold insertCard at hinsert
  split at hinsert
  · cases hinsert
  · next hfree =>
    cases hinsert
    simp only [List.any_eq_true, Bool.or_eq_true, decide_eq_true_eq, not_exists, not_and,
      not_or] at hfree
    refine ⟨?_, ?_, ?_⟩
    · rw [List.map_append, List.map_singleton, List.nodup_append]
      refine ⟨h.ids, List.nodup_singleton _, ?_⟩
      rintro id hid other hother rfl
      obtain ⟨row, hrow, rfl⟩ := List.mem_map.mp hid
      exact (hfree row hrow).1.1 (List.mem_singleton.mp hother)
    · rw [List.map_append, List.map_singleton, List.nodup_append]
      refine ⟨h.identities, List.nodup_singleton _, ?_⟩
      rintro key hkey other hother rfl
      obtain ⟨row, hrow, rfl⟩ := List.mem_map.mp hkey
      exact (hfree row hrow).1.2 (List.mem_singleton.mp hother)
    · intro row hrow
      rcases List.mem_append.mp hrow with hrow | hrow
      · exact h.valid row hrow
      · exact List.mem_singleton.mp hrow ▸ hcard

lemma map_wellFormed {change : CostCard → CostCard} (h : WellFormed nfc catalog)
    (hid : ∀ row, (change row).id = row.id)
    (hkey : ∀ row, (change row).uniqueKey = row.uniqueKey)
    (hvalid : ∀ row ∈ catalog, Valid nfc (change row)) : WellFormed nfc (catalog.map change) := by
  refine ⟨?_, ?_, ?_⟩
  · rw [List.map_map]
    exact (List.map_congr_left fun row _ => hid row) ▸ h.ids
  · rw [List.map_map]
    exact (List.map_congr_left fun row _ => hkey row) ▸ h.identities
  · intro card hcard
    obtain ⟨row, hrow, rfl⟩ := List.mem_map.mp hcard
    exact hvalid row hrow

lemma assignColumns_valid {baseline card row : CostCard} (hrow : Valid nfc row)
    (hcard : Valid nfc card) (htarget : isTarget baseline card row = true) :
    Valid nfc (assignColumns row card) := by
  simp only [isTarget, Bool.and_eq_true, decide_eq_true_eq] at htarget
  have hkey : row.uniqueKey = card.uniqueKey := htarget.1.1.1.1.1.2
  simp only [CostCard.uniqueKey, Prod.mk.injEq] at hkey
  exact {
    keyed := by
      have hkeyed := hcard.keyed
      rw [← hkey.2.1] at hkeyed
      exact hkeyed
    named := hcard.named
    sourced := hrow.sourced
    spu := hrow.spu
    sku := hrow.sku
    dish := hcard.dish
    specification := hcard.specification
    documented := hcard.documented
    batched := hcard.batched
    revised := hcard.revised }

lemma updateCard_wellFormed {update : CostCard × CostCard} (h : WellFormed nfc catalog)
    (hcard : Valid nfc update.2) (hupdate : updateCard catalog update = .ok catalog') :
    WellFormed nfc catalog' := by
  unfold updateCard at hupdate
  split at hupdate
  · cases hupdate
    refine map_wellFormed h ?_ ?_ ?_
    · intro row
      split <;> rfl
    · intro row
      split <;> rfl
    · intro row hrow
      split
      · next htarget => exact assignColumns_valid (h.valid row hrow) hcard htarget
      · exact h.valid row hrow
  · cases hupdate

lemma foldlM_wellFormed {write : List CostCard → α → Except CostCardError (List CostCard)}
    {writes : List α}
    (hwrite : ∀ a ∈ writes, ∀ s s', WellFormed nfc s → write s a = .ok s' → WellFormed nfc s') :
    ∀ {catalog catalog' : List CostCard}, WellFormed nfc catalog →
      writes.foldlM write catalog = .ok catalog' → WellFormed nfc catalog' := by
  induction writes with
  | nil =>
    intro catalog catalog' h hfold
    exact pure_ok.mp hfold ▸ h
  | cons a writes ih =>
    intro catalog catalog' h hfold
    rw [List.foldlM_cons] at hfold
    obtain ⟨s, hstep, hrest⟩ := bind_ok.mp hfold
    exact ih (fun b hb => hwrite b (List.mem_cons_of_mem a hb))
      (hwrite a List.mem_cons_self catalog s h hstep) hrest

variable {job : CostCardJob nfc}

lemma publishedRow_valid {candidate : PreparedCostCardCandidate} {objectKey : String}
    (hkey : candidate.identity.enterpriseKey = job.enterpriseKey)
    (hspu : candidate.card.spu_id = candidate.identity.spuId)
    (hsku : candidate.card.sku_id = candidate.identity.skuId) :
    Valid nfc (publishedRow job candidate objectKey) where
  keyed := by
    have hkeyed := job.keyed
    rw [← hkey] at hkeyed
    exact hkeyed
  named := job.named
  sourced := rfl
  spu := by
    have := candidate.card.spu
    rwa [hspu] at this
  sku := by
    have := candidate.card.sku
    rwa [hsku] at this
  dish := candidate.card.dish
  specification := candidate.card.specification
  documented := job.documented
  batched := job.batched
  revised := Nat.le_add_left 1 _

lemma candidateWrite_card {candidate : PreparedCostCardCandidate} {write : CostCardWrite}
    (h : candidateWrite job candidate = .ok (some write)) :
    ∃ objectKey, write = .insert (publishedRow job candidate objectKey) ∨
      ∃ baseline, write = .update baseline (publishedRow job candidate objectKey) := by
  obtain ⟨operation, -, h⟩ := bind_ok.mp h
  split at h
  · cases h
  · split at h
    · cases h
    · next objectKey _ =>
      split at h
      · cases h
        exact ⟨objectKey, .inl rfl⟩
      · next baseline _ =>
        cases h
        exact ⟨objectKey, .inr ⟨baseline, rfl⟩⟩

lemma publishCostCards_wellFormed {applicable : Bool}
    {candidates : List PreparedCostCardCandidate} {inputItemRowCount : ℕ}
    (h : WellFormed nfc catalog)
    (hkeys : ∀ candidate ∈ candidates, candidate.identity.enterpriseKey = job.enterpriseKey)
    (hpublish : publishCostCards catalog job applicable candidates inputItemRowCount =
      .ok catalog') : WellFormed nfc catalog' := by
  unfold publishCostCards at hpublish
  split at hpublish
  · cases hpublish
  · split at hpublish
    · cases hpublish
    · next hvalid =>
      split at hpublish
      · cases hpublish
      · obtain ⟨writes, hwrites, hpublish⟩ := bind_ok.mp hpublish
        obtain ⟨inserted, hinserted, hupdated⟩ := bind_ok.mp hpublish
        have hrows : ∀ write ∈ writes.filterMap id,
            (∀ card, insertOf write = some card → Valid nfc card) ∧
              ∀ update, updateOf write = some update → Valid nfc update.2 := by
          intro write hwrite
          rw [List.mem_filterMap] at hwrite
          obtain ⟨written, hmem, rfl⟩ := hwrite
          obtain ⟨candidate, hcandidate, hwrite⟩ := exists_of_mapM hwrites hmem
          have hspu : candidate.card.spu_id = candidate.identity.spuId ∧
              candidate.card.sku_id = candidate.identity.skuId := by
            simp only [candidatesInvalid, Bool.or_eq_true, List.any_eq_true, decide_eq_true_eq,
              not_or, not_exists, not_and, not_not] at hvalid
            exact ⟨(hvalid.1.2 candidate hcandidate).1.2, (hvalid.1.2 candidate hcandidate).2⟩
          obtain ⟨objectKey, rfl | ⟨baseline, rfl⟩⟩ := candidateWrite_card hwrite
          · constructor
            · intro card hcard
              rw [insertOf, Option.some.injEq] at hcard
              exact hcard ▸ publishedRow_valid (hkeys candidate hcandidate) hspu.1 hspu.2
            · intro update hupdate
              simp [updateOf] at hupdate
          · constructor
            · intro card hcard
              simp [insertOf] at hcard
            · intro update hupdate
              rw [updateOf, Option.some.injEq] at hupdate
              exact hupdate ▸ publishedRow_valid (hkeys candidate hcandidate) hspu.1 hspu.2
        refine foldlM_wellFormed ?_ (foldlM_wellFormed ?_ h hinserted) hupdated
        · intro update hupdate s s' hs hstep
          obtain ⟨write, hwrite, hof⟩ := List.mem_filterMap.mp hupdate
          exact updateCard_wellFormed hs ((hrows write hwrite).2 update hof) hstep
        · intro card hcard s s' hs hstep
          obtain ⟨write, hwrite, hof⟩ := List.mem_filterMap.mp hcard
          exact insertCard_wellFormed hs ((hrows write hwrite).1 card hof) hstep

lemma importCostCards_wellFormed {read : List CostCard} {applicable : Bool}
    {file : CanonicalCostCard → CostCardFile} {newId : ℕ → CostCardId} {newKey : ℕ → String}
    (h : WellFormed nfc catalog)
    (himport : importCostCards read catalog job applicable rows file newId newKey = .ok catalog') :
    WellFormed nfc catalog' := by
  unfold importCostCards at himport
  split at himport
  · cases himport
  · next parsed hgroup =>
    split at himport
    · cases himport
    · next entries hexport =>
      obtain ⟨candidates, hprepare, hpublish⟩ := bind_ok.mp himport
      have hkeys := prepareCostCardPublication_keyed (exportCostCardCsv_keyed hgroup hexport)
        hprepare
      exact publishCostCards_wellFormed h hkeys hpublish

lemma archiveCostCard_wellFormed {orgId : String} {costCardId : CostCardId} {now : ℕ}
    (h : WellFormed nfc catalog)
    (harchive : archiveCostCard catalog orgId costCardId now = .ok catalog') :
    WellFormed nfc catalog' := by
  unfold archiveCostCard at harchive
  split at harchive
  · cases harchive
    refine map_wellFormed h ?_ ?_ ?_
    · intro row
      split <;> rfl
    · intro row
      split <;> rfl
    · intro row hrow
      have hvalid := h.valid row hrow
      split
      · exact { hvalid with revised := Nat.le_add_left 1 _ }
      · exact hvalid
  · cases harchive

/-- What imports and archivings lead to is well-formed. -/
theorem Published.wellFormed (h : Published nfc catalog) : WellFormed nfc catalog := by
  induction h with
  | empty => exact ⟨List.nodup_nil, List.nodup_nil, nofun⟩
  | step h hstep ih =>
    cases hstep with
    | imported read job applicable rows file newId newKey himport =>
      exact importCostCards_wellFormed ih himport
    | archived orgId costCardId now harchive => exact archiveCostCard_wellFormed ih harchive

end

end CostCardCatalog
end SmeDataCenter
