import SmeDataCenter.CostCardGroups

/-!
# Canonical cost cards

The canonical texts of the cards of a file do not depend on the order of its rows, and two cards
have one canonical text exactly if they say the same.
-/

namespace SmeDataCenter
namespace Import

open Fallible Grouping

/-! ### The text of a card -/

lemma recipeValues_plain {recipe : CostCardRecipe} {values : RecipeValues}
    (h : recipeValues recipe = .ok values) : values.Plain := by
  obtain ⟨fields, hfields, h⟩ := bind_ok.mp h
  obtain ⟨items, hitems, h⟩ := bind_ok.mp h
  cases h
  constructor
  · exact fun entry hentry =>
      costCardScopedValues_plain hfields entry (List.mem_of_mem_filter hentry)
  · intro item hitem
    obtain ⟨source, -, hsource⟩ := exists_of_mapM hitems hitem
    exact costCardScopedValues_plain hsource

variable {card : CanonicalCostCard}

lemma cardValues_plain {values : CardValues} (h : cardValues card = .ok values) : values.Plain := by
  obtain ⟨recipes, hrecipes, h⟩ := bind_ok.mp h
  obtain ⟨fields, hfields, h⟩ := bind_ok.mp h
  cases h
  constructor
  · exact costCardScopedValues_plain hfields
  · intro recipe hrecipe
    obtain ⟨source, -, hsource⟩ := exists_of_mapM hrecipes hrecipe
    exact recipeValues_plain hsource

lemma canonicalizeCostCard_ok {text : String} :
    canonicalizeCostCard card = .ok text ↔
      ∃ values, cardValues card = .ok values ∧ values.text = text := by
  rw [canonicalizeCostCard_eq]
  cases cardValues card <;> simp [Except.map]

/-- Two cards have one canonical text exactly if they say the same. -/
theorem canonicalizeCostCard_eq_iff {x y : CanonicalCostCard} {s t : String}
    (hx : canonicalizeCostCard x = .ok s) (hy : canonicalizeCostCard y = .ok t) :
    s = t ↔ cardContent x = cardContent y := by
  obtain ⟨xs, hxs, rfl⟩ := canonicalizeCostCard_ok.mp hx
  obtain ⟨ys, hys, rfl⟩ := canonicalizeCostCard_ok.mp hy
  rw [card_text_iff (cardValues_plain hxs) (cardValues_plain hys), cardContent_eq, cardContent_eq,
    hxs, hys]
  simp [Except.map]

lemma canonicalizeCostCard_eq_iff_of_normal {x y : CanonicalCostCard} {s t : String}
    (hx : IsNormalCard x) (hy : IsNormalCard y) (hs : canonicalizeCostCard x = .ok s)
    (ht : canonicalizeCostCard y = .ok t) :
    s = t ↔ x.identity = y.identity ∧ x.card = y.card ∧
      (x.recipes.map CostCardRecipe.content : Multiset RecipeContent) =
        y.recipes.map CostCardRecipe.content := by
  rw [canonicalizeCostCard_eq_iff hs ht, cardContent_of_normal hx, cardContent_of_normal hy,
    Except.ok.injEq, CardContent.mk.injEq]

lemma canonicalizeCostCard_of_normal (h : IsNormalCard card) :
    ∃ text, canonicalizeCostCard card = .ok text := by
  have hcontent := cardContent_of_normal h
  rw [cardContent_eq] at hcontent
  cases hvalues : cardValues card with
  | error message =>
    rw [hvalues] at hcontent
    cases hcontent
  | ok values => exact ⟨values.text, canonicalizeCostCard_ok.mpr ⟨values, hvalues, rfl⟩⟩

/-! ### The cards of a file -/

/-- Rows that are grouped without a report. -/
structure IsGroupable (enterpriseKey : String) (rows : List StructuredImportRow) : Prop where
  key : ¬ (enterpriseKey = "" || 191 < unitLength enterpriseKey) = true
  limit : ¬ inputRowLimit < rows.length
  nonempty : rows ≠ []
  compatible : Compatible enterpriseKey rows

section

variable {enterpriseKey : String} {rows rows' : List StructuredImportRow}

lemma IsGroupable.perm (h : IsGroupable enterpriseKey rows) (hperm : rows.Perm rows') :
    IsGroupable enterpriseKey rows' where
  key := h.key
  limit := by
    rw [← hperm.length_eq]
    exact h.limit
  nonempty hnil := h.nonempty (List.perm_nil.mp (hnil ▸ hperm))
  compatible := h.compatible.perm hperm

lemma groupable_of_grouped {result : CostCardParseResult}
    (h : groupCostCardRows rows enterpriseKey = .ok result)
    (hcount : result.validationErrorCount = 0) : IsGroupable enterpriseKey rows := by
  unfold groupCostCardRows at h
  split_ifs at h with hkey hlimit hnil
  · obtain ⟨state, -, h⟩ := bind_ok.mp h
    cases h
    rw [IssueList.count_add] at hcount
    cases hcount
  · obtain ⟨state, hstate, h⟩ := bind_ok.mp h
    cases h
    exact ⟨hkey, hlimit, hnil, (run_iff enterpriseKey rows).1 state hstate hcount⟩

lemma grouped_of_groupable (h : IsGroupable enterpriseKey rows) :
    ∃ result, groupCostCardRows rows enterpriseKey = .ok result ∧
      result.validationErrorCount = 0 ∧
      result.cards.Perm ((groupedCards enterpriseKey rows).map GroupedCard.toCard) := by
  obtain ⟨state, hstate, hcount, hcards⟩ := (run_iff enterpriseKey rows).2 h.compatible
  unfold groupCostCardRows
  rw [if_neg h.key, if_neg h.limit, hstate]
  refine ⟨_, rfl, ?_, ?_⟩
  · rw [if_neg h.nonempty]
    exact hcount
  · rw [if_neg h.nonempty, if_neg (by rw [hcount]; exact not_not.mpr rfl), hcards]
    exact List.perm_insertionSort _ _

lemma grouped_normal (h : IsGroupable enterpriseKey rows)
    (hcard : card ∈ (groupedCards enterpriseKey rows).map GroupedCard.toCard) :
    IsNormalCard card := by
  obtain ⟨group, hgroup, rfl⟩ := List.mem_map.mp hcard
  exact groupedCard_normal h.compatible
    (accumulate_of_mem (cardStep_keeps enterpriseKey) hgroup)

lemma grouped_texts_perm (h : IsGroupable enterpriseKey rows) (hperm : rows.Perm rows') :
    (((groupedCards enterpriseKey rows).map GroupedCard.toCard).map canonicalizeCostCard).Perm
      (((groupedCards enterpriseKey rows').map GroupedCard.toCard).map canonicalizeCostCard) := by
  refine perm_map_of (f := cardContent) (fun card hcard card' hcard' hcontent => ?_) ?_
  · obtain ⟨text, htext⟩ := canonicalizeCostCard_of_normal (grouped_normal h hcard)
    obtain ⟨text', htext'⟩ := canonicalizeCostCard_of_normal (grouped_normal (h.perm hperm) hcard')
    rw [htext, htext', (canonicalizeCostCard_eq_iff htext htext').mpr hcontent]
  · rw [List.map_map, List.map_map]
    exact groupedCards_perm h.compatible hperm

end

/-- Rows of which nothing is reported give the same canonical cards in every order, and the
canonical text of a card is a complete invariant: two cards have one text exactly if they have one identity,
the same values, and the same recipes with the same stores and items, as often. -/
theorem costCards_canonical :
    (∀ (rows rows' : List StructuredImportRow) (enterpriseKey : String)
      (result : CostCardParseResult),
      rows.Perm rows' → groupCostCardRows rows enterpriseKey = .ok result →
        result.validationErrorCount = 0 →
        ∃ result', groupCostCardRows rows' enterpriseKey = .ok result' ∧
          result'.validationErrorCount = 0 ∧
          (result.cards.map canonicalizeCostCard).Perm
            (result'.cards.map canonicalizeCostCard) ∧
          ∀ card ∈ result.cards, IsNormalCard card ∧
            ∃ text, canonicalizeCostCard card = .ok text) ∧
    (∀ (x y : CanonicalCostCard) (s t : String), canonicalizeCostCard x = .ok s →
      canonicalizeCostCard y = .ok t →
      (s = t ↔ cardContent x = cardContent y) ∧
      (IsNormalCard x → IsNormalCard y →
        (s = t ↔ x.identity = y.identity ∧ x.card = y.card ∧
          (x.recipes.map CostCardRecipe.content : Multiset RecipeContent) =
            y.recipes.map CostCardRecipe.content))) := by
  constructor
  · intro rows rows' enterpriseKey result hperm hresult hcount
    have hgroupable := groupable_of_grouped hresult hcount
    obtain ⟨_, hsame, -, hcards⟩ := grouped_of_groupable hgroupable
    obtain rfl := Except.ok.inj (hresult.symm.trans hsame)
    obtain ⟨result', hresult', hcount', hcards'⟩ := grouped_of_groupable (hgroupable.perm hperm)
    refine ⟨result', hresult', hcount', ?_, fun card hcard => ?_⟩
    · exact (hcards.map _).trans ((grouped_texts_perm hgroupable hperm).trans (hcards'.map _).symm)
    · have hnormal := grouped_normal hgroupable (hcards.mem_iff.mp hcard)
      exact ⟨hnormal, canonicalizeCostCard_of_normal hnormal⟩
  · exact fun x y s t hs ht => ⟨canonicalizeCostCard_eq_iff hs ht, fun hx hy =>
      canonicalizeCostCard_eq_iff_of_normal hx hy hs ht⟩

/-- A row of one dish, with an item. -/
def itemRow (rowNumber : ℕ) (stores item : String) : StructuredImportRow :=
  ⟨0, "Sheet1", rowNumber,
    [("spu_id", .text "1"), ("sku_id", .text "1"), ("dish_name", .text "Noodles"),
     ("has_cost_card", .text "是"), ("source_dish_deleted", .text "否"),
     ("recipe_type", .text "例外配方"), ("recipe_name", .text "Noodles"),
     ("source_stores_text", .text stores), ("item_code", .text item), ("item_name", .text item),
     ("cost_unit", .text "kg")]⟩

def emptyCard (skuId : String) : CanonicalCostCard :=
  ⟨⟨"e", "1", skuId⟩, rowValues (itemRow 2 "a" "flour") .card, []⟩

lemma ok_of_isOk {ε α : Type} {x : Except ε α} (h : x.isOk = true) : ∃ a, x = .ok a := by
  cases x with
  | error e => cases h
  | ok a => exact ⟨a, rfl⟩

/-- Two rows that list the stores of one recipe in two orders. -/
theorem two_item_rows_canonical :
    (∃ result result' : CostCardParseResult, result.cards.length = 1 ∧
      groupCostCardRows [itemRow 2 "a,b" "flour", itemRow 3 "b,a" "water"] "e" = .ok result ∧
      groupCostCardRows [itemRow 3 "b,a" "water", itemRow 2 "a,b" "flour"] "e" = .ok result' ∧
      (result.cards.map canonicalizeCostCard).Perm (result'.cards.map canonicalizeCostCard)) ∧
    ∃ s t : String, canonicalizeCostCard (emptyCard "1") = .ok s ∧
      canonicalizeCostCard (emptyCard "2") = .ok t ∧
      (s = t ↔ cardContent (emptyCard "1") = cardContent (emptyCard "2")) := by
  have hgroup : ((groupCostCardRows [itemRow 2 "a,b" "flour", itemRow 3 "b,a" "water"] "e").map
      fun result => (result.validationErrorCount, result.cards.length)).toOption =
        some (0, 1) := by
    decide +kernel
  constructor
  · cases hresult : groupCostCardRows [itemRow 2 "a,b" "flour", itemRow 3 "b,a" "water"] "e" with
    | error message =>
      rw [hresult] at hgroup
      cases hgroup
    | ok result =>
      rw [hresult] at hgroup
      obtain ⟨hcount, hlength⟩ := Prod.mk.inj (Option.some.inj hgroup)
      obtain ⟨result', hresult', -, hperm, -⟩ := costCards_canonical.1 _ _ "e" result
        (List.Perm.swap (itemRow 3 "b,a" "water") (itemRow 2 "a,b" "flour") []) hresult hcount
      exact ⟨result, result', hlength, rfl, hresult', hperm⟩
  · obtain ⟨s, hs⟩ := ok_of_isOk (x := canonicalizeCostCard (emptyCard "1")) (by decide +kernel)
    obtain ⟨t, ht⟩ := ok_of_isOk (x := canonicalizeCostCard (emptyCard "2")) (by decide +kernel)
    exact ⟨s, t, hs, ht, (costCards_canonical.2 _ _ s t hs ht).1⟩

end Import
end SmeDataCenter
