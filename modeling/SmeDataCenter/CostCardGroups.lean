import SmeDataCenter.CostCardNormalForms

/-!
# Groups of cost card rows

Rows of which none was reported agree about the cards and recipes they share, in whatever order they
come, and what their cards say does not depend on that order.
-/

namespace SmeDataCenter
namespace Import

open Fallible Grouping

/-! ### What a row says -/

/-- The values of a scope in a row. -/
def rowValues (row : StructuredImportRow) (scope : CostCardScope) : Payload :=
  (costCardScopedValues (normalizedPayload row.payload) scope).toOption.getD []

def rowIdentity (enterpriseKey : String) (row : StructuredImportRow) : CostCardIdentity :=
  ⟨enterpriseKey, fieldText (normalizedPayload row.payload) "spu_id",
    fieldText (normalizedPayload row.payload) "sku_id"⟩

def rowRecipe (row : StructuredImportRow) : CostCardRecipe where
  fields := rowValues row .recipe
  stores := costCardStores (((rowValues row .recipe).get "source_stores_text").bind
    PayloadValue.text?)
  items := [⟨rowValues row .item, none, none⟩]

def rowKey (row : StructuredImportRow) : String × String := (rowRecipe row).key

/-- Are all values of a row accepted? -/
def IsValid (row : StructuredImportRow) : Prop := fieldErrors row.payload = []

lemma names_sublist (fields : List (CostCardUploadField × Except String PayloadValue)) :
    ((fields.filterMap fun entry =>
      entry.2.toOption.map fun value => (entry.1.canonicalName, value)).map Prod.fst).Sublist
        (fields.map (·.1.canonicalName)) := by
  induction fields with
  | nil => exact .slnil
  | cons entry fields ih =>
    obtain ⟨f, message | value⟩ := entry
    · exact ih.cons _
    · exact ih.cons_cons _

lemma value_of_valid {row : StructuredImportRow} (h : IsValid row) {f : CostCardUploadField}
    (hf : f ∈ costCardUploadSchema) :
    ∃ w, normalizeCostCardValue f (row.payload.get f.canonicalName) = .ok w ∧
      (normalizedPayload row.payload).get f.canonicalName = some w := by
  have hentry : (f, normalizeCostCardValue f (row.payload.get f.canonicalName)) ∈
      normalizedFields row.payload := List.mem_map.mpr ⟨f, hf, rfl⟩
  have hnone := (List.filterMap_eq_nil_iff.mp h) _ hentry
  cases hvalue : normalizeCostCardValue f (row.payload.get f.canonicalName) with
  | error message =>
    rw [hvalue] at hnone
    cases hnone
  | ok w =>
    rw [hvalue] at hentry
    refine ⟨w, rfl, get_of_mem ?_ (List.mem_filterMap.mpr ⟨_, hentry, rfl⟩)⟩
    have hnames := names_sublist (normalizedFields row.payload)
    have hall : (normalizedFields row.payload).map (·.1.canonicalName) =
        costCardUploadSchema.map (·.canonicalName) := by
      rw [normalizedFields, List.map_map]
      rfl
    rw [hall] at hnames
    exact canonicalNames_nodup.sublist hnames

lemma exists_mapM {ε α β : Type} {f : α → Except ε β} {items : List α}
    (h : ∀ a ∈ items, ∃ b, f a = .ok b) : ∃ bs, items.mapM f = .ok bs := by
  induction items with
  | nil => exact ⟨[], rfl⟩
  | cons a items ih =>
    rw [List.forall_mem_cons] at h
    obtain ⟨b, hb⟩ := h.1
    obtain ⟨bs, hbs⟩ := ih h.2
    exact ⟨b :: bs, by rw [List.mapM_cons, hb, hbs]; rfl⟩

lemma rowValues_ok {row : StructuredImportRow} (h : IsValid row) (scope : CostCardScope) :
    costCardScopedValues (normalizedPayload row.payload) scope = .ok (rowValues row scope) := by
  obtain ⟨values, hvalues⟩ : ∃ values,
      costCardScopedValues (normalizedPayload row.payload) scope = .ok values := by
    refine exists_mapM fun f hf => ?_
    obtain ⟨w, hw, hget⟩ := value_of_valid h (List.mem_of_mem_filter hf)
    exact ⟨(f.canonicalName, w), by rw [hget, normalizeCostCardValue_again hw]; rfl⟩
  rw [rowValues, hvalues]
  rfl

lemma rowValues_again {row : StructuredImportRow} (h : IsValid row) (scope : CostCardScope) :
    costCardScopedValues (rowValues row scope) scope = .ok (rowValues row scope) :=
  costCardScopedValues_again (rowValues_ok h scope)

lemma costCardRecipeFromRow_ok {row : StructuredImportRow} (h : IsValid row) :
    costCardRecipeFromRow (normalizedPayload row.payload) = .ok (rowRecipe row) := by
  unfold costCardRecipeFromRow
  rw [rowValues_ok h, rowValues_ok h]
  rfl

lemma costCardFromRow_ok {row : StructuredImportRow} (h : IsValid row)
    (identity : CostCardIdentity) :
    costCardFromRow (normalizedPayload row.payload) identity =
      .ok ⟨identity, rowValues row .card, [rowRecipe row]⟩ := by
  unfold costCardFromRow
  rw [rowValues_ok h, costCardRecipeFromRow_ok h]
  rfl

/-! ### Groups of rows -/

def recipeStep (group : Option GroupedRecipe) (row : StructuredImportRow) : GroupedRecipe :=
  let grouped := group.getD ⟨{ rowRecipe row with items := [] }, row⟩
  { grouped with
    recipe := { grouped.recipe with
      items := grouped.recipe.items ++ [itemOfRow row (rowRecipe row)] } }

def groupedRecipes (rows : List StructuredImportRow) : List GroupedRecipe :=
  grouped rowKey (fun group => group.recipe.key) recipeStep rows

def cardStep (enterpriseKey : String) (group : Option GroupedCard) (row : StructuredImportRow) :
    GroupedCard :=
  let grouped := group.getD ⟨rowIdentity enterpriseKey row, rowValues row .card, [], row⟩
  { grouped with
    recipes := Grouping.addRow rowKey (fun group => group.recipe.key) recipeStep
      grouped.recipes row }

def groupedCards (enterpriseKey : String) (rows : List StructuredImportRow) : List GroupedCard :=
  grouped (rowIdentity enterpriseKey) (·.identity) (cardStep enterpriseKey) rows

lemma recipeStep_keeps : KeepsKey rowKey (fun group => group.recipe.key) recipeStep := by
  intro group row h
  cases group with
  | none => rfl
  | some group => exact h group rfl

lemma cardStep_keeps (enterpriseKey : String) :
    KeepsKey (rowIdentity enterpriseKey) (·.identity) (cardStep enterpriseKey) := by
  intro group row h
  cases group with
  | none => rfl
  | some group => exact h group rfl

lemma accumulate_recipeStep (rows : List StructuredImportRow) :
    accumulate recipeStep rows = rows.head?.map fun row =>
      ⟨{ rowRecipe row with items := rows.map fun row => itemOfRow row (rowRecipe row) }, row⟩ := by
  induction rows using List.reverseRecOn with
  | nil => rfl
  | append_singleton rows row ih =>
    rw [accumulate_snoc, ih]
    cases rows with
    | nil => rfl
    | cons first rows => simp [recipeStep]

lemma accumulate_cardStep (enterpriseKey : String) (rows : List StructuredImportRow) :
    accumulate (cardStep enterpriseKey) rows = rows.head?.map fun row =>
      ⟨rowIdentity enterpriseKey row, rowValues row .card, groupedRecipes rows, row⟩ := by
  induction rows using List.reverseRecOn with
  | nil => rfl
  | append_singleton rows row ih =>
    rw [accumulate_snoc, ih]
    cases rows with
    | nil => rfl
    | cons first rows =>
      have hgrouped := @grouped_snoc _ _ _ _ rowKey (fun group : GroupedRecipe => group.recipe.key)
        recipeStep (first :: rows) row
      simp only [List.head?_cons, Option.map_some, List.cons_append, cardStep, Option.getD_some,
        groupedRecipes] at hgrouped ⊢
      rw [hgrouped]

/-! ### Shared values -/

/-- What two rows must have in common of a field. -/
def commonValue (field : CostCardUploadField) (values : Payload) :
    Option PayloadValue × List String :=
  if field.canonicalName = "source_stores_text" then
    (none, costCardStores ((values.get field.canonicalName).bind PayloadValue.text?))
  else (values.get field.canonicalName, [])

def sharedValues (scope : CostCardScope) (values : Payload) :
    List (Option PayloadValue × List String) :=
  (scopeFields scope).map fun field => commonValue field values

lemma sameCommon_iff {field : CostCardUploadField} {a b : Payload} :
    sameCommon field a b = true ↔ commonValue field a = commonValue field b := by
  unfold sameCommon commonValue
  dsimp only
  split <;> simp

variable {scope : CostCardScope}

lemma compareCommon_ok {first next : Payload}
    (hfirst : costCardScopedValues first scope = .ok first)
    (hnext : costCardScopedValues next scope = .ok next)
    (firstSource nextSource : StructuredImportRow) (label : String) :
    ∃ issues, compareCommon first next scope firstSource nextSource label = .ok issues ∧
      (issues = [] ↔ sharedValues scope first = sharedValues scope next) := by
  unfold compareCommon
  rw [hfirst, hnext]
  refine ⟨_, rfl, ?_⟩
  rw [List.map_eq_nil_iff, List.filter_eq_nil_iff, sharedValues, sharedValues, List.map_inj_left]
  refine forall₂_congr fun field _ => ?_
  rw [Bool.not_eq_true', Bool.not_eq_false, sameCommon_iff]

/-- The first of some rows, or else this one. -/
def firstOf (rows : List StructuredImportRow) (row : StructuredImportRow) : StructuredImportRow :=
  rows.head?.getD row

lemma firstOf_mem (rows : List StructuredImportRow) (row : StructuredImportRow) :
    firstOf rows row = row ∨ firstOf rows row ∈ rows := by
  cases rows with
  | nil => exact .inl rfl
  | cons first rows => exact .inr List.mem_cons_self

section

variable (enterpriseKey : String)

/-- The rows of the card of a row. -/
def sameCard (rows : List StructuredImportRow) (row : StructuredImportRow) :
    List StructuredImportRow :=
  rows.filter fun other => rowIdentity enterpriseKey other = rowIdentity enterpriseKey row

/-- The rows of the recipe of a row. -/
def sameRecipe (rows : List StructuredImportRow) (row : StructuredImportRow) :
    List StructuredImportRow :=
  (sameCard enterpriseKey rows row).filter fun other => rowKey other = rowKey row

/-- A row has its stores in place, and agrees with the first row of its card and of its recipe. -/
structure Fits (rows : List StructuredImportRow) (row : StructuredImportRow) : Prop where
  stores : storesMisplaced (rowRecipe row) = false
  card : sharedValues .card (rowValues (firstOf (sameCard enterpriseKey rows row) row) .card) =
    sharedValues .card (rowValues row .card)
  recipe : sharedValues .recipe
      (rowValues (firstOf (sameRecipe enterpriseKey rows row) row) .recipe) =
    sharedValues .recipe (rowValues row .recipe)

variable {enterpriseKey} {rows : List StructuredImportRow} {row : StructuredImportRow}
  {state : GroupState}

lemma find_card (hcards : state.cards = groupedCards enterpriseKey rows) :
    (state.cards.find? fun card => card.identity = rowIdentity enterpriseKey row).getD
        ⟨rowIdentity enterpriseKey row, rowValues row .card, [], row⟩ =
      ⟨rowIdentity enterpriseKey (firstOf (sameCard enterpriseKey rows row) row),
        rowValues (firstOf (sameCard enterpriseKey rows row) row) .card,
        groupedRecipes (sameCard enterpriseKey rows row),
        firstOf (sameCard enterpriseKey rows row) row⟩ := by
  have hfind := find_grouped (cardStep_keeps enterpriseKey) rows (rowIdentity enterpriseKey row)
  rw [hcards, groupedCards, hfind, accumulate_cardStep, firstOf, sameCard]
  cases rows.filter fun other =>
    rowIdentity enterpriseKey other = rowIdentity enterpriseKey row with
  | nil => rfl
  | cons first rest => rfl

lemma find_recipe (rows : List StructuredImportRow) (row : StructuredImportRow) :
    ((groupedRecipes rows).find? fun grouped => grouped.recipe.key = rowKey row).getD
        ⟨{ rowRecipe row with items := [] }, row⟩ =
      ⟨{ rowRecipe (firstOf (rows.filter fun other => rowKey other = rowKey row) row) with
          items := (rows.filter fun other => rowKey other = rowKey row).map fun other =>
            itemOfRow other (rowRecipe other) },
        firstOf (rows.filter fun other => rowKey other = rowKey row) row⟩ := by
  have hfind := find_grouped recipeStep_keeps rows (rowKey row)
  rw [groupedRecipes, hfind, accumulate_recipeStep, firstOf]
  cases rows.filter fun other => rowKey other = rowKey row with
  | nil => rfl
  | cons first rest => rfl

lemma addCostCardRow_valid (hcards : state.cards = groupedCards enterpriseKey rows)
    (hrows : ∀ other ∈ rows, IsValid other) (hrow : IsValid row) :
    ∃ issues, addCostCardRow enterpriseKey state row =
        .ok ⟨groupedCards enterpriseKey (rows ++ [row]), state.issues.addAll issues⟩ ∧
      (issues = [] ↔ Fits enterpriseKey rows row) := by
  have hcardRow : IsValid (firstOf (sameCard enterpriseKey rows row) row) := by
    rcases firstOf_mem (sameCard enterpriseKey rows row) row with h | h
    · rw [h]
      exact hrow
    · exact hrows _ (List.mem_of_mem_filter h)
  have hrecipeRow : IsValid (firstOf (sameRecipe enterpriseKey rows row) row) := by
    rcases firstOf_mem (sameRecipe enterpriseKey rows row) row with h | h
    · rw [h]
      exact hrow
    · exact hrows _ (List.mem_of_mem_filter (List.mem_of_mem_filter h))
  obtain ⟨cardIssues, hcardIssues, hcardNone⟩ := compareCommon_ok
    (rowValues_again hcardRow .card) (rowValues_again hrow .card)
    (firstOf (sameCard enterpriseKey rows row) row) row (identityLabel row.payload)
  obtain ⟨recipeIssues, hrecipeIssues, hrecipeNone⟩ := compareCommon_ok
    (rowValues_again hrecipeRow .recipe) (rowValues_again hrow .recipe)
    (firstOf (sameRecipe enterpriseKey rows row) row) row (identityLabel row.payload)
  have hgroup : addCostCardRow enterpriseKey state row =
      groupRow state row ⟨rowIdentity enterpriseKey row, rowValues row .card, [rowRecipe row]⟩
        (rowRecipe row) := by
    unfold addCostCardRow
    rw [show fieldErrors row.payload = [] from hrow]
    dsimp only
    rw [costCardFromRow_ok hrow, costCardRecipeFromRow_ok hrow]
    rfl
  have hcard := @find_card enterpriseKey rows row state hcards
  have hrecipe := find_recipe (sameCard enterpriseKey rows row) row
  rw [hgroup]
  unfold groupRow
  dsimp only
  rw [hcard]
  dsimp only
  rw [show (rowRecipe row).key = rowKey row from rfl, hrecipe]
  dsimp only
  rw [hcardIssues]
  dsimp only [bind, Except.bind]
  have hrecipeIssues' : compareCommon
      (rowRecipe (firstOf (sameRecipe enterpriseKey rows row) row)).fields (rowRecipe row).fields
      .recipe (firstOf (sameRecipe enterpriseKey rows row) row) row (identityLabel row.payload) =
        .ok recipeIssues := hrecipeIssues
  rw [sameRecipe] at hrecipeIssues'
  rw [hrecipeIssues']
  have hcards' : groupedCards enterpriseKey (rows ++ [row]) =
      Grouping.addRow (rowIdentity enterpriseKey) (·.identity) (cardStep enterpriseKey)
        state.cards row := by
    rw [hcards]
    exact grouped_snoc rows row
  rw [hcards']
  refine ⟨_, rfl, ?_⟩
  rw [List.append_eq_nil_iff, List.append_eq_nil_iff, hcardNone, hrecipeNone]
  constructor
  · rintro ⟨⟨hstores, hcard⟩, hrecipe⟩
    refine ⟨?_, hcard, hrecipe⟩
    by_contra hmisplaced
    rw [Bool.not_eq_false] at hmisplaced
    rw [if_pos hmisplaced] at hstores
    cases hstores
  · rintro ⟨hstores, hcard, hrecipe⟩
    refine ⟨⟨?_, hcard⟩, hrecipe⟩
    rw [if_neg (by rw [hstores]; exact Bool.false_ne_true)]

end

/-! ### Runs -/

/-- Valid rows that agree about the cards and the recipes that they share. -/
structure Compatible (enterpriseKey : String) (rows : List StructuredImportRow) : Prop where
  valid : ∀ row ∈ rows, IsValid row
  stores : ∀ row ∈ rows, storesMisplaced (rowRecipe row) = false
  card : ∀ row ∈ rows, ∀ other ∈ rows,
    rowIdentity enterpriseKey row = rowIdentity enterpriseKey other →
      sharedValues .card (rowValues row .card) = sharedValues .card (rowValues other .card)
  recipe : ∀ row ∈ rows, ∀ other ∈ rows,
    rowIdentity enterpriseKey row = rowIdentity enterpriseKey other → rowKey row = rowKey other →
      sharedValues .recipe (rowValues row .recipe) = sharedValues .recipe (rowValues other .recipe)

variable {rows' : List StructuredImportRow}

lemma Compatible.perm {enterpriseKey : String} {rows : List StructuredImportRow}
    (h : Compatible enterpriseKey rows) (hperm : rows.Perm rows') :
    Compatible enterpriseKey rows' where
  valid row hrow := h.valid row (hperm.mem_iff.mpr hrow)
  stores row hrow := h.stores row (hperm.mem_iff.mpr hrow)
  card row hrow other hother :=
    h.card row (hperm.mem_iff.mpr hrow) other (hperm.mem_iff.mpr hother)
  recipe row hrow other hother :=
    h.recipe row (hperm.mem_iff.mpr hrow) other (hperm.mem_iff.mpr hother)

section

variable {enterpriseKey : String} {rows : List StructuredImportRow} {row : StructuredImportRow}

lemma firstOf_of_mem {other : StructuredImportRow} {members : List StructuredImportRow}
    (h : other ∈ members) (row : StructuredImportRow) :
    firstOf members row ∈ members := by
  cases members with
  | nil => cases h
  | cons first members => exact List.mem_cons_self

lemma compatible_snoc (hrows : Compatible enterpriseKey rows) :
    Compatible enterpriseKey (rows ++ [row]) ↔ IsValid row ∧ Fits enterpriseKey rows row := by
  have hrow : row ∈ rows ++ [row] := by simp
  have hleft {other} (h : other ∈ rows) : other ∈ rows ++ [row] := List.mem_append_left _ h
  constructor
  · intro h
    refine ⟨h.valid row hrow, h.stores row hrow, ?_, ?_⟩
    · rcases firstOf_mem (sameCard enterpriseKey rows row) row with hfirst | hfirst
      · rw [hfirst]
      · obtain ⟨hmem, hidentity⟩ := List.mem_filter.mp hfirst
        exact h.card _ (hleft hmem) row hrow (by simpa using hidentity)
    · rcases firstOf_mem (sameRecipe enterpriseKey rows row) row with hfirst | hfirst
      · rw [hfirst]
      · obtain ⟨hmem, hkey⟩ := List.mem_filter.mp hfirst
        obtain ⟨hmem, hidentity⟩ := List.mem_filter.mp hmem
        exact h.recipe _ (hleft hmem) row hrow (by simpa using hidentity) (by simpa using hkey)
  · rintro ⟨hvalid, hstores, hcard, hrecipe⟩
    have hcards : ∀ other ∈ rows, rowIdentity enterpriseKey other = rowIdentity enterpriseKey row →
        sharedValues .card (rowValues other .card) = sharedValues .card (rowValues row .card) := by
      intro other hother hidentity
      have hmem : other ∈ sameCard enterpriseKey rows row :=
        List.mem_filter.mpr ⟨hother, by simpa using hidentity⟩
      obtain ⟨hfirst, hsame⟩ := List.mem_filter.mp (firstOf_of_mem hmem row)
      rw [← hcard]
      exact hrows.card other hother _ hfirst (hidentity.trans (of_decide_eq_true hsame).symm)
    have hrecipes : ∀ other ∈ rows,
        rowIdentity enterpriseKey other = rowIdentity enterpriseKey row →
          rowKey other = rowKey row →
            sharedValues .recipe (rowValues other .recipe) =
              sharedValues .recipe (rowValues row .recipe) := by
      intro other hother hidentity hkey
      have hmem : other ∈ sameRecipe enterpriseKey rows row :=
        List.mem_filter.mpr ⟨List.mem_filter.mpr ⟨hother, by simpa using hidentity⟩,
          by simpa using hkey⟩
      obtain ⟨hfirst, hsameKey⟩ := List.mem_filter.mp (firstOf_of_mem hmem row)
      obtain ⟨hfirst, hsame⟩ := List.mem_filter.mp hfirst
      rw [← hrecipe]
      exact hrows.recipe other hother _ hfirst (hidentity.trans (of_decide_eq_true hsame).symm)
        (hkey.trans (of_decide_eq_true hsameKey).symm)
    have hcases {other} (h : other ∈ rows ++ [row]) : other ∈ rows ∨ other = row := by
      simpa using h
    constructor
    · intro other hother
      rcases hcases hother with h | rfl
      · exact hrows.valid other h
      · exact hvalid
    · intro other hother
      rcases hcases hother with h | rfl
      · exact hrows.stores other h
      · exact hstores
    · intro a ha b hb hidentity
      rcases hcases ha with hin | rfl
      · rcases hcases hb with hin' | rfl
        · exact hrows.card a hin b hin' hidentity
        · exact hcards a hin hidentity
      · rcases hcases hb with hin' | rfl
        · exact (hcards b hin' hidentity.symm).symm
        · rfl
    · intro a ha b hb hidentity hkey
      rcases hcases ha with hin | rfl
      · rcases hcases hb with hin' | rfl
        · exact hrows.recipe a hin b hin' hidentity hkey
        · exact hrecipes a hin hidentity hkey
      · rcases hcases hb with hin' | rfl
        · exact (hrecipes b hin' hidentity.symm hkey.symm).symm
        · rfl

lemma addCostCardRow_count {state state' : GroupState}
    (h : addCostCardRow enterpriseKey state row = .ok state') :
    state.issues.count ≤ state'.issues.count ∧
      (state'.issues.count = state.issues.count → IsValid row) := by
  unfold addCostCardRow at h
  split at h
  · next hvalid =>
    obtain ⟨single, -, h⟩ := bind_ok.mp h
    obtain ⟨candidate, -, h⟩ := bind_ok.mp h
    obtain ⟨cardIssues, -, h⟩ := bind_ok.mp h
    obtain ⟨recipeIssues, -, h⟩ := bind_ok.mp h
    cases h
    exact ⟨by simp, fun _ => hvalid⟩
  · next errors hne =>
    cases h
    simp only [IssueList.count_addAll, List.length_map]
    refine ⟨Nat.le_add_right _ _, fun hcount => ?_⟩
    exact List.length_eq_zero_iff.mp (by omega)

/-- Rows of which nothing is reported are compatible, and compatible rows are grouped without a
report. -/
lemma run_iff (enterpriseKey : String) (rows : List StructuredImportRow) :
    (∀ state, rows.foldlM (addCostCardRow enterpriseKey) {} = .ok state →
      state.issues.count = 0 → Compatible enterpriseKey rows) ∧
    (Compatible enterpriseKey rows → ∃ state,
      rows.foldlM (addCostCardRow enterpriseKey) {} = .ok state ∧ state.issues.count = 0 ∧
        state.cards = groupedCards enterpriseKey rows) := by
  induction rows using List.reverseRecOn with
  | nil =>
    refine ⟨fun _ _ _ => ⟨nofun, nofun, nofun, nofun⟩, fun _ => ⟨{}, rfl, rfl, rfl⟩⟩
  | append_singleton rows row ih =>
    constructor
    · intro state' h hcount
      rw [List.foldlM_append] at h
      obtain ⟨state, hstate, h⟩ := bind_ok.mp h
      rw [List.foldlM_cons] at h
      obtain ⟨_, h, hpure⟩ := bind_ok.mp h
      cases hpure
      obtain ⟨hle, hvalid⟩ := addCostCardRow_count h
      have hzero : state.issues.count = 0 := by omega
      have hrows := ih.1 state hstate hzero
      obtain ⟨_, hstate', -, hcards⟩ := ih.2 hrows
      obtain rfl := Except.ok.inj (hstate.symm.trans hstate')
      have hrow := hvalid (by omega)
      obtain ⟨issues, hadd, hnone⟩ := addCostCardRow_valid hcards hrows.valid hrow
      rw [hadd] at h
      cases h
      rw [IssueList.count_addAll, hzero, Nat.zero_add, List.length_eq_zero_iff, hnone] at hcount
      exact (compatible_snoc hrows).mpr ⟨hrow, hcount⟩
    · intro h
      have hrows : Compatible enterpriseKey rows := by
        constructor
        · exact fun row hrow => h.valid row (List.mem_append_left _ hrow)
        · exact fun row hrow => h.stores row (List.mem_append_left _ hrow)
        · exact fun a ha b hb => h.card a (List.mem_append_left _ ha) b (List.mem_append_left _ hb)
        · exact fun a ha b hb =>
            h.recipe a (List.mem_append_left _ ha) b (List.mem_append_left _ hb)
      obtain ⟨state, hstate, hzero, hcards⟩ := ih.2 hrows
      obtain ⟨hvalid, hfits⟩ := (compatible_snoc hrows).mp h
      obtain ⟨issues, hadd, hnone⟩ := addCostCardRow_valid hcards hrows.valid hvalid
      refine ⟨⟨groupedCards enterpriseKey (rows ++ [row]), state.issues.addAll issues⟩, ?_, ?_, rfl⟩
      · rw [List.foldlM_append, hstate]
        refine bind_ok.mpr ⟨state, rfl, ?_⟩
        rw [List.foldlM_cons, hadd]
        rfl
      · simp only [IssueList.count_addAll, hzero, hnone.mpr hfits, List.length_nil]

end

/-! ### What the cards say -/

variable {values : Payload}

lemma values_eq {row : Payload} (h : costCardScopedValues row scope = .ok values) :
    values = (scopeFields scope).map fun f =>
      (f.canonicalName, (values.get f.canonicalName).getD .null) := by
  have hvalues := values_of_mapM h
  have hnames := names_of_values hvalues
  rw [List.forall₂_iff_get] at hvalues
  apply List.ext_getElem
  · rw [List.length_map]
    exact hvalues.1.symm
  · intro i hi hf
    rw [List.length_map] at hf
    obtain ⟨hname, -⟩ := hvalues.2 i hf hi
    have hname' : (scopeFields scope)[i].canonicalName = values[i].1 := hname
    have hget : values.get values[i].1 = some values[i].2 :=
      get_of_mem (by rw [hnames]; exact scopeNames_nodup scope) (List.getElem_mem hi)
    rw [List.getElem_map, hname', hget]
    rfl

variable {values' : Payload}

lemma filter_eq_of_shared {row row' : Payload} (h : costCardScopedValues row scope = .ok values)
    (h' : costCardScopedValues row' scope = .ok values')
    (hshared : sharedValues scope values = sharedValues scope values') :
    values.filter (fun entry => entry.1 ≠ "source_stores_text") =
      values'.filter fun entry => entry.1 ≠ "source_stores_text" := by
  rw [values_eq h, values_eq h', List.filter_map, List.filter_map]
  refine List.map_congr_left fun f hf => ?_
  obtain ⟨hf, hname⟩ := List.mem_filter.mp hf
  have hcommon := (List.map_inj_left.mp hshared) f hf
  have hne : f.canonicalName ≠ "source_stores_text" := by simpa using hname
  rw [commonValue, commonValue, if_neg hne, if_neg hne] at hcommon
  rw [(Prod.mk.inj hcommon).1]

lemma values_eq_of_shared_card {row row' : Payload}
    (h : costCardScopedValues row .card = .ok values)
    (h' : costCardScopedValues row' .card = .ok values')
    (hshared : sharedValues .card values = sharedValues .card values') : values = values' := by
  have hfields : ∀ f ∈ scopeFields .card, f.canonicalName ≠ "source_stores_text" := by decide
  have hall {row values : Payload} (h : costCardScopedValues row .card = .ok values) :
      values.filter (fun entry => entry.1 ≠ "source_stores_text") = values := by
    refine List.filter_eq_self.mpr fun entry hentry => ?_
    obtain ⟨f, hf, hvalue⟩ := exists_of_mapM h hentry
    rw [← (entry_of_field hvalue).1]
    exact decide_eq_true (hfields f hf)
  rw [← hall h, ← hall h']
  exact filter_eq_of_shared h h' hshared

lemma sharedValues_stores (h : sharedValues .recipe values = sharedValues .recipe values') :
    costCardStores ((values.get "source_stores_text").bind PayloadValue.text?) =
      costCardStores ((values'.get "source_stores_text").bind PayloadValue.text?) := by
  have hfield : (⟨"适用门店", "source_stores_text", .recipe, .string, true, some 32767⟩ :
      CostCardUploadField) ∈ scopeFields .recipe := by decide
  have hcommon := (List.map_inj_left.mp h) _ hfield
  exact (Prod.mk.inj hcommon).2

/-- The recipe of a group: the values of its first row, and the items of all. -/
def recipeOfRows (first : StructuredImportRow) (rows : List StructuredImportRow) :
    CostCardRecipe :=
  { rowRecipe first with items := rows.map fun row => itemOfRow row (rowRecipe row) }

lemma recipeOfRows_normal {first : StructuredImportRow} {rows : List StructuredImportRow}
    (hfirst : IsValid first) (hrows : ∀ row ∈ rows, IsValid row) :
    IsNormalRecipe (recipeOfRows first rows) where
  fields := rowValues_again hfirst .recipe
  stores := rfl
  items item hitem := by
    obtain ⟨row, hrow, rfl⟩ := List.mem_map.mp hitem
    exact rowValues_again (hrows row hrow) .item

lemma accumulate_recipe {rows : List StructuredImportRow} {group : GroupedRecipe}
    (h : accumulate recipeStep rows = some group) :
    ∃ first ∈ rows, group.recipe = recipeOfRows first rows := by
  rw [accumulate_recipeStep] at h
  cases rows with
  | nil => cases h
  | cons first rows =>
    cases h
    exact ⟨first, List.mem_cons_self, rfl⟩

lemma accumulate_card {enterpriseKey : String} {rows : List StructuredImportRow}
    {group : GroupedCard} (h : accumulate (cardStep enterpriseKey) rows = some group) :
    ∃ first ∈ rows, group = ⟨rowIdentity enterpriseKey first, rowValues first .card,
      groupedRecipes rows, first⟩ := by
  rw [accumulate_cardStep] at h
  cases rows with
  | nil => cases h
  | cons first rows =>
    cases h
    exact ⟨first, List.mem_cons_self, rfl⟩

lemma groupedRecipes_perm {rows : List StructuredImportRow} (hperm : rows.Perm rows')
    (hvalid : ∀ row ∈ rows, IsValid row)
    (hshared : ∀ row ∈ rows, ∀ other ∈ rows, rowKey row = rowKey other →
      sharedValues .recipe (rowValues row .recipe) =
        sharedValues .recipe (rowValues other .recipe)) :
    ((groupedRecipes rows).map (·.recipe.content)).Perm
      ((groupedRecipes rows').map (·.recipe.content)) := by
  refine grouped_map_perm recipeStep_keeps hperm fun k group group' hgroup hgroup' => ?_
  obtain ⟨first, hfirst, hrecipe⟩ := accumulate_recipe hgroup
  obtain ⟨first', hfirst', hrecipe'⟩ := accumulate_recipe hgroup'
  obtain ⟨hmem, hkey⟩ := List.mem_filter.mp hfirst
  obtain ⟨hmem', hkey'⟩ := List.mem_filter.mp hfirst'
  have hmem' := hperm.mem_iff.mpr hmem'
  have hsame := hshared first hmem first' hmem'
    ((of_decide_eq_true hkey).trans (of_decide_eq_true hkey').symm)
  have hfields := filter_eq_of_shared (rowValues_ok (hvalid first hmem) .recipe)
    (rowValues_ok (hvalid first' hmem') .recipe) hsame
  have hstores := congrArg List.toFinset (sharedValues_stores hsame)
  have hitems := ((hperm.filter fun row => rowKey row = k).map
    fun row => itemOfRow row (rowRecipe row)).map (·.fields)
  rw [hrecipe, hrecipe']
  simp only [CostCardRecipe.content, RecipeContent.mk.injEq, Multiset.coe_eq_coe]
  exact ⟨hfields, hstores, hitems⟩

lemma groupedCard_normal {enterpriseKey : String} {rows : List StructuredImportRow}
    (h : Compatible enterpriseKey rows) {k : CostCardIdentity} {group : GroupedCard}
    (hgroup : accumulate (cardStep enterpriseKey)
      (rows.filter fun row => rowIdentity enterpriseKey row = k) = some group) :
    IsNormalCard group.toCard := by
  obtain ⟨first, hfirst, rfl⟩ := accumulate_card hgroup
  have hrows : ∀ row ∈ rows.filter fun row => rowIdentity enterpriseKey row = k, IsValid row :=
    fun row hrow => h.valid row (List.mem_of_mem_filter hrow)
  refine ⟨rowValues_again (hrows first hfirst) .card, fun recipe hrecipe => ?_⟩
  obtain ⟨grouped, hgrouped, rfl⟩ := List.mem_map.mp hrecipe
  obtain ⟨first', hfirst', heq⟩ := accumulate_recipe (accumulate_of_mem recipeStep_keeps hgrouped)
  rw [heq]
  exact recipeOfRows_normal (hrows first' (List.mem_of_mem_filter hfirst')) fun row hrow =>
    hrows row (List.mem_of_mem_filter hrow)

lemma groupedCards_perm {enterpriseKey : String} {rows : List StructuredImportRow}
    (h : Compatible enterpriseKey rows) (hperm : rows.Perm rows') :
    ((groupedCards enterpriseKey rows).map fun group => cardContent group.toCard).Perm
      ((groupedCards enterpriseKey rows').map fun group => cardContent group.toCard) := by
  have h' := h.perm hperm
  refine grouped_map_perm (cardStep_keeps enterpriseKey) hperm
    fun k group group' hgroup hgroup' => ?_
  have hnormal := cardContent_of_normal (groupedCard_normal h hgroup)
  have hnormal' := cardContent_of_normal (groupedCard_normal h' hgroup')
  obtain ⟨first, hfirst, rfl⟩ := accumulate_card hgroup
  obtain ⟨first', hfirst', rfl⟩ := accumulate_card hgroup'
  obtain ⟨hmem, hkey⟩ := List.mem_filter.mp hfirst
  obtain ⟨hmem', hkey'⟩ := List.mem_filter.mp hfirst'
  have hmem' := hperm.mem_iff.mpr hmem'
  have hidentity := (of_decide_eq_true hkey).trans (of_decide_eq_true hkey').symm
  have hcard := values_eq_of_shared_card (rowValues_ok (h.valid first hmem) .card)
    (rowValues_ok (h.valid first' hmem') .card) (h.card first hmem first' hmem' hidentity)
  have hrecipes := groupedRecipes_perm
    (hperm.filter fun row => rowIdentity enterpriseKey row = k)
    (fun row hrow => h.valid row (List.mem_of_mem_filter hrow))
    fun row hrow other hother hkey => by
      obtain ⟨hrow, hk⟩ := List.mem_filter.mp hrow
      obtain ⟨hother, hk'⟩ := List.mem_filter.mp hother
      exact h.recipe row hrow other hother
        ((of_decide_eq_true hk).trans (of_decide_eq_true hk').symm) hkey
  rw [hnormal, hnormal']
  congr 1
  refine CardContent.mk.injEq .. ▸ ⟨hidentity, hcard, ?_⟩
  rw [Multiset.coe_eq_coe]
  simpa [GroupedCard.toCard, List.map_map, Function.comp_def] using hrecipes

end Import
end SmeDataCenter
