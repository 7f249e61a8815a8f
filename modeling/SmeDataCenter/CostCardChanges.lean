import SmeDataCenter.CanonicalCards

/-!
# Changes of cost cards

The change report of a card compares the canonical texts of the card before and after an upload,
part by part. Where no two recipes of a card have the same type and name, it names just the parts in
which the two cards differ.
-/

namespace SmeDataCenter
namespace Import

open JsonStrings JsonNumbers JsonValues StableJson ScriptText Fallible Grouping

/-! ### Parsed values -/

/-- `JSON.parse(text)` -/
def parseJson (text : String) : Except String (Value String JsonNumber) :=
  match jsonLexicon.parse text.toList with
  | some value => .ok value
  | none => .error "SyntaxError"

def membersOf : Value String JsonNumber → List (String × Value String JsonNumber)
  | .object members => members
  | _ => []

/-- `value[name]` -/
def memberOf (value : Value String JsonNumber) (name : String) :
    Option (Value String JsonNumber) :=
  (membersOf value).lookup name

def itemsOf : Value String JsonNumber → List (Value String JsonNumber)
  | .array items => items
  | _ => []

/-- `a === b`, for values of two documents. -/
def strictlyEqual : Option (Value String JsonNumber) → Option (Value String JsonNumber) → Bool
  | none, none => true
  | some .null, some .null => true
  | some (.bool a), some (.bool b) => a = b
  | some (.number a), some (.number b) => a = b
  | some (.string a), some (.string b) => a = b
  | _, _ => false

/-- `new Map(entries)` -/
def mapOf {κ α : Type} [DecidableEq κ] (entries : List (κ × α)) : List (κ × α) :=
  grouped Prod.fst Prod.fst (fun _ entry => entry) entries

/-! ### The report -/

inductive CostCardChangeField where
  | created
  | card (name : String)
  | recipesAdded
  | recipesRemoved
  | recipesFields
  | recipesItems
  | recipesStores
  | archivedAt
  deriving DecidableEq

/-- `JSON.stringify([recipe.recipe_type, recipe.recipe_name])` -/
def recipeKeyText (recipe : Value String JsonNumber) : Text :=
  jsonLexicon.print (.array [(memberOf recipe "recipe_type").getD .null,
    (memberOf recipe "recipe_name").getD .null])

def recipeEntries (card : Value String JsonNumber) : List (Text × Value String JsonNumber) :=
  mapOf ((itemsOf ((memberOf card "recipes").getD .null)).map fun recipe =>
    (recipeKeyText recipe, recipe))

/-- The members of a recipe but for its items and stores. -/
def ownMembers (recipe : Value String JsonNumber) : List (String × Value String JsonNumber) :=
  (membersOf recipe).filter fun member => member.1 ≠ "items" ∧ member.1 ≠ "stores"

def stringifyMember (recipe : Value String JsonNumber) (name : String) : Option Text :=
  (memberOf recipe name).map jsonLexicon.print

def changedRecipeParts (previous recipe : Value String JsonNumber) : List CostCardChangeField :=
  (if jsonLexicon.print (.object (ownMembers previous)) ≠
      jsonLexicon.print (.object (ownMembers recipe)) then [.recipesFields] else []) ++
  (if stringifyMember previous "items" ≠ stringifyMember recipe "items" then [.recipesItems]
    else []) ++
  (if stringifyMember previous "stores" ≠ stringifyMember recipe "stores" then [.recipesStores]
    else [])

/-- What changed in a recipe that was there before. -/
def changedRecipe (old : List (Text × Value String JsonNumber))
    (entry : Text × Value String JsonNumber) : List CostCardChangeField :=
  match old.lookup entry.1 with
  | none => []
  | some previous => changedRecipeParts previous entry.2

def changedFields (a b : Value String JsonNumber) : List CostCardChangeField :=
  let aCard := (memberOf a "card").getD .null
  let bCard := (memberOf b "card").getD .null
  let changed := ((membersOf aCard).map Prod.fst).filter fun key =>
    !strictlyEqual (memberOf aCard key) (memberOf bCard key)
  let old := recipeEntries a
  let current := recipeEntries b
  let fields : List CostCardChangeField := changed.map .card ++
    (if current.any fun entry => (old.lookup entry.1).isNone then [.recipesAdded] else []) ++
    (if old.any fun entry => (current.lookup entry.1).isNone then [.recipesRemoved] else []) ++
    current.flatMap (changedRecipe old)
  fields.eraseDups

def changedCostCardFields (before after : CanonicalCostCard) :
    Except String (List CostCardChangeField) := do
  let a ← parseJson (← canonicalizeCostCard before)
  let b ← parseJson (← canonicalizeCostCard after)
  return changedFields a b

/-! ### What changed -/

/-- The type and the name of a recipe. -/
def RecipeContent.key (recipe : RecipeContent) : PayloadValue × PayloadValue :=
  ((recipe.fields.get "recipe_type").getD .null, (recipe.fields.get "recipe_name").getD .null)

/-- The parts in which two cards differ. -/
def Differs (before after : CardContent) : CostCardChangeField → Prop
  | .card name => before.card.get name ≠ after.card.get name
  | .recipesAdded => ∃ recipe ∈ after.recipes, ∀ old ∈ before.recipes, old.key ≠ recipe.key
  | .recipesRemoved => ∃ old ∈ before.recipes, ∀ recipe ∈ after.recipes, recipe.key ≠ old.key
  | .recipesFields => ∃ old ∈ before.recipes, ∃ recipe ∈ after.recipes,
      old.key = recipe.key ∧ old.fields ≠ recipe.fields
  | .recipesItems => ∃ old ∈ before.recipes, ∃ recipe ∈ after.recipes,
      old.key = recipe.key ∧ old.items ≠ recipe.items
  | .recipesStores => ∃ old ∈ before.recipes, ∃ recipe ∈ after.recipes,
      old.key = recipe.key ∧ old.stores ≠ recipe.stores
  | .created | .archivedAt => False

lemma recipe_mem_of_same {recipes others : Multiset RecipeContent}
    (hkey : ∀ recipe ∈ others, ∃ old ∈ recipes, old.key = recipe.key)
    (hsame : ∀ old ∈ recipes, ∀ recipe ∈ others, old.key = recipe.key → old = recipe)
    {recipe : RecipeContent} (h : recipe ∈ others) : recipe ∈ recipes := by
  obtain ⟨old, hold, heq⟩ := hkey recipe h
  rw [← hsame old hold recipe h heq]
  exact hold

/-- Cards that differ in no part are one card. -/
theorem eq_of_not_differs {before after : CardContent}
    (hidentity : before.identity = after.identity)
    (hcard : (∀ name, before.card.get name = after.card.get name) → before.card = after.card)
    (hbefore : (before.recipes.map RecipeContent.key).Nodup)
    (hafter : (after.recipes.map RecipeContent.key).Nodup)
    (h : ∀ field, ¬ Differs before after field) : before = after := by
  have hvalues := hcard fun name => not_not.mp (h (.card name))
  have hadded : ∀ recipe ∈ after.recipes, ∃ old ∈ before.recipes, old.key = recipe.key := by
    intro recipe hrecipe
    by_contra hnone
    exact h .recipesAdded ⟨recipe, hrecipe, fun old hold heq => hnone ⟨old, hold, heq⟩⟩
  have hremoved : ∀ old ∈ before.recipes, ∃ recipe ∈ after.recipes, recipe.key = old.key := by
    intro old hold
    by_contra hnone
    exact h .recipesRemoved ⟨old, hold, fun recipe hrecipe heq => hnone ⟨recipe, hrecipe, heq⟩⟩
  have hsame : ∀ old ∈ before.recipes, ∀ recipe ∈ after.recipes, old.key = recipe.key →
      old = recipe := by
    intro old hold recipe hrecipe heq
    have hfields := not_not.mp fun hne => h .recipesFields ⟨old, hold, recipe, hrecipe, heq, hne⟩
    have hitems := not_not.mp fun hne => h .recipesItems ⟨old, hold, recipe, hrecipe, heq, hne⟩
    have hstores := not_not.mp fun hne => h .recipesStores ⟨old, hold, recipe, hrecipe, heq, hne⟩
    obtain ⟨fields, stores, items⟩ := old
    obtain ⟨fields', stores', items'⟩ := recipe
    dsimp only at hfields hitems hstores
    rw [hfields, hitems, hstores]
  have hrecipes : before.recipes = after.recipes := by
    refine (Multiset.Nodup.ext hbefore.of_map hafter.of_map).mpr fun recipe => ⟨?_, ?_⟩
    · exact recipe_mem_of_same hremoved fun a ha b hb heq => (hsame b hb a ha heq.symm).symm
    · exact recipe_mem_of_same hadded hsame
  obtain ⟨identity, card, recipes⟩ := before
  obtain ⟨identity', card', recipes'⟩ := after
  dsimp only at hidentity hvalues hrecipes
  rw [hidentity, hvalues, hrecipes]

/-- A card differs in no part from itself. -/
theorem not_differs_self {card : CardContent} (h : (card.recipes.map RecipeContent.key).Nodup)
    (field : CostCardChangeField) : ¬ Differs card card field := by
  have hsame : ∀ old ∈ card.recipes, ∀ recipe ∈ card.recipes, old.key = recipe.key →
      old = recipe := Multiset.inj_on_of_nodup_map h
  intro hdiffers
  cases field with
  | card name => exact hdiffers rfl
  | recipesAdded =>
    obtain ⟨recipe, hrecipe, hnone⟩ := hdiffers
    exact hnone recipe hrecipe rfl
  | recipesRemoved =>
    obtain ⟨old, hold, hnone⟩ := hdiffers
    exact hnone old hold rfl
  | recipesFields =>
    obtain ⟨old, hold, recipe, hrecipe, heq, hne⟩ := hdiffers
    exact hne (congrArg _ (hsame old hold recipe hrecipe heq))
  | recipesItems =>
    obtain ⟨old, hold, recipe, hrecipe, heq, hne⟩ := hdiffers
    exact hne (congrArg _ (hsame old hold recipe hrecipe heq))
  | recipesStores =>
    obtain ⟨old, hold, recipe, hrecipe, heq, hne⟩ := hdiffers
    exact hne (congrArg _ (hsame old hold recipe hrecipe heq))
  | created => exact hdiffers
  | archivedAt => exact hdiffers

/-! ### Values of a card -/

/-- The values of a card as they come from the source: no value is a numeral, and no field of a
recipe is named like its stores or items. -/
structure CardValues.Sound (c : CardValues) : Prop extends c.Plain where
  row : ∃ row, costCardScopedValues row .card = .ok c.card
  names : ∀ recipe ∈ c.recipes, ∀ entry ∈ recipe.fields, entry.1 ≠ "items" ∧ entry.1 ≠ "stores"

lemma recipeValues_names {recipe : CostCardRecipe} {values : RecipeValues}
    (h : recipeValues recipe = .ok values) :
    ∀ entry ∈ values.fields, entry.1 ≠ "items" ∧ entry.1 ≠ "stores" := by
  have hnames : ∀ f ∈ scopeFields .recipe, f.canonicalName ≠ "items" ∧ f.canonicalName ≠ "stores" :=
    by decide
  obtain ⟨fields, hfields, h⟩ := bind_ok.mp h
  obtain ⟨items, -, h⟩ := bind_ok.mp h
  cases h
  intro entry hentry
  obtain ⟨f, hf, hvalue⟩ := exists_of_mapM hfields (List.mem_of_mem_filter hentry)
  rw [← (entry_of_field hvalue).1]
  exact hnames f hf

variable {card : CanonicalCostCard}

lemma cardValues_sound {values : CardValues} (h : cardValues card = .ok values) : values.Sound := by
  refine ⟨cardValues_plain h, ?_, ?_⟩
  all_goals
    obtain ⟨recipes, hrecipes, h⟩ := bind_ok.mp h
    obtain ⟨fields, hfields, h⟩ := bind_ok.mp h
    cases h
  · exact ⟨_, hfields⟩
  · intro recipe hrecipe
    obtain ⟨source, -, hsource⟩ := exists_of_mapM hrecipes hrecipe
    exact recipeValues_names hsource

lemma parseJson_text {c : CardValues} (h : c.Plain) :
    parseJson c.text = .ok (.object c.members) := by
  rw [parseJson, CardValues.text_toList h, Lexicon.parse_print]

lemma members_lookup (payload : Payload) (name : String) :
    payload.members.lookup name = (payload.get name).map PayloadValue.json := by
  unfold Payload.members Payload.get
  induction payload with
  | nil => rfl
  | cons entry payload ih =>
    rw [List.map_cons, List.lookup_cons, List.lookup_cons, ih]
    cases name == entry.1 <;> rfl

variable {name : String}

lemma get_plain {payload : Payload} (h : payload.Plain) {value : PayloadValue}
    (hget : payload.get name = some value) (numeral : String) : value ≠ .number numeral := by
  obtain ⟨before, after, rfl, -⟩ := List.lookup_eq_some_iff.mp hget
  exact h (name, value) (by simp) numeral

lemma strictlyEqual_json {value other : Option PayloadValue}
    (h : ∀ v, value = some v → ∀ numeral, v ≠ .number numeral)
    (hother : ∀ v, other = some v → ∀ numeral, v ≠ .number numeral) :
    strictlyEqual (value.map PayloadValue.json) (other.map PayloadValue.json) = true ↔
      value = other := by
  rcases value with _ | _ | s | b | numeral
  case some.number => exact absurd rfl (h _ rfl numeral)
  all_goals
    rcases other with _ | _ | s' | b' | numeral'
    case some.number => exact absurd rfl (hother _ rfl numeral')
    all_goals simp [strictlyEqual, PayloadValue.json]

/-! ### The parts of a recipe -/

lemma sortByText_iff {items others : List Payload} (h : ∀ item ∈ items, item.Plain)
    (hothers : ∀ other ∈ others, other.Plain) :
    sortByText Payload.stringify items = sortByText Payload.stringify others ↔
      (items : Multiset Payload) = others := by
  have hitems := sortByText_perm Payload.stringify items
  have hothers' := sortByText_perm Payload.stringify others
  rw [Multiset.coe_eq_coe]
  constructor
  · intro heq
    exact hitems.symm.trans (heq ▸ hothers')
  · intro hperm
    have htotal : Std.Total fun a b : Payload => stringLe a.stringify b.stringify :=
      ⟨fun _ _ => le_total _ _⟩
    have htrans : IsTrans Payload fun a b => stringLe a.stringify b.stringify :=
      ⟨fun _ _ _ => le_trans⟩
    refine List.Perm.eq_of_pairwise (fun a b ha hb hab hba => ?_)
      (List.pairwise_insertionSort (fun a b : Payload => stringLe a.stringify b.stringify) _)
      (List.pairwise_insertionSort (fun a b : Payload => stringLe a.stringify b.stringify) _)
      (hitems.trans (hperm.trans hothers'.symm))
    exact stringify_inj (h a (hitems.mem_iff.mp ha)) (hothers b (hothers'.mem_iff.mp hb))
      (units_injective (le_antisymm hab hba))

section

variable {r s : RecipeValues}

lemma memberOf_field (r : RecipeValues) (hstores : name ≠ "stores") (hitems : name ≠ "items") :
    memberOf (.object r.members) name = (r.fields.get name).map PayloadValue.json := by
  unfold memberOf membersOf RecipeValues.members
  rw [List.lookup_append, members_lookup]
  simp [List.lookup_cons, beq_eq_false_iff_ne.mpr hstores, beq_eq_false_iff_ne.mpr hitems]

lemma recipeKeyText_eq (r : RecipeValues) : recipeKeyText (.object r.members) =
    jsonLexicon.print (.array [r.content.key.1.json, r.content.key.2.json]) := by
  have hjson (value : Option PayloadValue) :
      (value.map PayloadValue.json).getD .null = (value.getD .null).json := by
    cases value <;> rfl
  rw [recipeKeyText, memberOf_field r (by decide) (by decide),
    memberOf_field r (by decide) (by decide), hjson, hjson]
  rfl

lemma getD_plain {payload : Payload} (h : payload.Plain) (name numeral : String) :
    (payload.get name).getD .null ≠ .number numeral := by
  cases hget : payload.get name with
  | none => exact nofun
  | some value => exact get_plain h hget numeral

lemma recipeKeyText_iff (hr : r.Plain) (hs : s.Plain) :
    recipeKeyText (.object r.members) = recipeKeyText (.object s.members) ↔
      r.content.key = s.content.key := by
  rw [recipeKeyText_eq, recipeKeyText_eq]
  constructor
  · intro h
    have hkeys := Value.array.inj (Lexicon.print_injective h)
    simp only [List.cons.injEq, and_true] at hkeys
    exact Prod.ext
      (PayloadValue.json_inj (getD_plain hr.fields _) (getD_plain hs.fields _) hkeys.1)
      (PayloadValue.json_inj (getD_plain hr.fields _) (getD_plain hs.fields _) hkeys.2)
  · intro h
    rw [h]

section

variable (hr : r.Plain) (hs : s.Plain)
  (hrNames : ∀ entry ∈ r.fields, entry.1 ≠ "items" ∧ entry.1 ≠ "stores")
  (hsNames : ∀ entry ∈ s.fields, entry.1 ≠ "items" ∧ entry.1 ≠ "stores")

include hrNames

lemma ownMembers_eq : ownMembers (.object r.members) = r.fields.members := by
  unfold ownMembers membersOf RecipeValues.members
  rw [List.filter_append]
  have hfields : r.fields.members.filter
      (fun member => member.1 ≠ "items" ∧ member.1 ≠ "stores") = r.fields.members := by
    refine List.filter_eq_self.mpr fun member hmember => ?_
    obtain ⟨entry, hentry, rfl⟩ := List.mem_map.mp hmember
    exact decide_eq_true (hrNames entry hentry)
  rw [hfields]
  simp

lemma fields_lookup_none (h : name = "items" ∨ name = "stores") :
    r.fields.members.lookup name = none := by
  rw [List.lookup_eq_none_iff]
  intro member hmember
  obtain ⟨entry, hentry, rfl⟩ := List.mem_map.mp hmember
  rw [bne_iff_ne]
  rcases h with rfl | rfl
  · exact (hrNames entry hentry).1.symm
  · exact (hrNames entry hentry).2.symm

lemma memberOf_items : memberOf (.object r.members) "items" =
    some (.array (r.sortedItems.map fun item => .object item.members)) := by
  unfold memberOf membersOf RecipeValues.members
  rw [List.lookup_append, fields_lookup_none hrNames (.inl rfl)]
  rfl

lemma memberOf_stores : memberOf (.object r.members) "stores" =
    some (.array (r.stores.map .string)) := by
  unfold memberOf membersOf RecipeValues.members
  rw [List.lookup_append, fields_lookup_none hrNames (.inr rfl)]
  rfl

include hsNames

lemma stores_iff : stringifyMember (.object r.members) "stores" =
    stringifyMember (.object s.members) "stores" ↔ r.content.stores = s.content.stores := by
  have hstring : Function.Injective (Value.string : String → Value String JsonNumber) :=
    fun _ _ => Value.string.inj
  rw [stringifyMember, stringifyMember, memberOf_stores hrNames, memberOf_stores hsNames]
  rw [show r.content.stores = s.content.stores ↔ r.stores = s.stores from
    sortStrings_distinct_iff.symm]
  constructor
  · intro h
    exact hstring.list_map (Value.array.inj (Lexicon.print_injective (Option.some.inj h)))
  · intro h
    rw [h]

include hr hs

lemma ownMembers_iff :
    jsonLexicon.print (.object (ownMembers (.object r.members))) =
      jsonLexicon.print (.object (ownMembers (.object s.members))) ↔
        r.content.fields = s.content.fields := by
  rw [ownMembers_eq hrNames, ownMembers_eq hsNames]
  constructor
  · intro h
    exact members_inj hr.fields hs.fields (Value.object.inj (Lexicon.print_injective h))
  · intro h
    rw [show r.fields = s.fields from h]

lemma items_iff : stringifyMember (.object r.members) "items" =
    stringifyMember (.object s.members) "items" ↔ r.content.items = s.content.items := by
  rw [stringifyMember, stringifyMember, memberOf_items hrNames, memberOf_items hsNames]
  rw [show r.content.items = s.content.items ↔ r.sortedItems = s.sortedItems from
    (sortByText_iff hr.items hs.items).symm]
  constructor
  · intro h
    exact map_members_inj (sortedItems_plain hr) (sortedItems_plain hs)
      (Value.array.inj (Lexicon.print_injective (Option.some.inj h)))
  · intro h
    rw [h]

lemma mem_changedRecipeParts (field : CostCardChangeField) :
    field ∈ changedRecipeParts (.object r.members) (.object s.members) ↔
      (field = .recipesFields ∧ r.content.fields ≠ s.content.fields) ∨
      (field = .recipesItems ∧ r.content.items ≠ s.content.items) ∨
      (field = .recipesStores ∧ r.content.stores ≠ s.content.stores) := by
  have hone (p : Prop) [Decidable p] (part : CostCardChangeField) :
      field ∈ (if p then [part] else []) ↔ field = part ∧ p := by
    split <;> simp_all
  unfold changedRecipeParts
  rw [List.mem_append, List.mem_append, hone, hone, hone, ne_eq, ne_eq, ne_eq,
    ownMembers_iff hr hs hrNames hsNames, items_iff hr hs hrNames hsNames,
    stores_iff hrNames hsNames, or_assoc]

end

end

/-! ### The report of two cards -/

lemma mem_content_recipes {c : CardValues} {recipe : RecipeContent} :
    recipe ∈ c.content.recipes ↔ ∃ r ∈ c.recipes, r.content = recipe := by
  simp [CardValues.content]

lemma memberOf_card (c : CardValues) :
    (memberOf (.object c.members) "card").getD .null = .object c.card.members := rfl

lemma memberOf_recipes (c : CardValues) : (memberOf (.object c.members) "recipes").getD .null =
    .array (c.sortedRecipes.map fun recipe => .object recipe.members) := rfl

lemma same_key_iff {c d : CardValues} (p : RecipeContent → RecipeContent → Prop) :
    (∃ r ∈ c.recipes, ∃ s ∈ d.recipes, r.content.key = s.content.key ∧
      p r.content s.content) ↔
    ∃ old ∈ c.content.recipes, ∃ recipe ∈ d.content.recipes, old.key = recipe.key ∧
      p old recipe := by
  simp only [mem_content_recipes]
  constructor
  · rintro ⟨r, hr, s, hs, h⟩
    exact ⟨_, ⟨r, hr, rfl⟩, _, ⟨s, hs, rfl⟩, h⟩
  · rintro ⟨_, ⟨r, hr, rfl⟩, _, ⟨s, hs, rfl⟩, h⟩
    exact ⟨r, hr, s, hs, h⟩

def keyedRecipes (c : CardValues) : List (Text × Value String JsonNumber) :=
  c.sortedRecipes.map fun r => (recipeKeyText (.object r.members), .object r.members)

lemma mem_sortedRecipes {c : CardValues} {r : RecipeValues} :
    r ∈ c.sortedRecipes ↔ r ∈ c.recipes := (sortByText_perm _ _).mem_iff

section

variable {c d : CardValues} (hc : c.Sound) (hd : d.Sound)
  (hcKeys : (c.content.recipes.map RecipeContent.key).Nodup)
  (hdKeys : (d.content.recipes.map RecipeContent.key).Nodup)

include hc hcKeys

lemma keyedRecipes_nodup : ((keyedRecipes c).map Prod.fst).Nodup := by
  have hkeys : (c.sortedRecipes.map fun r => r.content.key).Nodup := by
    have hperm := (sortByText_perm RecipeValues.text c.recipes).map fun r => r.content.key
    refine hperm.nodup_iff.mpr ?_
    rw [CardValues.content, Multiset.map_coe, Multiset.coe_nodup, List.map_map] at hcKeys
    exact hcKeys
  rw [keyedRecipes, List.map_map]
  refine List.Nodup.map_on (fun r hr s hs heq => ?_) hkeys.of_map
  exact List.inj_on_of_nodup_map hkeys hr hs ((recipeKeyText_iff
    (sortedRecipes_plain hc.toPlain r hr) (sortedRecipes_plain hc.toPlain s hs)).mp heq)

lemma recipeEntries_eq : recipeEntries (.object c.members) = keyedRecipes c := by
  have hkeeps : KeepsKey (Prod.fst : Text × Value String JsonNumber → Text) Prod.fst
      (fun _ entry => entry) := fun _ _ _ => rfl
  have hnodup := keyedRecipes_nodup hc hcKeys
  unfold recipeEntries mapOf
  rw [memberOf_recipes, itemsOf, List.map_map]
  exact (grouped_of_nodup hkeeps hnodup).trans (List.map_id _)

lemma lookup_keyed {r s : RecipeValues} (hs : s.Plain) (hr : r ∈ c.recipes)
    (hkey : r.content.key = s.content.key) :
    (keyedRecipes c).lookup (recipeKeyText (.object s.members)) = some (.object r.members) := by
  refine lookup_of_mem (keyedRecipes_nodup hc hcKeys)
    (List.mem_map.mpr ⟨r, mem_sortedRecipes.mpr hr, ?_⟩)
  rw [(recipeKeyText_iff (hc.recipes r hr) hs).mpr hkey]

omit hcKeys in
lemma lookup_keyed_none {s : RecipeValues} (hs : s.Plain) :
    ((keyedRecipes c).lookup (recipeKeyText (.object s.members))).isNone = true ↔
      ∀ old ∈ c.content.recipes, old.key ≠ s.content.key := by
  rw [Option.isNone_iff_eq_none, List.lookup_eq_none_iff]
  constructor
  · intro h old hold heq
    obtain ⟨r, hr, rfl⟩ := mem_content_recipes.mp hold
    have hne := h _ (List.mem_map.mpr ⟨r, mem_sortedRecipes.mpr hr, rfl⟩)
    rw [bne_iff_ne] at hne
    exact hne ((recipeKeyText_iff (hc.recipes r hr) hs).mpr heq).symm
  · intro h entry hentry
    obtain ⟨r, hr, rfl⟩ := List.mem_map.mp hentry
    have hr := mem_sortedRecipes.mp hr
    rw [bne_iff_ne]
    intro heq
    exact h _ (mem_content_recipes.mpr ⟨r, hr, rfl⟩)
      ((recipeKeyText_iff (hc.recipes r hr) hs).mp heq.symm)

include hd

omit hcKeys in
lemma any_missing : ((keyedRecipes d).any fun entry =>
      ((keyedRecipes c).lookup entry.1).isNone) = true ↔
    ∃ recipe ∈ d.content.recipes, ∀ old ∈ c.content.recipes, old.key ≠ recipe.key := by
  rw [List.any_eq_true]
  constructor
  · rintro ⟨entry, hentry, hnone⟩
    obtain ⟨s, hs, rfl⟩ := List.mem_map.mp hentry
    have hs := mem_sortedRecipes.mp hs
    exact ⟨s.content, mem_content_recipes.mpr ⟨s, hs, rfl⟩,
      (lookup_keyed_none hc (hd.recipes s hs)).mp hnone⟩
  · rintro ⟨recipe, hrecipe, hnone⟩
    obtain ⟨s, hs, rfl⟩ := mem_content_recipes.mp hrecipe
    exact ⟨_, List.mem_map.mpr ⟨s, mem_sortedRecipes.mpr hs, rfl⟩,
      (lookup_keyed_none hc (hd.recipes s hs)).mpr hnone⟩

lemma mem_changedRecipes (field : CostCardChangeField) :
    field ∈ (keyedRecipes d).flatMap (changedRecipe (keyedRecipes c)) ↔
      ∃ r ∈ c.recipes, ∃ s ∈ d.recipes, r.content.key = s.content.key ∧
        field ∈ changedRecipeParts (.object r.members) (.object s.members) := by
  rw [List.mem_flatMap]
  constructor
  · rintro ⟨entry, hentry, hfield⟩
    obtain ⟨s, hs, rfl⟩ := List.mem_map.mp hentry
    have hs := mem_sortedRecipes.mp hs
    by_cases hfound : ∃ r ∈ c.recipes, r.content.key = s.content.key
    · obtain ⟨r, hr, hkey⟩ := hfound
      rw [changedRecipe, lookup_keyed hc hcKeys (hd.recipes s hs) hr hkey] at hfield
      exact ⟨r, hr, s, hs, hkey, hfield⟩
    · have hnone := (lookup_keyed_none hc (hd.recipes s hs)).mpr fun old hold heq => by
        obtain ⟨r, hr, rfl⟩ := mem_content_recipes.mp hold
        exact hfound ⟨r, hr, heq⟩
      rw [changedRecipe, Option.isNone_iff_eq_none.mp hnone] at hfield
      cases hfield
  · rintro ⟨r, hr, s, hs, hkey, hfield⟩
    refine ⟨_, List.mem_map.mpr ⟨s, mem_sortedRecipes.mpr hs, rfl⟩, ?_⟩
    rw [changedRecipe, lookup_keyed hc hcKeys (hd.recipes s hs) hr hkey]
    exact hfield

omit hcKeys in
lemma mem_changedCard (name : String) :
    name ∈ (c.card.members.map Prod.fst).filter (fun key =>
      !strictlyEqual (memberOf (.object c.card.members) key)
        (memberOf (.object d.card.members) key)) ↔ c.card.get name ≠ d.card.get name := by
  have hequal : strictlyEqual (memberOf (.object c.card.members) name)
      (memberOf (.object d.card.members) name) = true ↔ c.card.get name = d.card.get name := by
    unfold memberOf membersOf
    rw [members_lookup, members_lookup]
    exact strictlyEqual_json (fun _ => get_plain hc.card) fun _ => get_plain hd.card
  have hnames {c : CardValues} (h : c.Sound) :
      c.card.map Prod.fst = (scopeFields .card).map (·.canonicalName) :=
    names_of_values (values_of_mapM h.row.choose_spec)
  have hmembers : c.card.members.map Prod.fst = c.card.map Prod.fst := by
    rw [Payload.members, List.map_map]
    rfl
  rw [List.mem_filter, Bool.not_eq_true', ← Bool.not_eq_true, hequal, hmembers]
  refine and_iff_right_of_imp fun hne => ?_
  by_contra hnone
  have hnone' : name ∉ d.card.map Prod.fst := by
    rw [hnames hd, ← hnames hc]
    exact hnone
  have habsent {payload : Payload} (h : name ∉ payload.map Prod.fst) :
      payload.get name = none := by
    refine List.lookup_eq_none_iff.mpr fun entry hentry => ?_
    rw [bne_iff_ne]
    rintro rfl
    exact h (List.mem_map_of_mem hentry)
  exact hne ((habsent hnone).trans (habsent hnone').symm)

include hdKeys

/-- The report names just the parts in which the cards differ. -/
theorem mem_changedFields (field : CostCardChangeField) :
    field ∈ changedFields (.object c.members) (.object d.members) ↔
      Differs c.content d.content field := by
  have hone (p : Prop) [Decidable p] (part : CostCardChangeField) :
      field ∈ (if p then [part] else []) ↔ field = part ∧ p := by
    split <;> simp_all
  have hcard : field ∈ (((c.card.members.map Prod.fst).filter fun key =>
      !strictlyEqual (memberOf (.object c.card.members) key)
        (memberOf (.object d.card.members) key)).map CostCardChangeField.card) ↔
      ∃ name, c.card.get name ≠ d.card.get name ∧ .card name = field := by
    rw [List.mem_map]
    exact exists_congr fun name => and_congr_left fun _ => mem_changedCard hc hd name
  have hrecipes : field ∈ (keyedRecipes d).flatMap (changedRecipe (keyedRecipes c)) ↔
      ∃ r ∈ c.recipes, ∃ s ∈ d.recipes, r.content.key = s.content.key ∧
        ((field = .recipesFields ∧ r.content.fields ≠ s.content.fields) ∨
          (field = .recipesItems ∧ r.content.items ≠ s.content.items) ∨
          (field = .recipesStores ∧ r.content.stores ≠ s.content.stores)) := by
    rw [mem_changedRecipes hc hd hcKeys]
    refine exists_congr fun r => and_congr_right fun hr => exists_congr fun s =>
      and_congr_right fun hs => and_congr_right fun _ => ?_
    exact mem_changedRecipeParts (hc.recipes r hr) (hd.recipes s hs) (hc.names r hr)
      (hd.names s hs) field
  unfold changedFields
  dsimp only
  rw [List.mem_eraseDups, memberOf_card, memberOf_card, recipeEntries_eq hc hcKeys,
    recipeEntries_eq hd hdKeys]
  rw [List.mem_append, List.mem_append, List.mem_append, hone, hone, any_missing hc hd,
    any_missing hd hc, hrecipes, show membersOf (.object c.card.members) = c.card.members from rfl,
    hcard]
  cases field with
  | card name =>
    simp only [reduceCtorEq, false_and, or_false, and_false, exists_false,
      CostCardChangeField.card.injEq, exists_eq_right, Differs]
    rfl
  | recipesAdded => simp [Differs]
  | recipesRemoved => simp [Differs]
  | recipesFields =>
    simp only [reduceCtorEq, false_and, or_false, and_false, exists_false, false_or, true_and]
    exact same_key_iff fun old recipe => old.fields ≠ recipe.fields
  | recipesItems =>
    simp only [reduceCtorEq, false_and, or_false, and_false, exists_false, false_or, true_and]
    exact same_key_iff fun old recipe => old.items ≠ recipe.items
  | recipesStores =>
    simp only [reduceCtorEq, false_and, or_false, and_false, exists_false, false_or, true_and]
    exact same_key_iff fun old recipe => old.stores ≠ recipe.stores
  | created => simp [Differs]
  | archivedAt => simp [Differs]

end

lemma cardValues_of_content {content : CardContent} (h : cardContent card = .ok content) :
    ∃ values, cardValues card = .ok values ∧ values.content = content := by
  rw [cardContent_eq] at h
  cases hvalues : cardValues card with
  | error message =>
    rw [hvalues] at h
    cases h
  | ok values =>
    rw [hvalues] at h
    exact ⟨values, rfl, Except.ok.inj h⟩

lemma card_eq_of_get {c d : CardValues} (hc : c.Sound) (hd : d.Sound)
    (h : ∀ name, c.content.card.get name = d.content.card.get name) :
    c.content.card = d.content.card := by
  obtain ⟨row, hrow⟩ := hc.row
  obtain ⟨row', hrow'⟩ := hd.row
  have hget (name : String) : c.card.get name = d.card.get name := h name
  change c.card = d.card
  rw [values_eq hrow, values_eq hrow']
  exact List.map_congr_left fun f _ => by rw [hget]

lemma get_filter_ne {other : String} (h : other ≠ name) (payload : Payload) :
    Payload.get (payload.filter fun entry => entry.1 ≠ name) other = payload.get other := by
  unfold Payload.get
  induction payload with
  | nil => rfl
  | cons entry payload ih =>
    by_cases hentry : entry.1 = name
    · have hne : other ≠ entry.1 := by
        rw [hentry]
        exact h
      rw [List.filter_cons_of_neg (by simpa using hentry), List.lookup_cons,
        beq_eq_false_iff_ne.mpr hne]
      exact ih
    · rw [List.filter_cons_of_pos (by simpa using hentry), List.lookup_cons, List.lookup_cons, ih]

/-- Where the recipes of a card in normal form have distinct types and names, so have the recipes
that it says. -/
lemma nodup_keys_of_normal (h : IsNormalCard card)
    (hkeys : (card.recipes.map CostCardRecipe.key).Nodup) {content : CardContent}
    (hcontent : cardContent card = .ok content) : (content.recipes.map RecipeContent.key).Nodup := by
  rw [cardContent_of_normal h] at hcontent
  cases hcontent
  rw [Multiset.map_coe, Multiset.coe_nodup, List.map_map]
  refine List.Nodup.map_on (fun recipe hrecipe other hother heq => ?_) hkeys.of_map
  have htext (recipe : CostCardRecipe) : recipe.key =
      (recipe.content.key.1.toText, recipe.content.key.2.toText) := by
    unfold CostCardRecipe.key CostCardRecipe.textOf RecipeContent.key CostCardRecipe.content
    dsimp only
    rw [get_filter_ne (by decide), get_filter_ne (by decide)]
  have hkey : recipe.content.key = other.content.key := heq
  exact List.inj_on_of_nodup_map hkeys hrecipe hother (by rw [htext, htext, hkey])

/-- The change report of two cards of one identity is empty exactly if they have one canonical text,
and then one hash, and it names just the parts in which they differ. -/
theorem changedCostCardFields_iff (before after : CanonicalCostCard) (x y : CardContent)
    (hx : cardContent before = .ok x) (hy : cardContent after = .ok y)
    (hidentity : before.identity = after.identity)
    (hbefore : (x.recipes.map RecipeContent.key).Nodup)
    (hafter : (y.recipes.map RecipeContent.key).Nodup) :
    ∃ changes, changedCostCardFields before after = .ok changes ∧
      (changes = [] ↔ canonicalizeCostCard before = canonicalizeCostCard after) ∧
      (changes = [] → ∀ sha256, hashCostCard sha256 before = hashCostCard sha256 after) ∧
      ∀ field, field ∈ changes ↔ Differs x y field := by
  obtain ⟨c, hc, rfl⟩ := cardValues_of_content hx
  obtain ⟨d, hd, rfl⟩ := cardValues_of_content hy
  have hcSound := cardValues_sound hc
  have hdSound := cardValues_sound hd
  have hctext := canonicalizeCostCard_ok.mpr ⟨c, hc, rfl⟩
  have hdtext := canonicalizeCostCard_ok.mpr ⟨d, hd, rfl⟩
  have hmem := mem_changedFields hcSound hdSound hbefore hafter
  have hsame : c.content.identity = d.content.identity := by
    have hidentityOf {card : CanonicalCostCard} {values : CardValues}
        (h : cardValues card = .ok values) : values.identity = card.identity := by
      obtain ⟨recipes, -, h⟩ := bind_ok.mp h
      obtain ⟨fields, -, h⟩ := bind_ok.mp h
      cases h
      rfl
    exact (hidentityOf hc).trans (hidentity.trans (hidentityOf hd).symm)
  have hempty : changedFields (.object c.members) (.object d.members) = [] ↔
      canonicalizeCostCard before = canonicalizeCostCard after := by
    rw [hctext, hdtext, Except.ok.injEq, card_text_iff hcSound.toPlain hdSound.toPlain,
      List.eq_nil_iff_forall_not_mem]
    constructor
    · intro hnone
      exact eq_of_not_differs hsame (card_eq_of_get hcSound hdSound) hbefore hafter
        fun field hfield => hnone field ((hmem field).mpr hfield)
    · intro heq field hfield
      have hdiffers := (hmem field).mp hfield
      rw [← heq] at hdiffers
      exact not_differs_self hbefore field hdiffers
  refine ⟨changedFields (.object c.members) (.object d.members), ?_, hempty, ?_, hmem⟩
  · rw [changedCostCardFields, hctext, hdtext]
    dsimp only [bind, Except.bind]
    rw [parseJson_text hcSound.toPlain, parseJson_text hdSound.toPlain]
    rfl
  · intro hnil sha256
    rw [hashCostCard, hashCostCard, hempty.mp hnil]

/-- The card of a row alone. -/
def rowCard (row : StructuredImportRow) : CanonicalCostCard :=
  ⟨rowIdentity "e" row, rowValues row .card, [rowRecipe row]⟩

lemma rowCard_normal {row : StructuredImportRow} (h : IsValid row) :
    IsNormalCard (rowCard row) := by
  refine ⟨rowValues_again h .card, fun recipe hrecipe => ?_⟩
  obtain rfl := List.mem_singleton.mp hrecipe
  refine ⟨rowValues_again h .recipe, rfl, fun item hitem => ?_⟩
  obtain rfl := List.mem_singleton.mp hitem
  exact rowValues_again h .item

/-- Flour is replaced by water. -/
theorem changed_item_reported : ∃ x y : CardContent,
    cardContent (rowCard (itemRow 2 "a" "flour")) = .ok x ∧
    cardContent (rowCard (itemRow 2 "a" "water")) = .ok y ∧
    ∃ changes, changedCostCardFields (rowCard (itemRow 2 "a" "flour"))
        (rowCard (itemRow 2 "a" "water")) = .ok changes ∧
      ∀ field, field ∈ changes ↔ Differs x y field := by
  have hvalid (item : String) (h : fieldErrors (itemRow 2 "a" item).payload = []) :
      IsNormalCard (rowCard (itemRow 2 "a" item)) := rowCard_normal h
  have hflour := hvalid "flour" (by decide +kernel)
  have hwater := hvalid "water" (by decide +kernel)
  have hx := cardContent_of_normal hflour
  have hy := cardContent_of_normal hwater
  obtain ⟨changes, hchanges, -, -, hmem⟩ := changedCostCardFields_iff _ _ _ _ hx hy
    (by decide +kernel) (nodup_keys_of_normal hflour (List.nodup_singleton _) hx)
    (nodup_keys_of_normal hwater (List.nodup_singleton _) hy)
  exact ⟨_, _, hx, hy, changes, hchanges, hmem⟩

end Import
end SmeDataCenter
