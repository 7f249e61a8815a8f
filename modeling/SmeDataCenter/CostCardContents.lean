import Mathlib.Data.Finset.Dedup
import SmeDataCenter.CostCards
import SmeDataCenter.Grouping
import SmeDataCenter.StableJson

/-!
# Contents of cost cards

What a cost card says: its identity, its own values, and its recipes, of which neither the order nor
the order of their items and stores matters. The canonical text of a card tells it by its content.
-/

namespace SmeDataCenter
namespace Import

open JsonStrings JsonNumbers JsonValues StableJson ScriptText Fallible

/-! ### Sorted texts -/

lemma units_injective {s t : String} (h : s.toList.flatMap codeUnits = t.toList.flatMap codeUnits) :
    s = t := by
  have hunits (s : String) : ofString s = (s.toList.flatMap codeUnits).map UInt16.ofNat := by
    rw [List.map_flatMap]
    rfl
  rw [← stored_ofString s, ← stored_ofString t, hunits, hunits, h]

lemma sortStrings_eq {texts others : List String} (h : texts.Perm others) :
    sortStrings texts = sortStrings others := by
  have htotal : Std.Total stringLe := ⟨fun _ _ => le_total _ _⟩
  have htrans : IsTrans String stringLe := ⟨fun _ _ _ => le_trans⟩
  refine List.Perm.eq_of_pairwise (fun a b _ _ hab hba => units_injective (le_antisymm hab hba))
    (List.pairwise_insertionSort stringLe _) (List.pairwise_insertionSort stringLe _) ?_
  exact (List.perm_insertionSort _ _).trans (h.trans (List.perm_insertionSort _ _).symm)

/-- `[...items].sort(compareCanonical)`, for items with these texts. -/
def sortByText {α : Type} (text : α → String) (items : List α) : List α :=
  items.insertionSort fun a b => stringLe (text a) (text b)

lemma sortByText_perm {α : Type} (text : α → String) (items : List α) :
    (sortByText text items).Perm items := List.perm_insertionSort _ items

lemma sortStrings_map {α : Type} (text : α → String) (items : List α) :
    sortStrings (items.map text) = (sortByText text items).map text :=
  (List.map_insertionSort _ _ text items fun _ _ _ _ => Iff.rfl).symm

lemma nodup_distinct : ∀ texts : List String, (distinct texts).Nodup
  | [] => List.nodup_nil
  | text :: texts => by
    have hrest := nodup_distinct (texts.filter fun other => !other == text)
    rw [distinct] at hrest ⊢
    rw [List.eraseDups_cons, List.nodup_cons, List.mem_eraseDups, List.mem_filter]
    exact ⟨by simp, hrest⟩
termination_by texts => texts.length
decreasing_by exact Nat.lt_succ_of_le (List.length_filter_le _ _)

lemma sortStrings_distinct_iff {texts others : List String} :
    sortStrings (distinct texts) = sortStrings (distinct others) ↔
      texts.toFinset = others.toFinset := by
  have hsort (texts : List String) (s : String) : s ∈ sortStrings (distinct texts) ↔ s ∈ texts := by
    rw [sortStrings, List.mem_insertionSort, distinct, List.mem_eraseDups]
  constructor
  · intro h
    ext s
    rw [List.mem_toFinset, List.mem_toFinset, ← hsort texts, h, hsort others]
  · intro h
    refine sortStrings_eq ((List.perm_ext_iff_of_nodup (nodup_distinct _) (nodup_distinct _)).mpr
      fun s => ?_)
    rw [distinct, distinct, List.mem_eraseDups, List.mem_eraseDups, ← List.mem_toFinset, h,
      List.mem_toFinset]

/-! ### Payloads as JSON -/

/-- No value of the payload is a numeral: numbers come as texts. -/
def Payload.Plain (payload : Payload) : Prop :=
  ∀ entry ∈ payload, ∀ numeral, entry.2 ≠ .number numeral

def PayloadValue.json : PayloadValue → Value String JsonNumber
  | .null => .null
  | .text s => .string s
  | .boolean b => .bool b
  | .number _ => .null

def Payload.members (payload : Payload) : List (String × Value String JsonNumber) :=
  payload.map fun entry => (entry.1, entry.2.json)

lemma PayloadValue.stringify_toList {value : PayloadValue}
    (h : ∀ numeral, value ≠ .number numeral) :
    value.stringify.toList = jsonLexicon.print value.json := by
  cases value with
  | null => rfl
  | text s => exact quote_toList s
  | boolean b => cases b <;> rfl
  | number numeral => exact absurd rfl (h numeral)

lemma PayloadValue.json_inj {value other : PayloadValue} (h : ∀ numeral, value ≠ .number numeral)
    (hother : ∀ numeral, other ≠ .number numeral) (heq : value.json = other.json) :
    value = other := by
  cases value <;> cases other <;> simp_all [PayloadValue.json]

lemma members_inj {payload other : Payload} (h : payload.Plain) (hother : other.Plain)
    (heq : payload.members = other.members) : payload = other := by
  unfold Payload.members at heq
  induction payload generalizing other with
  | nil =>
    cases other with
    | nil => rfl
    | cons entry other => cases heq
  | cons entry payload ih =>
    cases other with
    | nil => cases heq
    | cons entry' other =>
      unfold Payload.Plain at h hother
      rw [List.forall_mem_cons] at h hother
      obtain ⟨hhead, htail⟩ := List.cons.inj heq
      obtain ⟨hname, hvalue⟩ := Prod.mk.inj hhead
      rw [ih h.2 hother.2 htail]
      congr 1
      exact Prod.ext hname (PayloadValue.json_inj h.1 hother.1 hvalue)

/-- `name:value` -/
def memberText (member : String × Value String JsonNumber) : Text :=
  '"' :: jsonLexicon.string member.1 ++ ':' :: jsonLexicon.print member.2

lemma printItems_eq (items : List (Value String JsonNumber)) :
    jsonLexicon.printItems items = [','].intercalate (items.map jsonLexicon.print) := by
  induction items with
  | nil => rfl
  | cons item items ih =>
    cases items with
    | nil => simp [Lexicon.printItems]
    | cons next items =>
      rw [Lexicon.printItems, ih, List.map_cons, List.map_cons, List.map_cons,
        List.intercalate_cons_cons]
      simp

lemma printMembers_eq (members : List (String × Value String JsonNumber)) :
    jsonLexicon.printMembers members = [','].intercalate (members.map memberText) := by
  induction members with
  | nil => rfl
  | cons member members ih =>
    cases members with
    | nil => simp [Lexicon.printMembers, memberText]
    | cons next members =>
      rw [Lexicon.printMembers, ih, List.map_cons, List.map_cons, List.map_cons,
        List.intercalate_cons_cons]
      simp [memberText]

lemma array_toList {items : List (Value String JsonNumber)} {texts : List String}
    (h : texts.map String.toList = items.map jsonLexicon.print) :
    ("[" ++ ",".intercalate texts ++ "]").toList = jsonLexicon.print (.array items) := by
  rw [String.toList_append, String.toList_append, String.toList_intercalate, h, Lexicon.print,
    printItems_eq]
  rfl

lemma object_toList {members : List (String × Value String JsonNumber)} {texts : List String}
    (h : texts.map String.toList = members.map memberText) :
    ("\x7b" ++ ",".intercalate texts ++ "\x7d").toList = jsonLexicon.print (.object members) := by
  rw [String.toList_append, String.toList_append, String.toList_intercalate, h, Lexicon.print,
    printMembers_eq]
  rfl

lemma memberText_of {name text : String} {value : Value String JsonNumber}
    (h : text.toList = jsonLexicon.print value) :
    (quote name ++ ":" ++ text).toList = memberText (name, value) := by
  rw [String.toList_append, String.toList_append, quote_toList, h]
  simp [memberText, jsonLexicon]

lemma memberTexts_of {payload : Payload} (h : payload.Plain) :
    (payload.map fun entry => quote entry.1 ++ ":" ++ entry.2.stringify).map String.toList =
      payload.members.map memberText := by
  rw [Payload.members, List.map_map, List.map_map]
  exact List.map_congr_left fun entry hentry =>
    memberText_of (PayloadValue.stringify_toList (h entry hentry))

lemma Payload.stringify_toList {payload : Payload} (h : payload.Plain) :
    payload.stringify.toList = jsonLexicon.print (.object payload.members) :=
  object_toList (memberTexts_of h)

lemma stringify_inj {payload other : Payload} (h : payload.Plain) (hother : other.Plain)
    (heq : payload.stringify = other.stringify) : payload = other := by
  have htext := congrArg String.toList heq
  rw [Payload.stringify_toList h, Payload.stringify_toList hother] at htext
  exact members_inj h hother (Value.object.inj (Lexicon.print_injective htext))

/-! ### What a card says -/

/-- The names that a text of stores lists. -/
def storeNames (text : Option String) : List String :=
  (((text.getD "").toList.splitOnP isStoreSeparator).map (String.ofList <| Text.trim ·)).filter
    (· ≠ "")

/-- A recipe: its own values but for the text of the stores, its stores, and its items. -/
structure RecipeContent where
  fields : Payload
  stores : Finset String
  items : Multiset Payload

structure CardContent where
  identity : CostCardIdentity
  card : Payload
  recipes : Multiset RecipeContent

def recipeStoresText (recipe : CostCardRecipe) : Option String :=
  (recipe.fields.get "source_stores_text").bind PayloadValue.text?

def recipeContent (recipe : CostCardRecipe) : Except String RecipeContent := do
  let fields ← costCardScopedValues recipe.fields .recipe
  let items ← recipe.items.mapM fun item => costCardScopedValues item.fields .item
  return ⟨fields.filter fun entry => entry.1 ≠ "source_stores_text",
    (storeNames (recipeStoresText recipe)).toFinset, items⟩

/-- What a card says, with its values normalized. -/
def cardContent (card : CanonicalCostCard) : Except String CardContent := do
  let recipes ← card.recipes.mapM recipeContent
  let fields ← costCardScopedValues card.card .card
  return ⟨card.identity, fields, recipes⟩

/-! ### Values in their order -/

/-- A recipe with its values normalized and its items in their order. -/
structure RecipeValues where
  fields : Payload
  names : List String
  items : List Payload

structure CardValues where
  identity : CostCardIdentity
  card : Payload
  recipes : List RecipeValues

def recipeValues (recipe : CostCardRecipe) : Except String RecipeValues := do
  let fields ← costCardScopedValues recipe.fields .recipe
  let items ← recipe.items.mapM fun item => costCardScopedValues item.fields .item
  return ⟨fields.filter fun entry => entry.1 ≠ "source_stores_text",
    storeNames (recipeStoresText recipe), items⟩

def cardValues (card : CanonicalCostCard) : Except String CardValues := do
  let recipes ← card.recipes.mapM recipeValues
  let fields ← costCardScopedValues card.card .card
  return ⟨card.identity, fields, recipes⟩

namespace RecipeValues

def content (r : RecipeValues) : RecipeContent := ⟨r.fields, r.names.toFinset, r.items⟩

def stores (r : RecipeValues) : List String := sortStrings (distinct r.names)

def sortedItems (r : RecipeValues) : List Payload := sortByText Payload.stringify r.items

def text (r : RecipeValues) : String :=
  "\x7b" ++ ",".intercalate (
    (r.fields.map fun entry => quote entry.1 ++ ":" ++ entry.2.stringify) ++
    ["\"stores\":[" ++ ",".intercalate (r.stores.map quote) ++ "]",
     "\"items\":[" ++ ",".intercalate (r.sortedItems.map Payload.stringify) ++ "]"]) ++ "\x7d"

def members (r : RecipeValues) : List (String × Value String JsonNumber) :=
  r.fields.members ++ [("stores", .array (r.stores.map .string)),
    ("items", .array (r.sortedItems.map fun item => .object item.members))]

structure Plain (r : RecipeValues) : Prop where
  fields : r.fields.Plain
  items : ∀ item ∈ r.items, item.Plain

end RecipeValues

def CostCardIdentity.payload (identity : CostCardIdentity) : Payload :=
  [("enterpriseKey", .text identity.enterpriseKey), ("sourceNamespace", .text "meituan"),
    ("spuId", .text identity.spuId), ("skuId", .text identity.skuId)]

namespace CardValues

def content (c : CardValues) : CardContent :=
  ⟨c.identity, c.card, c.recipes.map RecipeValues.content⟩

def sortedRecipes (c : CardValues) : List RecipeValues := sortByText RecipeValues.text c.recipes

def text (c : CardValues) : String :=
  "\x7b" ++ ",".intercalate [quote "identity" ++ ":" ++ c.identity.stringify,
    quote "card" ++ ":" ++ c.card.stringify,
    quote "recipes" ++ ":" ++
      ("[" ++ ",".intercalate (c.sortedRecipes.map RecipeValues.text) ++ "]")] ++ "\x7d"

def members (c : CardValues) : List (String × Value String JsonNumber) :=
  [("identity", .object c.identity.payload.members), ("card", .object c.card.members),
    ("recipes", .array (c.sortedRecipes.map fun recipe => .object recipe.members))]

structure Plain (c : CardValues) : Prop where
  card : c.card.Plain
  recipes : ∀ recipe ∈ c.recipes, recipe.Plain

end CardValues

/-! ### The canonical text of the values -/

lemma mapM_map_ok {α β γ : Type} {f : α → Except String β} {g : α → Except String γ} {h : β → γ}
    (hg : ∀ a, g a = (f a).map h) (items : List α) :
    items.mapM g = (items.mapM f).map (List.map h) := by
  induction items with
  | nil => rfl
  | cons a items ih =>
    rw [List.mapM_cons, List.mapM_cons, hg, ih]
    cases f a with
    | error e => rfl
    | ok b => cases items.mapM f <;> rfl

lemma canonicalRecipe_eq (recipe : CostCardRecipe) :
    canonicalRecipe recipe = (recipeValues recipe).map RecipeValues.text := by
  unfold canonicalRecipe recipeValues
  cases costCardScopedValues recipe.fields .recipe with
  | error e => rfl
  | ok fields =>
    have hitems := @mapM_map_ok _ _ _ (fun item : CostCardItem => costCardScopedValues item.fields
      .item) canonicalItem Payload.stringify (fun _ => rfl) recipe.items
    dsimp only [bind, Except.bind]
    rw [hitems]
    cases recipe.items.mapM fun item => costCardScopedValues item.fields .item with
    | error e => rfl
    | ok items =>
      dsimp only [Except.map, pure, Except.pure]
      rw [sortStrings_map]
      rfl

lemma canonicalizeCostCard_eq (card : CanonicalCostCard) :
    canonicalizeCostCard card = (cardValues card).map CardValues.text := by
  unfold canonicalizeCostCard cardValues
  rw [mapM_map_ok canonicalRecipe_eq]
  cases card.recipes.mapM recipeValues with
  | error e => rfl
  | ok recipes =>
    dsimp only [bind, Except.bind, Except.map]
    cases costCardScopedValues card.card .card with
    | error e => rfl
    | ok fields =>
      refine congrArg Except.ok ?_
      rw [sortStrings_map]
      apply String.toList_injective
      simp [CardValues.text, CardValues.sortedRecipes, quote_toList, escaped, escapePoint,
        escapeChar]

lemma recipeContent_eq (recipe : CostCardRecipe) :
    recipeContent recipe = (recipeValues recipe).map RecipeValues.content := by
  unfold recipeContent recipeValues
  cases costCardScopedValues recipe.fields .recipe with
  | error e => rfl
  | ok fields =>
    dsimp only [bind, Except.bind]
    cases recipe.items.mapM fun item => costCardScopedValues item.fields .item <;> rfl

lemma cardContent_eq (card : CanonicalCostCard) :
    cardContent card = (cardValues card).map CardValues.content := by
  unfold cardContent cardValues
  rw [mapM_map_ok recipeContent_eq]
  cases card.recipes.mapM recipeValues with
  | error e => rfl
  | ok recipes =>
    dsimp only [bind, Except.bind, Except.map]
    cases costCardScopedValues card.card .card <;> rfl

lemma sortedItems_plain {r : RecipeValues} (h : r.Plain) : ∀ item ∈ r.sortedItems, item.Plain :=
  fun item hitem => h.items item ((sortByText_perm _ _).mem_iff.mp hitem)

lemma quotes_toList (texts : List String) :
    (texts.map quote).map String.toList =
      (texts.map Value.string).map (jsonLexicon.print) := by
  rw [List.map_map, List.map_map]
  exact List.map_congr_left fun s _ => quote_toList s

lemma RecipeValues.text_toList {r : RecipeValues} (h : r.Plain) :
    r.text.toList = jsonLexicon.print (.object r.members) := by
  have hitems : (r.sortedItems.map Payload.stringify).map String.toList =
      (r.sortedItems.map fun item => .object item.members).map jsonLexicon.print := by
    rw [List.map_map, List.map_map]
    exact List.map_congr_left fun item hitem =>
      Payload.stringify_toList (sortedItems_plain h item hitem)
  have hstoresText : ("\"stores\":[" ++ ",".intercalate (r.stores.map quote) ++ "]") =
      quote "stores" ++ ":" ++ ("[" ++ ",".intercalate (r.stores.map quote) ++ "]") := by
    apply String.toList_injective
    simp [quote_toList, escaped, escapePoint, escapeChar]
  have hitemsText : ("\"items\":[" ++ ",".intercalate (r.sortedItems.map Payload.stringify) ++
      "]") = quote "items" ++ ":" ++
        ("[" ++ ",".intercalate (r.sortedItems.map Payload.stringify) ++ "]") := by
    apply String.toList_injective
    simp [quote_toList, escaped, escapePoint, escapeChar]
  have hstores := @memberText_of "stores" _ _ (array_toList (quotes_toList r.stores))
  have hitems := @memberText_of "items" _ _ (array_toList hitems)
  refine object_toList ?_
  rw [List.map_append, RecipeValues.members, List.map_append, memberTexts_of h.fields,
    hstoresText, hitemsText]
  simp only [List.map_cons, List.map_nil, hstores, hitems]

lemma identity_plain (identity : CostCardIdentity) : identity.payload.Plain := by
  unfold Payload.Plain CostCardIdentity.payload
  simp

lemma sortedRecipes_plain {c : CardValues} (h : c.Plain) : ∀ r ∈ c.sortedRecipes, r.Plain :=
  fun r hr => h.recipes r ((sortByText_perm _ _).mem_iff.mp hr)

lemma CardValues.text_toList {c : CardValues} (h : c.Plain) :
    c.text.toList = jsonLexicon.print (.object c.members) := by
  have hidentity : c.identity.stringify.toList =
      jsonLexicon.print (.object c.identity.payload.members) :=
    Payload.stringify_toList (identity_plain c.identity)
  have hcard := Payload.stringify_toList h.card
  have hrecipes : ("[" ++ ",".intercalate (c.sortedRecipes.map RecipeValues.text) ++ "]").toList =
      jsonLexicon.print (.array (c.sortedRecipes.map fun recipe => .object recipe.members)) := by
    refine array_toList ?_
    rw [List.map_map, List.map_map]
    exact List.map_congr_left fun r hr => RecipeValues.text_toList (sortedRecipes_plain h r hr)
  refine object_toList ?_
  simp only [CardValues.members, List.map_cons, List.map_nil, memberText_of hidentity,
    memberText_of hcard, memberText_of hrecipes]

/-! ### The text tells the content -/

lemma identity_inj {identity other : CostCardIdentity}
    (h : identity.payload.members = other.payload.members) : identity = other := by
  have hpayload := members_inj (identity_plain _) (identity_plain _) h
  obtain ⟨enterpriseKey, spuId, skuId⟩ := identity
  obtain ⟨enterpriseKey', spuId', skuId'⟩ := other
  simpa [CostCardIdentity.payload] using hpayload

lemma map_members_inj {items others : List Payload} (h : ∀ item ∈ items, item.Plain)
    (hothers : ∀ other ∈ others, other.Plain)
    (heq : (items.map fun item => (.object item.members : Value String JsonNumber)) =
      others.map fun other => .object other.members) : items = others := by
  induction items generalizing others with
  | nil =>
    cases others with
    | nil => rfl
    | cons other others => cases heq
  | cons item items ih =>
    cases others with
    | nil => cases heq
    | cons other others =>
      rw [List.forall_mem_cons] at h hothers
      obtain ⟨hhead, htail⟩ := List.cons.inj heq
      rw [members_inj h.1 hothers.1 (Value.object.inj hhead), ih h.2 hothers.2 htail]

lemma recipe_members_inj {r s : RecipeValues} (hr : r.Plain) (hs : s.Plain)
    (h : r.members = s.members) :
    r.fields = s.fields ∧ r.stores = s.stores ∧ r.sortedItems = s.sortedItems := by
  unfold RecipeValues.members at h
  obtain ⟨hfields, htail⟩ := List.append_inj' h rfl
  simp only [List.cons.injEq, Prod.mk.injEq, Value.array.injEq, true_and, and_true] at htail
  have hstring : Function.Injective (Value.string : String → Value String JsonNumber) :=
    fun _ _ => Value.string.inj
  exact ⟨members_inj hr.fields hs.fields hfields, hstring.list_map htail.1,
    map_members_inj (sortedItems_plain hr) (sortedItems_plain hs) htail.2⟩

lemma recipe_text_iff {r s : RecipeValues} (hr : r.Plain) (hs : s.Plain) :
    r.text = s.text ↔ r.content = s.content := by
  constructor
  · intro h
    have htext := congrArg String.toList h
    rw [RecipeValues.text_toList hr, RecipeValues.text_toList hs] at htext
    obtain ⟨hfields, hstores, hitems⟩ :=
      recipe_members_inj hr hs (Value.object.inj (Lexicon.print_injective htext))
    have hsorted := sortByText_perm Payload.stringify s.items
    rw [← show r.sortedItems = sortByText Payload.stringify s.items from hitems] at hsorted
    have hperm : r.items.Perm s.items := (sortByText_perm _ _).symm.trans hsorted
    rw [RecipeValues.content, RecipeValues.content, hfields, Multiset.coe_eq_coe.mpr hperm,
      sortStrings_distinct_iff.mp hstores]
  · intro h
    unfold RecipeValues.content at h
    simp only [RecipeContent.mk.injEq, Multiset.coe_eq_coe] at h
    obtain ⟨hfields, hnames, hperm⟩ := h
    have hstores : r.stores = s.stores := sortStrings_distinct_iff.mpr hnames
    have hitems : r.sortedItems.map Payload.stringify = s.sortedItems.map Payload.stringify := by
      unfold RecipeValues.sortedItems
      rw [← sortStrings_map, ← sortStrings_map]
      exact sortStrings_eq (hperm.map _)
    rw [RecipeValues.text, RecipeValues.text, hfields, hstores, hitems]

/-- Cards of one text have one content, and the other way round. -/
theorem card_text_iff {c d : CardValues} (hc : c.Plain) (hd : d.Plain) :
    c.text = d.text ↔ c.content = d.content := by
  constructor
  · intro h
    have htext := congrArg String.toList h
    rw [CardValues.text_toList hc, CardValues.text_toList hd] at htext
    have hmembers := Value.object.inj (Lexicon.print_injective htext)
    unfold CardValues.members at hmembers
    simp only [List.cons.injEq, Prod.mk.injEq, Value.array.injEq, Value.object.injEq, true_and,
      and_true] at hmembers
    obtain ⟨hidentity, hcard, hrecipes⟩ := hmembers
    have hsorted : (c.sortedRecipes.map RecipeValues.text).Perm
        (d.sortedRecipes.map RecipeValues.text) := by
      refine Grouping.perm_map_of (fun r hr s hs h => ?_) (List.Perm.of_eq hrecipes)
      apply String.toList_injective
      rw [RecipeValues.text_toList (sortedRecipes_plain hc r hr),
        RecipeValues.text_toList (sortedRecipes_plain hd s hs), h]
    have htexts : (c.recipes.map RecipeValues.text).Perm (d.recipes.map RecipeValues.text) :=
      ((sortByText_perm RecipeValues.text c.recipes).map _).symm.trans
        (hsorted.trans ((sortByText_perm RecipeValues.text d.recipes).map _))
    have hcontents := Grouping.perm_map_of
      (fun r hr s hs h => (recipe_text_iff (hc.recipes r hr) (hd.recipes s hs)).mp h) htexts
    rw [CardValues.content, CardValues.content, identity_inj hidentity,
      members_inj hc.card hd.card hcard, Multiset.coe_eq_coe.mpr hcontents]
  · intro h
    unfold CardValues.content at h
    simp only [CardContent.mk.injEq, Multiset.coe_eq_coe] at h
    obtain ⟨hidentity, hcard, hcontents⟩ := h
    have htexts := Grouping.perm_map_of
      (fun r hr s hs h => (recipe_text_iff (hc.recipes r hr) (hd.recipes s hs)).mpr h) hcontents
    have hsorted : c.sortedRecipes.map RecipeValues.text =
        d.sortedRecipes.map RecipeValues.text := by
      unfold CardValues.sortedRecipes
      rw [← sortStrings_map, ← sortStrings_map]
      exact sortStrings_eq htexts
    rw [CardValues.text, CardValues.text, hidentity, hcard, hsorted]

/-! ### Cards in normal form -/

/-- A recipe whose values stay as they are when they are normalized, with the stores that its text
lists. -/
structure IsNormalRecipe (recipe : CostCardRecipe) : Prop where
  fields : costCardScopedValues recipe.fields .recipe = .ok recipe.fields
  stores : recipe.stores = costCardStores (recipeStoresText recipe)
  items : ∀ item ∈ recipe.items, costCardScopedValues item.fields .item = .ok item.fields

structure IsNormalCard (c : CanonicalCostCard) : Prop where
  card : costCardScopedValues c.card .card = .ok c.card
  recipes : ∀ recipe ∈ c.recipes, IsNormalRecipe recipe

/-- What a recipe in normal form says is what it holds. -/
def CostCardRecipe.content (recipe : CostCardRecipe) : RecipeContent where
  fields := recipe.fields.filter fun entry => entry.1 ≠ "source_stores_text"
  stores := recipe.stores.toFinset
  items := recipe.items.map (·.fields)

lemma costCardStores_toFinset (text : Option String) :
    (costCardStores text).toFinset = (storeNames text).toFinset := by
  ext s
  rw [List.mem_toFinset, List.mem_toFinset, costCardStores, sortStrings, List.mem_insertionSort,
    distinct, List.mem_eraseDups]
  rfl

lemma mapM_eq_map {ε α β : Type} {f : α → Except ε β} {g : α → β} {items : List α}
    (h : ∀ a ∈ items, f a = .ok (g a)) : items.mapM f = .ok (items.map g) := by
  rw [mapM_ok, List.forall₂_map_right_iff, List.forall₂_same]
  exact h

lemma recipeContent_of_normal {recipe : CostCardRecipe} (h : IsNormalRecipe recipe) :
    recipeContent recipe = .ok recipe.content := by
  unfold recipeContent CostCardRecipe.content
  rw [h.fields, mapM_eq_map h.items, h.stores, costCardStores_toFinset]
  rfl

lemma cardContent_of_normal {card : CanonicalCostCard} (h : IsNormalCard card) :
    cardContent card = .ok ⟨card.identity, card.card, card.recipes.map CostCardRecipe.content⟩ := by
  unfold cardContent
  rw [h.card, mapM_eq_map fun recipe hrecipe => recipeContent_of_normal (h.recipes recipe hrecipe)]
  rfl

end Import
end SmeDataCenter
