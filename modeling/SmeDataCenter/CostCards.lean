import SmeDataCenter.CanonicalJson
import SmeDataCenter.Fallible
import SmeDataCenter.StructuredRegistry
import SmeDataCenter.TextPatterns

/-!
# Cost cards

A cost card belongs to a dish of an enterprise: its own fields, and recipes with the items that
go into them. The upload has one row for each item, which repeats the fields of the card and of
the recipe. Values are brought to one form before they are compared, written or hashed.
-/

namespace SmeDataCenter
namespace Import

open StructuredQuery (StructuredFieldType)

/-! ### Payloads -/

/-- A value in the payload of a row. A number is kept as the text it was read from. -/
inductive PayloadValue where
  | null
  | text (s : String)
  | boolean (b : Bool)
  | number (numeral : String)
  deriving DecidableEq

/-- `String(value)` -/
def PayloadValue.toText : PayloadValue → String
  | .null => "null"
  | .text s => s
  | .boolean b => if b then "true" else "false"
  | .number numeral => numeral

/-- `JSON.stringify(value)` -/
def PayloadValue.stringify : PayloadValue → String
  | .text s => quote s
  | value => value.toText

/-- A record of values by their names. -/
abbrev Payload := List (String × PayloadValue)

def Payload.get (payload : Payload) (name : String) : Option PayloadValue := payload.lookup name

/-- `payload[name] = value` -/
def Payload.set (payload : Payload) (name : String) (value : PayloadValue) : Payload :=
  (name, value) :: payload.filter fun entry => entry.1 ≠ name

@[simp] lemma Payload.get_set_self (payload : Payload) (name : String) (value : PayloadValue) :
    (payload.set name value).get name = some value := by
  simp [Payload.get, Payload.set]

lemma Payload.get_set_ne {name other : String} (h : other ≠ name) (payload : Payload)
    (value : PayloadValue) : (payload.set name value).get other = payload.get other := by
  unfold Payload.get Payload.set
  rw [List.lookup_cons, beq_eq_false_iff_ne.mpr h]
  dsimp only
  induction payload with
  | nil => rfl
  | cons entry payload ih =>
    by_cases hentry : entry.1 = name
    · rw [List.filter_cons_of_neg (by simpa using hentry), List.lookup_cons,
        beq_eq_false_iff_ne.mpr (by rw [hentry]; exact h)]
      exact ih
    · rw [List.filter_cons_of_pos (by simpa using hentry), List.lookup_cons, List.lookup_cons, ih]

/-- `JSON.stringify`, with the names in their order. -/
def Payload.stringify (payload : Payload) : String :=
  "\x7b" ++ ",".intercalate (payload.map fun entry =>
    quote entry.1 ++ ":" ++ entry.2.stringify) ++ "\x7d"

/-- `value.trim()` -/
def trimText (s : String) : String := String.ofList (Text.trim s.toList)

/-- `value.length` -/
def unitLength (s : String) : ℕ := (s.toList.flatMap codeUnits).length

/-! ### The upload -/

inductive CostCardScope where
  | card
  | recipe
  | item
  deriving DecidableEq

structure CostCardUploadField where
  sourceColumn : String
  canonicalName : String
  scope : CostCardScope
  type : StructuredFieldType
  nullable : Bool
  maxLength : Option ℕ := none
  deriving DecidableEq

/-- `COST_CARD_UPLOAD_SCHEMA` -/
def costCardUploadSchema : List CostCardUploadField :=
  [⟨"菜品SPU编码", "spu_id", .card, .string, false, some 64⟩,
   ⟨"菜品SKU编码", "sku_id", .card, .string, false, some 64⟩,
   ⟨"菜品名称", "dish_name", .card, .string, false, some 512⟩,
   ⟨"菜品分类", "base_category_name", .card, .string, true, some 255⟩,
   ⟨"加工份数", "production_quantity", .recipe, .decimal, true, none⟩,
   ⟨"售卖价", "sale_price", .card, .decimal, true, none⟩,
   ⟨"菜品规格", "specification_name", .card, .string, true, some 255⟩,
   ⟨"是否配置成本卡", "has_cost_card", .card, .boolean, false, none⟩,
   ⟨"物品成本(含税)", "material_cost_tax_included", .recipe, .decimal, true, none⟩,
   ⟨"其他成本", "other_cost", .recipe, .decimal, true, none⟩,
   ⟨"目标毛利率", "target_gross_margin_rate", .recipe, .percent, true, none⟩,
   ⟨"配方类型", "recipe_type", .recipe, .string, false, some 32767⟩,
   ⟨"配方名称", "recipe_name", .recipe, .string, false, some 32767⟩,
   ⟨"合计成本(含税)", "total_cost_tax_included", .recipe, .decimal, true, none⟩,
   ⟨"成本卡毛利率(含税)", "gross_margin_rate_tax_included", .recipe, .percent, true, none⟩,
   ⟨"物品编码", "item_code", .item, .string, false, some 32767⟩,
   ⟨"物品名称", "item_name", .item, .string, false, some 32767⟩,
   ⟨"规格型号", "item_spec", .item, .string, true, some 32767⟩,
   ⟨"成本单位", "cost_unit", .item, .string, false, some 32767⟩,
   ⟨"净料量", "net_quantity", .item, .decimal, true, none⟩,
   ⟨"净料率", "yield_rate", .item, .percent, true, none⟩,
   ⟨"毛料量", "gross_quantity", .item, .decimal, true, none⟩,
   ⟨"消耗单价(含税)", "consumption_unit_price_tax_included", .item, .decimal, true, none⟩,
   ⟨"消耗金额(含税)", "consumption_amount_tax_included", .item, .decimal, true, none⟩,
   ⟨"是否主料", "is_main_material", .item, .boolean, true, none⟩,
   ⟨"是否半成品", "is_semi_finished", .item, .boolean, true, none⟩,
   ⟨"是否制备", "is_prepared", .item, .boolean, true, none⟩,
   ⟨"是否辅助单位扣减料", "uses_auxiliary_unit_deduction", .item, .boolean, true, none⟩,
   ⟨"基准单位", "base_unit", .item, .string, true, some 32767⟩,
   ⟨"基准单位毛料量", "base_gross_quantity", .item, .decimal, true, none⟩,
   ⟨"替代料", "substitute_material_text", .item, .string, true, some 32767⟩,
   ⟨"门店是否可修改", "store_can_modify", .recipe, .boolean, true, none⟩,
   ⟨"菜品是否删除", "source_dish_deleted", .card, .boolean, false, none⟩,
   ⟨"备注", "remark", .recipe, .string, true, some 32767⟩,
   ⟨"适用门店", "source_stores_text", .recipe, .string, true, some 32767⟩]

/-- The fields of a scope. -/
def scopeFields (scope : CostCardScope) : List CostCardUploadField :=
  costCardUploadSchema.filter fun f => f.scope = scope

/-! ### Values -/

/-- The groups of `/^([+-]?)(?:(\d+)(?:\.(\d*))?|\.(\d+))(%?)$/`. -/
structure DecimalParts where
  negative : Bool
  integer : Text
  fraction : Text
  percentSign : Bool

/-- The end of a numeral: the percent sign, or nothing. -/
def readPercentSign : Text → Option Bool
  | [] => some false
  | ['%'] => some true
  | _ => none

def readUnsignedDecimal (negative : Bool) (text : Text) : Option DecimalParts :=
  let integer := text.takeWhile Text.isDigit
  match integer, text.dropWhile Text.isDigit with
  | [], '.' :: rest =>
    let fraction := rest.takeWhile Text.isDigit
    if fraction = [] then none
    else (readPercentSign (rest.dropWhile Text.isDigit)).map
      fun sign => ⟨negative, ['0'], fraction, sign⟩
  | [], _ => none
  | integer, '.' :: rest =>
    (readPercentSign (rest.dropWhile Text.isDigit)).map
      fun sign => ⟨negative, integer, rest.takeWhile Text.isDigit, sign⟩
  | integer, rest => (readPercentSign rest).map fun sign => ⟨negative, integer, [], sign⟩

def readDecimalParts : Text → Option DecimalParts
  | '-' :: text => readUnsignedDecimal true text
  | '+' :: text => readUnsignedDecimal false text
  | text => readUnsignedDecimal false text

/-- `replace(/^0+(?=\d)/, "")` on digits. -/
def stripLeadingZeros : Text → Text
  | '0' :: c :: rest => stripLeadingZeros (c :: rest)
  | text => text

/-- `replace(/0+$/, "")` -/
def stripTrailingZeros (text : Text) : Text := text.rdropWhile (· = '0')

/-- The digits before and after the point, with two places moved for a percent sign. -/
def movePoint (percentSign : Bool) (integer fraction : Text) : Text × Text :=
  if percentSign then
    let digits := List.replicate (3 - integer.length) '0' ++ integer
    (digits.dropLast.dropLast, digits.drop (digits.length - 2) ++ fraction)
  else (integer, fraction)

/-- Exact base-10 normalization. -/
def normalizeCostCardDecimal (value : String) (percent : Bool) : Except String String :=
  match readDecimalParts (Text.trim value.toList) with
  | none => .error "Expected an exact decimal value."
  | some parts =>
    if parts.percentSign && !percent then .error "Expected an exact decimal value."
    else
      let moved := movePoint parts.percentSign (stripLeadingZeros parts.integer) parts.fraction
      let integer := stripLeadingZeros moved.1
      let fraction := stripTrailingZeros moved.2
      if 6 < fraction.length || (if percent then 6 else 14) < integer.length then
        .error ("Decimal precision exceeds DECIMAL(" ++ (if percent then "12" else "20") ++ ",6).")
      else
        let zero := integer = ['0'] && fraction = []
        .ok (String.ofList ((if parts.negative && !zero then ['-'] else []) ++ integer ++
          (if fraction = [] then [] else '.' :: fraction)))

/-- What a field that is not there, or is blank, becomes. -/
def blankCostCardValue (field : CostCardUploadField) : Except String PayloadValue :=
  if field.nullable then .ok .null else .error (field.canonicalName ++ " is required.")

/-- A text that is not blank. -/
def normalizeCostCardText (field : CostCardUploadField) (value : String) :
    Except String PayloadValue :=
  let text := trimText value
  if text = "" then blankCostCardValue field
  else match field.type with
    | .boolean =>
      if text = "是" || text = "true" then .ok (.boolean true)
      else if text = "否" || text = "false" then .ok (.boolean false)
      else .error (field.canonicalName ++ " must be 是/否 or true/false.")
    | .decimal => (normalizeCostCardDecimal text false).map .text
    | .percent => (normalizeCostCardDecimal text true).map .text
    | _ =>
      if field.maxLength.getD 32767 < unitLength text then
        .error (field.canonicalName ++ " is too long.")
      else .ok (.text (if field.canonicalName = "source_stores_text" then value else text))

def normalizeCostCardValue (field : CostCardUploadField) (value : Option PayloadValue) :
    Except String PayloadValue :=
  match value with
  | none | some .null => blankCostCardValue field
  | some (.number _) => .error (field.canonicalName ++ " must preserve source text.")
  | some value => normalizeCostCardText field value.toText

/-! ### Stores -/

/-- `/[,，;；\r\n、]/` -/
def isStoreSeparator (c : Char) : Bool := [',', '，', ';', '；', '\r', '\n', '、'].contains c

def costCardStores (text : Option String) : List String :=
  sortStrings (distinct (((((text.getD "").toList.splitOnP isStoreSeparator).map
    (String.ofList <| Text.trim ·))).filter (· ≠ "")))

/-- The text of a value that is a text. -/
def PayloadValue.text? : PayloadValue → Option String
  | .text s => some s
  | _ => none

/-! ### Cards -/

structure CostCardSourceLocation where
  sourceSheetIndex : ℕ
  sourceSheetName : String
  sourceRowNumber : ℕ

/-- The identity of a card. Its namespace is always `meituan`. -/
structure CostCardIdentity where
  enterpriseKey : String
  spuId : String
  skuId : String
  deriving DecidableEq

def CostCardIdentity.stringify (identity : CostCardIdentity) : String :=
  Payload.stringify [("enterpriseKey", .text identity.enterpriseKey),
    ("sourceNamespace", .text "meituan"), ("spuId", .text identity.spuId),
    ("skuId", .text identity.skuId)]

structure CostCardItem where
  /-- The values of the scope `item`. -/
  fields : Payload
  source : Option CostCardSourceLocation := none
  /-- Each row retains its own source rendering when equivalent store sets differ. -/
  sourceStoresText : Option PayloadValue := none

structure CostCardRecipe where
  /-- The values of the scope `recipe`. -/
  fields : Payload
  stores : List String
  items : List CostCardItem

/-- A field of a recipe, as a text. -/
def CostCardRecipe.textOf (recipe : CostCardRecipe) (name : String) : String :=
  ((recipe.fields.get name).getD .null).toText

structure CanonicalCostCard where
  identity : CostCardIdentity
  /-- The values of the scope `card`. -/
  card : Payload
  recipes : List CostCardRecipe

def costCardScopedValues (row : Payload) (scope : CostCardScope) : Except String Payload :=
  (scopeFields scope).mapM fun f =>
    (normalizeCostCardValue f (row.get f.canonicalName)).map fun value => (f.canonicalName, value)

/-- The recipe of a row, with the row's item. -/
def costCardRecipeFromRow (row : Payload) : Except String CostCardRecipe := do
  let fields ← costCardScopedValues row .recipe
  let item ← costCardScopedValues row .item
  .ok
    { fields
      stores := costCardStores ((fields.get "source_stores_text").bind PayloadValue.text?)
      items := [⟨item, none, none⟩] }

/-- `costCardFromRows` for one row. -/
def costCardFromRow (row : Payload) (identity : CostCardIdentity) :
    Except String CanonicalCostCard := do
  let card ← costCardScopedValues row .card
  let recipe ← costCardRecipeFromRow row
  .ok ⟨identity, card, [recipe]⟩

/-! ### The canonical text -/

/-- The text of an item, by which items are sorted. -/
def canonicalItem (item : CostCardItem) : Except String String :=
  (costCardScopedValues item.fields .item).map Payload.stringify

/-- The text of a recipe, by which recipes are sorted. The stores stand as a set, and the text
that lists them in the source is left out. -/
def canonicalRecipe (recipe : CostCardRecipe) : Except String String := do
  let fields ← costCardScopedValues recipe.fields .recipe
  let items ← recipe.items.mapM canonicalItem
  let stores := costCardStores ((recipe.fields.get "source_stores_text").bind PayloadValue.text?)
  let named := (fields.filter fun entry => entry.1 ≠ "source_stores_text").map fun entry =>
    quote entry.1 ++ ":" ++ entry.2.stringify
  .ok ("\x7b" ++ ",".intercalate (named ++
    ["\"stores\":[" ++ ",".intercalate (stores.map quote) ++ "]",
     "\"items\":[" ++ ",".intercalate (sortStrings items) ++ "]"]) ++ "\x7d")

def canonicalizeCostCard (card : CanonicalCostCard) : Except String String := do
  let recipes ← card.recipes.mapM canonicalRecipe
  let fields ← costCardScopedValues card.card .card
  .ok ("\x7b\"identity\":" ++ card.identity.stringify ++ ",\"card\":" ++ fields.stringify ++
    ",\"recipes\":[" ++ ",".intercalate (sortStrings recipes) ++ "]\x7d")

def hashCostCard (sha256 : String → String) (card : CanonicalCostCard) : Except String String :=
  (canonicalizeCostCard card).map sha256

end Import
end SmeDataCenter
