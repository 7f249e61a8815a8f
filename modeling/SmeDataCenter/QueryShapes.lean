import SmeDataCenter.Fallible
import SmeDataCenter.StableJson
import SmeDataCenter.StructuredQueryCompiler

/-!
# The shapes of queries

The value that a query is hashed by. Two queries that were validated have one stable text only if
they are the same query, asked with the same authorization.
-/

namespace SmeDataCenter
namespace StructuredQuery

open JsonNumbers JsonValues StableJson Fallible

/-! ### The value of a shape -/

section

variable (digits : ℚ → JsonNumber)

mutual

/-- A body as `JSON.stringify` reads it, which has no infinite numbers. -/
def jsonValue {N : Type} (leaf : JsonNumber → N) : QueryJson → Value String N
  | .null => .null
  | .bool b => .bool b
  | .num (.finite q) => .number (leaf (digits q))
  | .num (.infinite _) => .null
  | .str s => .string s
  | .arr items => .array (jsonItems leaf items)
  | .obj fields => .object (jsonFields leaf fields)

def jsonItems {N : Type} (leaf : JsonNumber → N) : List QueryJson → List (Value String N)
  | [] => []
  | item :: items => jsonValue leaf item :: jsonItems leaf items

def jsonFields {N : Type} (leaf : JsonNumber → N) :
    List (String × QueryJson) → List (String × Value String N)
  | [] => []
  | (name, value) :: fields => (name, jsonValue leaf value) :: jsonFields leaf fields

end

def numberValue (q : ℚ) : Value String Leaf := .number (.number (digits q))

/-- A string, or `null`. -/
def nullableValue : Option String → Value String Leaf
  | none => .null
  | some s => .string s

/-- A string, or `undefined`. -/
def optionalValue : Option String → Value String Leaf
  | none => .number .undefined
  | some s => .string s

mutual

def filterMembers : FilterNode → List (String × Value String Leaf)
  | .field field op value =>
    [("field", .string field), ("op", .string op), ("value", jsonValue digits .number value)]
  | .and nodes => [("and", .array (filterValues nodes))]
  | .or nodes => [("or", .array (filterValues nodes))]
  | .not node => [("not", .object (filterMembers node))]

def filterValues : List FilterNode → List (Value String Leaf)
  | [] => []
  | node :: nodes => .object (filterMembers node) :: filterValues nodes

end

def filterValue : Option FilterNode → Value String Leaf
  | none => .null
  | some node => .object (filterMembers digits node)

def SortDirection.text : SortDirection → String
  | .asc => "asc"
  | .desc => "desc"

def sortValue (item : SortSpec) : Value String Leaf :=
  .object [("field", .string item.field), ("direction", .string item.direction.text)]

def aggregateMembers : AggregateSpec → List (String × Value String Leaf)
  | .count field aliasName =>
    [("op", .string "count"), ("field", optionalValue field), ("as", optionalValue aliasName)]
  | .onField op field aliasName =>
    [("op", .string op.text), ("field", .string field), ("as", optionalValue aliasName)]
  | .weightedAvg field weightField aliasName =>
    [("op", .string "weightedAvg"), ("field", .string field), ("weightField", .string weightField),
      ("as", optionalValue aliasName)]

def pageValue (page : PageSpec) : Value String Leaf :=
  .object [("limit", numberValue digits page.limit), ("cursor", nullableValue page.cursor)]

def queryValue (query : NormalizedQuery) : Value String Leaf :=
  .object [("dataset", .string query.dataset.text), ("select", .array (query.select.map .string)),
    ("filter", filterValue digits query.filter), ("sort", .array (query.sort.map sortValue)),
    ("page", pageValue digits query.page), ("groupBy", .array (query.groupBy.map .string)),
    ("aggregates", .array (query.aggregates.map fun spec => .object (aggregateMembers spec)))]

def versionMembers : Option String → List (String × Value String Leaf)
  | none => []
  | some version => [("authorizationVersion", .string version)]

def shapeMembers (shape : QueryShape) : List (String × Value String Leaf) :=
  [("orgId", .string shape.orgId), ("employeeId", nullableValue shape.employeeId),
    ("clearance", numberValue digits shape.clearance)] ++
      (versionMembers shape.authorizationVersion ++ [("query", queryValue digits shape.query)])

/-- What `hashQueryShape` covers, as its stable text. -/
def shapeText (localeLe : String → String → Bool) (shape : QueryShape) : Text :=
  stableJson localeLe (.object (shapeMembers digits shape))

end

/-! ### What a validated shape holds -/

/-- The numbers in the value of a condition. -/
def operandNumbers : QueryJson → List ℚ
  | .num (.finite q) => [q]
  | .arr items => items.flatMap fun
    | .num (.finite q) => [q]
    | _ => []
  | _ => []

mutual

def FilterNode.numbers : FilterNode → List ℚ
  | .field _ _ value => operandNumbers value
  | .and nodes => nodesNumbers nodes
  | .or nodes => nodesNumbers nodes
  | .not node => node.numbers

def nodesNumbers : List FilterNode → List ℚ
  | [] => []
  | node :: nodes => node.numbers ++ nodesNumbers nodes

end

def QueryShape.numbers (shape : QueryShape) : List ℚ :=
  (shape.clearance : ℚ) :: (shape.query.page.limit : ℚ) ::
    (shape.query.filter.map FilterNode.numbers).getD []

/-- A value that a condition compares with. -/
inductive IsScalar (isNumber : ℚ → Prop) : QueryJson → Prop
  | null : IsScalar isNumber .null
  | str (s : String) : IsScalar isNumber (.str s)
  | num {q : ℚ} (h : isNumber q) : IsScalar isNumber (.num (.finite q))

inductive IsOperand (isNumber : ℚ → Prop) : QueryJson → Prop
  | scalar {value : QueryJson} (h : IsScalar isNumber value) : IsOperand isNumber value
  | arr {items : List QueryJson} (h : ∀ item ∈ items, IsScalar isNumber item) :
      IsOperand isNumber (.arr items)

inductive IsChecked (isNumber : ℚ → Prop) : FilterNode → Prop
  | field (field op : String) {value : QueryJson} (h : IsOperand isNumber value) :
      IsChecked isNumber (.field field op value)
  | and {nodes : List FilterNode} (h : ∀ node ∈ nodes, IsChecked isNumber node) :
      IsChecked isNumber (.and nodes)
  | or {nodes : List FilterNode} (h : ∀ node ∈ nodes, IsChecked isNumber node) :
      IsChecked isNumber (.or nodes)
  | not {node : FilterNode} (h : IsChecked isNumber node) : IsChecked isNumber (.not node)

variable {value : QueryJson}

section

variable {isNumber : ℚ → Prop} {parseable : String → Bool}

lemma isScalar_of_validate {type : StructuredFieldType}
    (h : validateScalarType parseable type value = .ok ())
    (hnumbers : ∀ q, value = .num (.finite q) → isNumber q) : IsScalar isNumber value := by
  have refused : (if type.isNumeric then refuse .typeMismatch "Numeric value is required." []
      else refuse .typeMismatch "String value is required." [] : Except QueryError Unit) ≠
        .ok () := by split <;> exact nofun
  cases value with
  | null => exact .null
  | str s => exact .str s
  | num n =>
    cases n with
    | finite q => exact .num (hnumbers q rfl)
    | infinite negative => exact absurd h refused
  | bool b => exact absurd h refused
  | arr items => exact absurd h refused
  | obj fields => exact absurd h refused

lemma validated_of_forM {type : StructuredFieldType} {items : List QueryJson}
    (h : items.forM (validateScalarType parseable type) = .ok ()) :
    ∀ item ∈ items, validateScalarType parseable type item = .ok () := by
  induction items with
  | nil => exact nofun
  | cons item items ih =>
    obtain ⟨⟨⟩, hitem, hitems⟩ := bind_ok.mp h
    intro other hother
    rcases List.mem_cons.mp hother with rfl | hother
    · exact hitem
    · exact ih hitems other hother

lemma scalars_of_validate {type : StructuredFieldType} {items : List QueryJson}
    (h : ∀ item ∈ items, validateScalarType parseable type item = .ok ())
    (hnumbers : ∀ q ∈ operandNumbers (.arr items), isNumber q) :
    IsOperand isNumber (.arr items) := by
  refine .arr fun item hitem => isScalar_of_validate (h item hitem) ?_
  rintro q rfl
  exact hnumbers q (List.mem_flatMap.mpr ⟨_, hitem, List.mem_singleton_self q⟩)

lemma isOperand_of_validate {field : StructuredFieldRegistryEntry} {op : String}
    (h : validateConditionValue parseable field op value = .ok ())
    (hnumbers : ∀ q ∈ operandNumbers value, isNumber q) : IsOperand isNumber value := by
  unfold validateConditionValue at h
  split at h
  · split at h
    · next start stop =>
      obtain ⟨⟨⟩, hstart, hstop⟩ := bind_ok.mp h
      refine @scalars_of_validate isNumber parseable field.type _ (fun item hitem => ?_) hnumbers
      rcases List.mem_pair.mp hitem with rfl | rfl
      · exact hstart
      · exact hstop
    · cases h
  split at h
  · split at h
    · next items =>
      split at h
      · cases h
      · exact scalars_of_validate (validated_of_forM h) hnumbers
    · cases h
  · split at h
    · cases h
    · next harr =>
      refine .scalar (isScalar_of_validate h ?_)
      rintro q rfl
      exact hnumbers q (List.mem_singleton_self q)

mutual

/-- A filter that was validated compares with texts and numbers only. -/
theorem isChecked_of_validate : ∀ {fields : Fields} {node : FilterNode},
    validateFilter parseable fields node = .ok () → (∀ q ∈ node.numbers, isNumber q) →
      IsChecked isNumber node
  | fields, .field field op value, h, hnumbers => by
    rw [validateFilter] at h
    obtain ⟨entry, -, h⟩ := bind_ok.mp h
    obtain ⟨⟨⟩, -, h⟩ := bind_ok.mp h
    obtain ⟨⟨⟩, -, h⟩ := bind_ok.mp h
    exact .field field op (isOperand_of_validate h hnumbers)
  | fields, .and nodes, h, hnumbers => by
    rw [validateFilter] at h
    rw [FilterNode.numbers] at hnumbers
    exact .and (areChecked_of_validate h hnumbers)
  | fields, .or nodes, h, hnumbers => by
    rw [validateFilter] at h
    rw [FilterNode.numbers] at hnumbers
    exact .or (areChecked_of_validate h hnumbers)
  | fields, .not node, h, hnumbers => by
    rw [validateFilter] at h
    rw [FilterNode.numbers] at hnumbers
    exact .not (isChecked_of_validate h hnumbers)

theorem areChecked_of_validate : ∀ {fields : Fields} {nodes : List FilterNode},
    validateFilters parseable fields nodes = .ok () → (∀ q ∈ nodesNumbers nodes, isNumber q) →
      ∀ node ∈ nodes, IsChecked isNumber node
  | _, [], _, _ => nofun
  | fields, node :: nodes, h, hnumbers => by
    rw [validateFilters] at h
    obtain ⟨⟨⟩, hnode, hnodes⟩ := bind_ok.mp h
    rw [nodesNumbers] at hnumbers
    have hchecked := isChecked_of_validate hnode fun q hq =>
      hnumbers q (List.mem_append_left _ hq)
    have hrest := areChecked_of_validate hnodes fun q hq =>
      hnumbers q (List.mem_append_right _ hq)
    intro other hother
    rcases List.mem_cons.mp hother with rfl | hother
    · exact hchecked
    · exact hrest other hother

end

end

/-! ### One text for one shape -/

section

variable {isNumber : ℚ → Prop} {digits : ℚ → JsonNumber} {localeLe : String → String → Bool}

lemma number_inj (hdigits : Set.InjOn digits {q | isNumber q}) {q r : ℚ} (hq : isNumber q)
    (hr : isNumber r)
    (h : stable localeLe (numberValue digits q) = stable localeLe (numberValue digits r)) :
    q = r := by
  rw [numberValue, numberValue, stable, stable] at h
  exact hdigits hq hr (Leaf.number.inj (Value.number.inj h))

lemma nullable_inj {s t : Option String}
    (h : stable localeLe (nullableValue s) = stable localeLe (nullableValue t)) : s = t := by
  cases s <;> cases t <;> simp_all [nullableValue, stable]

lemma optional_inj {s t : Option String}
    (h : stable localeLe (optionalValue s) = stable localeLe (optionalValue t)) : s = t := by
  cases s <;> cases t <;> simp_all [optionalValue, stable]

lemma string_inj {s t : String}
    (h : stable localeLe (.string s : Value String Leaf) = stable localeLe (.string t)) :
    s = t := by
  rw [stable, stable] at h
  exact Value.string.inj h

lemma stable_scalar (h : IsScalar isNumber value) :
    stable localeLe (jsonValue digits Leaf.number value) = jsonValue digits Leaf.number value := by
  cases h <;> rw [jsonValue, stable]

lemma jsonItems_eq {N : Type} (leaf : JsonNumber → N) (items : List QueryJson) :
    jsonItems digits leaf items = items.map (jsonValue digits leaf) := by
  induction items with
  | nil => rw [jsonItems, List.map_nil]
  | cons item items ih => rw [jsonItems, ih, List.map_cons]

lemma scalar_inj (hdigits : Set.InjOn digits {q | isNumber q}) {other : QueryJson}
    (hvalue : IsScalar isNumber value) (hother : IsScalar isNumber other)
    (h : jsonValue digits Leaf.number value = jsonValue digits Leaf.number other) :
    value = other := by
  cases hvalue with
  | null => cases hother <;> simp_all [jsonValue]
  | str s => cases hother <;> simp_all [jsonValue]
  | num hq =>
    cases hother with
    | null => simp [jsonValue] at h
    | str s => simp [jsonValue] at h
    | num hr =>
      rw [jsonValue, jsonValue] at h
      rw [hdigits hq hr (Leaf.number.inj (Value.number.inj h))]

lemma map_inj {α : Type} {f : α → Value String Leaf} {items others : List α} {p : α → Prop}
    (hitems : ∀ item ∈ items, p item) (hothers : ∀ other ∈ others, p other)
    (hinj : ∀ item ∈ items, ∀ other, p other → stable localeLe (f item) = stable localeLe (f other) →
      item = other)
    (h : stable localeLe (.array (items.map f)) = stable localeLe (.array (others.map f))) :
    items = others := by
  have hmap := stable_array h
  rw [List.map_map, List.map_map] at hmap
  clear h
  induction items generalizing others with
  | nil =>
    cases others with
    | nil => rfl
    | cons other others => cases hmap
  | cons item items ih =>
    cases others with
    | nil => cases hmap
    | cons other others =>
      rw [List.forall_mem_cons] at hitems hothers hinj
      obtain ⟨hhead, htail⟩ := List.cons.inj hmap
      rw [hinj.1 other hothers.1 hhead, ih hitems.2 hothers.2 hinj.2 htail]

lemma strings_inj {items others : List String}
    (h : stable localeLe (.array (items.map .string) : Value String Leaf) =
      stable localeLe (.array (others.map .string))) : items = others :=
  map_inj (p := fun _ => True) (fun _ _ => trivial) (fun _ _ => trivial)
    (fun _ _ _ _ h => string_inj h) h

lemma operand_inj (hdigits : Set.InjOn digits {q | isNumber q}) {other : QueryJson}
    (hvalue : IsOperand isNumber value) (hother : IsOperand isNumber other)
    (h : stable localeLe (jsonValue digits Leaf.number value) =
      stable localeLe (jsonValue digits Leaf.number other)) :
    value = other := by
  cases hvalue with
  | scalar hvalue =>
    cases hother with
    | scalar hother =>
      rw [stable_scalar hvalue, stable_scalar hother] at h
      exact scalar_inj hdigits hvalue hother h
    | arr hitems =>
      rw [stable_scalar hvalue] at h
      cases hvalue <;> simp [jsonValue, stable] at h
  | arr hitems =>
    cases hother with
    | scalar hother =>
      rw [stable_scalar hother] at h
      cases hother <;> simp [jsonValue, stable] at h
    | arr hothers =>
      rw [jsonValue, jsonValue, jsonItems_eq, jsonItems_eq] at h
      congr 1
      refine map_inj hitems hothers (fun item hitem other hother h => ?_) h
      have hitem := hitems item hitem
      rw [stable_scalar hitem, stable_scalar hother] at h
      exact scalar_inj hdigits hitem hother h

lemma filterValues_eq (nodes : List FilterNode) :
    filterValues digits nodes = nodes.map fun node => .object (filterMembers digits node) := by
  induction nodes with
  | nil => rw [filterValues, List.map_nil]
  | cons node nodes ih => rw [filterValues, ih, List.map_cons]

lemma filter_inj (hdigits : Set.InjOn digits {q | isNumber q}) {node other : FilterNode}
    (hnode : IsChecked isNumber node) (hother : IsChecked isNumber other)
    (h : stable localeLe (.object (filterMembers digits node)) =
      stable localeLe (.object (filterMembers digits other))) : node = other := by
  have hnames := stable_names h
  induction hnode generalizing other with
  | field field op hvalue =>
    cases hother with
    | field field' op' hvalue' =>
      rw [filterMembers, filterMembers] at h
      have hfield := stable_lookup h (by simp) "field" rfl rfl
      have hop := stable_lookup h (by simp) "op" rfl rfl
      have hoperand := stable_lookup h (by simp) "value" rfl rfl
      rw [string_inj hfield, string_inj hop, operand_inj hdigits hvalue hvalue' hoperand]
    | and => simpa [filterMembers] using hnames "and"
    | or => simpa [filterMembers] using hnames "or"
    | not => simpa [filterMembers] using hnames "not"
  | and hnodes ih =>
    cases hother with
    | and hothers =>
      rw [filterMembers, filterMembers, filterValues_eq, filterValues_eq] at h
      have hlist := stable_lookup h (by simp) "and" rfl rfl
      congr 1
      exact map_inj hnodes hothers (fun node hnode other hother h =>
        ih node hnode hother h (stable_names h)) hlist
    | field => simpa [filterMembers] using hnames "and"
    | or => simpa [filterMembers] using hnames "and"
    | not => simpa [filterMembers] using hnames "and"
  | or hnodes ih =>
    cases hother with
    | or hothers =>
      rw [filterMembers, filterMembers, filterValues_eq, filterValues_eq] at h
      have hlist := stable_lookup h (by simp) "or" rfl rfl
      congr 1
      exact map_inj hnodes hothers (fun node hnode other hother h =>
        ih node hnode hother h (stable_names h)) hlist
    | field => simpa [filterMembers] using hnames "or"
    | and => simpa [filterMembers] using hnames "or"
    | not => simpa [filterMembers] using hnames "or"
  | not hnode ih =>
    cases hother with
    | not hother =>
      rw [filterMembers, filterMembers] at h
      have hinner := stable_lookup h (by simp) "not" rfl rfl
      rw [ih hother hinner (stable_names hinner)]
    | field => simpa [filterMembers] using hnames "not"
    | and => simpa [filterMembers] using hnames "not"
    | or => simpa [filterMembers] using hnames "not"

lemma sort_inj {item other : SortSpec}
    (h : stable localeLe (sortValue item) = stable localeLe (sortValue other)) : item = other := by
  obtain ⟨field, direction⟩ := item
  obtain ⟨field', direction'⟩ := other
  obtain rfl : field = field' := string_inj (stable_lookup h (by simp) "field" rfl rfl)
  have hdirection : direction.text = direction'.text :=
    string_inj (stable_lookup h (by simp) "direction" rfl rfl)
  cases direction <;> cases direction' <;> first | rfl | exact absurd hdirection (by decide)

lemma FieldAggregateOp.text_inj {op other : FieldAggregateOp} (h : op.text = other.text) :
    op = other := by
  cases op <;> cases other <;> first | rfl | exact absurd h (by decide)

lemma FieldAggregateOp.text_ne (op : FieldAggregateOp) :
    op.text ≠ "count" ∧ op.text ≠ "weightedAvg" := by
  cases op <;> decide

lemma aggregate_names (spec : AggregateSpec) :
    ((aggregateMembers spec).map Prod.fst).Nodup := by
  cases spec <;> simp [aggregateMembers]

lemma aggregate_inj {spec other : AggregateSpec}
    (h : stable localeLe (.object (aggregateMembers spec)) =
      stable localeLe (.object (aggregateMembers other))) : spec = other := by
  have hweight := stable_names h "weightField"
  have hnames := aggregate_names other
  cases spec with
  | count field aliasName =>
    cases other with
    | count field' aliasName' =>
      have hfield := stable_lookup h hnames "field" rfl rfl
      have halias := stable_lookup h hnames "as" rfl rfl
      rw [optional_inj hfield, optional_inj halias]
    | onField op field' aliasName' =>
      have hop := stable_lookup h hnames "op" rfl rfl
      exact absurd (string_inj hop).symm op.text_ne.1
    | weightedAvg => simp [aggregateMembers] at hweight
  | onField op field aliasName =>
    cases other with
    | count field' aliasName' =>
      have hop := stable_lookup h hnames "op" rfl rfl
      exact absurd (string_inj hop) op.text_ne.1
    | onField op' field' aliasName' =>
      have hop := stable_lookup h hnames "op" rfl rfl
      have hfield := stable_lookup h hnames "field" rfl rfl
      have halias := stable_lookup h hnames "as" rfl rfl
      rw [FieldAggregateOp.text_inj (string_inj hop), string_inj hfield, optional_inj halias]
    | weightedAvg => simp [aggregateMembers] at hweight
  | weightedAvg field weightField aliasName =>
    cases other with
    | count => simp [aggregateMembers] at hweight
    | onField => simp [aggregateMembers] at hweight
    | weightedAvg field' weightField' aliasName' =>
      have hfield := stable_lookup h hnames "field" rfl rfl
      have hweight := stable_lookup h hnames "weightField" rfl rfl
      have halias := stable_lookup h hnames "as" rfl rfl
      rw [string_inj hfield, string_inj hweight, optional_inj halias]

lemma dataset_inj {name other : StructuredDatasetName} (h : name.text = other.text) :
    name = other := by
  cases name <;> cases other <;> first | rfl | exact absurd h (by decide)

lemma page_inj (hdigits : Set.InjOn digits {q | isNumber q}) {page other : PageSpec}
    (hpage : isNumber page.limit) (hother : isNumber other.limit)
    (h : stable localeLe (pageValue digits page) = stable localeLe (pageValue digits other)) :
    page = other := by
  obtain ⟨limit, cursor⟩ := page
  obtain ⟨limit', cursor'⟩ := other
  have hlimit : (limit : ℚ) = limit' :=
    number_inj hdigits hpage hother (stable_lookup h (by simp) "limit" rfl rfl)
  obtain rfl : limit = limit' := by exact_mod_cast hlimit
  obtain rfl : cursor = cursor' := nullable_inj (stable_lookup h (by simp) "cursor" rfl rfl)
  rfl

/-- A filter of a validated query. -/
def IsCheckedFilter (isNumber : ℚ → Prop) (filter : Option FilterNode) : Prop :=
  ∀ node, filter = some node → IsChecked isNumber node

lemma optionalFilter_inj (hdigits : Set.InjOn digits {q | isNumber q})
    {filter other : Option FilterNode} (hfilter : IsCheckedFilter isNumber filter)
    (hother : IsCheckedFilter isNumber other)
    (h : stable localeLe (filterValue digits filter) = stable localeLe (filterValue digits other)) :
    filter = other := by
  cases filter with
  | none =>
    cases other with
    | none => rfl
    | some other => simp [filterValue, stable] at h
  | some node =>
    cases other with
    | none => simp [filterValue, stable] at h
    | some other => rw [filter_inj hdigits (hfilter node rfl) (hother other rfl) h]

lemma query_inj (hdigits : Set.InjOn digits {q | isNumber q}) {query other : NormalizedQuery}
    (hfilter : IsCheckedFilter isNumber query.filter)
    (hother : IsCheckedFilter isNumber other.filter) (hlimit : isNumber query.page.limit)
    (hlimit' : isNumber other.page.limit)
    (h : stable localeLe (queryValue digits query) = stable localeLe (queryValue digits other)) :
    query = other := by
  obtain ⟨dataset, select, filter, sort, page, groupBy, aggregates⟩ := query
  obtain ⟨dataset', select', filter', sort', page', groupBy', aggregates'⟩ := other
  obtain rfl : dataset = dataset' :=
    dataset_inj (string_inj (stable_lookup h (by simp) "dataset" rfl rfl))
  obtain rfl : select = select' := strings_inj (stable_lookup h (by simp) "select" rfl rfl)
  obtain rfl : filter = filter' :=
    optionalFilter_inj hdigits hfilter hother (stable_lookup h (by simp) "filter" rfl rfl)
  have hsort := stable_lookup h (by simp) "sort" rfl rfl
  obtain rfl : sort = sort' := @map_inj _ _ _ _ _ (fun _ => True) (fun _ _ => trivial)
    (fun _ _ => trivial) (fun _ _ _ _ h => sort_inj h) hsort
  obtain rfl : page = page' :=
    page_inj hdigits hlimit hlimit' (stable_lookup h (by simp) "page" rfl rfl)
  obtain rfl : groupBy = groupBy' := strings_inj (stable_lookup h (by simp) "groupBy" rfl rfl)
  have haggregates := stable_lookup h (by simp) "aggregates" rfl rfl
  obtain rfl : aggregates = aggregates' := @map_inj _ _ _ _ _ (fun _ => True)
    (fun _ _ => trivial) (fun _ _ => trivial) (fun _ _ _ _ h => aggregate_inj h) haggregates
  rfl

lemma shape_names (shape : QueryShape) : ((shapeMembers digits shape).map Prod.fst).Nodup := by
  cases hversion : shape.authorizationVersion <;> simp [shapeMembers, versionMembers, hversion]

lemma version_inj {shape other : QueryShape}
    (h : stable localeLe (.object (shapeMembers digits shape)) =
      stable localeLe (.object (shapeMembers digits other))) :
    shape.authorizationVersion = other.authorizationVersion := by
  have hnames := stable_names h "authorizationVersion"
  cases hversion : shape.authorizationVersion with
  | none =>
    cases hversion' : other.authorizationVersion with
    | none => rfl
    | some version => simp [shapeMembers, versionMembers, hversion, hversion'] at hnames
  | some version =>
    cases hversion' : other.authorizationVersion with
    | none => simp [shapeMembers, versionMembers, hversion, hversion'] at hnames
    | some version' =>
      have hvalue := @stable_lookup _ _ _ _ h (shape_names other) "authorizationVersion"
        (.string version) (.string version') (by rw [shapeMembers, hversion]; rfl)
        (by rw [shapeMembers, hversion']; rfl)
      rw [string_inj hvalue]

/-- The shape of a query that was validated, whose numbers are numbers of the language. -/
structure IsAccepted (isNumber : ℚ → Prop) (shape : QueryShape) : Prop where
  filter : IsCheckedFilter isNumber shape.query.filter
  clearance : isNumber shape.clearance
  limit : isNumber shape.query.page.limit

lemma lookup_query (shape : QueryShape) :
    (shapeMembers digits shape).lookup "query" = some (queryValue digits shape.query) := by
  rw [shapeMembers]
  cases shape.authorizationVersion <;> rfl

/-- Shapes of one text are one shape. -/
theorem shapeText_inj (hdigits : Set.InjOn digits {q | isNumber q}) {shape other : QueryShape}
    (hshape : IsAccepted isNumber shape) (hother : IsAccepted isNumber other)
    (h : shapeText digits localeLe shape = shapeText digits localeLe other) : shape = other := by
  have h := stableJson_inj h
  have hnames := @shape_names digits other
  have horg := string_inj (stable_lookup h hnames "orgId" rfl rfl)
  have hemployee := nullable_inj (stable_lookup h hnames "employeeId" rfl rfl)
  have hclearance : (shape.clearance : ℚ) = other.clearance :=
    number_inj hdigits hshape.clearance hother.clearance
      (stable_lookup h hnames "clearance" rfl rfl)
  have hversion := version_inj h
  have hquery := query_inj hdigits hshape.filter hother.filter hshape.limit hother.limit
    (stable_lookup h hnames "query" (lookup_query shape) (lookup_query other))
  obtain ⟨orgId, employeeId, clearance, version, query⟩ := shape
  obtain ⟨orgId', employeeId', clearance', version', query'⟩ := other
  simp only [QueryShape.mk.injEq]
  exact ⟨horg, hemployee, by exact_mod_cast hclearance, hversion, hquery⟩

end

end StructuredQuery
end SmeDataCenter
