import Mathlib.Data.List.Chain
import SmeDataCenter.QueryAlignment

/-!
# Texts without an empty list

The server refuses a text with `IN ()`. The only clause that opens a list is the `in` of a
filter, so a text of the compiler is without an empty list exactly when every `in` condition of
its filter lists something.
-/

namespace SmeDataCenter
namespace StructuredQuery

open Sql Fallible

/-- No `IN` list of the text is empty. -/
def NoEmptyList (text : PreparedText) : Prop :=
  text.IsChain fun a b => ¬(a = openList ∧ b = .text ")")

instance (text : PreparedText) : Decidable (NoEmptyList text) :=
  inferInstanceAs (Decidable (List.IsChain _ text))

/-- A piece of text that opens no list. -/
def Plain (text : PreparedText) : Prop := openList ∉ text

/-- A piece of text that does not stop right after a list is opened. -/
def Closed (text : PreparedText) : Prop := text.getLast? ≠ some openList

section

variable {s t : PreparedText}

@[simp] lemma plain_nil : Plain [] := List.not_mem_nil

@[simp] lemma plain_append : Plain (s ++ t) ↔ Plain s ∧ Plain t := by
  unfold Plain
  rw [List.mem_append, not_or]

@[simp] lemma plain_param {u : Unit} : Plain (.param u :: t) ↔ Plain t := by
  unfold Plain openList
  simp

@[simp] lemma plain_text {v : String} : Plain (.text v :: t) ↔ v ≠ " IN (" ∧ Plain t := by
  unfold Plain openList
  rw [List.mem_cons, not_or, Token.text.injEq, eq_comm]

lemma Plain.closed (h : Plain s) : Closed s := fun hlast => h (List.mem_of_getLast? hlast)

lemma noEmptyList_append (h : Closed s) :
    NoEmptyList (s ++ t) ↔ NoEmptyList s ∧ NoEmptyList t := by
  unfold NoEmptyList
  rw [List.isChain_append]
  constructor
  · exact fun hst => ⟨hst.1, hst.2.1⟩
  · refine fun hst => ⟨hst.1, hst.2, fun a ha b _ hab => ?_⟩
    exact h (hab.1 ▸ ha)

lemma Plain.noEmptyList (h : Plain s) : NoEmptyList s := by
  induction s with
  | nil => exact .nil
  | cons token s ih =>
    unfold Plain at h
    rw [List.mem_cons, not_or] at h
    unfold NoEmptyList
    rw [List.isChain_cons]
    exact ⟨fun b _ hb => h.1 hb.1.symm, ih h.2⟩

lemma Closed.append (hs : Closed s) (ht : Closed t) : Closed (s ++ t) := by
  unfold Closed at *
  rw [List.getLast?_append]
  cases hlast : t.getLast? with
  | none => simpa [hlast] using hs
  | some token => simpa [hlast] using ht

end

lemma not_open {s : String} (c : Char) (hc : c ∈ s.toList) (hopen : c ∉ " IN (".toList) :
    s ≠ " IN (" := fun h => hopen (h ▸ hc)

/-! ### Parts of a statement -/

lemma quotedName_ne (name before after : String) : before ++ quotedName name ++ after ≠ " IN (" := by
  refine not_open '\x60' ?_ (by decide)
  simp [quotedName, String.toList_append]

lemma plain_join {separator : String} (hseparator : separator ≠ " IN (") {parts : List PreparedText}
    (h : ∀ part ∈ parts, Plain part) : Plain (joinText separator parts) := by
  induction parts with
  | nil => exact plain_nil
  | cons part parts ih =>
    cases parts with
    | nil => exact h part List.mem_cons_self
    | cons part' parts =>
      have hrest := ih fun p hp => h p (List.mem_cons_of_mem part hp)
      have hpart := h part List.mem_cons_self
      unfold joinText
      rw [plain_append, plain_text]
      exact ⟨hpart, hseparator, hrest⟩

lemma plain_expression (e : Expression Unit) : Plain e.tokens := by
  unfold Expression.tokens
  cases e.kind <;> simp

lemma plain_selectItem (item : SelectItem Unit) : Plain item.tokens := by
  cases item with
  | sourceDocumentId name =>
    simpa [SelectItem.tokens] using quotedName_ne name "r.source_document_id AS " ""
  | value e name =>
    simpa [SelectItem.tokens, plain_expression] using quotedName_ne name " AS " ""
  | countRows name => simpa [SelectItem.tokens] using quotedName_ne name "COUNT(*) AS " ""
  | aggregate function e name =>
    have hfunction : function.text ≠ " IN (" := by cases function <;> decide
    simpa [SelectItem.tokens, plain_expression, hfunction] using quotedName_ne name ") AS " ""
  | weightedAvg e weight weight' name =>
    simpa [SelectItem.tokens, plain_expression] using quotedName_ne name "), 0) AS " ""

lemma plain_orderItem (item : OrderItem Unit) : Plain item.tokens := by
  cases item with
  | expression e order =>
    have horder : " " ++ order.text ≠ " IN (" := by cases order <;> decide
    simp [OrderItem.tokens, plain_expression, horder]
  | named name order =>
    simpa [OrderItem.tokens, String.append_assoc] using quotedName_ne name "" (" " ++ order.text)
  | sourceRowNumber => simp [OrderItem.tokens]
  | rowId => simp [OrderItem.tokens]

lemma plain_listClause {keyword : String} (hkeyword : keyword ≠ " IN (")
    {items : List PreparedText} (h : ∀ item ∈ items, Plain item) :
    Plain (listClause keyword items) := by
  unfold listClause
  split
  · exact plain_nil
  · rw [plain_text]
    exact ⟨hkeyword, plain_join (by decide) h⟩

lemma plain_scope {scope : BaseScope Unit} (h : Plain scope.rowGuard.tokens) :
    Plain scope.tokens := by
  simpa [BaseScope.tokens] using h

/-! ### Filters -/

mutual

/-- Every `IN` list of the condition lists something. -/
def FilterCondition.listsFilled {α : Type} : FilterCondition α → Bool
  | .compare .. | .like .. | .between .. => true
  | .inList _ values => !values.isEmpty
  | .and conditions => FilterCondition.allListsFilled conditions
  | .or conditions => FilterCondition.allListsFilled conditions
  | .not condition => FilterCondition.listsFilled condition

def FilterCondition.allListsFilled {α : Type} : List (FilterCondition α) → Bool
  | [] => true
  | condition :: conditions =>
    FilterCondition.listsFilled condition && FilterCondition.allListsFilled conditions

end

/-- What is known of the text of a condition: it is closed, and has no empty list when the
condition has none. -/
structure Lists (text : PreparedText) (filled : Bool) : Prop where
  closed : Closed text
  filled_iff : NoEmptyList text ↔ filled = true

lemma Plain.lists {text : PreparedText} (h : Plain text) : Lists text true :=
  ⟨h.closed, by simp [h.noEmptyList]⟩

lemma Lists.append {s t : PreparedText} {b c : Bool} (hs : Lists s b) (ht : Lists t c) :
    Lists (s ++ t) (b && c) := by
  refine ⟨hs.closed.append ht.closed, ?_⟩
  rw [noEmptyList_append hs.closed, hs.filled_iff, ht.filled_iff, Bool.and_eq_true]

lemma Lists.enclose {t : PreparedText} {b : Bool} (h : Lists t b) (before after : PreparedText)
    (hbefore : Plain before) (hafter : Plain after) : Lists (before ++ t ++ after) b := by
  simpa using (hbefore.lists.append h).append hafter.lists

lemma joinText_cons (separator : String) (token : Token Unit) (part : PreparedText)
    (parts : List PreparedText) :
    ∃ rest, joinText separator ((token :: part) :: parts) = token :: rest := by
  cases parts with
  | nil => exact ⟨_, rfl⟩
  | cons part' parts => exact ⟨_, rfl⟩

lemma lists_opened {token : Token Unit} {rest : PreparedText} (htoken : token ≠ .text ")")
    (hplain : Plain (token :: rest)) :
    Lists (openList :: (token :: rest) ++ [.text ")"]) true := by
  constructor
  · unfold Closed
    rw [List.getLast?_append]
    simp [openList]
  · have hclosing : Plain ((token :: rest) ++ [.text ")"]) := by
      rw [plain_append]
      exact ⟨hplain, by simp⟩
    rw [List.cons_append, NoEmptyList, List.isChain_cons]
    refine ⟨fun _ => rfl, fun _ => ⟨?_, hclosing.noEmptyList⟩⟩
    simpa using htoken

lemma lists_inList (e : Expression Unit) (values : List Unit) :
    Lists (FilterCondition.inList e values).tokens (!values.isEmpty) := by
  have hopened : Lists (openList :: joinText ", " (values.map fun v => [.param v]) ++ [.text ")"])
      (!values.isEmpty) := by
    cases values with
    | nil => exact ⟨by unfold Closed; decide, by decide⟩
    | cons value values =>
      have hplain : Plain (joinText ", " ((value :: values).map fun v => [Token.param v])) :=
        plain_join (by decide) (by simp)
      obtain ⟨rest, hrest⟩ := joinText_cons ", " (.param value) []
        (values.map fun v => [Token.param v])
      rw [List.map_cons, hrest] at hplain ⊢
      exact lists_opened (by simp) hplain
  unfold FilterCondition.tokens
  rw [List.append_assoc]
  simpa using (plain_expression e).lists.append hopened

lemma lists_join {separator : String} (hseparator : separator ≠ " IN (") {parts : List PreparedText}
    {filled : List Bool} (h : List.Forall₂ Lists parts filled) :
    Lists (joinText separator parts) (filled.all id) := by
  induction h with
  | nil => exact plain_nil.lists
  | @cons part b parts filled hpart hparts ih =>
    cases hparts with
    | nil => simpa [joinText] using hpart
    | cons hpart' hparts =>
      have hplain : Plain [.text separator] := by simp [hseparator]
      have hrest := hplain.lists.append ih
      simpa [joinText] using hpart.append hrest

lemma lists_join_all {separator : String} (hseparator : separator ≠ " IN (")
    {parts : List PreparedText} (h : ∀ part ∈ parts, Lists part true) :
    Lists (joinText separator parts) true := by
  have hall : List.Forall₂ Lists parts (parts.map fun _ => true) :=
    List.forall₂_map_right_iff.mpr (List.forall₂_same.mpr h)
  simpa using lists_join hseparator hall

lemma allListsFilled_eq {α : Type} (conditions : List (FilterCondition α)) :
    FilterCondition.allListsFilled conditions =
      (conditions.map FilterCondition.listsFilled).all id := by
  induction conditions with
  | nil => rfl
  | cons condition conditions ih =>
    unfold FilterCondition.allListsFilled
    rw [ih]
    rfl

mutual

lemma lists_tokens : ∀ condition : FilterCondition Unit,
    Lists condition.tokens condition.listsFilled
  | .compare op e value => by
    have hop : " " ++ op.text ++ " " ≠ " IN (" := by cases op <;> decide
    refine Plain.lists ?_
    simp [FilterCondition.tokens, plain_expression, hop]
  | .like e pattern => by
    refine Plain.lists ?_
    simp [FilterCondition.tokens, plain_expression]
  | .between e start stop => by
    refine Plain.lists ?_
    simp [FilterCondition.tokens, plain_expression]
  | .inList e values => by
    unfold FilterCondition.listsFilled
    exact lists_inList e values
  | .and conditions => by
    unfold FilterCondition.tokens FilterCondition.listsFilled
    rw [allListsFilled_eq]
    exact lists_join (by decide) (lists_tokensOfAll conditions)
  | .or conditions => by
    unfold FilterCondition.tokens FilterCondition.listsFilled
    rw [allListsFilled_eq]
    exact lists_join (by decide) (lists_tokensOfAll conditions)
  | .not condition => by
    unfold FilterCondition.tokens FilterCondition.listsFilled
    exact (lists_tokens condition).enclose [.text "NOT ("] [.text ")"] (by simp) (by simp)

lemma lists_tokensOfAll : ∀ conditions : List (FilterCondition Unit),
    List.Forall₂ Lists (FilterCondition.tokensOfAll conditions)
      (conditions.map FilterCondition.listsFilled)
  | [] => .nil
  | condition :: conditions => by
    have hcondition := (lists_tokens condition).enclose [.text "("] [.text ")"] (by simp)
      (by simp)
    exact .cons hcondition (lists_tokensOfAll conditions)

end

/-- **A statement writes an empty list exactly when its filter has one.** -/
lemma lists_statement (statement : Statement Unit) (h : Plain statement.scope.rowGuard.tokens) :
    NoEmptyList statement.tokens ↔ ∀ condition ∈ statement.filter, condition.listsFilled = true := by
  have hitems : Plain (joinText ", " (statement.items.map SelectItem.tokens)) :=
    plain_join (by decide) (by simpa using fun item _ => plain_selectItem item)
  have htable : " FROM " ++ statement.rowTable ++ " r " ≠ " IN (" := by
    refine not_open 'F' ?_ (by decide)
    simp [String.toList_append]
  have hgroup : Plain (listClause " GROUP BY "
      (statement.groupBy.map fun name => [.text (quotedName name)])) := by
    refine plain_listClause (by decide) ?_
    simpa using fun name _ => by simpa using quotedName_ne name "" ""
  have horder : Plain (listClause " ORDER BY " (statement.orderBy.map OrderItem.tokens)) :=
    plain_listClause (by decide) (by simpa using fun item _ => plain_orderItem item)
  have hbefore : Plain (.text "SELECT " ::
      joinText ", " (statement.items.map SelectItem.tokens) ++
      .text (" FROM " ++ statement.rowTable ++ " r ") :: statement.scope.tokens) := by
    simp [hitems, htable, plain_scope h]
  have hafter : Plain (listClause " GROUP BY "
        (statement.groupBy.map fun name => [.text (quotedName name)]) ++
      listClause " ORDER BY " (statement.orderBy.map OrderItem.tokens) ++
      [.text " LIMIT ", .param statement.limit, .text " OFFSET ", .param statement.offset]) := by
    simp [hgroup, horder]
  have hfilter : Lists (filterTokens statement.filter)
      ((statement.filter.map FilterCondition.listsFilled).getD true) := by
    cases statement.filter with
    | none => exact plain_nil.lists
    | some condition =>
      exact (lists_tokens condition).enclose [.text " AND ("] [.text ")"] (by simp) (by simp)
  have hall := (hfilter.enclose _ _ hbefore hafter).filled_iff
  unfold Statement.tokens
  simp only [List.append_assoc, List.cons_append] at hall ⊢
  rw [hall]
  cases statement.filter with
  | none => simp
  | some condition => simp

/-! ### Empty `in` conditions of a query -/

mutual

/-- Has the filter an `in` condition with an empty array? -/
def FilterNode.hasEmptyIn : FilterNode → Bool
  | .field _ op value =>
    match value with
    | .arr values => op = "in" && values.isEmpty
    | _ => false
  | .and nodes => FilterNode.anyEmptyIn nodes
  | .or nodes => FilterNode.anyEmptyIn nodes
  | .not node => FilterNode.hasEmptyIn node

def FilterNode.anyEmptyIn : List FilterNode → Bool
  | [] => false
  | node :: nodes => FilterNode.hasEmptyIn node || FilterNode.anyEmptyIn nodes

end

variable {field : StructuredFieldRegistryEntry} {fragment : FilterFragment}

variable {value : QueryJson}

lemma compileComparison_listsFilled {op : Comparison}
    (h : compileComparison op field value = .ok fragment) : fragment.1.listsFilled = true := by
  obtain ⟨path, -, h⟩ := bind_ok.mp h
  obtain ⟨param, -, h⟩ := bind_ok.mp h
  cases h
  unfold FilterCondition.listsFilled
  rfl

lemma compileLike_listsFilled {start : String} (h : compileLike field start value = .ok fragment) :
    fragment.1.listsFilled = true := by
  obtain ⟨path, -, h⟩ := bind_ok.mp h
  obtain ⟨text, -, h⟩ := bind_ok.mp h
  cases h
  unfold FilterCondition.listsFilled
  rfl

lemma compileCondition_listsFilled {name op : String}
    (h : compileCondition field op value = .ok fragment) :
    fragment.1.listsFilled = !(FilterNode.field name op value).hasEmptyIn := by
  unfold compileCondition at h
  unfold FilterNode.hasEmptyIn
  split at h
  · rw [compileComparison_listsFilled h]
    cases value <;> rfl
  · rw [compileLike_listsFilled h]
    cases value <;> rfl
  · rw [compileLike_listsFilled h]
    cases value <;> rfl
  · obtain ⟨path, -, h⟩ := bind_ok.mp h
    obtain ⟨start, -, h⟩ := bind_ok.mp h
    obtain ⟨stop, -, h⟩ := bind_ok.mp h
    cases h
    unfold FilterCondition.listsFilled
    rfl
  · obtain ⟨path, -, h⟩ := bind_ok.mp h
    obtain ⟨params, -, h⟩ := bind_ok.mp h
    cases h
    unfold FilterCondition.listsFilled
    rw [List.isEmpty_map]
    simp only [decide_true, Bool.true_and]
  · rw [compileComparison_listsFilled h]
    cases value <;> rfl
  · rw [compileComparison_listsFilled h]
    cases value <;> rfl
  · rw [compileComparison_listsFilled h]
    cases value <;> rfl
  · rw [compileComparison_listsFilled h]
    cases value <;> rfl
  · cases h

mutual

lemma compileFilter_listsFilled {fields : Fields} :
    ∀ {node : FilterNode} {fragment : FilterFragment}, compileFilter fields node = .ok fragment →
    fragment.1.listsFilled = !node.hasEmptyIn
  | .and nodes, fragment, h => by
    unfold compileFilter at h
    obtain ⟨fragments, hfragments, h⟩ := bind_ok.mp h
    cases h
    unfold FilterCondition.listsFilled FilterNode.hasEmptyIn
    exact compileFilters_listsFilled hfragments
  | .or nodes, fragment, h => by
    unfold compileFilter at h
    obtain ⟨fragments, hfragments, h⟩ := bind_ok.mp h
    cases h
    unfold FilterCondition.listsFilled FilterNode.hasEmptyIn
    exact compileFilters_listsFilled hfragments
  | .not node, fragment, h => by
    unfold compileFilter at h
    obtain ⟨inner, hinner, h⟩ := bind_ok.mp h
    cases h
    unfold FilterCondition.listsFilled FilterNode.hasEmptyIn
    exact compileFilter_listsFilled hinner
  | .field name op value, fragment, h => by
    unfold compileFilter at h
    obtain ⟨field, -, h⟩ := bind_ok.mp h
    exact compileCondition_listsFilled h

lemma compileFilters_listsFilled {fields : Fields} :
    ∀ {nodes : List FilterNode} {fragments : List FilterFragment},
    compileFilters fields nodes = .ok fragments →
    FilterCondition.allListsFilled (fragments.map (·.1)) = !FilterNode.anyEmptyIn nodes
  | [], fragments, h => by
    unfold compileFilters at h
    cases h
    rfl
  | node :: nodes, fragments, h => by
    unfold compileFilters at h
    obtain ⟨fragment, hfragment, h⟩ := bind_ok.mp h
    obtain ⟨rest, hrest, h⟩ := bind_ok.mp h
    cases h
    unfold FilterNode.anyEmptyIn
    rw [List.map_cons, FilterCondition.allListsFilled, compileFilter_listsFilled hfragment,
      compileFilters_listsFilled hrest, Bool.not_or]

end

end StructuredQuery
end SmeDataCenter
