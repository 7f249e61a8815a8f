import SmeDataCenter.Selections
import SmeDataCenter.StableJson

/-!
# Canonical texts of workflow values

The digests of the workflow records are taken of a canonical text. The members of every object are
sorted by name, those that are `undefined` are left out, and the object that is built of them is
printed in its own order, in which the names that are array indices come first.
-/

namespace SmeDataCenter
namespace WorkflowCanonicalTexts

open JsonStrings JsonNumbers JsonValues ScriptText

/-- A value of the language. A member of an object may be `undefined`. -/
inductive JsValue where
  | null
  | bool (b : Bool)
  | number (n : JsonNumber)
  | string (s : ScriptText)
  | array (items : List JsValue)
  | object (members : List (ScriptText × Option JsValue))

/-- `Object.entries(item).filter(([, v]) => v !== undefined)` -/
def defined (members : List (ScriptText × Option JsValue)) : List (ScriptText × JsValue) :=
  members.filterMap fun member => member.2.map (member.1, ·)

/-- No object of the value has a name twice. -/
inductive JsValue.Proper : JsValue → Prop
  | null : Proper .null
  | bool (b : Bool) : Proper (.bool b)
  | number (n : JsonNumber) : Proper (.number n)
  | string (s : ScriptText) : Proper (.string s)
  | array {items : List JsValue} (hitems : ∀ item ∈ items, Proper item) : Proper (.array items)
  | object {members : List (ScriptText × Option JsValue)} (hnames : (members.map Prod.fst).Nodup)
      (hmembers : ∀ name value, (name, value) ∈ defined members → Proper value) :
      Proper (.object members)

/-- A JSON value, as it stands in memory. -/
structure JsonValue where
  value : JsValue
  proper : value.Proper

/-! ### Objects -/

section Objects

variable {V : Type}

/-- The index that a name stands for in the order of an object. -/
def arrayIndex (name : ScriptText) : Option ℕ :=
  let n := name.foldl (fun n u => 10 * n + (u.toNat - 48)) 0
  if name = ofString (toString n) ∧ n < 2 ^ 32 - 1 then some n else none

/-- `Object.fromEntries(entries)` in the order of its own keys; no name is there twice. -/
def fromEntries (entries : List (ScriptText × V)) : List (ScriptText × V) :=
  Selections.sortBy (fun entry => (arrayIndex entry.1).getD 0)
      (entries.filter fun entry => (arrayIndex entry.1).isSome) ++
    entries.filter fun entry => !(arrayIndex entry.1).isSome

/-- `entries.sort(([a], [b]) => (a < b ? -1 : a > b ? 1 : 0))` -/
def sortByName (entries : List (ScriptText × V)) : List (ScriptText × V) :=
  Selections.sortBy (fun entry => entry.1.map UInt16.toNat) entries

end Objects

/-! ### The text -/

mutual

/-- The sort looks at the names only, so that the values may be normalised before it. -/
def normalize : JsValue → Value ScriptText JsonNumber
  | .null => .null
  | .bool b => .bool b
  | .number n => .number n
  | .string s => .string s
  | .array items => .array (normalizeItems items)
  | .object members => .object (fromEntries (sortByName (normalizeMembers members)))

def normalizeItems : List JsValue → List (Value ScriptText JsonNumber)
  | [] => []
  | item :: items => normalize item :: normalizeItems items

def normalizeMembers :
    List (ScriptText × Option JsValue) → List (ScriptText × Value ScriptText JsonNumber)
  | [] => []
  | (_, none) :: members => normalizeMembers members
  | (name, some value) :: members => (name, normalize value) :: normalizeMembers members

end

/-- The texts that `JSON.stringify` writes. -/
def scriptLexicon : Lexicon ScriptText JsonNumber where
  string s := escaped (points s)
  number := JsonNumber.text
  readString := readString
  readNumber := readNumber
  readString_string := readString_points
  readNumber_number n _ hends := readNumber_text n hends
  number_head := StableJson.jsonNumber_head

def workflowCanonicalJson (value : JsonValue) : Text := scriptLexicon.print (normalize value.value)

example : scriptLexicon.print (normalize (.object [(ofString "b", some .null),
    (ofString "10", some (.bool true)), (ofString "a", none), (ofString "9", some (.array []))])) =
      "\x7b\"9\":[],\"10\":true,\"b\":null\x7d".toList := by decide +kernel

mutual

/-- What `JSON.parse` builds of a value. -/
def revive : Value ScriptText JsonNumber → JsValue
  | .null => .null
  | .bool b => .bool b
  | .number n => .number n
  | .string s => .string s
  | .array items => .array (reviveItems items)
  | .object members => .object (reviveMembers members)

def reviveItems : List (Value ScriptText JsonNumber) → List JsValue
  | [] => []
  | item :: items => revive item :: reviveItems items

def reviveMembers :
    List (ScriptText × Value ScriptText JsonNumber) → List (ScriptText × Option JsValue)
  | [] => []
  | (name, value) :: members => (name, some (revive value)) :: reviveMembers members

end

/-- `JSON.parse(text)` -/
def parseJson (text : Text) : Option JsValue := (scriptLexicon.parse text).map revive

/-- The same JSON value, up to the order of the members and those that are `undefined`. -/
inductive Same : JsValue → JsValue → Prop
  | null : Same .null .null
  | bool (b : Bool) : Same (.bool b) (.bool b)
  | number (n : JsonNumber) : Same (.number n) (.number n)
  | string (s : ScriptText) : Same (.string s) (.string s)
  | array {items others : List JsValue} (hlength : items.length = others.length)
      (hitems : ∀ i (hi : i < items.length) (ho : i < others.length), Same items[i] others[i]) :
      Same (.array items) (.array others)
  | object {members others : List (ScriptText × Option JsValue)}
      (hnames : ∀ name,
        name ∈ (defined members).map Prod.fst ↔ name ∈ (defined others).map Prod.fst)
      (hvalues : ∀ name value other, (name, value) ∈ defined members →
        (name, other) ∈ defined others → Same value other) :
      Same (.object members) (.object others)

/-! ### One order for every object -/

section Objects

variable {V W : Type}

lemma sortByName_perm (entries : List (ScriptText × V)) : (sortByName entries).Perm entries :=
  Selections.sortBy_perm _ entries

lemma fromEntries_perm (entries : List (ScriptText × V)) : (fromEntries entries).Perm entries :=
  ((Selections.sortBy_perm _ _).append_right _).trans (List.filter_append_perm _ entries)

lemma ordered_perm (entries : List (ScriptText × V)) :
    (fromEntries (sortByName entries)).Perm entries :=
  (fromEntries_perm _).trans (sortByName_perm entries)

variable {entries : List (ScriptText × V)}

lemma entry_unique (hnames : (entries.map Prod.fst).Nodup) {name : ScriptText} {value other : V}
    (h : (name, value) ∈ entries) (hother : (name, other) ∈ entries) : value = other := by
  have := List.inj_on_of_nodup_map hnames h hother rfl
  exact (Prod.mk.inj this).2

lemma ordered_eq {others : List (ScriptText × V)} (hperm : entries.Perm others)
    (hnames : (entries.map Prod.fst).Nodup) :
    fromEntries (sortByName entries) = fromEntries (sortByName others) := by
  have hsort : sortByName entries = sortByName others := by
    refine Selections.sortBy_eq _ hperm fun a ha b hb hab => ?_
    have hname : a.1 = b.1 := List.map_injective_iff.mpr (fun _ _ => UInt16.toNat_inj.mp) hab
    exact List.inj_on_of_nodup_map hnames ha hb hname
  rw [hsort]

lemma perm_of_mem_iff {others : List (ScriptText × V)} (hnames : (entries.map Prod.fst).Nodup)
    (hothers : (others.map Prod.fst).Nodup)
    (hmem : ∀ name value, (name, value) ∈ entries ↔ (name, value) ∈ others) : entries.Perm others :=
  (List.perm_ext_iff_of_nodup hnames.of_map hothers.of_map).mpr fun ⟨name, value⟩ =>
    hmem name value

end Objects

/-! ### Members -/

lemma normalizeItems_eq (items : List JsValue) : normalizeItems items = items.map normalize := by
  induction items with
  | nil => rw [normalizeItems, List.map_nil]
  | cons item items ih => rw [normalizeItems, ih, List.map_cons]

lemma normalizeMembers_eq (members : List (ScriptText × Option JsValue)) :
    normalizeMembers members =
      (defined members).map fun member => (member.1, normalize member.2) := by
  induction members with
  | nil => rw [normalizeMembers]; rfl
  | cons member members ih =>
    obtain ⟨name, _ | value⟩ := member
    · rw [normalizeMembers, ih]
      rfl
    · rw [normalizeMembers, ih]
      rfl

lemma reviveItems_eq (items : List (Value ScriptText JsonNumber)) :
    reviveItems items = items.map revive := by
  induction items with
  | nil => rw [reviveItems, List.map_nil]
  | cons item items ih => rw [reviveItems, ih, List.map_cons]

lemma defined_reviveMembers (members : List (ScriptText × Value ScriptText JsonNumber)) :
    defined (reviveMembers members) = members.map fun member => (member.1, revive member.2) := by
  induction members with
  | nil => rw [reviveMembers]; rfl
  | cons member members ih =>
    rw [reviveMembers, List.map_cons, ← ih]
    rfl

lemma names_reviveMembers (members : List (ScriptText × Value ScriptText JsonNumber)) :
    (reviveMembers members).map Prod.fst = members.map Prod.fst := by
  induction members with
  | nil => rw [reviveMembers]; rfl
  | cons member members ih => rw [reviveMembers, List.map_cons, ih, List.map_cons]

lemma defined_names (members : List (ScriptText × Option JsValue)) :
    ((defined members).map Prod.fst).Sublist (members.map Prod.fst) := by
  induction members with
  | nil => exact .slnil
  | cons member members ih =>
    obtain ⟨name, _ | value⟩ := member
    · exact ih.cons name
    · exact ih.cons_cons name

lemma names_normalizeMembers (members : List (ScriptText × Option JsValue)) :
    (normalizeMembers members).map Prod.fst = (defined members).map Prod.fst := by
  rw [normalizeMembers_eq, List.map_map]
  rfl

lemma nodup_normalizeMembers {members : List (ScriptText × Option JsValue)}
    (hnames : (members.map Prod.fst).Nodup) : ((normalizeMembers members).map Prod.fst).Nodup := by
  rw [names_normalizeMembers]
  exact hnames.sublist (defined_names members)

lemma mem_normalizeMembers {members : List (ScriptText × Option JsValue)} {name : ScriptText}
    {value : Value ScriptText JsonNumber} :
    (name, value) ∈ normalizeMembers members ↔
      ∃ v, (name, v) ∈ defined members ∧ normalize v = value := by
  rw [normalizeMembers_eq, List.mem_map]
  constructor
  · rintro ⟨⟨_, v⟩, hmem, heq⟩
    obtain ⟨rfl, rfl⟩ := Prod.mk.inj heq
    exact ⟨v, hmem, rfl⟩
  · rintro ⟨v, hmem, rfl⟩
    exact ⟨(name, v), hmem, rfl⟩

/-! ### Equal texts -/

variable {x : JsValue}

lemma normalize_eq_of_same {y : JsValue} (h : Same x y) (hx : x.Proper) (hy : y.Proper) :
    normalize x = normalize y := by
  induction h with
  | null => rfl
  | bool b => rfl
  | number n => rfl
  | string s => rfl
  | array hlength _ ih =>
    cases hx with | array hitems =>
    cases hy with | array hothers =>
    rw [normalize, normalize, normalizeItems_eq, normalizeItems_eq]
    congr 1
    apply List.ext_getElem
    · simpa using hlength
    · intro i hi ho
      rw [List.length_map] at hi ho
      rw [List.getElem_map, List.getElem_map]
      exact ih i hi ho (hitems _ (List.getElem_mem hi)) (hothers _ (List.getElem_mem ho))
  | object hsame _ ih =>
    cases hx with | object hnames hmembers =>
    cases hy with | object hnames' hothers =>
    rw [normalize, normalize]
    congr 1
    refine ordered_eq (perm_of_mem_iff (nodup_normalizeMembers hnames)
      (nodup_normalizeMembers hnames') fun name value => ?_) (nodup_normalizeMembers hnames)
    rw [mem_normalizeMembers, mem_normalizeMembers]
    constructor
    · rintro ⟨v, hv, rfl⟩
      obtain ⟨⟨_, w⟩, hw, rfl⟩ := List.mem_map.mp ((hsame name).mp (List.mem_map_of_mem hv))
      exact ⟨w, hw, (ih _ v w hv hw (hmembers _ v hv) (hothers _ w hw)).symm⟩
    · rintro ⟨w, hw, rfl⟩
      obtain ⟨⟨_, v⟩, hv, rfl⟩ := List.mem_map.mp ((hsame name).mpr (List.mem_map_of_mem hw))
      exact ⟨v, hv, ih _ v w hv hw (hmembers _ v hv) (hothers _ w hw)⟩

lemma same_of_normalize_eq (hx : x.Proper) {y : JsValue} (hy : y.Proper)
    (h : normalize x = normalize y) : Same x y := by
  induction hx generalizing y with
  | null => cases hy <;> simp [normalize] at h; exact .null
  | bool b => cases hy <;> simp [normalize] at h; exact h ▸ .bool b
  | number n => cases hy <;> simp [normalize] at h; exact h ▸ .number n
  | string s => cases hy <;> simp [normalize] at h; exact h ▸ .string s
  | @array items hitems ih =>
    cases hy <;> simp only [normalize, reduceCtorEq, Value.array.injEq] at h
    next others hothers =>
    rw [normalizeItems_eq, normalizeItems_eq] at h
    have hlength : items.length = others.length := by
      simpa using congrArg List.length h
    refine .array hlength fun i hi ho => ?_
    apply ih _ (List.getElem_mem hi) (hothers _ (List.getElem_mem ho))
    have hi' := List.getElem_of_eq h (i := i) (by simpa using hi)
    simpa using hi'
  | @object members hnames hmembers ih =>
    cases hy <;> simp only [normalize, reduceCtorEq, Value.object.injEq] at h
    next others hnames' hothers =>
    have hperm : (normalizeMembers members).Perm (normalizeMembers others) :=
      (ordered_perm _).symm.trans (h ▸ ordered_perm _)
    refine .object (fun name => ?_) fun name v w hv hw => ?_
    · rw [← names_normalizeMembers, ← names_normalizeMembers]
      exact (hperm.map Prod.fst).mem_iff
    · apply ih name v hv (hothers name w hw)
      have hv' := hperm.mem_iff.mp (mem_normalizeMembers.mpr ⟨v, hv, rfl⟩)
      have hw' := mem_normalizeMembers.mpr ⟨w, hw, rfl⟩
      exact entry_unique (nodup_normalizeMembers hnames') hv' hw'

/-! ### The text is canonical -/

lemma proper_revive (hx : x.Proper) : (revive (normalize x)).Proper := by
  induction hx with
  | null => exact .null
  | bool b => exact .bool b
  | number n => exact .number n
  | string s => exact .string s
  | array hitems ih =>
    rw [normalize, revive, normalizeItems_eq, reviveItems_eq, List.map_map]
    refine .array fun item hitem => ?_
    obtain ⟨x, hx, rfl⟩ := List.mem_map.mp hitem
    exact ih x hx
  | @object members hnames hmembers ih =>
    rw [normalize, revive]
    refine .object ?_ fun name value hvalue => ?_
    · rw [names_reviveMembers, ((ordered_perm _).map Prod.fst).nodup_iff]
      exact nodup_normalizeMembers hnames
    · rw [defined_reviveMembers] at hvalue
      obtain ⟨⟨_, v⟩, hv, heq⟩ := List.mem_map.mp hvalue
      obtain ⟨rfl, rfl⟩ := Prod.mk.inj heq
      obtain ⟨x, hx, rfl⟩ := mem_normalizeMembers.mp ((ordered_perm _).mem_iff.mp hv)
      exact ih _ x hx

lemma normalize_revive (hx : x.Proper) : normalize (revive (normalize x)) = normalize x := by
  induction hx with
  | null => rfl
  | bool b => rfl
  | number n => rfl
  | string s => rfl
  | array hitems ih =>
    rw [normalize, revive, normalize, normalizeItems_eq, normalizeItems_eq, reviveItems_eq,
      List.map_map, List.map_map]
    congr 1
    exact List.map_congr_left ih
  | @object members hnames hmembers ih =>
    have hback : normalizeMembers (reviveMembers (fromEntries (sortByName
        (normalizeMembers members)))) = fromEntries (sortByName (normalizeMembers members)) := by
      rw [normalizeMembers_eq, defined_reviveMembers, List.map_map]
      refine (List.map_congr_left fun ⟨name, value⟩ hmem => ?_).trans (List.map_id _)
      obtain ⟨v, hv, rfl⟩ := mem_normalizeMembers.mp ((ordered_perm _).mem_iff.mp hmem)
      exact congrArg (Prod.mk name) (ih name v hv)
    rw [normalize, revive, normalize, hback]
    congr 1
    refine (ordered_eq (ordered_perm _).symm (nodup_normalizeMembers hnames)).symm

/-- Two values have one text exactly if they are the same, and the text of what is parsed of a text
is that text. -/
theorem workflowCanonicalJson_canonical (x y : JsonValue) :
    (workflowCanonicalJson x = workflowCanonicalJson y ↔ Same x.value y.value) ∧
      ∃ z : JsonValue, parseJson (workflowCanonicalJson x) = some z.value ∧
        workflowCanonicalJson z = workflowCanonicalJson x := by
  constructor
  · constructor
    · intro h
      exact same_of_normalize_eq x.proper y.proper (Lexicon.print_injective h)
    · intro h
      exact congrArg scriptLexicon.print (normalize_eq_of_same h x.proper y.proper)
  · refine ⟨⟨revive (normalize x.value), proper_revive x.proper⟩, ?_, ?_⟩
    · rw [parseJson, workflowCanonicalJson, Lexicon.parse_print]
      rfl
    · exact congrArg scriptLexicon.print (normalize_revive x.proper)

end WorkflowCanonicalTexts
end SmeDataCenter
