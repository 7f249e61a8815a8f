import SmeDataCenter.CostCardContents
import SmeDataCenter.StoredDates

/-!
# The fields of headers

The headers of a file name fields by the texts these are known by. A text that one header of one
field reads is that field's, a text that more of them read is ambiguous; and the headers of a file
are accepted when those that are not blank name every field they have to name, and none twice.
-/

namespace SmeDataCenter
namespace HeaderResolution

open Import StructuredQuery

/-! ### What a text is known as -/

/-- The fields known by a text, each as often as headers of it read so. -/
def knownBy (fields : List ImportField) (text : String) : List ImportField :=
  fields.flatMap fun field =>
    ((distinct (field.sourceColumn :: field.aliases)).filter fun rawAlias =>
      normalizeHeader rawAlias = text).map fun _ => field

/-- What the lookup has for a text with such fields. -/
def lookupValue : List ImportField → Option HeaderLookupValue
  | [] => none
  | [field] => some (.field field)
  | field :: other :: _ =>
    some (.ambiguous (sortStrings (distinct [field.canonicalName, other.canonicalName])))

/-- The lookup that has become of the fields before, of which `known` are known by a text. -/
def Describes (lookup : List (String × HeaderLookupValue))
    (known : String → List ImportField) : Prop :=
  ∀ text, lookup.lookup text = lookupValue (known text)

lemma sortStrings_distinct_twice (names : List String) :
    sortStrings (distinct (sortStrings (distinct names))) = sortStrings (distinct names) := by
  rw [sortStrings_distinct_iff]
  ext name
  rw [List.mem_toFinset, List.mem_toFinset, sortStrings, List.mem_insertionSort, distinct,
    List.mem_eraseDups]

lemma lookupValue_concat (known : List ImportField) (field : ImportField) :
    lookupValue (known ++ [field]) =
      some (match lookupValue known with
        | none => .field field
        | some (.field other) =>
          .ambiguous (sortStrings (distinct [other.canonicalName, field.canonicalName]))
        | some (.ambiguous names) => .ambiguous (sortStrings (distinct names))) := by
  rcases known with _ | ⟨first, _ | ⟨second, rest⟩⟩
  · rfl
  · rfl
  · simp only [List.cons_append, lookupValue, sortStrings_distinct_twice]

lemma addHeader_describes {lookup : List (String × HeaderLookupValue)}
    {known : String → List ImportField} (h : Describes lookup known) (field : ImportField)
    (rawAlias : String) :
    Describes (addHeader lookup field rawAlias) fun text =>
      known text ++ if normalizeHeader rawAlias = text then [field] else [] := by
  intro text
  unfold addHeader
  dsimp only
  by_cases htext : normalizeHeader rawAlias = text
  · subst htext
    rw [if_pos rfl, lookupValue_concat, h]
    cases lookupValue (known (normalizeHeader rawAlias)) with
    | none => simp
    | some existing => cases existing <;> simp
  · rw [if_neg htext, List.append_nil, ← h text]
    have hne : (text == normalizeHeader rawAlias) = false := by
      simpa using fun heq => htext heq.symm
    cases lookup.lookup (normalizeHeader rawAlias) <;> simp [List.lookup_cons, hne]

lemma addHeaders_describes {lookup : List (String × HeaderLookupValue)}
    {known : String → List ImportField} (h : Describes lookup known) (field : ImportField)
    (rawAliases : List String) :
    Describes (rawAliases.foldl (addHeader · field) lookup) fun text =>
      known text ++ (rawAliases.filter fun rawAlias => normalizeHeader rawAlias = text).map
        fun _ => field := by
  induction rawAliases generalizing lookup known with
  | nil => simpa using h
  | cons rawAlias rawAliases ih =>
    intro text
    rw [List.foldl_cons, ih (addHeader_describes h field rawAlias) text]
    dsimp only
    rw [List.append_assoc, List.filter_cons]
    by_cases htext : normalizeHeader rawAlias = text <;> simp [htext]

/-- The lookup has for a text what the fields known by it make of it. -/
theorem buildStructuredHeaderLookup_describes (fields : List ImportField) :
    Describes (buildStructuredHeaderLookup fields) (knownBy fields) := by
  have hfold : ∀ (fields : List ImportField) {lookup : List (String × HeaderLookupValue)}
      {known : String → List ImportField}, Describes lookup known →
      Describes (fields.foldl (fun lookup field =>
        (distinct (field.sourceColumn :: field.aliases)).foldl (addHeader · field) lookup) lookup)
        fun text => known text ++ knownBy fields text := by
    intro fields
    induction fields with
    | nil =>
      intro lookup known h
      simpa [knownBy] using h
    | cons field fields ih =>
      intro lookup known h text
      rw [List.foldl_cons, ih (addHeaders_describes h field _) text]
      dsimp only
      rw [List.append_assoc]
      rfl
  have hempty : Describes [] fun _ => [] := fun _ => rfl
  intro text
  exact hfold fields hempty text

/-! ### Headers and the fields they name -/

def fileFields (dataset : StructuredDatasetName) : List ImportField :=
  (getImportRegistry dataset).fields.filter fun field => field.inputSource = .file

/-- The field of a header that is not blank, if its text is known for one header of one field. -/
def fieldOf (fields : List ImportField) (header : String) : Option ImportField :=
  if normalizeHeader header = "" then none
  else match knownBy fields (normalizeHeader header) with
    | [field] => some field
    | _ => none

/-- The names of the fields that headers name. -/
def namesOf (fields : List ImportField) (headers : List String) : List String :=
  (headers.filterMap (fieldOf fields)).map (·.canonicalName)

/-- A file may be without it: an optional column of the catalogue of suppliers. -/
def MayBeAbsent (dataset : StructuredDatasetName) (field : ImportField) : Prop :=
  dataset = .supplierCatalog ∧ field.nullable = true

/-- The headers that are not blank and the fields of a dataset correspond. -/
structure HeadersMatch (dataset : StructuredDatasetName) (headers : List String) : Prop where
  /-- Where blank headers are refused there is none. -/
  unblank : dataset = .dishCatalog ∨ refusesBlankHeaders dataset = true →
    ∀ header ∈ headers, normalizeHeader header ≠ ""
  /-- Every header names a field, -/
  known : ∀ header ∈ headers, normalizeHeader header ≠ "" →
    ∃ field, fieldOf (fileFields dataset) header = some field
  /-- no two name the same, -/
  once : (namesOf (fileFields dataset) headers).Nodup
  /-- and every field is named that has to be. -/
  all : ∀ field ∈ fileFields dataset, ¬MayBeAbsent dataset field →
    field.canonicalName ∈ namesOf (fileFields dataset) headers

/-! ### The scan of the headers -/

section

variable {fields : List ImportField} {lookup : List (String × HeaderLookupValue)}
  {scan : HeaderScan} {header : String} {field : ImportField}

/-- What has been seen of the headers names fields that have been seen. -/
def Seen (fields : List ImportField) (scan : HeaderScan) : Prop :=
  ∀ text ∈ scan.seenHeaders, ∃ field, knownBy fields text = [field] ∧
    field.canonicalName ∈ scan.seenCanonicalNames

lemma fieldOf_eq_some (h : fieldOf fields header = some field) :
    normalizeHeader header ≠ "" ∧ knownBy fields (normalizeHeader header) = [field] := by
  unfold fieldOf at h
  split_ifs at h with hblank
  refine ⟨hblank, ?_⟩
  split at h
  · next heq =>
    cases h
    exact heq
  · cases h

/-- The state after a header that names a new field. -/
def addField (scan : HeaderScan) (header : String) (field : ImportField) (index : ℕ) :
    HeaderScan :=
  { scan with
    seenHeaders := normalizeHeader header :: scan.seenHeaders
    seenCanonicalNames := field.canonicalName :: scan.seenCanonicalNames
    fields := scan.fields ++ [⟨field.canonicalName, index⟩] }

lemma scanHeader_blank (h : normalizeHeader header = "") (index : ℕ) :
    scanHeader lookup scan (header, index) = scan := by
  unfold scanHeader
  rw [if_pos h]

lemma scanHeader_field (hlookup : Describes lookup (knownBy fields)) (hseen : Seen fields scan)
    (hfield : fieldOf fields header = some field)
    (hnew : field.canonicalName ∉ scan.seenCanonicalNames) (index : ℕ) :
    scanHeader lookup scan (header, index) = addField scan header field index := by
  obtain ⟨hblank, hknown⟩ := fieldOf_eq_some hfield
  have hheader : normalizeHeader header ∉ scan.seenHeaders := by
    intro hmem
    obtain ⟨other, hother, hname⟩ := hseen _ hmem
    rw [hknown] at hother
    cases hother
    exact hnew hname
  have hvalue : lookup.lookup (normalizeHeader header) = some (.field field) := by
    rw [hlookup, hknown]
    rfl
  unfold scanHeader
  dsimp only
  rw [if_neg hblank, if_neg (by simpa using hheader), hvalue]
  dsimp only
  rw [if_neg (by simpa using hnew)]
  rfl

lemma seen_addField (hseen : Seen fields scan) (hfield : fieldOf fields header = some field)
    (index : ℕ) : Seen fields (addField scan header field index) := by
  intro text htext
  rcases List.mem_cons.mp htext with rfl | htext
  · exact ⟨field, (fieldOf_eq_some hfield).2, List.mem_cons_self ..⟩
  · obtain ⟨other, hother, hname⟩ := hseen text htext
    exact ⟨other, hother, List.mem_cons_of_mem _ hname⟩

lemma scanHeader_refused (hlookup : Describes lookup (knownBy fields))
    (hblank : normalizeHeader header ≠ "")
    (hfield : ∀ field, fieldOf fields header = some field →
      field.canonicalName ∈ scan.seenCanonicalNames) (index : ℕ) :
    (scanHeader lookup scan (header, index)).errors ≠ [] := by
  have hvalue := hlookup (normalizeHeader header)
  unfold fieldOf at hfield
  rw [if_neg hblank] at hfield
  unfold scanHeader
  dsimp only
  rw [if_neg hblank]
  split
  · simp
  · rcases hknown : knownBy fields (normalizeHeader header) with _ | ⟨first, _ | ⟨second, rest⟩⟩
    · rw [hknown, lookupValue] at hvalue
      rw [hvalue]
      simp
    · rw [hknown] at hfield
      rw [hknown, lookupValue] at hvalue
      rw [hvalue]
      dsimp only
      rw [if_pos (by simpa using hfield first rfl)]
      simp
    · rw [hknown, lookupValue] at hvalue
      rw [hvalue]
      simp

lemma scanHeader_errors (h : scan.errors ≠ []) (rawHeader : String × ℕ) :
    (scanHeader lookup scan rawHeader).errors ≠ [] := by
  unfold scanHeader
  dsimp only
  split
  · exact h
  · split
    · simp
    · split
      · simp
      · simp
      · split
        · simp
        · exact h

lemma foldl_errors (h : scan.errors ≠ []) (headers : List (String × ℕ)) :
    (headers.foldl (scanHeader lookup) scan).errors ≠ [] := by
  induction headers generalizing scan with
  | nil => exact h
  | cons header headers ih =>
    rw [List.foldl_cons]
    exact ih (scanHeader_errors h header)

/-- The fields that indexed headers name, with the indexes. -/
def mappingsOf (fields : List ImportField) (headers : List (String × ℕ)) : List HeaderMapping :=
  headers.filterMap fun header =>
    (fieldOf fields header.1).map fun field => ⟨field.canonicalName, header.2⟩

lemma namesOf_blank (h : normalizeHeader header = "") (headers : List String) :
    namesOf fields (header :: headers) = namesOf fields headers := by
  have hnone : fieldOf fields header = none := if_pos h
  rw [namesOf, List.filterMap_cons_none hnone, namesOf]

lemma namesOf_field (h : fieldOf fields header = some field) (headers : List String) :
    namesOf fields (header :: headers) = field.canonicalName :: namesOf fields headers := by
  rw [namesOf, List.filterMap_cons_some h, List.map_cons, namesOf]

lemma foldl_cons_cases (hlookup : Describes lookup (knownBy fields)) {index : ℕ}
    {headers : List (String × ℕ)}
    (h : (headers.foldl (scanHeader lookup) (scanHeader lookup scan (header, index))).errors = []) :
    normalizeHeader header = "" ∨ ∃ field, fieldOf fields header = some field ∧
      field.canonicalName ∉ scan.seenCanonicalNames := by
  by_contra hcases
  rw [not_or] at hcases
  refine foldl_errors (scanHeader_refused hlookup hcases.1 (fun field hfield => ?_) index) headers h
  by_contra hnew
  exact hcases.2 ⟨field, hfield, hnew⟩

lemma foldl_scan_errors (hlookup : Describes lookup (knownBy fields)) (hseen : Seen fields scan)
    (hscan : scan.errors = []) (headers : List (String × ℕ)) :
    (headers.foldl (scanHeader lookup) scan).errors = [] ↔
      (∀ header ∈ headers.map Prod.fst, normalizeHeader header ≠ "" →
        ∃ field, fieldOf fields header = some field) ∧
      (namesOf fields (headers.map Prod.fst)).Nodup ∧
      ∀ name ∈ namesOf fields (headers.map Prod.fst), name ∉ scan.seenCanonicalNames := by
  induction headers generalizing scan with
  | nil => simp [hscan, namesOf]
  | cons header headers ih =>
    obtain ⟨header, index⟩ := header
    rw [List.foldl_cons, List.map_cons, List.forall_mem_cons]
    by_cases hblank : normalizeHeader header = ""
    · rw [scanHeader_blank hblank, ih hseen hscan, namesOf_blank hblank]
      simp only [hblank, ne_eq, not_true_eq_false, false_implies, true_and]
    · by_cases hfield : ∃ field, fieldOf fields header = some field ∧
          field.canonicalName ∉ scan.seenCanonicalNames
      · obtain ⟨field, hfield, hnew⟩ := hfield
        rw [scanHeader_field hlookup hseen hfield hnew,
          ih (seen_addField hseen hfield index) hscan, namesOf_field hfield, List.nodup_cons,
          List.forall_mem_cons]
        constructor
        · rintro ⟨hknown, hnodup, hall⟩
          have hother : ∀ name ∈ namesOf fields (headers.map Prod.fst),
              name ≠ field.canonicalName ∧ name ∉ scan.seenCanonicalNames :=
            fun name hname => not_or.mp fun h => hall name hname (List.mem_cons.mpr h)
          exact ⟨⟨fun _ => ⟨field, hfield⟩, hknown⟩, ⟨fun h => (hother _ h).1 rfl, hnodup⟩, hnew,
            fun name hname => (hother name hname).2⟩
        · rintro ⟨⟨-, hknown⟩, ⟨hfirst, hnodup⟩, -, hall⟩
          refine ⟨hknown, hnodup, fun name hname hmem => ?_⟩
          rcases List.mem_cons.mp hmem with rfl | hmem
          · exact hfirst hname
          · exact hall name hname hmem
      · constructor
        · intro h
          rcases foldl_cons_cases hlookup h with h | h
          · exact absurd h hblank
          · exact absurd h hfield
        · rintro ⟨⟨hknown, -⟩, -, hnew⟩
          obtain ⟨field, hfield'⟩ := hknown hblank
          rw [namesOf_field hfield'] at hnew
          exact absurd ⟨field, hfield', hnew _ (List.mem_cons_self ..)⟩ hfield

lemma foldl_scan_fields (hlookup : Describes lookup (knownBy fields)) (hseen : Seen fields scan)
    {headers : List (String × ℕ)}
    (h : (headers.foldl (scanHeader lookup) scan).errors = []) :
    (headers.foldl (scanHeader lookup) scan).fields = scan.fields ++ mappingsOf fields headers ∧
      ∀ name, name ∈ (headers.foldl (scanHeader lookup) scan).seenCanonicalNames ↔
        name ∈ namesOf fields (headers.map Prod.fst) ∨ name ∈ scan.seenCanonicalNames := by
  induction headers generalizing scan with
  | nil => simp [namesOf, mappingsOf]
  | cons header headers ih =>
    obtain ⟨header, index⟩ := header
    rw [List.foldl_cons] at h ⊢
    rw [List.map_cons]
    rcases foldl_cons_cases hlookup h with hblank | ⟨field, hfield, hnew⟩
    · have hnone : fieldOf fields header = none := if_pos hblank
      rw [scanHeader_blank hblank] at h ⊢
      rw [namesOf_blank hblank, mappingsOf, List.filterMap_cons_none (by rw [hnone]; rfl)]
      exact ih hseen h
    · rw [scanHeader_field hlookup hseen hfield hnew] at h ⊢
      obtain ⟨hfields, hnames⟩ := ih (seen_addField hseen hfield index) h
      refine ⟨?_, fun name => ?_⟩
      · rw [hfields, mappingsOf, mappingsOf, List.filterMap_cons_some (by rw [hfield]; rfl)]
        exact List.append_assoc _ [_] _
      · rw [hnames, namesOf_field hfield, addField, List.mem_cons, List.mem_cons, or_left_comm,
          or_assoc]

end

/-! ### Files whose headers are accepted -/

variable {fields : List ImportField}

section

variable {dataset : StructuredDatasetName} {headers : List String}

/-- The errors of the headers as a list, found before any of them is looked up. -/
def firstErrors (dataset : StructuredDatasetName) (headers : List String) :
    List HeaderValidationError :=
  let hasBlank := headers.any fun header => normalizeHeader header = ""
  let unknown : List HeaderValidationError := [{ code := .unknownColumn, column := "" }]
  (if dataset = .dishCatalog && (headers.length ≠ (fileFields dataset).length || hasBlank)
    then unknown else []) ++
  (if refusesBlankHeaders dataset && hasBlank then unknown else [])

def firstScan (dataset : StructuredDatasetName) (headers : List String) : HeaderScan :=
  { errors := firstErrors dataset headers }

def scanOf (dataset : StructuredDatasetName) (headers : List String) : HeaderScan :=
  headers.zipIdx.foldl (scanHeader (buildStructuredHeaderLookup (fileFields dataset)))
    (firstScan dataset headers)

lemma resolve_eq (dataset : StructuredDatasetName) (headers : List String) :
    resolveStructuredHeaders dataset headers =
      headerResolution ((scanOf dataset headers).errors ++
        ((fileFields dataset).filter fun field =>
          !(dataset = .supplierCatalog && field.nullable) &&
            !(scanOf dataset headers).seenCanonicalNames.contains field.canonicalName).map
          fun field => { code := .missingRequiredColumn, column := field.sourceColumn })
        (scanOf dataset headers).fields := rfl

lemma seen_firstScan (dataset : StructuredDatasetName) (headers : List String) :
    Seen (fileFields dataset) (firstScan dataset headers) := nofun

lemma firstErrors_eq_nil : firstErrors dataset headers = [] ↔
    (dataset = .dishCatalog ∨ refusesBlankHeaders dataset = true →
      ∀ header ∈ headers, normalizeHeader header ≠ "") ∧
    (dataset = .dishCatalog → headers.length = (fileFields dataset).length) := by
  unfold firstErrors
  by_cases hblank : ∃ header ∈ headers, normalizeHeader header = ""
  · have hany : (headers.any fun header => decide (normalizeHeader header = "")) = true := by
      simpa using hblank
    obtain ⟨header, hmem, hheader⟩ := hblank
    have hnot : ¬∀ header ∈ headers, normalizeHeader header ≠ "" := fun h => h header hmem hheader
    simp only [hany, hnot, imp_false, not_or, Bool.or_true, Bool.and_true]
    by_cases hdish : dataset = .dishCatalog <;>
      cases hrefuses : refusesBlankHeaders dataset <;> simp [hdish]
  · have hany : (headers.any fun header => decide (normalizeHeader header = "")) = false := by
      simpa using hblank
    have hall : ∀ header ∈ headers, normalizeHeader header ≠ "" := by simpa using hblank
    rw [and_iff_right fun _ => hall]
    simp only [hany, Bool.or_false, Bool.and_false]
    by_cases hdish : dataset = .dishCatalog <;> simp [hdish]

lemma scanOf_errors : (scanOf dataset headers).errors = [] ↔
    firstErrors dataset headers = [] ∧
      (∀ header ∈ headers, normalizeHeader header ≠ "" →
        ∃ field, fieldOf (fileFields dataset) header = some field) ∧
      (namesOf (fileFields dataset) headers).Nodup := by
  by_cases hfirst : firstErrors dataset headers = []
  · rw [scanOf, foldl_scan_errors (buildStructuredHeaderLookup_describes _)
      (seen_firstScan dataset headers) hfirst, List.zipIdx_map_fst, and_iff_right hfirst]
    simp [firstScan]
  · have hlast : (scanOf dataset headers).errors ≠ [] := foldl_errors hfirst headers.zipIdx
    exact ⟨fun h => absurd h hlast, fun h => absurd h.1 hfirst⟩

lemma headerResolution_eq_ok {errors : List HeaderValidationError}
    {fields mappings : List HeaderMapping} :
    headerResolution errors fields = .ok mappings ↔ errors = [] ∧ mappings = fields := by
  unfold headerResolution
  split_ifs with h
  · simp [h, eq_comm]
  · simp [h]

lemma resolve_eq_ok {mappings : List HeaderMapping} :
    resolveStructuredHeaders dataset headers = .ok mappings ↔
      (scanOf dataset headers).errors = [] ∧
      (∀ field ∈ fileFields dataset, ¬MayBeAbsent dataset field →
        field.canonicalName ∈ namesOf (fileFields dataset) headers) ∧
      mappings = mappingsOf (fileFields dataset) headers.zipIdx := by
  rw [resolve_eq, headerResolution_eq_ok, List.append_eq_nil_iff, List.map_eq_nil_iff, and_assoc]
  refine and_congr_right fun herrors => ?_
  obtain ⟨hfields, hnames⟩ :=
    foldl_scan_fields (buildStructuredHeaderLookup_describes _) (seen_firstScan dataset headers)
      herrors
  have hfields : (scanOf dataset headers).fields =
      mappingsOf (fileFields dataset) headers.zipIdx := hfields
  have hnames : ∀ name, name ∈ (scanOf dataset headers).seenCanonicalNames ↔
      name ∈ namesOf (fileFields dataset) headers := by
    intro name
    rw [List.zipIdx_map_fst] at hnames
    exact (hnames name).trans (or_iff_left List.not_mem_nil)
  rw [hfields, List.filter_eq_nil_iff]
  refine and_congr_left fun _ => forall₂_congr fun field _ => ?_
  have hseen : (scanOf dataset headers).seenCanonicalNames.contains field.canonicalName = true ↔
      field.canonicalName ∈ namesOf (fileFields dataset) headers := by
    rw [List.contains_iff_mem, hnames]
  rw [← hseen, MayBeAbsent]
  cases (scanOf dataset headers).seenCanonicalNames.contains field.canonicalName <;>
    cases field.nullable <;> simp

lemma mem_of_fieldOf {header : String} {field : ImportField}
    (h : fieldOf fields header = some field) : field ∈ fields := by
  have hknown : field ∈ knownBy fields (normalizeHeader header) := by
    rw [(fieldOf_eq_some h).2]
    exact List.mem_singleton_self field
  obtain ⟨other, hmem, hother⟩ := List.mem_flatMap.mp hknown
  obtain ⟨rawAlias, -, rfl⟩ := List.mem_map.mp hother
  exact hmem

lemma mem_names_of_namesOf {name : String} (h : name ∈ namesOf fields headers) :
    name ∈ fields.map (·.canonicalName) := by
  obtain ⟨field, hfield, rfl⟩ := List.mem_map.mp h
  obtain ⟨header, -, hheader⟩ := List.mem_filterMap.mp hfield
  exact List.mem_map_of_mem (mem_of_fieldOf hheader)

lemma length_namesOf (h : ∀ header ∈ headers, ∃ field, fieldOf fields header = some field) :
    (namesOf fields headers).length = headers.length := by
  induction headers with
  | nil => rfl
  | cons header headers ih =>
    obtain ⟨⟨field, hfield⟩, hrest⟩ := List.forall_mem_cons.mp h
    rw [namesOf_field hfield, List.length_cons, List.length_cons, ih hrest]

lemma dishNames_nodup : ((fileFields .dishCatalog).map (·.canonicalName)).Nodup := by
  decide +kernel

lemma length_dishHeaders (h : HeadersMatch .dishCatalog headers) :
    headers.length = (fileFields .dishCatalog).length := by
  have hknown : ∀ header ∈ headers, ∃ field, fieldOf (fileFields .dishCatalog) header =
      some field := fun header hmem => h.known header hmem (h.unblank (.inl rfl) header hmem)
  have hperm : (namesOf (fileFields .dishCatalog) headers).Perm
      ((fileFields .dishCatalog).map (·.canonicalName)) := by
    refine (List.perm_ext_iff_of_nodup h.once dishNames_nodup).mpr fun name => ?_
    refine ⟨mem_names_of_namesOf, fun hname => ?_⟩
    obtain ⟨field, hfield, rfl⟩ := List.mem_map.mp hname
    exact h.all field hfield fun habsent => nomatch habsent.1
  rw [← length_namesOf hknown, hperm.length_eq, List.length_map]

lemma exists_ok_iff :
    (∃ mappings, resolveStructuredHeaders dataset headers = .ok mappings) ↔
      HeadersMatch dataset headers := by
  simp only [resolve_eq_ok, scanOf_errors, firstErrors_eq_nil]
  constructor
  · rintro ⟨mappings, ⟨⟨hblank, -⟩, hknown, honce⟩, hall, -⟩
    exact ⟨hblank, hknown, honce, hall⟩
  · intro h
    refine ⟨_, ⟨⟨h.unblank, ?_⟩, h.known, h.once⟩, h.all, rfl⟩
    rintro rfl
    exact length_dishHeaders h

/-! ### Headers in another order -/

lemma HeadersMatch.perm {others : List String} (h : HeadersMatch dataset headers)
    (hperm : headers.Perm others) : HeadersMatch dataset others where
  unblank := fun hdataset header hheader => h.unblank hdataset header (hperm.mem_iff.mpr hheader)
  known := fun header hheader => h.known header (hperm.mem_iff.mpr hheader)
  once := ((hperm.filterMap _).map _).nodup_iff.mp h.once
  all := fun field hfield habsent =>
    ((hperm.filterMap _).map _).mem_iff.mp (h.all field hfield habsent)

/-- The texts of the headers that mappings point to, with the fields. -/
def headerTexts (headers : List String) (mappings : List HeaderMapping) :
    List (String × Option String) :=
  mappings.map fun mapping => (mapping.canonicalName, headers[mapping.sourceColumnIndex]?)

lemma mem_mappingsOf {mapping : HeaderMapping} :
    mapping ∈ mappingsOf fields headers.zipIdx ↔
      ∃ header field, headers[mapping.sourceColumnIndex]? = some header ∧
        fieldOf fields header = some field ∧ mapping.canonicalName = field.canonicalName := by
  simp only [mappingsOf, List.mem_filterMap, Option.map_eq_some_iff, Prod.exists,
    List.mem_zipIdx_iff_getElem?]
  constructor
  · rintro ⟨header, index, hheader, field, hfield, rfl⟩
    exact ⟨header, field, hheader, hfield, rfl⟩
  · rintro ⟨header, field, hheader, hfield, hname⟩
    refine ⟨header, mapping.sourceColumnIndex, hheader, field, hfield, ?_⟩
    rw [← hname]

lemma headerTexts_mappingsOf (fields : List ImportField) (headers : List String) :
    headerTexts headers (mappingsOf fields headers.zipIdx) =
      headers.filterMap fun header =>
        (fieldOf fields header).map fun field => (field.canonicalName, some header) := by
  have htexts : headers.filterMap (fun header =>
      (fieldOf fields header).map fun field => (field.canonicalName, some header)) =
      headers.zipIdx.filterMap fun header =>
        (fieldOf fields header.1).map fun field => (field.canonicalName, some header.1) := by
    conv_lhs => rw [← List.zipIdx_map_fst 0 headers]
    rw [List.filterMap_map]
    rfl
  rw [htexts, headerTexts, mappingsOf, List.map_filterMap]
  refine List.filterMap_congr fun header hheader => ?_
  rw [Option.map_map, ← List.mem_zipIdx_iff_getElem?.mp hheader]
  rfl

end

/-! ### Texts of several fields -/

lemma lookup_of_two {text : String} {field other : ImportField}
    (h : knownBy fields text = [field, other]) (hne : field.canonicalName ≠ other.canonicalName) :
    (buildStructuredHeaderLookup fields).lookup text =
      some (.ambiguous (sortStrings [field.canonicalName, other.canonicalName])) := by
  have hdistinct : distinct [field.canonicalName, other.canonicalName] =
      [field.canonicalName, other.canonicalName] := by
    simp [distinct, List.eraseDups_cons, Ne.symm hne]
  rw [buildStructuredHeaderLookup_describes, h, lookupValue, hdistinct]

lemma scanHeader_ambiguous {lookup : List (String × HeaderLookupValue)} {scan : HeaderScan}
    {header : String} {names : List String} (hblank : normalizeHeader header ≠ "")
    (hseen : normalizeHeader header ∉ scan.seenHeaders)
    (hlookup : lookup.lookup (normalizeHeader header) = some (.ambiguous names)) (index : ℕ) :
    (scanHeader lookup scan (header, index)).errors =
      scan.errors ++ [⟨.ambiguousColumn, normalizeHeader header, names⟩] := by
  unfold scanHeader
  dsimp only
  rw [if_neg hblank, if_neg (by simpa using hseen), hlookup]

/-- What is found of headers. -/
structure HeadersResolve (dataset : StructuredDatasetName) (headers : List String) : Prop where
  /-- They are accepted exactly if they match the fields. -/
  accepted : (∃ mappings, resolveStructuredHeaders dataset headers = .ok mappings) ↔
    HeadersMatch dataset headers
  /-- Then every field that a header names has the place of that header, -/
  places : ∀ mappings, resolveStructuredHeaders dataset headers = .ok mappings → ∀ mapping,
    mapping ∈ mappings ↔ ∃ header field, headers[mapping.sourceColumnIndex]? = some header ∧
      fieldOf (fileFields dataset) header = some field ∧
      mapping.canonicalName = field.canonicalName
  /-- and in another order the headers are accepted too, for the same fields. -/
  order : ∀ mappings, resolveStructuredHeaders dataset headers = .ok mappings →
    ∀ others, headers.Perm others → ∃ mappings',
      resolveStructuredHeaders dataset others = .ok mappings' ∧
      (headerTexts headers mappings).Perm (headerTexts others mappings')

/-- What is found of a text that fields are known by. -/
structure TextsResolve (fields : List ImportField) : Prop where
  /-- A text that one header of one field reads is that field's, -/
  single : ∀ text field, knownBy fields text = [field] →
    (buildStructuredHeaderLookup fields).lookup text = some (.field field)
  /-- a text that more of them read is ambiguous, -/
  several : ∀ text, 2 ≤ (knownBy fields text).length →
    ∃ names, (buildStructuredHeaderLookup fields).lookup text = some (.ambiguous names)
  /-- and where two fields are known by it, both are reported. -/
  two : ∀ scan header field other, knownBy fields (normalizeHeader header) = [field, other] →
    field.canonicalName ≠ other.canonicalName → normalizeHeader header ≠ "" →
    normalizeHeader header ∉ scan.seenHeaders → ∀ index,
      (scanHeader (buildStructuredHeaderLookup fields) scan (header, index)).errors =
        scan.errors ++ [⟨.ambiguousColumn, normalizeHeader header,
          sortStrings [field.canonicalName, other.canonicalName]⟩]

lemma headersResolve (dataset : StructuredDatasetName) (headers : List String) :
    HeadersResolve dataset headers where
  accepted := exists_ok_iff
  places := by
    intro mappings h mapping
    obtain ⟨-, -, rfl⟩ := resolve_eq_ok.mp h
    exact mem_mappingsOf
  order := by
    intro mappings h others hperm
    obtain ⟨mappings', h'⟩ := exists_ok_iff.mpr ((exists_ok_iff.mp ⟨mappings, h⟩).perm hperm)
    refine ⟨mappings', h', ?_⟩
    obtain ⟨-, -, rfl⟩ := resolve_eq_ok.mp h
    obtain ⟨-, -, rfl⟩ := resolve_eq_ok.mp h'
    rw [headerTexts_mappingsOf, headerTexts_mappingsOf]
    exact hperm.filterMap _

lemma textsResolve (fields : List ImportField) : TextsResolve fields where
  single := by
    intro text field h
    rw [buildStructuredHeaderLookup_describes, h, lookupValue]
  several := by
    intro text h
    rw [buildStructuredHeaderLookup_describes]
    rcases hknown : knownBy fields text with _ | ⟨field, _ | ⟨other, rest⟩⟩
    · simp [hknown] at h
    · simp [hknown] at h
    · exact ⟨_, rfl⟩
  two := by
    intro scan header field other h hne hblank hseen index
    exact scanHeader_ambiguous hblank hseen (lookup_of_two h hne) index

/-- The headers of a ledger, with a blank one between them. -/
def ledgerHeaders : List String := ["食品名称", "", "规格", "进货数量", "收货金额"]

end HeaderResolution
end SmeDataCenter
