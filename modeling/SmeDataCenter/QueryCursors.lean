import SmeDataCenter.QueryPages

/-!
# The cursors of queries

The page that a cursor leads to: the same query is compiled again, at the offset that the cursor
holds, as long as the cursor has not expired.
-/

namespace SmeDataCenter
namespace StructuredQuery

open Sql Fallible

/-! ### The same query from a cursor on -/

lemma property_replace (fields : List (String × QueryJson)) (key : String) (value : QueryJson)
    (name : String) :
    property (fields.filter (fun field => field.1 ≠ key) ++ [(key, value)]) name =
      if name = key then some value else property fields name := by
  unfold property
  induction fields with
  | nil =>
    by_cases hname : name = key
    · simp [hname]
    · simp [hname, List.lookup_cons, beq_eq_false_iff_ne.mpr hname]
  | cons field fields ih =>
    obtain ⟨first, found⟩ := field
    by_cases hfirst : first = key
    · rw [List.filter_cons_of_neg (by simp [hfirst]), ih]
      by_cases hname : name = key
      · simp [hname]
      · rw [if_neg hname, if_neg hname, List.lookup_cons,
          beq_eq_false_iff_ne.mpr (hfirst ▸ hname)]
    · rw [List.filter_cons_of_pos (by simpa using hfirst), List.cons_append, List.lookup_cons,
        List.lookup_cons, ih]
      by_cases hname : name = key
      · rw [if_pos hname, if_pos hname, beq_eq_false_iff_ne.mpr (by rw [hname]; exact Ne.symm hfirst)]
      · rw [if_neg hname, if_neg hname]

variable {object : List (String × QueryJson)}

lemma rejectUnknownKeys_ok {allowedKeys : List String} :
    rejectUnknownKeys object allowedKeys = .ok () ↔
      ∀ field ∈ object, field.1 ∈ allowedKeys := by
  unfold rejectUnknownKeys
  cases hfind : object.find? fun field => !allowedKeys.contains field.1 with
  | none =>
    simp only [true_iff]
    intro field hfield
    simpa using List.find?_eq_none.mp hfind field hfield
  | some field =>
    constructor
    · exact nofun
    · intro hall
      have hnot := List.find?_some hfind
      simp [hall field (List.mem_of_find?_eq_some hfind)] at hnot

lemma rejectUnknownKeys_replace {allowedKeys : List String} {key : String} {value : QueryJson}
    (h : rejectUnknownKeys object allowedKeys = .ok ()) (hkey : key ∈ allowedKeys) :
    rejectUnknownKeys (object.filter (fun field => field.1 ≠ key) ++ [(key, value)]) allowedKeys =
      .ok () := by
  rw [rejectUnknownKeys_ok] at h ⊢
  intro field hfield
  rcases List.mem_append.mp hfield with hfield | hfield
  · exact h field (List.mem_of_mem_filter hfield)
  · rw [List.mem_singleton.mp hfield]
    exact hkey

lemma normalizePage_none (mode : StructuredQueryMode) :
    normalizePage none mode = normalizePage (some (.obj [])) mode := by
  cases mode <;> rfl

variable {mode : StructuredQueryMode}

variable {page : PageSpec}

lemma normalizePage_replace (h : normalizePage (some (.obj object)) mode = .ok page)
    (cursor : String) :
    normalizePage (some (.obj (object.filter (fun field => field.1 ≠ "cursor") ++
      [("cursor", .str cursor)]))) mode = .ok { page with cursor := some cursor } := by
  obtain ⟨object', hobject, h⟩ := bind_ok.mp h
  cases hobject
  obtain ⟨⟨⟩, hkeys, h⟩ := bind_ok.mp h
  refine bind_ok.mpr ⟨_, rfl, bind_ok.mpr ⟨(), rejectUnknownKeys_replace hkeys (by simp), ?_⟩⟩
  dsimp only at h ⊢
  rw [property_replace, property_replace, if_neg (show "limit" ≠ "cursor" by decide), if_pos rfl]
  cases hlimit : pageLimit (if mode = .aggregate then maxAggregateGroups else maxRows)
      ((nullish (property object "limit")).getD (natJson defaultLimit)) with
  | none =>
    rw [hlimit] at h
    cases h
  | some limit =>
    rw [hlimit] at h
    dsimp only at h
    cases hcursor : nullish (property object "cursor") with
    | none =>
      rw [hcursor] at h
      cases h
      rfl
    | some value =>
      rw [hcursor] at h
      cases value with
      | str s =>
        cases h
        rfl
      | null | bool | num | arr | obj => cases h

lemma normalizePage_withCursor {fields : List (String × QueryJson)}
    (h : normalizePage (property fields "page") mode = .ok page) (cursor : String) :
    normalizePage (some (.obj (pageWithCursor fields cursor))) mode =
      .ok { page with cursor := some cursor } := by
  unfold pageWithCursor
  cases hpage : property fields "page" with
  | none =>
    rw [hpage, normalizePage_none] at h
    exact normalizePage_replace h cursor
  | some value =>
    rw [hpage] at h
    cases value with
    | obj object => exact normalizePage_replace h cursor
    | null | bool | num | str | arr =>
      obtain ⟨object, hobject, -⟩ := bind_ok.mp h
      cases hobject

/-- The same query, at a cursor. -/
def NormalizedQuery.atCursor (query : NormalizedQuery) (cursor : Option String) :
    NormalizedQuery :=
  { query with page := { query.page with cursor } }

variable {body : QueryJson} {query : NormalizedQuery}
  {override : Option StructuredDatasetRegistry}

lemma body_of_normalizeQuery (h : normalizeQuery body override = .ok query) :
    ∃ fields, body = .obj fields := by
  obtain ⟨fields, hbody, -⟩ := bind_ok.mp h
  cases body with
  | obj fields' => exact ⟨fields', rfl⟩
  | null | bool | num | str | arr => cases hbody

lemma normalizeQuery_withCursor (h : normalizeQuery body override = .ok query) (cursor : String) :
    normalizeQuery (withCursor body cursor) override = .ok (query.atCursor (some cursor)) := by
  obtain ⟨fields, rfl⟩ := body_of_normalizeQuery h
  obtain ⟨object, hobject, h⟩ := bind_ok.mp h
  cases hobject
  obtain ⟨⟨⟩, hkeys, h⟩ := bind_ok.mp h
  have hprop : ∀ name ≠ "page", property (fields.filter (fun field => field.1 ≠ "page") ++
      [("page", .obj (pageWithCursor fields cursor))]) name = property fields name :=
    fun name hname => by rw [property_replace, if_neg hname]
  have hpage : property (fields.filter (fun field => field.1 ≠ "page") ++
      [("page", .obj (pageWithCursor fields cursor))]) "page" =
        some (.obj (pageWithCursor fields cursor)) := by rw [property_replace, if_pos rfl]
  unfold withCursor normalizeQuery
  refine bind_ok.mpr ⟨_, rfl, bind_ok.mpr ⟨(), rejectUnknownKeys_replace hkeys (by simp), ?_⟩⟩
  rw [hpage, hprop "dataset" (by decide), hprop "select" (by decide), hprop "sort" (by decide),
    hprop "groupBy" (by decide), hprop "aggregates" (by decide), hprop "filter" (by decide)]
  cases hname : property fields "dataset" with
  | none =>
    rw [hname] at h
    cases h
  | some value =>
  rw [hname] at h
  cases value with
  | null | bool | num | arr | obj => cases h
  | str name =>
  dsimp only at h ⊢
  cases hlookup : structuredDatasets.lookup name with
  | none =>
    rw [hlookup] at h
    cases h
  | some dataset =>
    rw [hlookup] at h
    dsimp only at h ⊢
    split_ifs at h ⊢ with haccess
    · cases h
    · obtain ⟨select, hselect, h⟩ := bind_ok.mp h
      obtain ⟨sort, hsort, h⟩ := bind_ok.mp h
      obtain ⟨groupBy, hgroupBy, h⟩ := bind_ok.mp h
      obtain ⟨aggregates, haggregates, h⟩ := bind_ok.mp h
      obtain ⟨page, hpage', h⟩ := bind_ok.mp h
      refine bind_ok.mpr ⟨select, hselect, bind_ok.mpr ⟨sort, hsort, bind_ok.mpr ⟨groupBy, hgroupBy,
        bind_ok.mpr ⟨aggregates, haggregates, bind_ok.mpr ⟨_,
          normalizePage_withCursor hpage' cursor, ?_⟩⟩⟩⟩⟩
      cases hfilter : property fields "filter" with
      | none =>
        rw [hfilter] at h
        cases h
        rfl
      | some filter =>
        rw [hfilter] at h
        obtain ⟨node, hnode, h⟩ := bind_ok.mp h
        cases h
        exact bind_ok.mpr ⟨node, hnode, rfl⟩

/-! ### Cursors -/

/-- The seconds up to the last time that a date can hold. -/
def maxDateSeconds : ℤ := 8640000000000

/-- What a cursor holds. -/
def signedCursor (services : QueryServices) (offset : ℕ) (shapeHash secret : String) (now : ℤ) :
    QueryJson :=
  let unsigned := cursorFields (natJson offset) shapeHash (.num (.finite (now + cursorTtlSeconds)))
  .obj (unsigned ++ [("signature", .str (services.signCursorPayload (.obj unsigned) secret))])

/-- The hash of some query. -/
def IsShapeHash (services : QueryServices) (shapeHash : String) : Prop :=
  (∃ shape, shapeHash = services.hashQueryShape shape) ∨
    ∃ shape, shapeHash = services.hashDirectoryShape shape

/-- Cursors into some results are read back as they were written, and are not too long. -/
structure CursorsRead (services : QueryServices) (count : ℕ) : Prop where
  parse_empty : services.parseCursor "" = none
  parse_print : ∀ offset < count, ∀ shapeHash secret now, IsShapeHash services shapeHash →
    |now| ≤ maxDateSeconds →
      services.parseCursor (services.printCursor
        (signedCursor services offset shapeHash secret now)) =
          some (signedCursor services offset shapeHash secret now)
  short : ∀ offset < count, ∀ shapeHash secret now, IsShapeHash services shapeHash →
    |now| ≤ maxDateSeconds →
      scriptLength (createStructuredCursor services offset shapeHash secret now) ≤ cursorChars

variable {services : QueryServices} {input : CompileInput} {count offset : ℕ}
  {shapeHash secret : String} {now now' : ℤ}

lemma cursorOffset_natJson (offset : ℕ) : cursorOffset (some (natJson offset)) = some offset := by
  simp [cursorOffset, natJson]

lemma decode_create (hcursors : CursorsRead services count) (hoffset : offset < count)
    (hhash : IsShapeHash services shapeHash) (hnow : |now| ≤ maxDateSeconds)
    (hlate : now' ≤ now + cursorTtlSeconds) :
    decodeStructuredCursor services (createStructuredCursor services offset shapeHash secret now)
      shapeHash secret now' = .ok offset := by
  have hshort := hcursors.short offset hoffset shapeHash secret now hhash hnow
  have hparse : services.parseCursor (createStructuredCursor services offset shapeHash secret now) =
      some (signedCursor services offset shapeHash secret now) :=
    hcursors.parse_print offset hoffset shapeHash secret now hhash hnow
  have hexpires : ((now : ℚ) + cursorTtlSeconds < now') = False := by
    rw [eq_iff_iff, iff_false, not_lt]
    exact_mod_cast hlate
  unfold decodeStructuredCursor
  rw [if_neg (not_lt.mpr hshort), hparse]
  simp [signedCursor, cursorFields, property, List.lookup_cons, cursorOffset_natJson,
    ScriptNumber.before, hexpires]

lemma create_ne_empty (hcursors : CursorsRead services count) (hoffset : offset < count)
    (hhash : IsShapeHash services shapeHash) (hnow : |now| ≤ maxDateSeconds) :
    createStructuredCursor services offset shapeHash secret now ≠ "" := by
  intro hempty
  have hparse := hcursors.parse_print offset hoffset shapeHash secret now hhash hnow
  have hprint : services.printCursor (signedCursor services offset shapeHash secret now) = "" :=
    hempty
  rw [hprint, hcursors.parse_empty] at hparse
  cases hparse

lemma pageOffset_atCursor (hcursors : CursorsRead services count) (hoffset : offset < count)
    (hhash : IsShapeHash services shapeHash) (hnow : |now| ≤ maxDateSeconds)
    (hlate : now' ≤ now + cursorTtlSeconds) (query : NormalizedQuery) :
    pageOffset services { input with now := now' } (query.atCursor
      (createStructuredCursor services offset shapeHash input.cursorSecret now)).page shapeHash =
        .ok offset := by
  have hne : createStructuredCursor services offset shapeHash input.cursorSecret now ≠ "" :=
    create_ne_empty hcursors hoffset hhash hnow
  unfold pageOffset NormalizedQuery.atCursor
  rw [Option.filter_some, if_pos (by simpa using hne)]
  exact decode_create hcursors hoffset hhash hnow hlate

/-! ### Another page -/

/-- What two pages of one query have in common. -/
structure SameQuery (compiled compiled' : StructuredCompiledQuery) : Prop where
  limit : compiled'.limit = compiled.limit
  shapeHash : compiled'.shapeHash = compiled.shapeHash

variable {compiled : StructuredCompiledQuery}

lemma compileNormalizedQuery_atCursor {registry : StructuredDatasetRegistry}
    {cursor : Option String}
    (h : compileNormalizedQuery services input query registry = .ok compiled)
    (hoffset : pageOffset services { input with now := now' } (query.atCursor cursor).page
      compiled.shapeHash = .ok offset) :
    ∃ compiled', compileNormalizedQuery services { input with now := now' }
        (query.atCursor cursor) registry = .ok compiled' ∧ compiled'.offset = offset ∧
      SameQuery compiled compiled' := by
  unfold compileNormalizedQuery at h ⊢
  cases htable : registry.rowTable with
  | none =>
    rw [htable] at h
    cases h
  | some rowTable =>
    rw [htable] at h
    obtain ⟨⟨⟩, hselected, h⟩ := bind_ok.mp h
    obtain ⟨⟨⟩, haggregates, h⟩ := bind_ok.mp h
    obtain ⟨⟨⟩, hsort, h⟩ := bind_ok.mp h
    obtain ⟨⟨⟩, hfilters, h⟩ := bind_ok.mp h
    obtain ⟨first, -, h⟩ := bind_ok.mp h
    obtain ⟨dynamic, hdynamic, h⟩ := bind_ok.mp h
    obtain ⟨projection, hprojection, h⟩ := bind_ok.mp h
    obtain ⟨filter, hfilter, h⟩ := bind_ok.mp h
    obtain ⟨order, horder, h⟩ := bind_ok.mp h
    obtain ⟨groupBy, hgroupBy, h⟩ := bind_ok.mp h
    cases h
    exact ⟨_, bind_ok.mpr ⟨(), hselected, bind_ok.mpr ⟨(), haggregates, bind_ok.mpr ⟨(), hsort,
      bind_ok.mpr ⟨(), hfilters, bind_ok.mpr ⟨offset, hoffset, bind_ok.mpr ⟨dynamic, hdynamic,
        bind_ok.mpr ⟨projection, hprojection, bind_ok.mpr ⟨filter, hfilter, bind_ok.mpr ⟨order,
          horder, bind_ok.mpr ⟨groupBy, hgroupBy, rfl⟩⟩⟩⟩⟩⟩⟩⟩⟩⟩, rfl, rfl, rfl⟩

/-- A body that asks for the same query as another one, at a cursor. -/
structure AsksAt (cursor : NormalizedQuery → Option String) (body body' : QueryJson) : Prop where
  cards : namesCostCards body' = namesCostCards body
  query : ∀ {override query}, normalizeQuery body override = .ok query →
    normalizeQuery body' override = .ok (query.atCursor (cursor query))

lemma asksAt_self (body : QueryJson) : AsksAt (fun query => query.page.cursor) body body where
  cards := rfl
  query h := h

lemma compileCostCardQuery_atCursor {body' : QueryJson} {cursor : NormalizedQuery → Option String}
    (hasks : AsksAt cursor body body')
    (h : compileCostCardQuery services input body = .ok compiled)
    (hoffset : ∀ {override query}, normalizeQuery body override = .ok query →
      pageOffset services { input with now := now' } (query.atCursor (cursor query)).page
        compiled.shapeHash = .ok offset) :
    ∃ compiled', compileCostCardQuery services { input with now := now' } body' = .ok compiled' ∧
      compiled'.offset = offset ∧ SameQuery compiled compiled' := by
  unfold compileCostCardQuery at h ⊢
  dsimp only
  cases hauthorization : input.businessAuthorization with
  | none =>
    rw [hauthorization] at h
    cases h
  | some authorization =>
    rw [hauthorization] at h
    obtain ⟨query, hquery, h⟩ := bind_ok.mp h
    obtain ⟨filter, hfilter, h⟩ := bind_ok.mp h
    obtain ⟨first, -, h⟩ := bind_ok.mp h
    obtain ⟨projection, hprojection, h⟩ := bind_ok.mp h
    obtain ⟨sort, hsort, h⟩ := bind_ok.mp h
    cases h
    obtain ⟨normalized, hnormalized, hquery⟩ := bind_ok.mp hquery
    obtain ⟨⟨⟩, hdetail, hquery⟩ := bind_ok.mp hquery
    obtain ⟨⟨⟩, hselected, hquery⟩ := bind_ok.mp hquery
    obtain ⟨⟨⟩, hsorts, hquery⟩ := bind_ok.mp hquery
    cases hquery
    have hdirectory : normalizeStructuredDirectoryQuery body' costCardDirectoryRegistry =
        .ok (query.atCursor (cursor query)) :=
      bind_ok.mpr ⟨_, hasks.query hnormalized, bind_ok.mpr ⟨(), hdetail,
        bind_ok.mpr ⟨(), hselected, bind_ok.mpr ⟨(), hsorts, rfl⟩⟩⟩⟩
    exact ⟨_, bind_ok.mpr ⟨_, hdirectory, bind_ok.mpr ⟨filter, hfilter, bind_ok.mpr ⟨offset,
      hoffset hnormalized, bind_ok.mpr ⟨projection, hprojection, bind_ok.mpr ⟨sort, hsort,
        rfl⟩⟩⟩⟩⟩, rfl, rfl, rfl⟩

/-- **Another page of a query is compiled as the first one was.** -/
lemma compile_atCursor {body' : QueryJson} {cursor : NormalizedQuery → Option String}
    (hasks : AsksAt cursor body body')
    (h : compilePublicStructuredQuery services input body = .ok compiled)
    (hoffset : ∀ {override query}, normalizeQuery body override = .ok query →
      pageOffset services { input with now := now' } (query.atCursor (cursor query)).page
        compiled.shapeHash = .ok offset) :
    ∃ compiled', compilePublicStructuredQuery services { input with now := now' } body' =
        .ok compiled' ∧ compiled'.offset = offset ∧ SameQuery compiled compiled' := by
  unfold compilePublicStructuredQuery at h ⊢
  rw [hasks.cards]
  split_ifs at h ⊢ with hcards
  · exact compileCostCardQuery_atCursor hasks h hoffset
  · obtain ⟨query, hquery, h⟩ := bind_ok.mp h
    split_ifs at h with hledger
    · cases h
    · obtain ⟨compiled', hcompiled, hsame⟩ := compileNormalizedQuery_atCursor h (hoffset hquery)
      refine ⟨compiled', bind_ok.mpr ⟨_, hasks.query hquery, ?_⟩, hsame⟩
      exact (if_neg hledger).trans hcompiled

lemma property_withCursor (fields : List (String × QueryJson)) (cursor : String) {name : String}
    (hname : name ≠ "page") :
    ∃ fields', withCursor (.obj fields) cursor = .obj fields' ∧
      property fields' name = property fields name :=
  ⟨_, rfl, by rw [property_replace, if_neg hname]⟩

lemma namesCostCards_withCursor (body : QueryJson) (cursor : String) :
    namesCostCards (withCursor body cursor) = namesCostCards body := by
  cases body with
  | obj fields =>
    obtain ⟨fields', hbody, hproperty⟩ := property_withCursor fields cursor
      (show "dataset" ≠ "page" by decide)
    rw [hbody]
    unfold namesCostCards
    dsimp only
    rw [hproperty]
  | null | bool | num | str | arr => rfl

lemma shapeHash_of_compiled (h : compilePublicStructuredQuery services input body = .ok compiled) :
    IsShapeHash services compiled.shapeHash := by
  unfold compilePublicStructuredQuery at h
  split_ifs at h with hcards
  · obtain ⟨-, shape, -, -, hshape⟩ := compileCostCardQuery_page h
    exact .inr ⟨shape, hshape⟩
  · obtain ⟨query, -, h⟩ := bind_ok.mp h
    split_ifs at h
    · cases h
    · exact .inl ⟨_, (compileNormalizedQuery_page h).2⟩

lemma asksAt_withCursor (body : QueryJson) (cursor : String) :
    AsksAt (fun _ => some cursor) body (withCursor body cursor) where
  cards := namesCostCards_withCursor body cursor
  query h := normalizeQuery_withCursor h cursor

lemma compile_withCursor (hcursors : CursorsRead services count) (hoffset : offset < count)
    (hnow : |input.now| ≤ maxDateSeconds) (hlate : now' ≤ input.now + cursorTtlSeconds)
    (h : compilePublicStructuredQuery services input body = .ok compiled) :
    ∃ compiled', compilePublicStructuredQuery services { input with now := now' }
        (withCursor body (createStructuredCursor services offset compiled.shapeHash
          input.cursorSecret input.now)) = .ok compiled' ∧ compiled'.offset = offset ∧
      SameQuery compiled compiled' :=
  compile_atCursor (asksAt_withCursor body _) h fun _ =>
    pageOffset_atCursor hcursors hoffset (shapeHash_of_compiled h) hnow hlate _

/-- Does a body ask for the first page? -/
def asksFirstPage : QueryJson → Bool
  | .obj fields =>
    match property fields "page" with
    | some (.obj page) =>
      match nullish (property page "cursor") with
      | none => true
      | some (.str cursor) => cursor = ""
      | some _ => false
    | _ => true
  | _ => true

lemma normalizePage_first {fields : List (String × QueryJson)}
    (h : normalizePage (property fields "page") mode = .ok page)
    (hfirst : asksFirstPage (.obj fields) = true) : page.cursor.filter (· ≠ "") = none := by
  unfold asksFirstPage at hfirst
  dsimp only at hfirst
  cases hpage : property fields "page" with
  | none =>
    rw [hpage] at h
    cases h
    rfl
  | some value =>
    rw [hpage] at h hfirst
    cases value with
    | null | bool | num | str | arr =>
      obtain ⟨object, hobject, -⟩ := bind_ok.mp h
      cases hobject
    | obj object =>
      obtain ⟨object', hobject, hrest⟩ := bind_ok.mp h
      cases hobject
      obtain ⟨⟨⟩, -, hrest⟩ := bind_ok.mp hrest
      dsimp only at hrest hfirst
      split at hrest
      · cases hrest
      · cases hcursor : nullish (property object "cursor") with
        | none =>
          rw [hcursor] at hrest
          cases hrest
          rfl
        | some value =>
          rw [hcursor] at hrest hfirst
          cases value with
          | str cursor =>
            cases hrest
            simpa using hfirst
          | null | bool | num | arr | obj => cases hrest

lemma normalizeQuery_page (h : normalizeQuery body override = .ok query) :
    ∃ fields mode, body = .obj fields ∧
      normalizePage (property fields "page") mode = .ok query.page := by
  obtain ⟨fields, rfl⟩ := body_of_normalizeQuery h
  obtain ⟨object, hobject, h⟩ := bind_ok.mp h
  cases hobject
  obtain ⟨⟨⟩, -, h⟩ := bind_ok.mp h
  dsimp only at h
  split at h
  · cases h
  · split_ifs at h
    · cases h
    · obtain ⟨select, -, h⟩ := bind_ok.mp h
      obtain ⟨sort, -, h⟩ := bind_ok.mp h
      obtain ⟨groupBy, -, h⟩ := bind_ok.mp h
      obtain ⟨aggregates, -, h⟩ := bind_ok.mp h
      obtain ⟨page, hpage, h⟩ := bind_ok.mp h
      refine ⟨fields, _, rfl, hpage.trans ?_⟩
      split at h
      · cases h
        rfl
      · obtain ⟨node, -, h⟩ := bind_ok.mp h
        cases h
        rfl

lemma compile_first (h : compilePublicStructuredQuery services input body = .ok compiled)
    (hfirst : asksFirstPage body = true) (now : ℤ) :
    ∃ compiled', compilePublicStructuredQuery services { input with now := now } body =
        .ok compiled' ∧ compiled'.offset = 0 ∧ SameQuery compiled compiled' := by
  refine compile_atCursor (asksAt_self body) h ?_
  intro override query hquery
  obtain ⟨fields, mode, rfl, hpage⟩ := normalizeQuery_page hquery
  have hcursor : query.page.cursor.filter (· ≠ "") = none := normalizePage_first hpage hfirst
  unfold pageOffset NormalizedQuery.atCursor
  rw [hcursor]

lemma pageLimit_pos {maxLimit limit : ℕ} {value : QueryJson}
    (h : pageLimit maxLimit value = some limit) : 0 < limit := by
  unfold pageLimit at h
  split at h
  · split_ifs at h with hinteger
    cases h
    omega
  · cases h

lemma normalizePage_limit {input : Option QueryJson} (h : normalizePage input mode = .ok page) :
    0 < page.limit := by
  unfold normalizePage at h
  cases input with
  | none =>
    cases h
    decide
  | some value =>
    obtain ⟨object, -, h⟩ := bind_ok.mp h
    obtain ⟨⟨⟩, -, h⟩ := bind_ok.mp h
    dsimp only at h
    split at h
    · cases h
    · rename_i limit hlimit
      split at h
      · cases h
        exact pageLimit_pos hlimit
      · cases h
        exact pageLimit_pos hlimit
      · cases h

lemma limit_pos (h : compilePublicStructuredQuery services input body = .ok compiled) :
    0 < compiled.limit := by
  unfold compilePublicStructuredQuery at h
  split_ifs at h with hcards
  · obtain ⟨query, -, hquery, hlimit, -⟩ := compileCostCardQuery_page h
    rw [hlimit]
    obtain ⟨normalized, hnormalized, hquery⟩ := bind_ok.mp hquery
    obtain ⟨⟨⟩, -, hquery⟩ := bind_ok.mp hquery
    obtain ⟨⟨⟩, -, hquery⟩ := bind_ok.mp hquery
    obtain ⟨⟨⟩, -, hquery⟩ := bind_ok.mp hquery
    cases hquery
    obtain ⟨fields, mode, -, hpage⟩ := normalizeQuery_page hnormalized
    exact normalizePage_limit hpage
  · obtain ⟨query, hquery, h⟩ := bind_ok.mp h
    obtain ⟨fields, mode, -, hpage⟩ := normalizeQuery_page hquery
    split_ifs at h
    · cases h
    · rw [(compileNormalizedQuery_page h).1]
      exact normalizePage_limit hpage

lemma hasEmptyIn_withCursor (h : compilePublicStructuredQuery services input body = .ok compiled)
    (cursor : String) : hasEmptyIn (withCursor body cursor) = hasEmptyIn body := by
  unfold hasEmptyIn
  rw [namesCostCards_withCursor]
  unfold compilePublicStructuredQuery at h
  split_ifs at h with hcards
  · rw [hcards]
    rfl
  · obtain ⟨query, hquery, -⟩ := bind_ok.mp h
    rw [hquery, normalizeQuery_withCursor hquery]
    rfl

end StructuredQuery
end SmeDataCenter
