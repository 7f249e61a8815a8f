import SmeDataCenter.QueryCursors

/-!
# Paging by cursors

A client that follows the cursors of a query in time reads the pages of one result, and reads
every row or group once, exactly when no page ends between two results that the sort of the query
does not tell apart.
-/

namespace SmeDataCenter
namespace StructuredQuery

open Fallible
open Paging (Consistent TiesOnOnePage page pagesFrom)

/-! ### All pages -/

variable {services : QueryServices} {input : CompileInput} {mysql : Mysql}
  {content : Content mysql} {order : List QueryResult} {orders : ℕ → List QueryResult}
  {clock : ℕ → ℤ} {count limit fuel k : ℕ}

variable {compiled : StructuredCompiledQuery} {body : QueryJson}

lemma replyToQuery_eq (h : compilePublicStructuredQuery services input body = .ok compiled)
    (hfilled : hasEmptyIn body = false) :
    replyToQuery services input body order = .ok {
      rows := page compiled.limit compiled.offset order
      nextCursor :=
        if compiled.offset + compiled.limit < order.length then
          some (createStructuredCursor services (compiled.offset + compiled.limit)
            compiled.shapeHash input.cursorSecret input.now)
        else none } := by
  have hrows : (execute order compiled).rows = page compiled.limit compiled.offset order := by
    unfold execute page
    dsimp only
    rw [List.take_take, Nat.min_eq_left (Nat.le_succ _)]
  have hmore : (execute order compiled).hasMore =
      decide (compiled.offset + compiled.limit < order.length) := by
    unfold execute page
    dsimp only
    rw [List.length_take, List.length_drop, decide_eq_decide]
    omega
  refine bind_ok.mpr ⟨compiled, h, ?_⟩
  rw [if_neg (by simp [hfilled])]
  dsimp only
  rw [hrows, hmore]
  by_cases hlast : compiled.offset + compiled.limit < order.length
  · have hfull : (page compiled.limit compiled.offset order).length = compiled.limit := by
      rw [page, List.length_take, List.length_drop]
      omega
    rw [hfull, decide_eq_true hlast, if_pos rfl, if_pos hlast]
    rfl
  · rw [decide_eq_false hlast, if_neg (by simp), if_neg hlast]
    rfl

/-- Every request is made before the cursor that it sends expires. -/
structure InTime (clock : ℕ → ℤ) : Prop where
  isDate : ∀ k, |clock k| ≤ maxDateSeconds
  beforeExpiry : ∀ k, clock (k + 1) ≤ clock k + cursorTtlSeconds

lemma followCursors_eq (hcursors : CursorsRead services count) (htime : InTime clock)
    (horders : ∀ k, (orders k).length = count)
    (h : compilePublicStructuredQuery services { input with now := clock k } body = .ok compiled)
    (hfilled : hasEmptyIn body = false) (hoffset : compiled.offset = k * limit)
    (hsize : compiled.limit = limit) (hpos : 0 < fuel) (hfuel : count ≤ (k + fuel) * limit) :
    followCursors services input clock orders fuel k body =
      .ok (pagesFrom limit orders fuel k) := by
  induction fuel generalizing k body compiled with
  | zero => omega
  | succ fuel ih =>
    have hnext : compiled.offset + compiled.limit = (k + 1) * limit := by
      rw [hoffset, hsize, Nat.succ_mul]
    unfold followCursors pagesFrom
    rw [replyToQuery_eq h hfilled, hnext, hsize, hoffset]
    by_cases hmore : (k + 1) * limit < (orders k).length
    · have hlt : (k + 1) * limit < count := horders k ▸ hmore
      obtain ⟨compiled', hcompiled, hoffset', hsame⟩ := compile_withCursor hcursors hlt
        (htime.isDate k) (htime.beforeExpiry k) h
      have hrest := ih hcompiled ((hasEmptyIn_withCursor h _).trans hfilled) hoffset'
        (hsame.limit.trans hsize) (by
          by_contra hzero
          obtain rfl : fuel = 0 := by omega
          rw [Nat.zero_add] at hfuel
          omega) (by rwa [Nat.add_right_comm, Nat.add_assoc])
      rw [if_pos hmore, if_pos hmore]
      exact bind_ok.mpr ⟨_, rfl, bind_ok.mpr ⟨_, hrest, rfl⟩⟩
    · rw [if_neg hmore, if_neg hmore]
      rfl

/-- Whatever orders the database chooses, a client that follows the cursors in time comes to the
end, and has read every result once. -/
def ReadsOnce (services : QueryServices) (input : CompileInput) (body : QueryJson)
    (content : Content mysql) (plan : QueryPlan) : Prop :=
  ∀ (clock : ℕ → ℤ) (orders : ℕ → List QueryResult), InTime clock →
    (∀ k, Consistent (plan.orderKey mysql) (plan.results content) (orders k)) →
    ∃ fuel pages, followCursors services input clock orders fuel 0 body = .ok pages ∧
      pages.flatten.Perm (plan.results content)

lemma followCursors_mono {pages : List (List QueryResult)} (fuel' : ℕ)
    (h : followCursors services input clock orders fuel k body = .ok pages) :
    followCursors services input clock orders (fuel + fuel') k body = .ok pages := by
  induction fuel generalizing k body pages with
  | zero => cases h
  | succ fuel ih =>
    rw [Nat.add_right_comm]
    unfold followCursors at h ⊢
    obtain ⟨reply, hreply, h⟩ := bind_ok.mp h
    refine bind_ok.mpr ⟨reply, hreply, ?_⟩
    split at h
    · exact h
    · obtain ⟨rest, hrest, h⟩ := bind_ok.mp h
      exact bind_ok.mpr ⟨rest, ih hrest, h⟩

lemma readsOnce_iff_ties {plan : QueryPlan}
    (hcompiled : compilePublicStructuredQuery services input body = .ok compiled)
    (hfilled : hasEmptyIn body = false) (hfirst : asksFirstPage body = true)
    (hcursors : CursorsRead services (plan.results content).length) :
    ReadsOnce services input body content plan ↔
      TiesOnOnePage (plan.orderKey mysql) (plan.results content) compiled.limit := by
  have hlimit := limit_pos hcompiled
  have hfollow : ∀ (clock : ℕ → ℤ) (orders : ℕ → List QueryResult), InTime clock →
      (∀ k, Consistent (plan.orderKey mysql) (plan.results content) (orders k)) →
      followCursors services input clock orders ((plan.results content).length + 1) 0 body =
        .ok (pagesFrom compiled.limit orders ((plan.results content).length + 1) 0) := by
    intro clock orders htime horders
    obtain ⟨first, hfirstPage, hoffset, hsame⟩ := compile_first hcompiled hfirst (clock 0)
    have henough : (plan.results content).length ≤
        (0 + ((plan.results content).length + 1)) * compiled.limit := by
      rw [Nat.zero_add]
      exact (Nat.le_succ _).trans (Nat.le_mul_of_pos_right _ hlimit)
    exact followCursors_eq hcursors htime (fun k => (horders k).length_eq) hfirstPage hfilled
      (hoffset.trans (Nat.zero_mul _).symm) hsame.limit (Nat.succ_pos _) henough
  have hread : (∀ orders : ℕ → List QueryResult,
      (∀ k, Consistent (plan.orderKey mysql) (plan.results content) (orders k)) →
        (pagesFrom compiled.limit orders ((plan.results content).length + 1) 0).flatten.Perm
          (plan.results content)) ↔
      TiesOnOnePage (plan.orderKey mysql) (plan.results content) compiled.limit :=
    Paging.read_once_iff hlimit (plan.results_nodup content)
      ((Nat.le_succ _).trans (Nat.le_mul_of_pos_right _ hlimit))
  rw [← hread]
  constructor
  · intro hreads orders horders
    have htime : InTime fun _ => 0 := by
      constructor
      · intro k
        decide
      · intro k
        decide
    obtain ⟨fuel, pages, hpages, hperm⟩ := hreads (fun _ => 0) orders htime horders
    -- the same pages are read with more steps
    have hmore := followCursors_mono ((plan.results content).length + 1) hpages
    have hall := followCursors_mono fuel (hfollow _ orders htime horders)
    rw [Nat.add_comm, hall] at hmore
    cases hmore
    exact hperm
  · intro hall clock orders htime horders
    exact ⟨_, _, hfollow clock orders htime horders, hall orders horders⟩

/-- **Paging covers a query result exactly once**, as far as no page ends between two groups that
the client's sort does not tell apart. -/
theorem pages_read_once_iff (services : QueryServices) (input : CompileInput) (body : QueryJson)
    (mysql : Mysql) (content : Content mysql) (compiled : StructuredCompiledQuery)
    (plan : QueryPlan)
    (hcompiled : compilePublicStructuredQuery services input body = .ok compiled)
    (hfilled : hasEmptyIn body = false) (hfirst : asksFirstPage body = true)
    (hplan : queryPlan input body = .ok plan)
    (hcursors : CursorsRead services (plan.results content).length) :
    ReadsOnce services input body content plan ↔
      (sortsGroups body = true →
        TiesOnOnePage (plan.orderKey mysql) (plan.results content) compiled.limit) := by
  rw [readsOnce_iff_ties hcompiled hfilled hfirst hcursors]
  constructor
  · exact fun h _ => h
  · intro h
    cases hsorts : sortsGroups body with
    | true => exact h hsorts
    | false => exact Paging.tiesOnOnePage_of_injective (plan_keys_nodup hplan hsorts)

/-! ### Suppliers by category -/

def codePoints : Mysql where
  weights s := s.toList.map Char.toNat
  matchesLike _ _ := false
  textNumber _ := 0
  numberText _ := ""
  readTime _ := none
  quotient a b := a / b

/-- Four characters hold the offset and the expiry of a cursor. -/
def cursorText (offset : ℕ) (expiresAt : ℤ) : String :=
  let time := (expiresAt + 2 ^ 44).toNat
  String.ofList (([offset, time % 2 ^ 15, time / 2 ^ 15 % 2 ^ 15, time / 2 ^ 30]).map Char.ofNat)

def readCursorText (s : String) : Option (ℕ × ℤ) :=
  match s.toList.map Char.toNat with
  | [offset, a, b, c] => some (offset, ((a + 2 ^ 15 * b + 2 ^ 30 * c : ℕ) : ℤ) - 2 ^ 44)
  | _ => none

def shortServices : QueryServices where
  parsesDate _ := false
  hashQueryShape _ := "shape"
  hashDirectoryShape _ := "shape"
  parseCursor s := (readCursorText s).map fun cursor =>
    .obj (cursorFields (natJson cursor.1) "shape" (.num (.finite cursor.2)) ++
      [("signature", .str "signature")])
  printCursor cursor :=
    match cursor with
    | .obj fields =>
      match cursorOffset (property fields "offset"), property fields "expiresAt" with
      | some offset, some (.num (.finite q)) => cursorText offset q.num
      | _, _ => ""
    | _ => ""
  signCursorPayload _ _ := "signature"

/-- A supplier of a category, in the one batch. -/
def supplierRow (id category : String) (number : ℕ) : StoredRow where
  id
  orgId := "o"
  sourceDocumentId := "d"
  importBatchId := "b"
  sourceRowNumber := number
  payload name := if name = "supplier_category" then some (.text category) else none

/-- One supplier of each of two categories, and two of a third. -/
def fourSuppliers : Content codePoints where
  rows _ := [supplierRow "1" "x" 2, supplierRow "2" "y" 3, supplierRow "3" "z" 4,
    supplierRow "4" "z" 5]
  batches := [⟨"b", "o", "supplier_catalog", "applied", none⟩]
  documents := [⟨"d", "o", some "structured", "active", 1, none⟩]
  cards := []
  permits _ _ := true
  meets _ _ := true
  rowKeys _ := by decide +kernel
  cardKeys := by decide

/-- Count the suppliers of each category, the smallest categories first. -/
def countByCategory (limit : ℕ) : QueryJson :=
  .obj [("dataset", .str "supplier_catalog"), ("groupBy", .arr [.str "supplier_category"]),
    ("aggregates", .arr [.obj [("op", .str "count")]]),
    ("sort", .arr [.obj [("field", .str "count")]]),
    ("page", .obj [("limit", natJson limit)])]

lemma toNat_ofNat {n : ℕ} (h : n < 0xd800) : (Char.ofNat n).toNat = n := by
  unfold Char.ofNat
  rw [dif_pos (.inl h)]
  rfl

lemma readCursorText_cursorText {offset : ℕ} {expiresAt : ℤ} (hoffset : offset < 0xd800)
    (hexpires : |expiresAt| ≤ maxDateSeconds + cursorTtlSeconds) :
    readCursorText (cursorText offset expiresAt) = some (offset, expiresAt) := by
  obtain ⟨time, htime⟩ : ∃ time : ℕ, (time : ℤ) = expiresAt + 2 ^ 44 := by
    refine ⟨(expiresAt + 2 ^ 44).toNat, Int.toNat_of_nonneg ?_⟩
    have := neg_abs_le expiresAt
    simp only [maxDateSeconds, cursorTtlSeconds] at hexpires
    omega
  have hbound : time < 2 ^ 45 := by
    have := le_abs_self expiresAt
    simp only [maxDateSeconds, cursorTtlSeconds] at hexpires
    omega
  unfold readCursorText cursorText
  rw [← htime, Int.toNat_natCast, String.toList_ofList, List.map_map]
  simp only [List.map_cons, List.map_nil, Function.comp_apply]
  rw [toNat_ofNat hoffset, toNat_ofNat (by omega), toNat_ofNat (by omega), toNat_ofNat (by omega)]
  simp only [Option.some.injEq, Prod.mk.injEq, true_and]
  have hdigits : time % 2 ^ 15 + 2 ^ 15 * (time / 2 ^ 15 % 2 ^ 15) + 2 ^ 30 * (time / 2 ^ 30) =
      time := by omega
  rw [hdigits, htime]
  omega

lemma shortServices_print (offset : ℕ) (shapeHash secret : String) (now : ℤ) :
    shortServices.printCursor (signedCursor shortServices offset shapeHash secret now) =
      cursorText offset (now + cursorTtlSeconds) := by
  have hnum : ((now : ℚ) + cursorTtlSeconds).num = now + cursorTtlSeconds := by
    rw [show (now : ℚ) + cursorTtlSeconds = ((now + cursorTtlSeconds : ℤ) : ℚ) by push_cast; rfl]
    exact Rat.num_intCast _
  simp only [shortServices, signedCursor, cursorFields, property, List.cons_append,
    List.nil_append, List.lookup_cons]
  simp [cursorOffset_natJson, hnum]

lemma scriptLength_cursorText (offset : ℕ) (expiresAt : ℤ) :
    scriptLength (cursorText offset expiresAt) ≤ cursorChars := by
  have hunits : ∀ c : Char, (codeUnits c).length ≤ 2 := by
    intro c
    unfold codeUnits
    split_ifs <;> simp
  unfold scriptLength cursorText
  rw [String.toList_ofList]
  simp only [List.map_cons, List.map_nil, List.flatMap_cons, List.flatMap_nil,
    List.length_append, List.length_nil]
  have h₁ := hunits (Char.ofNat offset)
  have h₂ := hunits (Char.ofNat ((expiresAt + 2 ^ 44).toNat % 2 ^ 15))
  have h₃ := hunits (Char.ofNat ((expiresAt + 2 ^ 44).toNat / 2 ^ 15 % 2 ^ 15))
  have h₄ := hunits (Char.ofNat ((expiresAt + 2 ^ 44).toNat / 2 ^ 30))
  unfold cursorChars
  omega

lemma shortServices_cursorsRead {count : ℕ} (hcount : count ≤ 0xd800) :
    CursorsRead shortServices count := by
  constructor
  · rfl
  · intro offset hoffset shapeHash secret now hhash hnow
    obtain rfl : shapeHash = "shape" := by
      rcases hhash with ⟨_, rfl⟩ | ⟨_, rfl⟩ <;> rfl
    have hexpires : |now + cursorTtlSeconds| ≤ maxDateSeconds + cursorTtlSeconds :=
      (abs_add_le _ _).trans (by simpa using hnow)
    rw [shortServices_print]
    unfold shortServices
    dsimp only
    rw [readCursorText_cursorText (hoffset.trans_le hcount) hexpires]
    simp [signedCursor, cursorFields]
  · intro offset hoffset shapeHash secret now hhash hnow
    have hprint : createStructuredCursor shortServices offset shapeHash secret now =
        cursorText offset (now + cursorTtlSeconds) := shortServices_print offset shapeHash secret now
    rw [hprint]
    exact scriptLength_cursorText _ _

theorem pages_read_once_suppliers :
    ∃ plan, queryPlan legacyInput (countByCategory 2) = .ok plan ∧
      ReadsOnce shortServices legacyInput (countByCategory 2) fourSuppliers plan := by
  obtain ⟨compiled, hcompiled⟩ : ∃ compiled, compilePublicStructuredQuery shortServices legacyInput
      (countByCategory 2) = .ok compiled := exists_ok (by decide +kernel)
  obtain ⟨plan, hplan⟩ : ∃ plan, queryPlan legacyInput (countByCategory 2) = .ok plan :=
    exists_ok (by decide +kernel)
  have hsize : (match compilePublicStructuredQuery shortServices legacyInput
      (countByCategory 2) with
      | .ok compiled => decide (compiled.limit = 2)
      | .error _ => false) = true := by decide +kernel
  have hties : (match queryPlan legacyInput (countByCategory 2) with
      | .ok plan => (plan.results fourSuppliers).length = 3 && decide (TiesOnOnePage
          (plan.orderKey codePoints) (plan.results fourSuppliers) 2)
      | .error _ => false) = true := by decide +kernel
  rw [hcompiled] at hsize
  rw [hplan] at hties
  simp only [Bool.and_eq_true, decide_eq_true_eq] at hsize hties
  refine ⟨plan, hplan, (pages_read_once_iff shortServices legacyInput (countByCategory 2) codePoints
    fourSuppliers compiled plan hcompiled (by decide +kernel) (by decide +kernel) hplan
    (shortServices_cursorsRead (by omega))).mpr fun _ => ?_⟩
  rw [hsize]
  exact hties.2

/-- With one category on a page, the page ends between two categories of one size. -/
theorem tied_groups_are_not_read_once :
    ∃ compiled plan, compilePublicStructuredQuery shortServices legacyInput (countByCategory 1) =
        .ok compiled ∧ queryPlan legacyInput (countByCategory 1) = .ok plan ∧
      ¬ReadsOnce shortServices legacyInput (countByCategory 1) fourSuppliers plan := by
  obtain ⟨compiled, hcompiled⟩ : ∃ compiled, compilePublicStructuredQuery shortServices legacyInput
      (countByCategory 1) = .ok compiled := exists_ok (by decide +kernel)
  obtain ⟨plan, hplan⟩ : ∃ plan, queryPlan legacyInput (countByCategory 1) = .ok plan :=
    exists_ok (by decide +kernel)
  have hsize : (match compilePublicStructuredQuery shortServices legacyInput
      (countByCategory 1) with
      | .ok compiled => decide (compiled.limit = 1)
      | .error _ => false) = true := by decide +kernel
  have hties : (match queryPlan legacyInput (countByCategory 1) with
      | .ok plan => (plan.results fourSuppliers).length = 3 && !decide (TiesOnOnePage
          (plan.orderKey codePoints) (plan.results fourSuppliers) 1)
      | .error _ => false) = true := by decide +kernel
  rw [hcompiled] at hsize
  rw [hplan] at hties
  simp only [Bool.and_eq_true, Bool.not_eq_true', decide_eq_true_eq, decide_eq_false_iff_not]
    at hsize hties
  refine ⟨compiled, plan, hcompiled, hplan, ?_⟩
  rw [readsOnce_iff_ties hcompiled (by decide +kernel) (by decide +kernel)
    (shortServices_cursorsRead (by omega)), hsize]
  exact hties.2

end StructuredQuery
end SmeDataCenter
