import SmeDataCenter.StoreReviews

/-!
# Writing reviews of stores

A batch of reviews is written in one transaction. A review that the store has under its identity
and its number is changed where the batch says something else, any other is created; what the
batch says already is left alone. The batch is refused as a whole where one of its reviews is.
-/

namespace SmeDataCenter
namespace StoreReviews

open Fallible (bind_ok exists_of_mapM mapM_ok)

/-! ### The store -/

/-- A stored review, but for its identity. -/
structure StoredReview where
  id : String
  feedbackId : Option String
  content : Option String
  scores : Option (Scores ℚ)
  merchantReply : Option String
  replyStatus : StoreReviewReplyStatus
  createdAt : ℤ
  updatedAt : ℤ

def StoredReview.reply (stored : StoredReview) : ReplyState :=
  ⟨stored.content, stored.merchantReply, stored.replyStatus⟩

/-- What the unique key of the reviews of an organization is made of: the identity of a review and
the digest of its number. -/
abbrev ReviewKey := ReviewIdentity × String

structure ResourceScope where
  ofStore : Bool
  enterpriseKey : String
  storeName : String
  dimensions : List String
  deriving DecidableEq

/-- The row by which a review is authorized. -/
structure ReviewResource where
  id : String
  categoryId : String
  documentId : Option String
  sourceDocumentId : Option String
  scopes : List ResourceScope
  valid : Bool
  authorizationVersion : ℕ
  contentVersion : ℕ

structure ReviewStore where
  reviews : Table ReviewKey StoredReview
  /-- by the ids of the reviews -/
  resources : Table String ReviewResource

structure ReviewCategory where
  id : String
  confidentialityLevel : Option ℤ
  retired : Bool
  dimensions : List String

structure BusinessStore where
  enterpriseKey : String
  name : String
  retired : Bool

/-- What the transaction reads beside the reviews. -/
structure Directory where
  uploadAdmin : Bool
  enabled : Bool
  category : Option ReviewCategory
  enterprises : List (String × String)
  stores : List BusinessStore
  /-- whether the rule of the category admits a store of an enterprise -/
  validScope : String → String → Bool

structure StoreReviewWriteResult where
  received : ℕ
  inserted : ℕ := 0
  updated : ℕ := 0
  unchanged : ℕ := 0
  deriving DecidableEq

/-! ### The rows of a batch -/

structure BatchRow where
  input : StoreReviewInput
  index : ℕ
  key : ReviewIdentity

/-- A row with what is known of its reply in the end. -/
structure ResolvedRow extends BatchRow where
  reply : ReplyState

section

variable (nfc : String → String) (sizes : Sizes) (digest : String → String)

def storeReviewFeedbackIdKey : Option String → String
  | none => ""
  | some feedbackId => digest feedbackId

def BatchRow.fullKey (row : BatchRow) : ReviewKey :=
  (row.key, storeReviewFeedbackIdKey digest row.input.feedbackId)

def hasStore (directory : Directory) (key : ReviewIdentity) : Bool :=
  directory.stores.any fun store =>
    store.enterpriseKey = key.enterpriseKey && store.name = key.storeName && !store.retired

def batchRow (directory : Directory) (review : StoreReviewInput × ℕ) :
    Except StoreReviewError BatchRow := do
  let (enterpriseName, key) ← identityOf nfc review.1
  if !directory.enterprises.contains (key.enterpriseKey, enterpriseName) ||
      !hasStore directory key then .error .identityNotAvailable
  else .ok { input := review.1, index := review.2, key }

/-- `JSON.stringify` of an identity. -/
def keyText (key : ReviewIdentity) : String :=
  "[" ++ String.intercalate "," ([key.enterpriseKey, key.source.text, key.storeName,
    String.ofList (UtcDates.toISOString key.reviewedAt), key.reviewerName].map quote) ++ "]"

def sortRows (rows : List BatchRow) : List BatchRow :=
  rows.insertionSort fun a b => stringLe (keyText a.key) (keyText b.key)

/-- The reviews that are stored under the identity of a row all have numbers with their digests, or
none, as the row has one or none. -/
def checkGroup (store : ReviewStore) (row : BatchRow) : Except StoreReviewError Unit :=
  let group := store.reviews.findMany fun key _ => key.1 = row.key
  if group.any (fun candidate =>
      candidate.1.2 ≠ storeReviewFeedbackIdKey digest candidate.2.feedbackId) ||
    group.any (fun candidate => candidate.2.feedbackId.isNone ≠ row.input.feedbackId.isNone) then
    .error (.reconciliationRequired row.index)
  else .ok ()

/-- What is stored under the digest of a number has that number. -/
def checkNumber (store : ReviewStore) (row : BatchRow) : Except StoreReviewError Unit :=
  if (store.reviews.lookup (row.fullKey digest)).any (·.feedbackId ≠ row.input.feedbackId) then
    .error (.reconciliationRequired row.index)
  else .ok ()

def resolveRow (store : ReviewStore) (row : BatchRow) : Except StoreReviewError ResolvedRow := do
  let existing := (store.reviews.lookup (row.fullKey digest)).map (·.reply)
  let reply ← resolveStoreReviewReplyState existing row.input row.index
  return { row with reply }

/-! ### Writes -/

def scoresChanged (stored : Option (Scores ℚ)) : Option (Option (Scores Score)) → Bool
  | none => false
  | some none => stored.isSome
  | some (some scores) => !stored.any fun stored => stored.parse.deepEqual scores

def changed (existing : StoredReview) (row : ResolvedRow) : Bool :=
  existing.reply ≠ row.reply || scoresChanged existing.scores row.input.scores

def patch (existing : StoredReview) (row : ResolvedRow) (now : ℤ) : StoredReview :=
  { existing with
    content := row.reply.content
    merchantReply := row.reply.merchantReply
    replyStatus := row.reply.replyStatus
    scores := (row.input.scores.map fun scores => scores.map Scores.stringify).getD existing.scores
    updatedAt := now }

def createdReview (row : ResolvedRow) (id : String) (now : ℤ) : StoredReview where
  id := id
  feedbackId := row.input.feedbackId
  content := row.reply.content
  scores := row.input.scores.bind fun scores => scores.map Scores.stringify
  merchantReply := row.reply.merchantReply
  replyStatus := row.reply.replyStatus
  createdAt := now
  updatedAt := now

def persistStoreReviewResource (directory : Directory) (category : ReviewCategory)
    (store : ReviewStore) (id : String) (row : ResolvedRow) :
    Except StoreReviewError ReviewStore :=
  let scopes : List ResourceScope := [⟨true, row.key.enterpriseKey, row.key.storeName, []⟩]
  if !directory.validScope row.key.enterpriseKey row.key.storeName || !hasStore directory row.key
    then .error (.resourceAttributes row.index)
  else match store.resources.lookup id with
    | none =>
      .ok { store with
        resources := store.resources.insert id
          { id, categoryId := category.id, documentId := none, sourceDocumentId := none, scopes
            valid := true, authorizationVersion := 1, contentVersion := 1 } }
    | some resource =>
      if resource.id ≠ id || resource.categoryId ≠ category.id || resource.documentId.isSome ||
        resource.sourceDocumentId.isSome || resource.scopes ≠ scopes then
        .error (.resourceAttributes row.index)
      else
        .ok { store with
          resources := store.resources.insert id
            { resource with
              valid := true
              authorizationVersion := resource.authorizationVersion + 1
              contentVersion := resource.contentVersion + 1 } }

/-- Write a row; `before` is the store as the transaction has read it. -/
def writeRow (directory : Directory) (category : ReviewCategory) (before : ReviewStore) (now : ℤ)
    (newId : ℕ → String) (state : ReviewStore × StoreReviewWriteResult) (row : ResolvedRow) :
    Except StoreReviewError (ReviewStore × StoreReviewWriteResult) :=
  match before.reviews.lookup (row.fullKey digest) with
  | some existing =>
    if !changed existing row then
      .ok (state.1, { state.2 with unchanged := state.2.unchanged + 1 })
    else do
      let reviews := state.1.reviews.update (row.fullKey digest) fun stored => patch stored row now
      let store ← persistStoreReviewResource directory category { state.1 with reviews }
        existing.id row
      return (store, { state.2 with updated := state.2.updated + 1 })
  | none =>
    let id := newId row.index
    if !(state.1.reviews.findMany fun _ stored => stored.id = id).isEmpty then
      .error (.writeFailed row.index)
    else match state.1.reviews.create (row.fullKey digest) (createdReview row id now) with
      | none => .error (.writeFailed row.index)
      | some reviews => do
        let store ← persistStoreReviewResource directory category { state.1 with reviews } id row
        return (store, { state.2 with inserted := state.2.inserted + 1 })

/-- The steps of the transaction. -/
def upsertReviews (directory : Directory) (now : ℤ) (newId : ℕ → String) (store : ReviewStore)
    (raw : List RawReview) : Except StoreReviewError (ReviewStore × StoreReviewWriteResult) :=
  if batchBytes < sizes.raw raw then .error .batchTooLarge
  else do
    let reviews ← parseStoreReviewBatch nfc sizes raw
    if !directory.uploadAdmin then .error .uploadAdminRequired
    else if !directory.enabled then .error .authorizationNotEnabled
    else match directory.category with
      | none => .error .categoryNotConfigured
      | some category =>
        if !category.confidentialityLevel.any isBusinessClearance || category.retired ||
          !category.dimensions.isEmpty then .error .categoryNotConfigured
        else do
          let rows ← reviews.zipIdx.mapM (batchRow nfc directory)
          let rows := sortRows rows
          rows.forM (checkGroup digest store)
          rows.forM (checkNumber digest store)
          let resolved ← rows.mapM (resolveRow digest store)
          resolved.foldlM (writeRow digest directory category store now newId)
            (store, { received := rows.length })

end

/-- A transaction: what it has written stays when it ends, and nothing of it when it fails. -/
def transact {ε α : Type} (store : ReviewStore) (steps : Except ε (ReviewStore × α)) :
    ReviewStore × Except ε α :=
  match steps with
  | .ok (written, a) => (written, .ok a)
  | .error error => (store, .error error)

def upsert (nfc : String → String) (sizes : Sizes) (digest : String → String)
    (directory : Directory) (now : ℤ) (newId : ℕ → String) (store : ReviewStore)
    (raw : List RawReview) : ReviewStore × Except StoreReviewError StoreReviewWriteResult :=
  transact store (upsertReviews nfc sizes digest directory now newId store raw)

/-! ### What a batch that is written has passed -/

section

variable {nfc : String → String} {sizes : Sizes} {digest : String → String}
  {directory : Directory} {category : ReviewCategory} {now : ℤ} {newId : ℕ → String}
  {raw : List RawReview} {rows : List BatchRow}

/-- The checks of a batch that do not look at the reviews of the store, and its rows. -/
structure Accepted (nfc : String → String) (sizes : Sizes) (directory : Directory)
    (raw : List RawReview) (category : ReviewCategory) (rows : List BatchRow) : Prop where
  size : ¬batchBytes < sizes.raw raw
  uploadAdmin : directory.uploadAdmin = true
  enabled : directory.enabled = true
  found : directory.category = some category
  usable : (!category.confidentialityLevel.any isBusinessClearance || category.retired ||
    !category.dimensions.isEmpty) = false
  rows : ∃ reviews unsorted, parseStoreReviewBatch nfc sizes raw = .ok reviews ∧
    reviews.zipIdx.mapM (batchRow nfc directory) = .ok unsorted ∧ sortRows unsorted = rows

lemma forM_ok {ε α : Type} {check : α → Except ε Unit} {as : List α} :
    as.forM check = .ok () ↔ ∀ a ∈ as, check a = .ok () := by
  induction as with
  | nil => simp [pure, Except.pure]
  | cons a as ih =>
    have hcons : (a :: as).forM check = (check a >>= fun _ => as.forM check) := rfl
    rw [hcons, bind_ok, List.forall_mem_cons, ← ih]
    constructor
    · rintro ⟨⟨⟩, ha, has⟩
      exact ⟨ha, has⟩
    · rintro ⟨ha, has⟩
      exact ⟨(), ha, has⟩

lemma upsertReviews_ok {store : ReviewStore} {out : ReviewStore × StoreReviewWriteResult} :
    upsertReviews nfc sizes digest directory now newId store raw = .ok out ↔
      ∃ category rows resolved, Accepted nfc sizes directory raw category rows ∧
        (∀ row ∈ rows, checkGroup digest store row = .ok ()) ∧
        (∀ row ∈ rows, checkNumber digest store row = .ok ()) ∧
        rows.mapM (resolveRow digest store) = .ok resolved ∧
        resolved.foldlM (writeRow digest directory category store now newId)
          (store, { received := rows.length }) = .ok out := by
  unfold upsertReviews
  constructor
  · intro h
    split at h
    · cases h
    next hsize =>
    obtain ⟨reviews, hparse, h⟩ := bind_ok.mp h
    split at h
    · cases h
    next hadmin =>
    split at h
    · cases h
    next henabled =>
    split at h
    · cases h
    next category hcategory =>
    split at h
    · cases h
    next husable =>
    obtain ⟨unsorted, hrows, h⟩ := bind_ok.mp h
    obtain ⟨⟨⟩, hgroup, h⟩ := bind_ok.mp h
    obtain ⟨⟨⟩, hnumber, h⟩ := bind_ok.mp h
    obtain ⟨resolved, hresolved, h⟩ := bind_ok.mp h
    exact ⟨category, sortRows unsorted, resolved,
      ⟨hsize, by simpa using hadmin, by simpa using henabled, hcategory,
        Bool.eq_false_iff.mpr husable, reviews, unsorted, hparse, hrows, rfl⟩,
      forM_ok.mp hgroup, forM_ok.mp hnumber, hresolved, h⟩
  · rintro ⟨category, rows, resolved, haccepted, hgroup, hnumber, hresolved, h⟩
    obtain ⟨reviews, unsorted, hparse, hrows, rfl⟩ := haccepted.rows
    rw [if_neg haccepted.size, hparse]
    refine bind_ok.mpr ⟨reviews, rfl, ?_⟩
    rw [if_neg (by simp [haccepted.uploadAdmin]), if_neg (by simp [haccepted.enabled]),
      haccepted.found]
    dsimp only
    rw [if_neg (Bool.eq_false_iff.mp haccepted.usable), hrows]
    exact bind_ok.mpr ⟨unsorted, rfl, bind_ok.mpr ⟨(), forM_ok.mpr hgroup,
      bind_ok.mpr ⟨(), forM_ok.mpr hnumber,
        bind_ok.mpr ⟨resolved, hresolved, h⟩⟩⟩⟩

/-- Two rows of one identity are told apart by numbers, which both have. -/
def RowsApart (a b : BatchRow) : Prop :=
  a.key = b.key → a.input.feedbackId.isNone = b.input.feedbackId.isNone ∧
    a.input.feedbackId ≠ b.input.feedbackId

instance : Std.Symm RowsApart where
  symm a b hab hkey := by
    obtain ⟨hkind, hne⟩ := hab hkey.symm
    exact ⟨hkind.symm, hne.symm⟩

lemma batchRow_ok {review : StoreReviewInput × ℕ} {row : BatchRow}
    (h : batchRow nfc directory review = .ok row) :
    row.input = review.1 ∧ ∃ name, identityOf nfc row.input = .ok (name, row.key) := by
  obtain ⟨⟨name, key⟩, hidentity, h⟩ := bind_ok.mp h
  dsimp only at h
  split at h
  · cases h
  · cases h
    exact ⟨rfl, name, hidentity⟩

lemma mapM_batchRow_inputs {reviews : List StoreReviewInput} {unsorted : List BatchRow}
    (h : reviews.zipIdx.mapM (batchRow nfc directory) = .ok unsorted) :
    unsorted.map (·.input) = reviews := by
  have hmap : unsorted.map (·.input) = reviews.zipIdx.map Prod.fst := by
    rw [mapM_ok] at h
    generalize reviews.zipIdx = indexed at h
    induction h with
    | nil => rfl
    | cons hrow _ ih => rw [List.map_cons, List.map_cons, (batchRow_ok hrow).1, ih]
  rw [hmap, List.zipIdx_map_fst]

lemma Accepted.rows_apart (h : Accepted nfc sizes directory raw category rows) :
    rows.Pairwise RowsApart := by
  obtain ⟨reviews, unsorted, hparse, hrows, rfl⟩ := h.rows
  refine (List.perm_insertionSort _ unsorted).symm.pairwise (R := RowsApart) ?_
    fun hab => Std.Symm.symm _ _ hab
  have hapart := (parseStoreReviewBatch_ok hparse).1
  rw [← mapM_batchRow_inputs hrows, List.pairwise_map] at hapart
  refine hapart.imp_of_mem fun {a b} ha hb hab hkey => ?_
  obtain ⟨_, -, hrow⟩ := exists_of_mapM hrows ha
  obtain ⟨_, -, hrow'⟩ := exists_of_mapM hrows hb
  obtain ⟨name, hname⟩ := (batchRow_ok hrow).2
  obtain ⟨name', hname'⟩ := (batchRow_ok hrow').2
  obtain ⟨hkind, hne⟩ := hab name name' a.key hname (hkey ▸ hname')
  refine ⟨?_, hne⟩
  rw [← Option.not_isSome, ← Option.not_isSome, hkind]

/-! ### The writes -/

section

variable {before s s' : ReviewStore} {r r' : StoreReviewWriteResult} {row : ResolvedRow}
  {resolved : List ResolvedRow}

/-- The review that is stored under the key of a row in the end. -/
def finalOf (digest : String → String) (before : ReviewStore) (now : ℤ) (newId : ℕ → String)
    (row : ResolvedRow) : StoredReview :=
  match before.reviews.lookup (row.fullKey digest) with
  | some existing => if changed existing row then patch existing row now else existing
  | none => createdReview row (newId row.index) now

lemma persist_reviews {id : String}
    (h : persistStoreReviewResource directory category s id row = .ok s') :
    s'.reviews = s.reviews := by
  unfold persistStoreReviewResource at h
  dsimp only at h
  split at h
  · cases h
  · split at h
    · cases h
      rfl
    · split at h
      · cases h
      · cases h
        rfl

/-- What the write of a row does. -/
inductive Wrote (digest : String → String) (before : ReviewStore) (now : ℤ) (newId : ℕ → String)
    (s : ReviewStore) (r : StoreReviewWriteResult) (row : ResolvedRow) (s' : ReviewStore) :
    StoreReviewWriteResult → Prop
  | unchanged (existing : StoredReview)
      (found : before.reviews.lookup (row.fullKey digest) = some existing)
      (same : changed existing row = false) (store : s' = s) :
      Wrote digest before now newId s r row s' { r with unchanged := r.unchanged + 1 }
  | updated (existing : StoredReview)
      (found : before.reviews.lookup (row.fullKey digest) = some existing)
      (differs : changed existing row = true)
      (store : s'.reviews =
        s.reviews.update (row.fullKey digest) fun stored => patch stored row now) :
      Wrote digest before now newId s r row s' { r with updated := r.updated + 1 }
  | inserted (found : before.reviews.lookup (row.fullKey digest) = none)
      (store : s.reviews.create (row.fullKey digest) (createdReview row (newId row.index) now) =
        some s'.reviews) :
      Wrote digest before now newId s r row s' { r with inserted := r.inserted + 1 }

lemma writeRow_ok
    (h : writeRow digest directory category before now newId (s, r) row = .ok (s', r')) :
    Wrote digest before now newId s r row s' r' := by
  unfold writeRow at h
  split at h
  · next existing hfound =>
    split at h
    · next hsame =>
      cases h
      exact .unchanged existing hfound (by simpa using hsame) rfl
    · next hdiffers =>
      obtain ⟨store, hpersist, h⟩ := bind_ok.mp h
      cases h
      exact .updated existing hfound (by simpa using hdiffers) (persist_reviews hpersist)
  · next hfound =>
    dsimp only at h
    split at h
    · cases h
    · split at h
      · cases h
      · next reviews hcreate =>
        obtain ⟨store, hpersist, h⟩ := bind_ok.mp h
        cases h
        exact .inserted hfound (by rw [hcreate, persist_reviews hpersist])

lemma Wrote.counts (h : Wrote digest before now newId s r row s' r') :
    r'.received = r.received ∧
      r'.inserted + r'.updated + r'.unchanged = r.inserted + r.updated + r.unchanged + 1 := by
  cases h <;> exact ⟨rfl, by simp only; omega⟩

lemma Wrote.frame (h : Wrote digest before now newId s r row s' r') {key : ReviewKey}
    (hkey : row.fullKey digest ≠ key) : s'.reviews.lookup key = s.reviews.lookup key := by
  cases h with
  | unchanged existing found same store => rw [store]
  | updated existing found differs store => rw [store, Table.lookup_update, if_neg hkey.symm]
  | inserted found store => rw [Table.lookup_create store, if_neg hkey.symm]

lemma Wrote.final (h : Wrote digest before now newId s r row s' r')
    (hs : ∀ existing, before.reviews.lookup (row.fullKey digest) = some existing →
      s.reviews.lookup (row.fullKey digest) = some existing) :
    s'.reviews.lookup (row.fullKey digest) = some (finalOf digest before now newId row) := by
  unfold finalOf
  cases h with
  | unchanged existing found same store =>
    rw [store, found, hs existing found]
    simp [same]
  | updated existing found differs store =>
    rw [store, Table.lookup_update, if_pos rfl, found, hs existing found]
    simp [differs]
  | inserted found store =>
    rw [Table.lookup_create store, if_pos rfl, found]

lemma Wrote.fresh (h : Wrote digest before now newId s r row s' r')
    (hfound : before.reviews.lookup (row.fullKey digest) = none) :
    s.reviews.lookup (row.fullKey digest) = none := by
  cases h with
  | unchanged existing found => rw [hfound] at found; cases found
  | updated existing found => rw [hfound] at found; cases found
  | inserted found store => exact Table.create_fresh store

/-- Rows with one key are new reviews, of which the second is not created. -/
def OnceStored (digest : String → String) (before : ReviewStore) (a b : ResolvedRow) : Prop :=
  a.fullKey digest = b.fullKey digest → before.reviews.lookup (a.fullKey digest) = none

/-- What is stored when all rows are written. -/
structure AllWritten (digest : String → String) (before : ReviewStore) (now : ℤ)
    (newId : ℕ → String) (s s' : ReviewStore) (resolved : List ResolvedRow) : Prop where
  final : ∀ row ∈ resolved,
    s'.reviews.lookup (row.fullKey digest) = some (finalOf digest before now newId row)
  frame : ∀ key, (∀ row ∈ resolved, row.fullKey digest ≠ key) →
    s'.reviews.lookup key = s.reviews.lookup key
  fresh : ∀ row ∈ resolved, before.reviews.lookup (row.fullKey digest) = none →
    s.reviews.lookup (row.fullKey digest) = none

lemma foldlM_writeRow
    (h : resolved.foldlM (writeRow digest directory category before now newId) (s, r) =
      .ok (s', r'))
    (hrows : resolved.Pairwise (OnceStored digest before))
    (hs : ∀ row ∈ resolved, ∀ existing,
      before.reviews.lookup (row.fullKey digest) = some existing →
      s.reviews.lookup (row.fullKey digest) = some existing) :
    AllWritten digest before now newId s s' resolved ∧ r'.received = r.received ∧
      r'.inserted + r'.updated + r'.unchanged =
        r.inserted + r.updated + r.unchanged + resolved.length := by
  induction resolved generalizing s r with
  | nil =>
    cases h
    exact ⟨⟨fun _ hrow => absurd hrow List.not_mem_nil, fun _ _ => rfl,
      fun _ hrow => absurd hrow List.not_mem_nil⟩, rfl, rfl⟩
  | cons row resolved ih =>
    rw [List.foldlM_cons] at h
    obtain ⟨⟨s₁, r₁⟩, hstep, hrest⟩ := bind_ok.mp h
    have hwrote := writeRow_ok hstep
    obtain ⟨honce, hrows⟩ := List.pairwise_cons.mp hrows
    obtain ⟨hfirst, hs⟩ := List.forall_mem_cons.mp hs
    have hfinal := hwrote.final hfirst
    have hs₁ : ∀ other ∈ resolved, ∀ existing,
        before.reviews.lookup (other.fullKey digest) = some existing →
        s₁.reviews.lookup (other.fullKey digest) = some existing := by
      intro other hother existing hfound
      have hne : row.fullKey digest ≠ other.fullKey digest := by
        intro heq
        rw [← heq, honce other hother heq] at hfound
        cases hfound
      rw [hwrote.frame hne]
      exact hs other hother existing hfound
    obtain ⟨hwritten, hreceived, hcounts⟩ := ih hrest hrows hs₁
    -- a second row with the key of the first would not have been created
    have hother : ∀ other ∈ resolved, other.fullKey digest ≠ row.fullKey digest := by
      intro other hother heq
      have hnone := hwritten.fresh other hother (heq ▸ honce other hother heq.symm)
      rw [heq, hfinal] at hnone
      cases hnone
    refine ⟨⟨?_, ?_, ?_⟩, hreceived.trans hwrote.counts.1, ?_⟩
    · refine List.forall_mem_cons.mpr ⟨?_, hwritten.final⟩
      rw [hwritten.frame _ hother, hfinal]
    · intro key hkey
      obtain ⟨hkey, hkeys⟩ := List.forall_mem_cons.mp hkey
      rw [hwritten.frame key hkeys, hwrote.frame hkey]
    · refine List.forall_mem_cons.mpr ⟨hwrote.fresh, fun other hmem hfound => ?_⟩
      rw [← hwrote.frame (hother other hmem).symm]
      exact hwritten.fresh other hmem hfound
    · have := hwrote.counts.2
      rw [List.length_cons]
      omega

lemma foldlM_unchanged (h : ∀ row ∈ resolved, ∃ existing,
      before.reviews.lookup (row.fullKey digest) = some existing ∧
      changed existing row = false) :
    resolved.foldlM (writeRow digest directory category before now newId) (s, r) =
      .ok (s, { r with unchanged := r.unchanged + resolved.length }) := by
  induction resolved generalizing r with
  | nil => rfl
  | cons row resolved ih =>
    obtain ⟨⟨existing, hfound, hsame⟩, hrest⟩ := List.forall_mem_cons.mp h
    have hstep : writeRow digest directory category before now newId (s, r) row =
        .ok (s, { r with unchanged := r.unchanged + 1 }) := by
      unfold writeRow
      rw [hfound]
      simp [hsame]
    rw [List.foldlM_cons, hstep]
    refine (ih hrest).trans ?_
    rw [List.length_cons, add_right_comm, add_assoc]

lemma unchanged_of_foldlM
    (h : resolved.foldlM (writeRow digest directory category before now newId) (s, r) =
      .ok (s', r')) (hcounts : r'.inserted + r'.updated = r.inserted + r.updated) :
    ∀ row ∈ resolved, ∃ existing,
      before.reviews.lookup (row.fullKey digest) = some existing ∧
      changed existing row = false := by
  have hmono : ∀ {resolved : List ResolvedRow} {s s' : ReviewStore} {r r'},
      resolved.foldlM (writeRow digest directory category before now newId) (s, r) =
        .ok (s', r') → r.inserted + r.updated ≤ r'.inserted + r'.updated := by
    intro resolved
    induction resolved with
    | nil =>
      intro s s' r r' h
      cases h
      rfl
    | cons row resolved ih =>
      intro s s' r r' h
      rw [List.foldlM_cons] at h
      obtain ⟨⟨s₁, r₁⟩, hstep, hrest⟩ := bind_ok.mp h
      have hle := ih hrest
      cases writeRow_ok hstep <;> simp only at hle <;> omega
  induction resolved generalizing s r with
  | nil => exact fun _ hrow => absurd hrow List.not_mem_nil
  | cons row resolved ih =>
    rw [List.foldlM_cons] at h
    obtain ⟨⟨s₁, r₁⟩, hstep, hrest⟩ := bind_ok.mp h
    have hle := hmono hrest
    cases writeRow_ok hstep with
    | unchanged existing found same store =>
      exact List.forall_mem_cons.mpr ⟨⟨existing, found, same⟩, ih hrest hcounts⟩
    | updated => simp only at hle; omega
    | inserted => simp only at hle; omega

end

end

end StoreReviews
end SmeDataCenter
