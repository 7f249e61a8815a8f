import SmeDataCenter.StoreReviewWrites

/-!
# Batches of reviews that are written again

What a batch has written passes the checks of the batch, and is what the batch says. Written again
it changes nothing, but where a score is a zero with a sign, which no stored document keeps.
-/

namespace SmeDataCenter
namespace StoreReviews

section

variable {nfc : String → String} {sizes : Sizes} {digest : String → String}
  {directory : Directory} {category : ReviewCategory} {now : ℤ} {newId : ℕ → String}
  {raw : List RawReview} {rows : List BatchRow}

/-! ### What the checks of a row say -/

section

variable {store : ReviewStore} {row : BatchRow} {res : ResolvedRow}

lemma checkGroup_ok : checkGroup digest store row = .ok () ↔
    ∀ key stored, store.reviews.lookup key = some stored → key.1 = row.key →
      key.2 = storeReviewFeedbackIdKey digest stored.feedbackId ∧
        stored.feedbackId.isNone = row.input.feedbackId.isNone := by
  have hmem : ∀ candidate : ReviewKey × StoredReview,
      candidate ∈ store.reviews.findMany (fun key _ => key.1 = row.key) ↔
        store.reviews.lookup candidate.1 = some candidate.2 ∧ candidate.1.1 = row.key := by
    intro candidate
    rw [← Prod.mk.eta (p := candidate), Table.mem_findMany, decide_eq_true_iff]
  unfold checkGroup
  dsimp only
  split
  · next hany =>
    constructor
    · exact nofun
    · intro h
      rw [Bool.or_eq_true, List.any_eq_true, List.any_eq_true] at hany
      rcases hany with ⟨candidate, hcandidate, hne⟩ | ⟨candidate, hcandidate, hne⟩
      · obtain ⟨hlookup, hkey⟩ := (hmem candidate).mp hcandidate
        exact absurd (h _ _ hlookup hkey).1 (by simpa using hne)
      · obtain ⟨hlookup, hkey⟩ := (hmem candidate).mp hcandidate
        exact absurd (h _ _ hlookup hkey).2 (by simpa using hne)
  · next hany =>
    refine iff_of_true rfl fun key stored hlookup hkey => ?_
    rw [Bool.or_eq_true, not_or, List.any_eq_true, List.any_eq_true] at hany
    have hcandidate := (hmem (key, stored)).mpr ⟨hlookup, hkey⟩
    constructor
    · by_contra hne
      exact hany.1 ⟨(key, stored), hcandidate, by simpa using hne⟩
    · by_contra hne
      exact hany.2 ⟨(key, stored), hcandidate, by simpa using hne⟩

lemma checkNumber_ok : checkNumber digest store row = .ok () ↔
    ∀ stored, store.reviews.lookup (row.fullKey digest) = some stored →
      stored.feedbackId = row.input.feedbackId := by
  unfold checkNumber
  cases store.reviews.lookup (row.fullKey digest) with
  | none => simp
  | some stored => by_cases h : stored.feedbackId = row.input.feedbackId <;> simp [h]

lemma resolveRow_ok (h : resolveRow digest store row = .ok res) :
    res.toBatchRow = row ∧ resolveStoreReviewReplyState
      ((store.reviews.lookup (row.fullKey digest)).map (·.reply)) row.input row.index =
        .ok res.reply := by
  obtain ⟨reply, hreply, h⟩ := Fallible.bind_ok.mp h
  cases h
  exact ⟨rfl, hreply⟩

/-! ### What is stored in the end -/

/-- The reviews that are stored for a batch, and its rows. -/
structure Resolved (digest : String → String) (store : ReviewStore) (rows : List BatchRow)
    (resolved : List ResolvedRow) : Prop where
  group : ∀ row ∈ rows, checkGroup digest store row = .ok ()
  number : ∀ row ∈ rows, checkNumber digest store row = .ok ()
  walk : rows.mapM (resolveRow digest store) = .ok resolved

lemma Resolved.mem {resolved : List ResolvedRow} (h : Resolved digest store rows resolved)
    (hres : res ∈ resolved) : res.toBatchRow ∈ rows := by
  obtain ⟨row, hrow, hresolve⟩ := Fallible.exists_of_mapM h.walk hres
  rwa [(resolveRow_ok hresolve).1]

lemma Resolved.exists {resolved : List ResolvedRow} (h : Resolved digest store rows resolved)
    (hrow : row ∈ rows) : ∃ res ∈ resolved, res.toBatchRow = row := by
  obtain ⟨res, hres, hresolve⟩ := Fallible.mapM_of_mem h.walk hrow
  exact ⟨res, hres, (resolveRow_ok hresolve).1⟩

variable (now newId) in
lemma finalOf_stated {resolved : List ResolvedRow} (h : Resolved digest store rows resolved)
    (hres : res ∈ resolved) :
    (finalOf digest store now newId res).feedbackId = res.input.feedbackId ∧
      (finalOf digest store now newId res).reply = res.reply := by
  have hnumber := checkNumber_ok.mp (h.number _ (h.mem hres))
  unfold finalOf
  cases hfound : store.reviews.lookup (res.fullKey digest) with
  | none => exact ⟨rfl, rfl⟩
  | some existing =>
    dsimp only
    split
    · exact ⟨hnumber existing hfound, rfl⟩
    · next hsame =>
      refine ⟨hnumber existing hfound, ?_⟩
      simp only [changed, Bool.or_eq_true, decide_eq_true_eq, not_or, ne_eq, not_not] at hsame
      exact hsame.1

/-- Whether the scores of a row have no zero with a sign. -/
def PlainScores (scores : Option (Option (Scores Score))) : Prop :=
  ∀ given, scores = some (some given) → given.Plain

/-- What is stored for a row has its scores, as far as documents write them. -/
def HasScores (stored : Option (Scores ℚ)) (scores : Option (Option (Scores Score))) : Prop :=
  ∀ given, scores = some given →
    Option.Rel (fun document given => document.entries.Perm given.stringify.entries) stored given

lemma scoresChanged_stored (given : Option (Scores Score)) :
    scoresChanged (given.map Scores.stringify) (some given) = false ↔ PlainScores (some given) := by
  cases given with
  | none => simp [scoresChanged, PlainScores]
  | some given =>
    simp only [scoresChanged, Option.map_some, Option.any_some, Bool.not_eq_eq_eq_not,
      Bool.not_false, Scores.deepEqual_stringify, PlainScores, Option.some.injEq, forall_eq']

lemma plain_of_scoresChanged {stored : Option (Scores ℚ)}
    {scores : Option (Option (Scores Score))} (h : scoresChanged stored scores = false) :
    PlainScores scores := by
  rintro given rfl
  cases stored with
  | none => simp [scoresChanged] at h
  | some document =>
    exact Scores.plain_of_deepEqual (by simpa [scoresChanged] using h)

end

lemma hasScores_of_scoresChanged {stored : Option (Scores ℚ)}
    {scores : Option (Option (Scores Score))} (h : scoresChanged stored scores = false) :
    HasScores stored scores := by
  rintro given rfl
  cases given with
  | none =>
    cases stored with
    | none => exact .none
    | some document => cases h
  | some given =>
    cases stored with
    | none => cases h
    | some document =>
      refine .some ?_
      have hequal : document.parse.entries.Perm given.entries := by
        simpa [scoresChanged, Scores.deepEqual] using h
      have hdocument : document.parse.stringify.entries = document.entries := by
        simp [Scores.parse, Scores.stringify, Scores.map, Function.comp_def, Score.stringify]
      rw [← hdocument]
      exact hequal.map _

lemma hasScores_stringify (given : Option (Scores Score)) :
    HasScores (given.map Scores.stringify) (some given) := by
  rintro _ ⟨⟩
  cases given with
  | none => exact .none
  | some given => exact .some (.refl _)

/-- The scores that are stored for a row are written from it, or are those that it does not
change. -/
lemma finalOf_scores {P : Option (Scores ℚ) → Prop} {store : ReviewStore} {res : ResolvedRow}
    (hwritten : ∀ old, P ((res.input.scores.map fun scores =>
      scores.map Scores.stringify).getD old))
    (hsame : ∀ old, scoresChanged old res.input.scores = false → P old) :
    P (finalOf digest store now newId res).scores := by
  unfold finalOf
  cases store.reviews.lookup (res.fullKey digest) with
  | none =>
    have hcreated := hwritten none
    rwa [show (res.input.scores.map fun scores => scores.map Scores.stringify).getD none =
      res.input.scores.bind fun scores => scores.map Scores.stringify by
        cases res.input.scores <;> rfl] at hcreated
  | some existing =>
    dsimp only
    split
    · exact hwritten existing.scores
    · next hchanged =>
      simp only [changed, Bool.or_eq_true, decide_eq_true_eq, not_or, Bool.not_eq_true] at hchanged
      exact hsame _ hchanged.2

lemma scoresChanged_finalOf (digest : String → String) (store : ReviewStore) (now : ℤ)
    (newId : ℕ → String) (res : ResolvedRow) :
    scoresChanged (finalOf digest store now newId res).scores res.input.scores = false ↔
      PlainScores res.input.scores := by
  refine finalOf_scores (P := fun stored => scoresChanged stored res.input.scores = false ↔
    PlainScores res.input.scores) (fun old => ?_)
    fun old hsame => iff_of_true hsame (plain_of_scoresChanged hsame)
  cases res.input.scores with
  | none => simp [scoresChanged, PlainScores]
  | some given => exact scoresChanged_stored given

lemma finalOf_hasScores {store : ReviewStore} {res : ResolvedRow} :
    HasScores (finalOf digest store now newId res).scores res.input.scores := by
  refine finalOf_scores (P := fun stored => HasScores stored res.input.scores) (fun old => ?_)
    fun old hsame => hasScores_of_scoresChanged hsame
  cases res.input.scores with
  | none => exact nofun
  | some given => exact hasScores_stringify given

/-! ### Writing a batch again -/

section

variable {store store' : ReviewStore} {resolved : List ResolvedRow}

lemma resolved_map (h : Resolved digest store rows resolved) :
    resolved.map (·.toBatchRow) = rows := by
  have hwalk := Fallible.mapM_ok.mp h.walk
  clear h
  induction hwalk with
  | nil => rfl
  | cons hrow _ ih => rw [List.map_cons, (resolveRow_ok hrow).1, ih]

lemma onceStored (hrows : rows.Pairwise RowsApart) (h : Resolved digest store rows resolved) :
    resolved.Pairwise (OnceStored digest store) := by
  rw [← resolved_map h, List.pairwise_map] at hrows
  refine hrows.imp_of_mem fun {a b} ha hb hab hkey => ?_
  rw [Option.eq_none_iff_forall_ne_some]
  intro stored hstored
  have hsame := checkNumber_ok.mp (h.number _ (h.mem ha)) stored hstored
  have hsame' := checkNumber_ok.mp (h.number _ (h.mem hb)) stored (hkey ▸ hstored)
  exact (hab (congrArg Prod.fst hkey)).2 (hsame ▸ hsame')

lemma resolved_again (hrows : rows.Pairwise RowsApart) (h : Resolved digest store rows resolved)
    (hwritten : AllWritten digest store now newId store store' resolved) :
    Resolved digest store' rows resolved where
  group := by
    intro row hrow
    refine checkGroup_ok.mpr fun key stored hstored hkey => ?_
    by_cases hbatch : ∃ res ∈ resolved, res.fullKey digest = key
    · obtain ⟨res, hres, rfl⟩ := hbatch
      rw [hwritten.final res hres, Option.some_inj] at hstored
      subst hstored
      have hnumber := (finalOf_stated now newId h hres).1
      rw [hnumber]
      refine ⟨rfl, ?_⟩
      by_cases hsame : res.toBatchRow = row
      · rw [hsame]
      · exact (hrows.forall (h.mem hres) hrow hsame hkey).1
    · have hframe := hwritten.frame key fun res hres heq => hbatch ⟨res, hres, heq⟩
      rw [hframe] at hstored
      exact checkGroup_ok.mp (h.group row hrow) key stored hstored hkey
  number := by
    intro row hrow
    refine checkNumber_ok.mpr fun stored hstored => ?_
    obtain ⟨res, hres, rfl⟩ := h.exists hrow
    rw [hwritten.final res hres, Option.some_inj] at hstored
    rw [← hstored]
    exact (finalOf_stated now newId h hres).1
  walk := by
    have hwalk := h.walk
    rw [Fallible.mapM_ok] at hwalk ⊢
    refine (List.forall₂_iff_get.mp hwalk).elim fun hlength hget =>
      List.forall₂_iff_get.mpr ⟨hlength, fun i hi hi' => ?_⟩
    have hresolve := hget i hi hi'
    obtain ⟨hrow, hreply⟩ := resolveRow_ok hresolve
    have hres := List.get_mem resolved ⟨i, hi'⟩
    have hstored : (store'.reviews.lookup ((rows.get ⟨i, hi⟩).fullKey digest)).map (·.reply) =
        some (resolved.get ⟨i, hi'⟩).reply := by
      rw [← hrow, hwritten.final _ hres, Option.map_some, (finalOf_stated now newId h hres).2]
    unfold resolveRow
    rw [hstored]
    refine Fallible.bind_ok.mpr ⟨_, resolve_again hreply _, ?_⟩
    rw [← hrow]
    rfl

/-- All of a batch is written, so that a row says what is stored exactly where its scores have no
zero with a sign. -/
lemma changed_again (h : Resolved digest store rows resolved)
    (hwritten : AllWritten digest store now newId store store' resolved) {res : ResolvedRow}
    (hres : res ∈ resolved) :
    (∃ existing, store'.reviews.lookup (res.fullKey digest) = some existing ∧
      changed existing res = false) ↔ PlainScores res.input.scores := by
  have hsays := (finalOf_stated now newId h hres).2
  rw [← scoresChanged_finalOf digest store now newId]
  rw [hwritten.final res hres]
  simp [changed, hsays]

end

end

/-! ### Batches -/

/-- No review of a batch has a score that is a zero with a sign. -/
def PlainBatch (raw : List RawReview) : Prop := ∀ review ∈ raw, PlainScores review.scores

/-- A stored review has what a review of a batch gives. -/
structure Says (stored : StoredReview) (review : StoreReviewInput) : Prop where
  feedbackId : stored.feedbackId = review.feedbackId
  content : ∀ content, review.content = some content → stored.content = content
  merchantReply : ∀ reply, review.merchantReply = some reply → stored.merchantReply = reply
  replyStatus : ∀ status, review.replyStatus = some status → stored.replyStatus = status
  scores : HasScores stored.scores review.scores

/-- What a batch that was written has done. -/
structure Applied (nfc : String → String) (sizes : Sizes) (digest : String → String)
    (store : ReviewStore) (raw : List RawReview) (store' : ReviewStore)
    (result : StoreReviewWriteResult) : Prop where
  received : result.received = raw.length
  /-- Every review is counted once. -/
  counts : result.inserted + result.updated + result.unchanged = result.received
  /-- All reviews are stored, -/
  stored : ∀ reviews, parseStoreReviewBatch nfc sizes raw = .ok reviews → ∀ review ∈ reviews,
    ∃ name key stored, identityOf nfc review = .ok (name, key) ∧
      store'.reviews.lookup (key, storeReviewFeedbackIdKey digest review.feedbackId) =
        some stored ∧ Says stored review ∧ stored.reply.Consistent
  /-- and no others are touched. -/
  others : ∀ reviews, parseStoreReviewBatch nfc sizes raw = .ok reviews → ∀ key : ReviewKey,
    (∀ review ∈ reviews, ∀ name, identityOf nfc review = .ok (name, key.1) →
      storeReviewFeedbackIdKey digest review.feedbackId ≠ key.2) →
    store'.reviews.lookup key = store.reviews.lookup key
  /-- Replies stay consistent. -/
  consistent : (∀ key stored, store.reviews.lookup key = some stored → stored.reply.Consistent) →
    ∀ key stored, store'.reviews.lookup key = some stored → stored.reply.Consistent

section

variable {nfc : String → String} {sizes : Sizes} {digest : String → String}
  {directory : Directory} {category : ReviewCategory} {now : ℤ} {newId : ℕ → String}
  {raw : List RawReview} {rows : List BatchRow} {store store' : ReviewStore}
  {resolved : List ResolvedRow} {result : StoreReviewWriteResult} {reviews : List StoreReviewInput}

lemma Accepted.inputs_perm (h : Accepted nfc sizes directory raw category rows)
    (hparse : parseStoreReviewBatch nfc sizes raw = .ok reviews) :
    (rows.map (·.input)).Perm reviews := by
  obtain ⟨others, unsorted, hparse', hrows, rfl⟩ := h.rows
  rw [hparse, Except.ok.injEq] at hparse'
  subst hparse'
  rw [← mapM_batchRow_inputs hrows]
  exact (List.perm_insertionSort _ unsorted).map _

lemma Accepted.rows_unique {category' : ReviewCategory} {rows' : List BatchRow}
    (h : Accepted nfc sizes directory raw category rows)
    (h' : Accepted nfc sizes directory raw category' rows') : rows = rows' := by
  obtain ⟨reviews, unsorted, hparse, hrows, rfl⟩ := h.rows
  obtain ⟨reviews', unsorted', hparse', hrows', rfl⟩ := h'.rows
  rw [hparse, Except.ok.injEq] at hparse'
  subst hparse'
  rw [hrows, Except.ok.injEq] at hrows'
  rw [hrows']

lemma Accepted.identity (h : Accepted nfc sizes directory raw category rows) {row : BatchRow}
    (hrow : row ∈ rows) : ∃ name, identityOf nfc row.input = .ok (name, row.key) := by
  obtain ⟨others, unsorted, -, hrows, rfl⟩ := h.rows
  obtain ⟨_, -, hbatch⟩ := Fallible.exists_of_mapM hrows
    ((List.perm_insertionSort _ unsorted).mem_iff.mp hrow)
  exact (batchRow_ok hbatch).2

lemma Accepted.length_rows (h : Accepted nfc sizes directory raw category rows) :
    rows.length = raw.length := by
  obtain ⟨reviews, unsorted, hparse, -, -⟩ := h.rows
  have hscores := congrArg List.length (parseStoreReviewBatch_ok hparse).2
  rw [List.length_map, List.length_map] at hscores
  have hinputs := (h.inputs_perm hparse).length_eq
  rw [List.length_map] at hinputs
  omega

lemma Accepted.plain_iff (h : Accepted nfc sizes directory raw category rows) :
    (∀ row ∈ rows, PlainScores row.input.scores) ↔ PlainBatch raw := by
  obtain ⟨reviews, unsorted, hparse, -, -⟩ := h.rows
  have hscores := (parseStoreReviewBatch_ok hparse).2
  have hinputs := (h.inputs_perm hparse).map (·.scores)
  rw [hscores, List.map_map] at hinputs
  have hall : (∀ scores ∈ rows.map fun row => row.input.scores, PlainScores scores) ↔
      ∀ scores ∈ raw.map (·.scores), PlainScores scores :=
    forall_congr' fun scores => imp_congr_left hinputs.mem_iff
  simpa [PlainBatch] using hall

lemma says_finalOf (h : Resolved digest store rows resolved) {res : ResolvedRow}
    (hres : res ∈ resolved) : Says (finalOf digest store now newId res) res.input := by
  obtain ⟨hnumber, hreply⟩ := finalOf_stated now newId h hres
  obtain ⟨row, -, hresolve⟩ := Fallible.exists_of_mapM h.walk hres
  obtain ⟨rfl, hstate⟩ := resolveRow_ok hresolve
  obtain ⟨hcontent, hmerchant, hstatus⟩ := resolve_says hstate
  rw [← hreply] at hcontent hmerchant hstatus
  exact ⟨hnumber, hcontent, hmerchant, hstatus, finalOf_hasScores⟩

lemma consistent_finalOf (h : Resolved digest store rows resolved) {res : ResolvedRow}
    (hres : res ∈ resolved) : (finalOf digest store now newId res).reply.Consistent := by
  obtain ⟨row, -, hresolve⟩ := Fallible.exists_of_mapM h.walk hres
  rw [(finalOf_stated now newId h hres).2]
  exact resolve_consistent (resolveRow_ok hresolve).2

lemma applied_of_written (haccepted : Accepted nfc sizes directory raw category rows)
    (h : Resolved digest store rows resolved)
    (hwritten : AllWritten digest store now newId store store' resolved)
    (hreceived : result.received = rows.length)
    (hcounts : result.inserted + result.updated + result.unchanged = resolved.length) :
    Applied nfc sizes digest store raw store' result where
  received := hreceived.trans haccepted.length_rows
  counts := by
    rw [hcounts, hreceived, ← resolved_map h, List.length_map]
  stored := by
    intro reviews hparse review hreview
    obtain ⟨row, hrow, rfl⟩ :=
      List.mem_map.mp ((haccepted.inputs_perm hparse).mem_iff.mpr hreview)
    obtain ⟨name, hname⟩ := haccepted.identity hrow
    obtain ⟨res, hres, rfl⟩ := h.exists hrow
    exact ⟨name, res.key, _, hname, hwritten.final res hres, says_finalOf h hres,
      consistent_finalOf h hres⟩
  others := by
    intro reviews hparse key hkey
    refine hwritten.frame key fun res hres heq => ?_
    subst heq
    have hrow := h.mem hres
    obtain ⟨name, hname⟩ := haccepted.identity hrow
    exact hkey res.input ((haccepted.inputs_perm hparse).mem_iff.mp
      (List.mem_map_of_mem hrow)) name hname rfl
  consistent := by
    intro hstore key stored hstored
    by_cases hbatch : ∃ res ∈ resolved, res.fullKey digest = key
    · obtain ⟨res, hres, rfl⟩ := hbatch
      rw [hwritten.final res hres, Option.some_inj] at hstored
      rw [← hstored]
      exact consistent_finalOf h hres
    · rw [hwritten.frame key fun res hres heq => hbatch ⟨res, hres, heq⟩] at hstored
      exact hstore key stored hstored

end

/-- A batch of reviews is written as a whole or not at all. Written again it reports every review
as unchanged, and leaves the reviews as they are, exactly if no score is a zero with a sign. -/
theorem upsert_again (nfc : String → String) (sizes : Sizes) (digest : String → String)
    (directory : Directory) (now : ℤ) (newId : ℕ → String) (store : ReviewStore)
    (raw : List RawReview) :
    (∃ error, upsert nfc sizes digest directory now newId store raw = (store, .error error)) ∨
      ∃ store' result,
        upsert nfc sizes digest directory now newId store raw = (store', .ok result) ∧
        Applied nfc sizes digest store raw store' result ∧
        ((∀ later laterId, upsert nfc sizes digest directory later laterId store' raw =
            (store', .ok { received := raw.length, unchanged := raw.length })) ↔
          PlainBatch raw) := by
  cases hsteps : upsertReviews nfc sizes digest directory now newId store raw with
  | error error =>
    refine .inl ⟨error, ?_⟩
    rw [upsert, hsteps, transact]
  | ok out =>
    obtain ⟨store', result⟩ := out
    obtain ⟨category, rows, resolved, haccepted, hgroup, hnumber, hwalk, hfold⟩ :=
      upsertReviews_ok.mp hsteps
    have h : Resolved digest store rows resolved := ⟨hgroup, hnumber, hwalk⟩
    obtain ⟨hwritten, hreceived, hcounts⟩ :=
      foldlM_writeRow hfold (onceStored haccepted.rows_apart h) fun _ _ _ hfound => hfound
    have hlength : resolved.length = raw.length := by
      rw [← haccepted.length_rows, ← resolved_map h, List.length_map]
    have hagain := resolved_again haccepted.rows_apart h hwritten
    have hplain : (∀ res ∈ resolved, ∃ existing,
        store'.reviews.lookup (res.fullKey digest) = some existing ∧
          changed existing res = false) ↔ PlainBatch raw := by
      rw [← haccepted.plain_iff, ← resolved_map h, List.forall_mem_map]
      exact forall₂_congr fun res hres => changed_again h hwritten hres
    refine .inr ⟨store', result, by rw [upsert, hsteps, transact],
      applied_of_written haccepted h hwritten hreceived (by simpa using hcounts), ?_⟩
    rw [← hplain]
    constructor
    · intro hsame
      have hlater := hsame now newId
      unfold upsert at hlater
      cases hsteps' : upsertReviews nfc sizes digest directory now newId store' raw with
      | error error =>
        rw [hsteps', transact] at hlater
        cases hlater
      | ok out =>
        obtain ⟨written, counted⟩ := out
        rw [hsteps', transact, Prod.mk.injEq, Except.ok.injEq] at hlater
        obtain ⟨category', rows', resolved', haccepted', -, -, hwalk', hfold'⟩ :=
          upsertReviews_ok.mp hsteps'
        obtain rfl := haccepted.rows_unique haccepted'
        rw [hagain.walk, Except.ok.injEq] at hwalk'
        subst hwalk'
        exact unchanged_of_foldlM hfold' (by rw [hlater.2])
    · intro hsame later laterId
      have hfold' : resolved.foldlM (writeRow digest directory category store' later laterId)
          (store', { received := rows.length }) =
            .ok (store', { received := rows.length, unchanged := 0 + resolved.length }) :=
        foldlM_unchanged hsame
      have hsteps' := upsertReviews_ok.mpr ⟨category, rows, resolved, haccepted, hagain.group,
        hagain.number, hagain.walk, hfold'⟩
      rw [upsert, hsteps', transact, haccepted.length_rows, hlength, zero_add]

/-- An enterprise with one store. -/
def oneStore : Directory where
  uploadAdmin := true
  enabled := true
  category := some ⟨"category", some 1, false, []⟩
  enterprises := [("acme", "Acme")]
  stores := [⟨"acme", "Main", false⟩]
  validScope _ _ := true

/-- A review of it with one score. -/
def scoredReview (score : Score) : RawReview where
  enterpriseName := "Acme"
  source := .meituan
  storeName := "Main"
  reviewedAt := "2026-10-01 12:30"
  reviewerName := "Guest"
  scores := some (some ⟨[("taste", score)], List.nodup_singleton _⟩)

def writeOnce (score : Score) : ReviewStore × Except StoreReviewError StoreReviewWriteResult :=
  upsert id ⟨fun _ => 0, fun _ => 0, fun _ => 0⟩ id oneStore 0 (fun _ => "first") ⟨∅, ∅⟩
    [scoredReview score]

def writeTwice (score : Score) : ReviewStore × Except StoreReviewError StoreReviewWriteResult :=
  upsert id ⟨fun _ => 0, fun _ => 0, fun _ => 0⟩ id oneStore 1 (fun _ => "second")
    (writeOnce score).1 [scoredReview score]

/-- A zero with a sign is stored without it, and the same batch is reported as an update. -/
theorem negativeZero_updated :
    (writeOnce .negativeZero).2.toOption = some { received := 1, inserted := 1 } ∧
      (writeTwice .negativeZero).2.toOption = some { received := 1, updated := 1 } ∧
      (writeTwice (.number 0)).2.toOption = some { received := 1, unchanged := 1 } := by
  decide +kernel

end StoreReviews
end SmeDataCenter
