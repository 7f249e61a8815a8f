import SmeDataCenter.AuthorizationMutations
import SmeDataCenter.UtcDates

/-!
# Reviews of stores

A batch of reviews from a platform, as it is checked before it is written: every field on its own,
then the identities of the batch, of which none may come twice. What is known of the reply to a
review is brought into agreement with its texts.
-/

namespace SmeDataCenter
namespace StoreReviews

open AuthorizationWrites (unitLength)
open Fallible (bind_ok)

/-! ### Reviews -/

inductive StoreReviewSource where
  | meituan
  | dianping
  deriving DecidableEq

def StoreReviewSource.text : StoreReviewSource → String
  | .meituan => "美团评价"
  | .dianping => "点评评价"

inductive StoreReviewReplyStatus where
  | replied
  | unrepliedNoContent
  | unrepliedWithContent
  | needsVerification
  deriving DecidableEq

/-- A finite number of the language, where a zero may have a sign. -/
inductive Score where
  | negativeZero
  | number (value : ℚ)
  deriving DecidableEq

/-- The scores of a review by their names. -/
structure Scores (ν : Type) where
  entries : List (String × ν)
  nodup : (entries.map Prod.fst).Nodup

/-- `isDeepStrictEqual` on scores, whatever the order of the names. -/
def Scores.deepEqual (a b : Scores Score) : Bool := decide (a.entries.Perm b.entries)

/-- `JSON.stringify`, which writes no sign of a zero. -/
def Score.stringify : Score → ℚ
  | .negativeZero => 0
  | .number value => value

def Scores.map {ν μ : Type} (scores : Scores ν) (f : ν → μ) : Scores μ where
  entries := scores.entries.map fun entry => (entry.1, f entry.2)
  nodup := by
    rw [List.map_map]
    exact scores.nodup

/-- The document of a column that scores are written to. -/
def Scores.stringify (scores : Scores Score) : Scores ℚ := scores.map Score.stringify

/-- `JSON.parse` of it. -/
def Scores.parse (scores : Scores ℚ) : Scores Score := scores.map .number

/-- No score is a zero with a sign. -/
def Scores.Plain (scores : Scores Score) : Prop :=
  ∀ entry ∈ scores.entries, entry.2 ≠ .negativeZero

lemma Scores.parse_ne (document : Scores ℚ) : document.parse.Plain := by
  intro entry hentry
  obtain ⟨other, -, rfl⟩ := List.mem_map.mp hentry
  exact nofun

lemma Scores.deepEqual_stringify (scores : Scores Score) :
    scores.stringify.parse.deepEqual scores = true ↔ scores.Plain := by
  rw [deepEqual, decide_eq_true_iff]
  constructor
  · intro h entry hentry
    exact parse_ne _ entry (h.mem_iff.mpr hentry)
  · intro h
    have hentries : scores.stringify.parse.entries = scores.entries := by
      simp only [parse, stringify, map, List.map_map]
      refine (List.map_congr_left fun entry hentry => ?_).trans (List.map_id _)
      obtain ⟨name, score⟩ := entry
      cases score with
      | negativeZero => exact absurd rfl (h _ hentry)
      | number value => rfl
    rw [hentries]

lemma Scores.plain_of_deepEqual {document : Scores ℚ} {scores : Scores Score}
    (h : document.parse.deepEqual scores = true) : scores.Plain := by
  rw [deepEqual, decide_eq_true_iff] at h
  exact fun entry hentry => parse_ne _ entry (h.mem_iff.mpr hentry)

/-- A review as a request has it; `none` for a field that it does not have. -/
structure RawReview where
  enterpriseName : String
  source : StoreReviewSource
  storeName : String
  reviewedAt : String
  reviewerName : String
  feedbackId : Option String := none
  content : Option (Option String) := none
  scores : Option (Option (Scores Score)) := none
  merchantReply : Option (Option String) := none
  replyStatus : Option StoreReviewReplyStatus := none

/-- A review that has been checked, `reviewedAt` as the instant it writes. -/
structure StoreReviewInput where
  enterpriseName : String
  source : StoreReviewSource
  storeName : String
  reviewedAt : ℤ
  reviewerName : String
  feedbackId : Option String
  content : Option (Option String)
  scores : Option (Option (Scores Score))
  merchantReply : Option (Option String)
  replyStatus : Option StoreReviewReplyStatus

inductive StoreReviewError where
  | batchTooLarge
  | batchRows
  | invalidField (field : String) (index : ℕ)
  | partitionStoreIdentityMissing
  | mixedIdentity (index : ℕ)
  | duplicateIdentity (index duplicateIndex : ℕ)
  | contradictsReply (field : String) (index : ℕ)
  | uploadAdminRequired
  | authorizationNotEnabled
  | categoryNotConfigured
  | identityNotAvailable
  | reconciliationRequired (index : ℕ)
  | resourceAttributes (index : ℕ)
  | writeFailed (index : ℕ)

/-! ### Fields -/

def identityChars : ℕ := 255
def textChars : ℕ := 16384
def maxBatchRows : ℕ := 1000
def batchBytes : ℕ := 16777216
def scoresBytes : ℕ := 65536
def enterpriseNameChars : ℕ := 255
def enterpriseKeyChars : ℕ := 128

/-- The sizes of JSON texts in bytes. -/
structure Sizes where
  raw : List RawReview → ℕ
  parsed : List StoreReviewInput → ℕ
  scores : Scores Score → ℕ

def requireStoreReviewString (value field : String) (max index : ℕ) :
    Except StoreReviewError String :=
  if trim value = "" || max < value.length then .error (.invalidField field index) else .ok value

def twoDigits (a b : Char) : Option ℕ :=
  if Text.isDigit a && Text.isDigit b then some (digitsValue [a, b]) else none

/-- Hour, minute and second of a clock that may leave out what comes after the hour. -/
def readClock : Text → Option (ℕ × ℕ × ℕ)
  | [h₁, h₂] => do some (← twoDigits h₁ h₂, 0, 0)
  | [h₁, h₂, ':', m₁, m₂] => do some (← twoDigits h₁ h₂, ← twoDigits m₁ m₂, 0)
  | [h₁, h₂, ':', m₁, m₂, ':', s₁, s₂] => do
    some (← twoDigits h₁ h₂, ← twoDigits m₁ m₂, ← twoDigits s₁ s₂)
  | _ => none

/-- The clock after a date: after a blank, or after a `T` and before the offset of Beijing. -/
def clockText : Text → Option Text
  | ' ' :: clock => some clock
  | 'T' :: rest =>
    let clock := rest.take (rest.length - 6)
    if rest = clock ++ "+08:00".toList then some clock else none
  | _ => none

/-- The instant of a date and an hour in Beijing. -/
def normalizeStoreReviewTime (value : String) : Option ℤ := do
  let text := value.toList
  let date ← readIsoDate (text.take 10)
  let (hour, minute, second) ← readClock (← clockText (text.drop 10))
  if date.year < 1000 || 23 < hour || 59 < minute || 59 < second then none
  else some (UtcDates.midnight (UtcDates.dateDay date) +
    (hour * 3600000 + minute * 60000 + second * 1000 : ℕ) - 28800000)

/-- The name of an enterprise and its key, which fits the directory. -/
def parseStoreReviewEnterprise (nfc : String → String) (value : String) (index : ℕ) :
    Except StoreReviewError String := do
  let name ← requireStoreReviewString value "enterpriseName" enterpriseNameChars index
  match AuthorizationWrites.normalizeEnterpriseIdentity nfc name with
  | .error _ => .error .partitionStoreIdentityMissing
  | .ok (enterpriseKey, enterpriseName) =>
    if enterpriseKeyChars < unitLength enterpriseKey then
      .error (.invalidField "enterpriseName" index)
    else .ok enterpriseName

def requireNullableText (value : Option (Option String)) (field : String) (index : ℕ) :
    Except StoreReviewError (Option (Option String)) :=
  match value with
  | some (some text) =>
    if textChars < text.length then .error (.invalidField field index) else .ok value
  | _ => .ok value

def requireFeedbackId (value : Option String) (index : ℕ) :
    Except StoreReviewError (Option String) :=
  match value with
  | none => .ok none
  | some feedbackId =>
    (requireStoreReviewString feedbackId "feedbackId" identityChars index).map some

def requireScores (sizes : Sizes) (value : Option (Option (Scores Score))) (index : ℕ) :
    Except StoreReviewError (Option (Option (Scores Score))) :=
  match value with
  | some (some scores) =>
    if scoresBytes < sizes.scores scores then .error (.invalidField "scores" index) else .ok value
  | _ => .ok value

/-- The fields of a review. -/
def parseReview (nfc : String → String) (sizes : Sizes) (r : RawReview) (index : ℕ) :
    Except StoreReviewError StoreReviewInput := do
  let enterpriseName ← parseStoreReviewEnterprise nfc r.enterpriseName index
  let storeName ← requireStoreReviewString r.storeName "storeName" identityChars index
  let reviewerName ← requireStoreReviewString r.reviewerName "reviewerName" identityChars index
  let time ← requireStoreReviewString r.reviewedAt "reviewedAt" 32 index
  match normalizeStoreReviewTime time with
  | none => .error (.invalidField "" index)
  | some reviewedAt => do
    let feedbackId ← requireFeedbackId r.feedbackId index
    let content ← requireNullableText r.content "content" index
    let merchantReply ← requireNullableText r.merchantReply "merchantReply" index
    let scores ← requireScores sizes r.scores index
    return { enterpriseName, source := r.source, storeName, reviewedAt, reviewerName, feedbackId,
             content, scores, merchantReply, replyStatus := r.replyStatus }

/-! ### Identities -/

/-- What tells reviews apart that have no number of their platform. -/
structure ReviewIdentity where
  enterpriseKey : String
  source : StoreReviewSource
  storeName : String
  reviewedAt : ℤ
  reviewerName : String
  deriving DecidableEq

/-- The name and the identity of a review. -/
def identityOf (nfc : String → String) (row : StoreReviewInput) :
    Except StoreReviewError (String × ReviewIdentity) :=
  match AuthorizationWrites.normalizeEnterpriseIdentity nfc row.enterpriseName with
  | .error _ => .error .partitionStoreIdentityMissing
  | .ok (enterpriseKey, enterpriseName) =>
    .ok (enterpriseName,
      { enterpriseKey, source := row.source, storeName := row.storeName,
        reviewedAt := row.reviewedAt, reviewerName := row.reviewerName })

/-- What has been read of a batch: its reviews, whether reviews of an identity have numbers of
their platform, and the indexes of the identities with these numbers. -/
structure BatchScan where
  reviews : List StoreReviewInput := []
  identityKinds : List (ReviewIdentity × Bool) := []
  seen : List ((ReviewIdentity × Option String) × ℕ) := []

def scanReview (nfc : String → String) (sizes : Sizes) (scan : BatchScan) (raw : RawReview × ℕ) :
    Except StoreReviewError BatchScan := do
  let row ← parseReview nfc sizes raw.1 raw.2
  let (_, oldKey) ← identityOf nfc row
  let hasId := row.feedbackId.isSome
  if (scan.identityKinds.lookup oldKey).any (· ≠ hasId) then .error (.mixedIdentity raw.2)
  else match scan.seen.lookup (oldKey, row.feedbackId) with
    | some duplicateIndex => .error (.duplicateIdentity raw.2 duplicateIndex)
    | none =>
      .ok { reviews := scan.reviews ++ [row]
            identityKinds := (oldKey, hasId) :: scan.identityKinds
            seen := ((oldKey, row.feedbackId), raw.2) :: scan.seen }

def parseStoreReviewBatch (nfc : String → String) (sizes : Sizes) (raw : List RawReview) :
    Except StoreReviewError (List StoreReviewInput) :=
  if raw.length < 1 || maxBatchRows < raw.length then .error .batchRows
  else if batchBytes < sizes.raw raw then .error .batchTooLarge
  else do
    let scan ← raw.zipIdx.foldlM (scanReview nfc sizes) {}
    if batchBytes < sizes.parsed scan.reviews then .error .batchTooLarge else .ok scan.reviews

/-- Two reviews of one identity both have numbers of their platform or both have none, and not the
same. -/
def Apart (nfc : String → String) (a b : StoreReviewInput) : Prop :=
  ∀ name name' key, identityOf nfc a = .ok (name, key) → identityOf nfc b = .ok (name', key) →
    a.feedbackId.isSome = b.feedbackId.isSome ∧ a.feedbackId ≠ b.feedbackId

/-- The reviews of a batch are told apart, and their identities are known. -/
structure BatchScan.Sound (nfc : String → String) (scan : BatchScan) : Prop where
  kinds : ∀ row ∈ scan.reviews, ∀ name key, identityOf nfc row = .ok (name, key) →
    scan.identityKinds.lookup key = some row.feedbackId.isSome
  seen : ∀ row ∈ scan.reviews, ∀ name key, identityOf nfc row = .ok (name, key) →
    (scan.seen.lookup (key, row.feedbackId)).isSome = true
  apart : scan.reviews.Pairwise (Apart nfc)

variable {nfc : String → String} {sizes : Sizes}

variable {index : ℕ}

lemma parseReview_scores {r : RawReview} {row : StoreReviewInput}
    (h : parseReview nfc sizes r index = .ok row) : row.scores = r.scores := by
  obtain ⟨enterpriseName, -, h⟩ := bind_ok.mp h
  obtain ⟨storeName, -, h⟩ := bind_ok.mp h
  obtain ⟨reviewerName, -, h⟩ := bind_ok.mp h
  obtain ⟨time, -, h⟩ := bind_ok.mp h
  split at h
  · cases h
  · obtain ⟨feedbackId, -, h⟩ := bind_ok.mp h
    obtain ⟨content, -, h⟩ := bind_ok.mp h
    obtain ⟨merchantReply, -, h⟩ := bind_ok.mp h
    obtain ⟨scores, hscores, h⟩ := bind_ok.mp h
    cases h
    unfold requireScores at hscores
    split at hscores
    · split at hscores
      · cases hscores
      · exact (Except.ok.inj hscores).symm
    · exact (Except.ok.inj hscores).symm

lemma scanReview_sound {scan scan' : BatchScan} {raw : RawReview × ℕ} (hscan : scan.Sound nfc)
    (h : scanReview nfc sizes scan raw = .ok scan') :
    scan'.Sound nfc ∧
      scan'.reviews.map (·.scores) = scan.reviews.map (·.scores) ++ [raw.1.scores] := by
  obtain ⟨row, hrow, h⟩ := bind_ok.mp h
  obtain ⟨⟨name, oldKey⟩, hidentity, h⟩ := bind_ok.mp h
  dsimp only at h
  split_ifs at h with hkind
  split at h
  · cases h
  · next hseen =>
    cases h
    have hkinds : ∀ kind, scan.identityKinds.lookup oldKey = some kind →
        kind = row.feedbackId.isSome := by
      intro kind hlookup
      simpa [hlookup] using hkind
    refine ⟨⟨?_, ?_, ?_⟩, by simp [parseReview_scores hrow]⟩
    · intro other hother name' key hkey
      rcases List.mem_append.mp hother with hother | hother
      · have hold := hscan.kinds other hother name' key hkey
        rw [List.lookup_cons]
        by_cases heq : key = oldKey
        · subst heq
          simp [hkinds _ hold]
        · rw [show (key == oldKey) = false by simpa using heq]
          exact hold
      · cases List.mem_singleton.mp hother
        rw [hidentity] at hkey
        cases hkey
        simp
    · intro other hother name' key hkey
      rw [List.lookup_cons]
      rcases List.mem_append.mp hother with hother | hother
      · have hold := hscan.seen other hother name' key hkey
        by_cases heq : (key, other.feedbackId) = (oldKey, row.feedbackId)
        · simp [heq]
        · rw [show ((key, other.feedbackId) == (oldKey, row.feedbackId)) = false by
            simpa using heq]
          exact hold
      · cases List.mem_singleton.mp hother
        rw [hidentity] at hkey
        cases hkey
        simp
    · rw [List.pairwise_append]
      refine ⟨hscan.apart, List.pairwise_singleton _ _, ?_⟩
      intro other hother row' hrow' name' name'' key hkey hkey'
      cases List.mem_singleton.mp hrow'
      rw [hidentity] at hkey'
      cases hkey'
      refine ⟨hkinds _ (hscan.kinds other hother name' oldKey hkey), fun heq => ?_⟩
      have hold := hscan.seen other hother name' oldKey hkey
      rw [heq, hseen] at hold
      cases hold

lemma sound_start (nfc : String → String) : BatchScan.Sound nfc {} where
  kinds := fun _ hrow => absurd hrow List.not_mem_nil
  seen := fun _ hrow => absurd hrow List.not_mem_nil
  apart := .nil

lemma foldlM_scanReview {raw : List (RawReview × ℕ)} {scan scan' : BatchScan}
    (hscan : scan.Sound nfc) (h : raw.foldlM (scanReview nfc sizes) scan = .ok scan') :
    scan'.Sound nfc ∧
      scan'.reviews.map (·.scores) = scan.reviews.map (·.scores) ++ raw.map (·.1.scores) := by
  induction raw generalizing scan with
  | nil =>
    cases h
    exact ⟨hscan, by simp⟩
  | cons first raw ih =>
    rw [List.foldlM_cons] at h
    obtain ⟨scan₁, hfirst, hrest⟩ := bind_ok.mp h
    obtain ⟨hsound, hscores⟩ := scanReview_sound hscan hfirst
    obtain ⟨hsound', hscores'⟩ := ih hsound hrest
    exact ⟨hsound', by rw [hscores', hscores, List.append_assoc]; rfl⟩

lemma parseStoreReviewBatch_ok {raw : List RawReview} {reviews : List StoreReviewInput}
    (h : parseStoreReviewBatch nfc sizes raw = .ok reviews) :
    reviews.Pairwise (Apart nfc) ∧ reviews.map (·.scores) = raw.map (·.scores) := by
  unfold parseStoreReviewBatch at h
  split at h
  · cases h
  split at h
  · cases h
  obtain ⟨scan, hscan, h⟩ := bind_ok.mp h
  split at h
  · cases h
  cases h
  obtain ⟨hsound, hscores⟩ := foldlM_scanReview (sound_start nfc) hscan
  refine ⟨hsound.apart, hscores.trans ?_⟩
  conv_rhs => rw [← List.zipIdx_map_fst 0 raw, List.map_map]
  rfl

/-! ### Replies -/

structure ReplyState where
  content : Option String
  merchantReply : Option String
  replyStatus : StoreReviewReplyStatus
  deriving DecidableEq

def isBlank (text : Option String) : Bool := text.all fun text => trim text = ""

/-- The field that contradicts a status. -/
def contradiction (state : ReplyState) : Option String :=
  if state.replyStatus = .replied then
    if isBlank state.merchantReply then some "merchantReply" else none
  else if state.replyStatus ≠ .needsVerification then
    if state.merchantReply ≠ none ∧ state.merchantReply ≠ some "" then some "merchantReply"
    else if !isBlank state.content ≠ (state.replyStatus = .unrepliedWithContent) then
      some "content"
    else none
  else none

/-- What is known of a reply when a review has been seen again. -/
def resolveStoreReviewReplyState (existing : Option ReplyState) (patch : StoreReviewInput)
    (index : ℕ) : Except StoreReviewError ReplyState :=
  let state : ReplyState :=
    { content := patch.content.getD (existing.bind (·.content))
      merchantReply := patch.merchantReply.getD (existing.bind (·.merchantReply))
      replyStatus := (patch.replyStatus.orElse fun _ => existing.map (·.replyStatus)).getD
        .needsVerification }
  match contradiction state with
  | none => .ok state
  | some field =>
    if patch.replyStatus.isSome then .error (.contradictsReply field index)
    else .ok { state with replyStatus := .needsVerification }

/-- What the texts of a review have to be for what is said of its reply. -/
structure ReplyState.Consistent (state : ReplyState) : Prop where
  replied : state.replyStatus = .replied → isBlank state.merchantReply = false
  unreplied : state.replyStatus = .unrepliedNoContent ∨
    state.replyStatus = .unrepliedWithContent →
    state.merchantReply = none ∨ state.merchantReply = some ""
  noContent : state.replyStatus = .unrepliedNoContent → isBlank state.content = true
  withContent : state.replyStatus = .unrepliedWithContent → isBlank state.content = false

variable {state : ReplyState}

lemma consistent_of_needsVerification (h : state.replyStatus = .needsVerification) :
    state.Consistent := by
  constructor <;> rw [h] <;> simp

lemma contradiction_eq_none : contradiction state = none ↔ state.Consistent := by
  obtain ⟨content, merchantReply, replyStatus⟩ := state
  unfold contradiction
  constructor
  · intro h
    cases replyStatus with
    | replied => exact ⟨by simpa using h, by simp, by simp, by simp⟩
    | unrepliedNoContent =>
      simp only [reduceCtorEq, if_false, ne_eq, not_false_eq_true, if_true] at h
      split_ifs at h with hreply hcontent
      refine ⟨by simp, fun _ => ?_, fun _ => by simpa using hcontent, by simp⟩
      by_contra hother
      exact hreply (not_or.mp hother)
    | unrepliedWithContent =>
      simp only [reduceCtorEq, if_false, ne_eq, not_false_eq_true, if_true] at h
      split_ifs at h with hreply hcontent
      refine ⟨by simp, fun _ => ?_, by simp, fun _ => by simpa using hcontent⟩
      by_contra hother
      exact hreply (not_or.mp hother)
    | needsVerification => exact consistent_of_needsVerification rfl
  · rintro ⟨hreplied, hunreplied, hno, hwith⟩
    cases replyStatus with
    | replied => simpa using hreplied rfl
    | unrepliedNoContent =>
      have hreply := hunreplied (.inl rfl)
      have hcontent := hno rfl
      rcases hreply with rfl | rfl <;> simp_all
    | unrepliedWithContent =>
      have hreply := hunreplied (.inr rfl)
      have hcontent := hwith rfl
      rcases hreply with rfl | rfl <;> simp_all
    | needsVerification => simp

variable {existing : Option ReplyState} {patch : StoreReviewInput}

lemma resolve_consistent (h : resolveStoreReviewReplyState existing patch index = .ok state) :
    state.Consistent := by
  unfold resolveStoreReviewReplyState at h
  dsimp only at h
  split at h
  · next hnone =>
    cases h
    exact contradiction_eq_none.mp hnone
  · split_ifs at h
    cases h
    exact consistent_of_needsVerification rfl

lemma resolve_says (h : resolveStoreReviewReplyState existing patch index = .ok state) :
    (∀ content, patch.content = some content → state.content = content) ∧
      (∀ reply, patch.merchantReply = some reply → state.merchantReply = reply) ∧
      ∀ status, patch.replyStatus = some status → state.replyStatus = status := by
  unfold resolveStoreReviewReplyState at h
  dsimp only at h
  split at h
  · cases h
    refine ⟨?_, ?_, ?_⟩ <;> rintro given hgiven <;> simp [hgiven]
  · split_ifs at h with hstatus
    cases h
    refine ⟨?_, ?_, ?_⟩
    · rintro given hgiven
      simp [hgiven]
    · rintro given hgiven
      simp [hgiven]
    · rintro given hgiven
      simp [hgiven] at hstatus

lemma resolve_again (h : resolveStoreReviewReplyState existing patch index = .ok state)
    (index' : ℕ) : resolveStoreReviewReplyState (some state) patch index' = .ok state := by
  have hconsistent := contradiction_eq_none.mpr (resolve_consistent h)
  have hstate : ReplyState.mk (patch.content.getD state.content)
      (patch.merchantReply.getD state.merchantReply)
      ((patch.replyStatus.orElse fun _ => some state.replyStatus).getD .needsVerification) =
      state := by
    unfold resolveStoreReviewReplyState at h
    dsimp only at h
    split at h
    · cases h
      cases patch.content <;> cases patch.merchantReply <;> cases patch.replyStatus <;> simp
    · split_ifs at h with hstatus
      cases h
      rw [Option.not_isSome_iff_eq_none] at hstatus
      rw [hstatus]
      cases patch.content <;> cases patch.merchantReply <;> simp
  unfold resolveStoreReviewReplyState
  simp only [Option.bind_some, Option.map_some]
  rw [hstate, hconsistent]

end StoreReviews
end SmeDataCenter
