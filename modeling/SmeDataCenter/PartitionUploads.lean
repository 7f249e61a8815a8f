import Mathlib.Algebra.BigOperators.Group.Finset.Basic
import Mathlib.Algebra.Order.BigOperators.Group.Finset
import Mathlib.Data.List.Sort
import SmeDataCenter.GuardedRuns
import SmeDataCenter.Tilings

/-!
# Uploads in parts

A launcher uploads a file in parts, over pages of URLs that the server signs. Four workers take the
parts of a page in turn, each sends its part again after a passing failure, and the list of all
parts with their tags completes the upload.
-/

namespace SmeDataCenter
namespace PartitionUploads

open Tilings

/-! ### The server -/

structure UploadedPart where
  partNumber : ℕ
  etag : String
  deriving DecidableEq

/-- An answer with URLs: of each part its number, for which the URL is signed. -/
structure UploadSession where
  partSize : ℕ
  totalParts : ℕ
  parts : List ℕ
  nextAfterPartNumber : Option ℕ

/-- `PART_URL_PAGE_SIZE` -/
def partUrlPageSize : ℕ := 100

/-- The quotient of two safe integers rounds to an integer only when it is one, so that
`Math.ceil` is exact. -/
def uploadSessionResponse (sourceByteSize partSize afterPartNumber : ℕ) : UploadSession :=
  let totalParts := sourceByteSize ⌈/⌉ partSize
  let lastPart := min totalParts (afterPartNumber + partUrlPageSize)
  { partSize := partSize
    totalParts := totalParts
    parts := (List.range (lastPart - afterPartNumber)).map fun index => afterPartNumber + index + 1
    nextAfterPartNumber := if lastPart < totalParts then some lastPart else none }

def validParts (parts : List UploadedPart) (expected : ℕ) : Bool :=
  parts.length == expected &&
    parts.zipIdx.all fun (part, index) => part.partNumber == index + 1 && part.etag != ""

/-- `parts.sort((a, b) => a.partNumber - b.partNumber)` -/
def sortParts (parts : List UploadedPart) : List UploadedPart :=
  parts.insertionSort fun a b => a.partNumber ≤ b.partNumber

/-- The object that the storage makes of the parts it has been sent. -/
def completeMultipartUpload (stored : ℕ → Option (List UInt8)) (parts : List UploadedPart) :
    Option (List UInt8) :=
  ((sortParts parts).mapM fun part => stored part.partNumber).map List.flatten

/-! ### The launcher -/

/-- `start` and `end` of `uploadPart`, both inclusive. -/
def partRange (partNumber partSize totalSize : ℕ) : ℕ × ℕ :=
  let start := (partNumber - 1) * partSize
  (start, min totalSize (start + partSize) - 1)

/-- `createReadStream(filePath, { start, end })` -/
def readRange (source : List UInt8) (range : ℕ × ℕ) : List UInt8 :=
  (source.drop range.1).take (range.2 + 1 - range.1)

inductive Phase where
  | sending
  /-- The list is sent to the server. -/
  | completing (parts : List UploadedPart)
  | failed
  deriving DecidableEq

/-- An upload and what the storage holds of it. Of the items of the page those before `cursor`
have been taken by a worker; `failures` counts the failed attempts of each. -/
structure Upload where
  page : UploadSession
  cursor : ℕ := 0
  failures : ℕ → ℕ := fun _ => 0
  results : ℕ → Option String := fun _ => none
  completed : List UploadedPart := []
  stored : ℕ → Option (List UInt8) := fun _ => none
  phase : Phase := .sending

inductive UploadEvent where
  /-- A worker takes the next item of the page. -/
  | take
  /-- An attempt succeeds. -/
  | sent (index : ℕ) (etag : String)
  /-- An attempt fails and will be repeated; its bytes may have arrived. -/
  | retried (index : ℕ) (arrived : Bool)
  /-- An attempt fails for good. -/
  | gaveUp (index : ℕ)
  /-- All items of the page are done. -/
  | turn

/-- `UPLOAD_CONCURRENCY` -/
def uploadConcurrency : ℕ := 4

namespace Upload

def partAt (u : Upload) (index : ℕ) : ℕ := u.page.parts.getD index 0

/-- A worker has the item. -/
def IsRunning (u : Upload) (index : ℕ) : Prop := index < u.cursor ∧ u.results index = none

instance (u : Upload) (index : ℕ) : Decidable (u.IsRunning index) :=
  inferInstanceAs (Decidable (_ ∧ _))

def running (u : Upload) : List ℕ := (List.range u.cursor).filter (u.IsRunning ·)

def takePart (u : Upload) : Option Upload :=
  if u.cursor < u.page.parts.length ∧ u.running.length < uploadConcurrency then
    some { u with cursor := u.cursor + 1 }
  else none

/-- The bytes of an item arrive in the storage; a part that is there already is replaced. -/
def putPart (source : List UInt8) (u : Upload) (index : ℕ) : ℕ → Option (List UInt8) :=
  Function.update u.stored (u.partAt index)
    (some (readRange source (partRange (u.partAt index) u.page.partSize source.length)))

def sendPart (source : List UInt8) (u : Upload) (index : ℕ) (etag : String) : Option Upload :=
  if u.IsRunning index ∧ etag ≠ "" then
    some { u with
      stored := u.putPart source index
      results := Function.update u.results index (some etag) }
  else none

/-- What the storage holds after a failed attempt. -/
def failPart (source : List UInt8) (u : Upload) (index : ℕ) (arrived : Bool) :
    ℕ → Option (List UInt8) :=
  if arrived then u.putPart source index else u.stored

/-- `retryTransfer` repeats an attempt twice. -/
def retryPart (source : List UInt8) (u : Upload) (index : ℕ) (arrived : Bool) : Option Upload :=
  if u.IsRunning index ∧ u.failures index < 2 then
    some { u with
      stored := u.failPart source index arrived
      failures := Function.update u.failures index (u.failures index + 1) }
  else none

def pageResults (u : Upload) : List UploadedPart :=
  (List.range u.page.parts.length).map fun index =>
    ⟨u.partAt index, (u.results index).getD ""⟩

def turnPage (source : List UInt8) (partSize : ℕ) (u : Upload) : Option Upload :=
  if ∀ index < u.page.parts.length, (u.results index).isSome then
    match u.page.nextAfterPartNumber with
    | none =>
      some { u with
        completed := u.completed ++ u.pageResults
        phase := .completing (sortParts (u.completed ++ u.pageResults)) }
    | some after =>
      some { page := uploadSessionResponse source.length partSize after
             completed := u.completed ++ u.pageResults
             stored := u.stored }
  else none

end Upload

/-- `partSize` is the setting of the server; the launcher goes by the page. -/
def uploadStep (source : List UInt8) (partSize : ℕ) (u : Upload) (event : UploadEvent) :
    Option Upload :=
  if u.phase = .sending then
    match event with
    | .take => u.takePart
    | .sent index etag => u.sendPart source index etag
    | .retried index arrived => u.retryPart source index arrived
    | .gaveUp index => if u.IsRunning index then some { u with phase := .failed } else none
    | .turn => u.turnPage source partSize
  else none

/-- The upload after the session was created. -/
def startUpload (source : List UInt8) (partSize : ℕ) : Upload where
  page := uploadSessionResponse source.length partSize 0

/-- What the events make of a new upload, where each can happen in its turn. -/
def uploadRun (source : List UInt8) (partSize : ℕ) (events : List UploadEvent) : Option Upload :=
  GuardedRuns.run (uploadStep source partSize) (startUpload source partSize) events

/-! ### The invariant -/

section

variable {source : List UInt8} {partSize after : ℕ} {u next : Upload} {event : UploadEvent}

/-- The parts `1, …, count` have been sent. -/
structure HasSent (stored : ℕ → Option (List UInt8)) (parts : List UploadedPart) (count : ℕ) :
    Prop where
  numbers : parts.map (·.partNumber) = (List.range count).map (· + 1)
  etag : ∀ part ∈ parts, part.etag ≠ ""
  isSome : ∀ part ∈ parts, (stored part.partNumber).isSome = true

/-- An upload that sends the page after `after`. -/
structure Sends (source : List UInt8) (partSize after : ℕ) (u : Upload) : Prop where
  page : u.page = uploadSessionResponse source.length partSize after
  after_le : after ≤ source.length ⌈/⌉ partSize
  completed : HasSent u.stored u.completed after
  cursor_le : u.cursor ≤ u.page.parts.length
  failures_le : ∀ index, u.failures index ≤ 2
  results : ∀ index etag, u.results index = some etag →
    index < u.cursor ∧ etag ≠ "" ∧ (u.stored (u.partAt index)).isSome = true

structure IsSound (source : List UInt8) (partSize : ℕ) (u : Upload) : Prop where
  bytes : ∀ partNumber bytes, u.stored partNumber = some bytes →
    bytes = readRange source (partRange partNumber partSize source.length)
  sending : u.phase = .sending → ∃ after, Sends source partSize after u
  completing : ∀ parts, u.phase = .completing parts →
    HasSent u.stored parts (source.length ⌈/⌉ partSize)

lemma length_parts (sourceByteSize partSize after : ℕ) :
    (uploadSessionResponse sourceByteSize partSize after).parts.length =
      min (sourceByteSize ⌈/⌉ partSize) (after + partUrlPageSize) - after := by
  simp [uploadSessionResponse]

variable {index : ℕ}

lemma Sends.partAt (h : Sends source partSize after u) (hindex : index < u.page.parts.length) :
    u.partAt index = after + index + 1 := by
  unfold Upload.partAt
  rw [h.page, length_parts] at hindex
  rw [h.page, uploadSessionResponse, List.getD_eq_getElem?_getD, List.getElem?_map,
    List.getElem?_range hindex]
  rfl

lemma Sends.partSize_eq (h : Sends source partSize after u) :
    u.page.partSize = partSize := by
  rw [h.page, uploadSessionResponse]

lemma isSome_putPart {partNumber : ℕ} (index : ℕ) (h : (u.stored partNumber).isSome = true) :
    (u.putPart source index partNumber).isSome = true := by
  unfold Upload.putPart
  by_cases heq : partNumber = u.partAt index
  · subst heq
    rw [Function.update_self]
    rfl
  · rw [Function.update_of_ne heq]
    exact h

lemma putPart_self (source : List UInt8) (u : Upload) (index : ℕ) :
    (u.putPart source index (u.partAt index)).isSome = true := by
  rw [Upload.putPart, Function.update_self]
  rfl

lemma bytes_putPart (hsize : u.page.partSize = partSize)
    (h : ∀ partNumber bytes, u.stored partNumber = some bytes →
      bytes = readRange source (partRange partNumber partSize source.length)) (index : ℕ) :
    ∀ partNumber bytes, u.putPart source index partNumber = some bytes →
      bytes = readRange source (partRange partNumber partSize source.length) := by
  intro partNumber bytes hbytes
  unfold Upload.putPart at hbytes
  by_cases heq : partNumber = u.partAt index
  · subst heq
    rw [Function.update_self, hsize] at hbytes
    cases hbytes
    rfl
  · rw [Function.update_of_ne heq] at hbytes
    exact h partNumber bytes hbytes

variable {parts : List UploadedPart}

variable {stored : ℕ → Option (List UInt8)}

variable {count : ℕ}

lemma HasSent.mono {stored' : ℕ → Option (List UInt8)} (h : HasSent stored parts count)
    (hstored : ∀ n, (stored n).isSome = true → (stored' n).isSome = true) :
    HasSent stored' parts count :=
  ⟨h.numbers, h.etag, fun part hpart => hstored _ (h.isSome part hpart)⟩

lemma isSound_start (source : List UInt8) (partSize : ℕ) :
    IsSound source partSize (startUpload source partSize) where
  bytes := by
    intro partNumber bytes hbytes
    cases hbytes
  sending := by
    intro _
    refine ⟨0, rfl, Nat.zero_le _, ⟨rfl, ?_, ?_⟩, Nat.zero_le _, fun _ => Nat.zero_le _, ?_⟩
    · intro part hpart
      cases hpart
    · intro part hpart
      cases hpart
    · intro index etag hresult
      cases hresult
  completing := by
    intro parts hphase
    cases hphase

lemma IsSound.of_sends (after : ℕ) (hbytes : ∀ partNumber bytes,
      u.stored partNumber = some bytes →
        bytes = readRange source (partRange partNumber partSize source.length))
    (hphase : u.phase = .sending) (h : Sends source partSize after u) :
    IsSound source partSize u where
  bytes := hbytes
  sending := fun _ => ⟨after, h⟩
  completing := by
    intro parts hparts
    rw [hphase] at hparts
    cases hparts

lemma IsSound.takePart (h : IsSound source partSize u) (hphase : u.phase = .sending)
    (hstep : u.takePart = some next) : IsSound source partSize next := by
  obtain ⟨after, hsends⟩ := h.sending hphase
  unfold Upload.takePart at hstep
  split_ifs at hstep with hfree
  cases hstep
  refine .of_sends after h.bytes hphase ?_
  refine ⟨hsends.page, hsends.after_le, hsends.completed, hfree.1, hsends.failures_le, ?_⟩
  intro index etag hresult
  obtain ⟨hindex, hrest⟩ := hsends.results index etag hresult
  exact ⟨Nat.lt_succ_of_lt hindex, hrest⟩

lemma IsSound.sendPart (h : IsSound source partSize u) (hphase : u.phase = .sending) {etag : String}
    (hstep : u.sendPart source index etag = some next) : IsSound source partSize next := by
  obtain ⟨after, hsends⟩ := h.sending hphase
  unfold Upload.sendPart at hstep
  split_ifs at hstep with hrunning
  cases hstep
  refine .of_sends after (bytes_putPart hsends.partSize_eq h.bytes index) hphase ?_
  refine ⟨hsends.page, hsends.after_le, ?_, hsends.cursor_le, hsends.failures_le, ?_⟩
  · exact hsends.completed.mono fun n hn => isSome_putPart index hn
  · intro other etag' hresult
    dsimp only at hresult
    by_cases heq : other = index
    · subst heq
      rw [Function.update_self] at hresult
      cases hresult
      exact ⟨hrunning.1.1, hrunning.2, putPart_self source u other⟩
    · rw [Function.update_of_ne heq] at hresult
      obtain ⟨hindex, hne, hstored⟩ := hsends.results other etag' hresult
      exact ⟨hindex, hne, isSome_putPart index hstored⟩

lemma IsSound.retryPart (h : IsSound source partSize u) (hphase : u.phase = .sending)
    {arrived : Bool} (hstep : u.retryPart source index arrived = some next) :
    IsSound source partSize next := by
  obtain ⟨after, hsends⟩ := h.sending hphase
  unfold Upload.retryPart at hstep
  split_ifs at hstep with hrunning
  cases hstep
  have hmono (n : ℕ) (hn : (u.stored n).isSome = true) :
      (u.failPart source index arrived n).isSome = true := by
    cases arrived
    · exact hn
    · exact isSome_putPart index hn
  refine .of_sends after ?_ hphase ?_
  · cases arrived
    · exact h.bytes
    · exact bytes_putPart hsends.partSize_eq h.bytes index
  · refine ⟨hsends.page, hsends.after_le, hsends.completed.mono hmono, hsends.cursor_le, ?_, ?_⟩
    · intro other
      dsimp only
      by_cases heq : other = index
      · subst heq
        rw [Function.update_self]
        omega
      · rw [Function.update_of_ne heq]
        exact hsends.failures_le other
    · intro other etag hresult
      obtain ⟨hindex, hne, hstored⟩ := hsends.results other etag hresult
      exact ⟨hindex, hne, hmono _ hstored⟩

lemma Sends.hasSent_page (h : Sends source partSize after u)
    (hdone : ∀ index < u.page.parts.length, (u.results index).isSome) :
    HasSent u.stored (u.completed ++ u.pageResults) (after + u.page.parts.length) := by
  have hresult {part : UploadedPart} (hpart : part ∈ u.pageResults) :
      part.etag ≠ "" ∧ (u.stored part.partNumber).isSome = true := by
    obtain ⟨index, hindex, rfl⟩ := List.mem_map.mp hpart
    obtain ⟨etag, hetag⟩ := Option.isSome_iff_exists.mp (hdone index (List.mem_range.mp hindex))
    obtain ⟨-, hne, hstored⟩ := h.results index etag hetag
    rw [hetag]
    exact ⟨hne, hstored⟩
  refine ⟨?_, ?_, ?_⟩
  · rw [List.map_append, h.completed.numbers, List.range_add, List.map_append, Upload.pageResults,
      List.map_map, List.map_map]
    congr 1
    apply List.map_congr_left
    intro index hindex
    exact h.partAt (List.mem_range.mp hindex)
  · intro part hpart
    rcases List.mem_append.mp hpart with hpart | hpart
    · exact h.completed.etag part hpart
    · exact (hresult hpart).1
  · intro part hpart
    rcases List.mem_append.mp hpart with hpart | hpart
    · exact h.completed.isSome part hpart
    · exact (hresult hpart).2

lemma sortParts_eq (h : parts.map (·.partNumber) = (List.range count).map (· + 1)) :
    sortParts parts = parts := by
  apply List.Pairwise.insertionSort_eq
  have hrange : (parts.map (·.partNumber)).Pairwise (· < ·) := by
    rw [h, List.pairwise_map]
    exact List.pairwise_lt_range.imp (by omega)
  exact (List.pairwise_map.mp hrange).imp fun hlt => hlt.le

lemma after_add_length (h : after ≤ source.length ⌈/⌉ partSize) :
    after + (uploadSessionResponse source.length partSize after).parts.length =
      min (source.length ⌈/⌉ partSize) (after + partUrlPageSize) := by
  rw [length_parts]
  omega

lemma IsSound.turnPage (h : IsSound source partSize u) (hphase : u.phase = .sending)
    (hstep : u.turnPage source partSize = some next) : IsSound source partSize next := by
  obtain ⟨after, hsends⟩ := h.sending hphase
  unfold Upload.turnPage at hstep
  split_ifs at hstep with hdone
  have hsent := hsends.hasSent_page hdone
  have hlength : after + u.page.parts.length =
      min (source.length ⌈/⌉ partSize) (after + partUrlPageSize) := by
    rw [hsends.page, after_add_length hsends.after_le]
  have hafter : u.page.nextAfterPartNumber =
      if min (source.length ⌈/⌉ partSize) (after + partUrlPageSize) < source.length ⌈/⌉ partSize
      then some (min (source.length ⌈/⌉ partSize) (after + partUrlPageSize)) else none := by
    rw [hsends.page, uploadSessionResponse]
  rw [hlength] at hsent
  split at hstep
  · next hnone =>
    cases hstep
    rw [hafter] at hnone
    split_ifs at hnone with hlast
    have hall : min (source.length ⌈/⌉ partSize) (after + partUrlPageSize) =
        source.length ⌈/⌉ partSize := by omega
    rw [hall] at hsent
    refine ⟨h.bytes, ?_, ?_⟩
    · intro hsending
      cases hsending
    · intro parts hparts
      cases hparts
      rw [sortParts_eq hsent.numbers]
      exact hsent
  · next last hsome =>
    cases hstep
    rw [hafter] at hsome
    split_ifs at hsome with hlast
    cases hsome
    refine .of_sends _ h.bytes rfl ⟨rfl, by omega, hsent, Nat.zero_le _,
      fun _ => Nat.zero_le _, ?_⟩
    intro index etag hresult
    cases hresult

lemma IsSound.step (h : IsSound source partSize u)
    (hstep : uploadStep source partSize u event = some next) : IsSound source partSize next := by
  unfold uploadStep at hstep
  split_ifs at hstep with hphase
  cases event with
  | take => exact h.takePart hphase hstep
  | sent index etag => exact h.sendPart hphase hstep
  | retried index arrived => exact h.retryPart hphase hstep
  | turn => exact h.turnPage hphase hstep
  | gaveUp index =>
    dsimp only at hstep
    split_ifs at hstep
    cases hstep
    refine ⟨h.bytes, ?_, ?_⟩
    · intro hsending
      cases hsending
    · intro parts hparts
      cases hparts

/-! ### Termination -/

/-- What an item may still cost: one step to take it, and three attempts. -/
def weight (u : Upload) (index : ℕ) : ℕ :=
  if (u.results index).isSome then 0 else if index < u.cursor then 3 - u.failures index else 4

/-- The parts behind the page. -/
def partsBehind (page : UploadSession) : ℕ :=
  match page.nextAfterPartNumber with
  | none => 0
  | some last => page.totalParts - last

/-- A page costs its items and the turn to the next. -/
def potential (u : Upload) : ℕ :=
  if u.phase = .sending then
    5 * partsBehind u.page + ∑ index ∈ Finset.range u.page.parts.length, weight u index + 1
  else 0

lemma potential_lt (index : ℕ) (hphase : u.phase = .sending) (hpage : next.page = u.page)
    (hindex : index < u.page.parts.length)
    (hothers : ∀ other ≠ index, weight next other ≤ weight u other)
    (hlt : weight next index < weight u index) :
    potential next < potential u := by
  have hle : ∀ other, weight next other ≤ weight u other := by
    intro other
    by_cases heq : other = index
    · rw [heq]
      exact hlt.le
    · exact hothers other heq
  have hsum : ∑ index ∈ Finset.range u.page.parts.length, weight next index <
      ∑ index ∈ Finset.range u.page.parts.length, weight u index :=
    Finset.sum_lt_sum (fun other _ => hle other) ⟨index, Finset.mem_range.mpr hindex, hlt⟩
  unfold potential
  rw [hpage, if_pos hphase]
  split_ifs <;> omega

lemma potential_takePart (hphase : u.phase = .sending) (hsends : Sends source partSize after u)
    (hstep : u.takePart = some next) : potential next < potential u := by
  unfold Upload.takePart at hstep
  split_ifs at hstep with hfree
  cases hstep
  have hnone : u.results u.cursor = none := by
    by_contra hne
    obtain ⟨etag, hetag⟩ := Option.ne_none_iff_exists'.mp hne
    exact absurd (hsends.results u.cursor etag hetag).1 (lt_irrefl _)
  refine potential_lt u.cursor hphase rfl hfree.1 (fun other _ => ?_) ?_
  · unfold weight
    dsimp only
    split_ifs <;> omega
  · simp only [weight, hnone, Option.isSome_none, Bool.false_eq_true, if_false, lt_irrefl,
      Nat.lt_succ_self, if_true]
    omega

lemma potential_sendPart (hphase : u.phase = .sending) (hsends : Sends source partSize after u)
    {etag : String} (hstep : u.sendPart source index etag = some next) :
    potential next < potential u := by
  unfold Upload.sendPart at hstep
  split_ifs at hstep with hrunning
  cases hstep
  obtain ⟨⟨hindex, hnone⟩, -⟩ := hrunning
  have hfailures := hsends.failures_le index
  have hself : weight u index = 3 - u.failures index := by
    rw [weight, hnone, if_neg (by simp), if_pos hindex]
  refine potential_lt index hphase rfl (hindex.trans_le hsends.cursor_le) (fun other hne => ?_) ?_
  · simp [weight, Function.update_of_ne hne]
  · rw [hself]
    simp only [weight, Function.update_self, Option.isSome_some, if_true]
    omega

lemma potential_retryPart (hphase : u.phase = .sending) (hsends : Sends source partSize after u)
    {arrived : Bool} (hstep : u.retryPart source index arrived = some next) :
    potential next < potential u := by
  unfold Upload.retryPart at hstep
  split_ifs at hstep with hrunning
  cases hstep
  obtain ⟨⟨hindex, hnone⟩, hfailures⟩ := hrunning
  have hself : weight u index = 3 - u.failures index := by
    rw [weight, hnone, if_neg (by simp), if_pos hindex]
  have hnext : ∀ stored, weight { u with
      stored := stored
      failures := Function.update u.failures index (u.failures index + 1) } index =
        3 - (u.failures index + 1) := by
    intro stored
    rw [weight]
    dsimp only
    rw [hnone, if_neg (by simp), if_pos hindex, Function.update_self]
  refine potential_lt index hphase rfl (hindex.trans_le hsends.cursor_le) (fun other hne => ?_) ?_
  · simp [weight, Function.update_of_ne hne]
  · rw [hself, hnext]
    omega

lemma weight_fresh (page : UploadSession) (completed : List UploadedPart)
    (stored : ℕ → Option (List UInt8)) (index : ℕ) :
    weight { page := page, completed := completed, stored := stored } index = 4 := by
  simp [weight]

lemma partsBehind_page {last : ℕ} (hlast : last ≤ source.length ⌈/⌉ partSize) :
    partsBehind (uploadSessionResponse source.length partSize last) +
      (uploadSessionResponse source.length partSize last).parts.length =
        source.length ⌈/⌉ partSize - last := by
  have hlength := @after_add_length source partSize last hlast
  rw [partsBehind]
  simp only [uploadSessionResponse] at hlength ⊢
  split
  · next hnone =>
    split_ifs at hnone with hmore
    omega
  · next after hsome =>
    split_ifs at hsome with hmore
    cases hsome
    omega

lemma potential_fresh (completed : List UploadedPart) (stored : ℕ → Option (List UInt8)) {last : ℕ}
    (hlast : last ≤ source.length ⌈/⌉ partSize) :
    potential { page := uploadSessionResponse source.length partSize last
                completed := completed
                stored := stored } +
      (uploadSessionResponse source.length partSize last).parts.length ≤
        5 * (source.length ⌈/⌉ partSize - last) + 1 := by
  have hbehind := partsBehind_page hlast
  rw [potential, if_pos rfl, Finset.sum_congr rfl fun index _ => weight_fresh _ _ _ index,
    Finset.sum_const, Finset.card_range, smul_eq_mul]
  dsimp only
  omega

lemma potential_turnPage (hphase : u.phase = .sending) (hsends : Sends source partSize after u)
    (hstep : u.turnPage source partSize = some next) : potential next < potential u := by
  have hpositive : 0 < potential u := by
    rw [potential, if_pos hphase]
    omega
  unfold Upload.turnPage at hstep
  split_ifs at hstep with hdone
  split at hstep
  · cases hstep
    rw [potential, if_neg (by simp)]
    exact hpositive
  · next last hsome =>
    cases hstep
    have hlast : last < source.length ⌈/⌉ partSize := by
      rw [hsends.page, uploadSessionResponse] at hsome
      dsimp only at hsome
      split_ifs at hsome with hmore
      cases hsome
      exact hmore
    have hbehind : partsBehind u.page = source.length ⌈/⌉ partSize - last := by
      rw [partsBehind, hsome, hsends.page, uploadSessionResponse]
    have hfresh := potential_fresh (u.completed ++ u.pageResults) u.stored hlast.le
    have hparts : 0 < (uploadSessionResponse source.length partSize last).parts.length := by
      rw [length_parts, partUrlPageSize]
      omega
    have hsum : 5 * partsBehind u.page + 1 ≤ potential u := by
      rw [potential, if_pos hphase]
      omega
    rw [hbehind] at hsum
    omega

lemma potential_step (h : IsSound source partSize u)
    (hstep : uploadStep source partSize u event = some next) : potential next < potential u := by
  unfold uploadStep at hstep
  split_ifs at hstep with hphase
  obtain ⟨after, hsends⟩ := h.sending hphase
  cases event with
  | take => exact potential_takePart hphase hsends hstep
  | sent index etag => exact potential_sendPart hphase hsends hstep
  | retried index arrived => exact potential_retryPart hphase hsends hstep
  | turn => exact potential_turnPage hphase hsends hstep
  | gaveUp index =>
    dsimp only at hstep
    split_ifs at hstep
    cases hstep
    unfold potential
    rw [if_neg (by simp), if_pos hphase]
    omega

lemma potential_start (source : List UInt8) (partSize : ℕ) :
    potential (startUpload source partSize) ≤ 5 * (source.length ⌈/⌉ partSize) + 1 := by
  have hfresh := @potential_fresh source partSize [] (fun _ => none) 0 (Nat.zero_le _)
  rw [startUpload]
  omega

lemma IsSound.progress (h : IsSound source partSize u) (hphase : u.phase = .sending) :
    ∃ event, (∀ index, event ≠ .gaveUp index) ∧
      (uploadStep source partSize u event).isSome = true := by
  obtain ⟨after, hsends⟩ := h.sending hphase
  by_cases hdone : ∀ index < u.page.parts.length, (u.results index).isSome
  · refine ⟨.turn, fun index heq => ?_, ?_⟩
    · cases heq
    · rw [uploadStep, if_pos hphase]
      rw [Upload.turnPage, if_pos hdone]
      split <;> rfl
  · obtain ⟨index, hindex, hnone⟩ : ∃ index < u.page.parts.length, u.results index = none := by
      by_contra hall
      refine hdone fun index hindex => ?_
      by_contra hnone
      exact hall ⟨index, hindex, Option.not_isSome_iff_eq_none.mp hnone⟩
    by_cases hrunning : ∃ other, u.IsRunning other
    · obtain ⟨other, hother⟩ := hrunning
      refine ⟨.sent other "tag", fun index heq => ?_, ?_⟩
      · cases heq
      · rw [uploadStep, if_pos hphase]
        rw [Upload.sendPart, if_pos ⟨hother, by decide⟩]
        rfl
    · have hcursor : u.cursor ≤ index := by
        by_contra hlt
        exact hrunning ⟨index, by omega, hnone⟩
      have hfree : u.running = [] := by
        rw [Upload.running, List.filter_eq_nil_iff]
        intro other _ hother
        exact hrunning ⟨other, of_decide_eq_true hother⟩
      refine ⟨.take, fun index heq => ?_, ?_⟩
      · cases heq
      · rw [uploadStep, if_pos hphase]
        rw [Upload.takePart, if_pos ⟨by omega, by rw [hfree]; decide⟩]
        rfl

lemma failed_step (hstep : uploadStep source partSize u event = some next)
    (hfailed : next.phase = .failed) : u.phase = .failed ∨ ∃ index, event = .gaveUp index := by
  unfold uploadStep at hstep
  split_ifs at hstep with hphase
  cases event with
  | gaveUp index => exact .inr ⟨index, rfl⟩
  | take =>
    dsimp only [Upload.takePart] at hstep
    split_ifs at hstep
    cases hstep
    exact .inl hfailed
  | sent index etag =>
    dsimp only [Upload.sendPart] at hstep
    split_ifs at hstep
    cases hstep
    exact .inl hfailed
  | retried index arrived =>
    dsimp only [Upload.retryPart] at hstep
    split_ifs at hstep
    cases hstep
    exact .inl hfailed
  | turn =>
    dsimp only [Upload.turnPage] at hstep
    split_ifs at hstep
    split at hstep
    · cases hstep
      cases hfailed
    · cases hstep
      cases hfailed

/-! ### What a completed upload has sent -/

lemma HasSent.validParts (h : HasSent stored parts count) : validParts parts count = true := by
  have hlength : parts.length = count := by
    have hnumbers := congrArg List.length h.numbers
    simpa using hnumbers
  rw [PartitionUploads.validParts, Bool.and_eq_true, beq_iff_eq]
  refine ⟨hlength, List.all_eq_true.mpr ?_⟩
  rintro ⟨part, index⟩ hpart
  have hget := List.mk_mem_zipIdx_iff_getElem?.mp hpart
  have hnumber : part.partNumber = index + 1 := by
    have hmap : (parts.map (·.partNumber))[index]? = some part.partNumber := by
      rw [List.getElem?_map, hget, Option.map_some]
    obtain ⟨hlt, -⟩ := List.getElem?_eq_some_iff.mp hget
    rw [h.numbers, List.getElem?_map, List.getElem?_range (by omega)] at hmap
    exact (Option.some.inj hmap).symm
  have hetag := h.etag part (List.mem_of_getElem? hget)
  simp [hnumber, hetag]

/-- The ranges of the parts, in the order of their numbers. -/
def sentRanges (parts : List UploadedPart) (partSize totalSize : ℕ) : List (ℕ × ℕ) :=
  parts.map fun part => partRange part.partNumber partSize totalSize

lemma HasSent.sentRanges_eq (h : HasSent stored parts count) (totalSize : ℕ) :
    sentRanges parts partSize totalSize = (List.range count).map fun block =>
      (block * partSize, min totalSize (block * partSize + partSize) - 1) := by
  have hmap := congrArg (List.map (partRange · partSize totalSize)) h.numbers
  rw [List.map_map, List.map_map] at hmap
  exact hmap

lemma HasSent.tiles {totalSize : ℕ} (h : HasSent stored parts (totalSize ⌈/⌉ partSize))
    (hpart : 0 < partSize) : Tiles 0 (sentRanges parts partSize totalSize) totalSize := by
  have htiles := tiles_blocks hpart (totalSize ⌈/⌉ partSize) fun block hblock =>
    mul_lt_of_lt_ceilDiv hpart hblock
  rw [Nat.min_eq_left (le_ceilDiv_mul totalSize hpart)] at htiles
  rw [h.sentRanges_eq]
  exact htiles

lemma readRange_block (source : List UInt8) {block : ℕ} (hpart : 0 < partSize)
    (hblock : block * partSize < source.length) :
    readRange source (partRange (block + 1) partSize source.length) =
      (source.drop (block * partSize)).take partSize := by
  simp only [readRange, partRange, Nat.add_sub_cancel]
  rcases Nat.le_total (block * partSize + partSize) source.length with hle | hle
  · congr 1
    omega
  · rw [List.take_of_length_le, List.take_of_length_le]
    · rw [List.length_drop]
      omega
    · rw [List.length_drop]
      omega

lemma mapM_eq_map {α β : Type} {f : α → Option β} {g : α → β} {as : List α}
    (h : ∀ a ∈ as, f a = some (g a)) : as.mapM f = some (as.map g) := by
  induction as with
  | nil => rfl
  | cons a as ih =>
    rw [List.mapM_cons, h a List.mem_cons_self, ih fun b hb => h b (List.mem_cons_of_mem a hb)]
    rfl

lemma HasSent.complete (h : IsSound source partSize u)
    (hsent : HasSent u.stored parts (source.length ⌈/⌉ partSize)) (hpart : 0 < partSize) :
    completeMultipartUpload u.stored parts = some source := by
  have hstored {part : UploadedPart} (hmem : part ∈ parts) : u.stored part.partNumber =
      some (readRange source (partRange part.partNumber partSize source.length)) := by
    obtain ⟨bytes, hbytes⟩ := Option.isSome_iff_exists.mp (hsent.isSome part hmem)
    rw [hbytes, h.bytes part.partNumber bytes hbytes]
  have hmapM : parts.mapM (fun part => u.stored part.partNumber) =
      some (parts.map fun part =>
        readRange source (partRange part.partNumber partSize source.length)) :=
    mapM_eq_map fun part hmem => hstored hmem
  have hblocks : (parts.map fun part =>
      readRange source (partRange part.partNumber partSize source.length)) =
        (List.range (source.length ⌈/⌉ partSize)).map fun block =>
          (source.drop (block * partSize)).take partSize := by
    have hmap := congrArg (List.map fun partNumber =>
      readRange source (partRange partNumber partSize source.length)) hsent.numbers
    rw [List.map_map, List.map_map] at hmap
    refine hmap.trans (List.map_congr_left fun block hblock => ?_)
    exact readRange_block source hpart (mul_lt_of_lt_ceilDiv hpart (List.mem_range.mp hblock))
  rw [completeMultipartUpload, sortParts_eq hsent.numbers, hmapM, Option.map_some, hblocks,
    ← List.flatMap_def, flatMap_blocks, List.take_of_length_le (le_ceilDiv_mul _ hpart)]

end

/-- The list that completes an upload: the server takes it, the ranges of its parts tile the file,
and the object that the storage makes is the file. -/
structure CoversOnce (source : List UInt8) (partSize : ℕ) (u : Upload)
    (parts : List UploadedPart) : Prop where
  numbers : parts.map (·.partNumber) = (List.range (source.length ⌈/⌉ partSize)).map (· + 1)
  accepted : validParts parts (source.length ⌈/⌉ partSize) = true
  tiles : Tiles 0 (sentRanges parts partSize source.length) source.length
  once : ∀ byte < source.length, ∃! place : ℕ, ∃ range : ℕ × ℕ,
    (sentRanges parts partSize source.length)[place]? = some range ∧
      range.1 ≤ byte ∧ byte ≤ range.2
  object : completeMultipartUpload u.stored parts = some source

/-- An upload takes boundedly many steps, can go on as long as it sends, fails only when an attempt
fails for good, and what completes it covers the file once. -/
theorem upload_covers_once (source : List UInt8) (partSize : ℕ) (hpart : 1 ≤ partSize)
    (events : List UploadEvent) (u : Upload) (hrun : uploadRun source partSize events = some u) :
    events.length ≤ 5 * (source.length ⌈/⌉ partSize) + 1 ∧
      (u.phase = .sending → ∃ event, (∀ index, event ≠ .gaveUp index) ∧
        (uploadStep source partSize u event).isSome = true) ∧
      (u.phase = .failed → ∃ event ∈ events, ∃ index, event = .gaveUp index) ∧
      ∀ parts, u.phase = .completing parts → CoversOnce source partSize u parts := by
  have hstart := isSound_start source partSize
  have hsound : IsSound source partSize u :=
    GuardedRuns.run_invariant (fun _ _ _ h hstep => h.step hstep) hrun hstart
  have hlength := @GuardedRuns.length_add_le _ _ _ (IsSound source partSize) potential
    (fun _ _ _ h hstep => h.step hstep) (fun _ _ _ h hstep => potential_step h hstep)
    (startUpload source partSize) u events hrun hstart
  have hbound := potential_start source partSize
  refine ⟨by omega, hsound.progress, ?_, ?_⟩
  · intro hfailed
    refine GuardedRuns.exists_event (fun _ _ _ hstep hbad => failed_step hstep hbad) hrun ?_ hfailed
    intro hbad
    cases hbad
  · intro parts hparts
    have hsent := hsound.completing parts hparts
    have htiles := hsent.tiles hpart
    exact ⟨hsent.numbers, hsent.validParts, htiles,
      fun byte hbyte => existsUnique_tile htiles (Nat.zero_le byte) hbyte,
      hsent.complete hsound hpart⟩

/-- Three bytes in parts of two: the second part is sent again, and is done before the first. -/
def smallRun : List UploadEvent :=
  [.take, .take, .retried 1 true, .sent 1 "b", .sent 0 "a", .turn]

theorem small_upload_covers_once : ∃ u, uploadRun [7, 8, 9] 2 smallRun = some u ∧
    CoversOnce [7, 8, 9] 2 u [⟨1, "a"⟩, ⟨2, "b"⟩] := by
  obtain ⟨u, hrun⟩ := Option.isSome_iff_exists.mp
    (show (uploadRun [7, 8, 9] 2 smallRun).isSome = true by decide +kernel)
  have hphase : (uploadRun [7, 8, 9] 2 smallRun).map (·.phase) =
      some (.completing [⟨1, "a"⟩, ⟨2, "b"⟩]) := by decide +kernel
  rw [hrun] at hphase
  have hcovers := upload_covers_once [7, 8, 9] 2 (by decide) smallRun u hrun
  exact ⟨u, hrun, hcovers.2.2.2 _ (Option.some.inj hphase)⟩

end PartitionUploads
end SmeDataCenter
