import Mathlib.Data.List.SplitBy
import SmeDataCenter.EvidenceMarkdown

/-!
# Evidence chunks

The blocks of a document are gathered into chunks of bounded length. Blocks are gathered while they
stand under the same heading and fit together; a block that is too long by itself is split at its
words, and a word that is too long is cut. Texts are sequences of UTF-16 code units here, since
lengths and cuts are in code units.
-/

namespace SmeDataCenter
namespace EvidenceChunks

open EvidenceMarkdown (EvidenceBlockType)

abbrev Units := List UInt16

/-- `\s`: white space and the line terminators, none of which takes two code units. -/
def isSpace (u : UInt16) : Bool :=
  (9 ≤ u.toNat && u.toNat ≤ 13) || (0x2000 ≤ u.toNat && u.toNat ≤ 0x200a) ||
    [0x20, 0xa0, 0x1680, 0x2028, 0x2029, 0x202f, 0x205f, 0x3000, 0xfeff].contains u.toNat

def trim (text : Units) : Units := (text.dropWhile isSpace).rdropWhile isSpace

/-- `!text.trim()` -/
def isBlank (text : Units) : Bool := text.all isSpace

/-- A text without its white space. -/
def deleteSpaces (text : Units) : Units := text.filter fun u => !isSpace u

/-! ### Blocks and chunks -/

structure EvidenceChunkerBlock (Location : Type) where
  blockType : EvidenceBlockType
  headingPath : List (Option Units)
  text : Units
  sourceLocation : Location

structure CreateEvidenceChunksInput (Location : Type) where
  documentId : String
  contentVersion : ℕ
  retrievalConfigVersion : String
  blocks : List (EvidenceChunkerBlock Location)
  maxChunkChars : Option ℕ := none

structure EvidenceChunk (Location : Type) where
  chunkOrdinal : ℕ
  chunkId : String
  pointId : String
  text : Units
  headingPath : List (Option Units)
  blockTypes : List EvidenceBlockType
  sourceLocations : List Location
  /-- The index among the pieces of a block that was split: `pathological_long_block`. -/
  fallbackChunkIndex : Option ℕ

structure EvidenceWarning (Location : Type) where
  code : String
  message : String
  sourceLocation : Location

structure EvidenceChunkingResult (Location : Type) where
  chunks : List (EvidenceChunk Location)
  warnings : List (EvidenceWarning Location)

def defaultMaxChunkChars : ℕ := 1600

variable {Location : Type}

def CreateEvidenceChunksInput.limit (input : CreateEvidenceChunksInput Location) : ℕ :=
  input.maxChunkChars.getD defaultMaxChunkChars

/-- The first 32 characters of a digest of the chunk's place. -/
def deterministicEvidenceId (sha256 : String → String) (idPrefix : String)
    (input : CreateEvidenceChunksInput Location) (chunkOrdinal : ℕ) : String :=
  idPrefix ++ "_" ++ String.ofList ((sha256 (idPrefix ++ ":" ++ input.documentId ++ ":" ++
    toString input.contentVersion ++ ":" ++ input.retrievalConfigVersion ++ ":" ++
      toString chunkOrdinal)).toList.take 32)

def toChunk (sha256 : String → String) (input : CreateEvidenceChunksInput Location)
    (chunkOrdinal : ℕ) (text : Units) (blocks : List (EvidenceChunkerBlock Location))
    (fallbackChunkIndex : Option ℕ) : EvidenceChunk Location where
  chunkOrdinal
  chunkId := deterministicEvidenceId sha256 "chk" input chunkOrdinal
  pointId := deterministicEvidenceId sha256 "pt" input chunkOrdinal
  text
  headingPath := ((blocks.getLast?).map (·.headingPath)).getD []
  blockTypes := (blocks.map (·.blockType)).eraseDups
  sourceLocations := blocks.map (·.sourceLocation)
  fallbackChunkIndex

def renderBlocks (blocks : List (EvidenceChunkerBlock Location)) : Units :=
  List.intercalate [10, 10] ((blocks.map fun block => trim block.text).filter (· ≠ []))

/-! ### Splitting a long block -/

/-- The words of a text and the white space between them: what `split(/(\s+)/)` gives, without
the empty texts. -/
def wordsOf (text : Units) : List Units := text.splitBy fun a b => isSpace a = isSpace b

/-- A word in slices of `size`. `fuel` is the length of the word. -/
def slices (size : ℕ) : ℕ → Units → List Units
  | 0, _ => []
  | _ + 1, [] => []
  | fuel + 1, word => word.take size :: slices size fuel (word.drop size)

/-- The loop over the words, with the line that has been gathered. -/
def splitWords (maxChunkChars : ℕ) (current : Units) : List Units → List Units
  | [] => if isBlank current then [] else [trim current]
  | word :: words =>
    let flushes : Bool := current ≠ [] && maxChunkChars < current.length + word.length
    let line := if flushes then [] else current
    (if flushes then [trim current] else []) ++
      if maxChunkChars < word.length then
        slices maxChunkChars word.length word ++ splitWords maxChunkChars line words
      else splitWords maxChunkChars (line ++ word) words

def splitPathologicalLongBlock (block : EvidenceChunkerBlock Location) (maxChunkChars : ℕ) :
    List Units :=
  splitWords maxChunkChars [] (wordsOf block.text)

/-! ### The loop over the blocks -/

structure ChunkerState (Location : Type) where
  chunks : List (EvidenceChunk Location) := []
  warnings : List (EvidenceWarning Location) := []
  pendingBlocks : List (EvidenceChunkerBlock Location) := []
  pendingHeadingKey : Option Units := none

/-- `headingPath.join("\u001f")` -/
def headingKey (headingPath : List (Option Units)) : Units :=
  List.intercalate [0x1f] (headingPath.map (·.getD []))

def ChunkerState.flushPending (sha256 : String → String)
    (input : CreateEvidenceChunksInput Location) (state : ChunkerState Location) :
    ChunkerState Location :=
  if state.pendingBlocks.isEmpty then state
  else
    { state with
      chunks := state.chunks ++ [toChunk sha256 input state.chunks.length
        (renderBlocks state.pendingBlocks) state.pendingBlocks none]
      pendingBlocks := []
      pendingHeadingKey := none }

/-- The pieces of a block, each a chunk of its own. -/
def ChunkerState.pushPieces (sha256 : String → String)
    (input : CreateEvidenceChunksInput Location) (block : EvidenceChunkerBlock Location)
    (state : ChunkerState Location) : ChunkerState Location :=
  { state with
    chunks := state.chunks ++ (splitPathologicalLongBlock block input.limit).mapIdx
      fun fallbackChunkIndex piece =>
        toChunk sha256 input (state.chunks.length + fallbackChunkIndex) piece [block]
          (some fallbackChunkIndex)
    warnings := state.warnings ++
      [{ code := "PATHOLOGICAL_LONG_BLOCK_SPLIT"
         message := "A single evidence block exceeded the chunk size and was split with " ++
          "marked fallback metadata."
         sourceLocation := block.sourceLocation }] }

/-- A block joins the pending ones. -/
def ChunkerState.await (block : EvidenceChunkerBlock Location) (state : ChunkerState Location) :
    ChunkerState Location :=
  { state with
    pendingBlocks := state.pendingBlocks ++ [block]
    pendingHeadingKey := some (headingKey block.headingPath) }

/-- A block that is not blank. -/
def ChunkerState.takeBlock (sha256 : String → String)
    (input : CreateEvidenceChunksInput Location) (state : ChunkerState Location)
    (block : EvidenceChunkerBlock Location) : ChunkerState Location :=
  if input.limit < block.text.length then
    (state.flushPending sha256 input).pushPieces sha256 input block
  else
    let moved : Bool := some (headingKey block.headingPath) ≠ state.pendingHeadingKey
    let state := if moved then state.flushPending sha256 input else state
    let overflows : Bool := input.limit < (renderBlocks (state.pendingBlocks ++ [block])).length
    let state := if overflows then state.flushPending sha256 input else state
    state.await block

def createEvidenceChunks (sha256 : String → String)
    (input : CreateEvidenceChunksInput Location) : EvidenceChunkingResult Location :=
  let state := ((input.blocks.filter fun block => !isBlank block.text).foldl
    (ChunkerState.takeBlock sha256 input) {}).flushPending sha256 input
  ⟨state.chunks, state.warnings⟩

/-! ### White space -/

@[simp] lemma deleteSpaces_nil : deleteSpaces [] = [] := rfl

@[simp] lemma deleteSpaces_append (a b : Units) :
    deleteSpaces (a ++ b) = deleteSpaces a ++ deleteSpaces b := List.filter_append ..

lemma deleteSpaces_eq_nil {text : Units} : deleteSpaces text = [] ↔ isBlank text = true := by
  simp [deleteSpaces, isBlank, List.filter_eq_nil_iff]

lemma deleteSpaces_dropWhile (text : Units) :
    deleteSpaces (text.dropWhile isSpace) = deleteSpaces text := by
  induction text with
  | nil => rfl
  | cons u text ih =>
    by_cases hu : isSpace u = true
    · rw [List.dropWhile_cons_of_pos hu, ih]
      simp [deleteSpaces, hu]
    · rw [List.dropWhile_cons_of_neg hu]

lemma deleteSpaces_reverse (text : Units) :
    deleteSpaces text.reverse = (deleteSpaces text).reverse := List.filter_reverse ..

lemma deleteSpaces_trim (text : Units) : deleteSpaces (trim text) = deleteSpaces text := by
  unfold trim List.rdropWhile
  rw [deleteSpaces_reverse, deleteSpaces_dropWhile, deleteSpaces_reverse, List.reverse_reverse,
    deleteSpaces_dropWhile]

lemma length_trim_le (text : Units) : (trim text).length ≤ text.length := by
  unfold trim List.rdropWhile
  rw [List.length_reverse]
  refine (List.IsSuffix.length_le (List.dropWhile_suffix _)).trans ?_
  rw [List.length_reverse]
  exact (List.dropWhile_suffix _).length_le

lemma isBlank_trim (text : Units) : isBlank (trim text) = isBlank text := by
  rw [Bool.eq_iff_iff, ← deleteSpaces_eq_nil, ← deleteSpaces_eq_nil, deleteSpaces_trim]

lemma isBlank_append (a b : Units) : isBlank (a ++ b) = (isBlank a && isBlank b) :=
  List.all_append ..

/-! ### Slices -/

lemma slices_cons (size fuel : ℕ) (u : UInt16) (word : Units) :
    slices size (fuel + 1) (u :: word) =
      (u :: word).take size :: slices size fuel ((u :: word).drop size) := rfl

variable {word : Units} {fuel : ℕ}

variable {size : ℕ}

lemma flatten_slices (hsize : 1 ≤ size) (hfuel : word.length ≤ fuel) :
    (slices size fuel word).flatten = word := by
  induction fuel generalizing word with
  | zero => exact (List.length_eq_zero_iff.mp (Nat.le_zero.mp hfuel)).symm
  | succ fuel ih =>
    cases word with
    | nil => rfl
    | cons u word =>
      have hrest : ((u :: word).drop size).length ≤ fuel := by
        rw [List.length_drop]
        rw [List.length_cons] at hfuel ⊢
        omega
      rw [slices_cons, List.flatten_cons, ih hrest, List.take_append_drop]

lemma length_slice_le {slice : Units} (h : slice ∈ slices size fuel word) : slice.length ≤ size := by
  induction fuel generalizing word with
  | zero => simp [slices] at h
  | succ fuel ih =>
    cases word with
    | nil => simp [slices] at h
    | cons u word =>
      rw [slices_cons, List.mem_cons] at h
      rcases h with rfl | h
      · exact List.length_take_le ..
      · exact ih h

lemma isBlank_slice {slice : Units} (hsize : 1 ≤ size) (hword : word.all (!isSpace ·) = true)
    (h : slice ∈ slices size fuel word) : isBlank slice = false := by
  induction fuel generalizing word with
  | zero => simp [slices] at h
  | succ fuel ih =>
    cases word with
    | nil => simp [slices] at h
    | cons u word =>
      rw [slices_cons, List.mem_cons] at h
      rcases h with rfl | h
      · obtain ⟨size, rfl⟩ : ∃ n, size = n + 1 := ⟨size - 1, by omega⟩
        have hu : isSpace u = false := by
          simpa using List.all_eq_true.mp hword u List.mem_cons_self
        simp [isBlank, hu]
      · refine ih (List.all_eq_true.mpr fun v hv => ?_) h
        exact List.all_eq_true.mp hword v (List.mem_of_mem_drop hv)

lemma exists_blank_slice (size : ℕ) (hword : isBlank word = true) (hne : word ≠ [])
    (hfuel : word.length ≤ fuel) : ∃ slice ∈ slices size fuel word, isBlank slice = true := by
  cases fuel with
  | zero => exact absurd (List.length_eq_zero_iff.mp (Nat.le_zero.mp hfuel)) hne
  | succ fuel =>
    obtain ⟨u, word, rfl⟩ := List.exists_cons_of_ne_nil hne
    rw [slices_cons]
    exact ⟨_, List.mem_cons_self, List.all_eq_true.mpr fun v hv =>
      List.all_eq_true.mp hword v (List.mem_of_mem_take hv)⟩

/-! ### Splitting preserves content -/

lemma splitWords_cons (size : ℕ) (current word : Units) (words : List Units) :
    splitWords size current (word :: words) =
      if current ≠ [] ∧ size < current.length + word.length then
        trim current :: (if size < word.length then
          slices size word.length word ++ splitWords size [] words
        else splitWords size word words)
      else if size < word.length then
        slices size word.length word ++ splitWords size current words
      else splitWords size (current ++ word) words := by
  conv_lhs => rw [splitWords]
  by_cases hflush : current ≠ [] ∧ size < current.length + word.length
  · simp [hflush]
  · simp [hflush]

lemma deleteSpaces_splitWords (hsize : 1 ≤ size) (current : Units) (words : List Units) :
    deleteSpaces (splitWords size current words).flatten =
      deleteSpaces (current ++ words.flatten) := by
  induction words generalizing current with
  | nil =>
    rw [splitWords]
    split
    · rename_i hblank
      rw [List.flatten_nil, List.append_nil, deleteSpaces_eq_nil.mpr hblank, deleteSpaces_nil]
    · rw [List.flatten_singleton, deleteSpaces_trim, List.flatten_nil, List.append_nil]
  | cons word words ih =>
    rw [splitWords_cons]
    split_ifs with hflush hlong hlong
    · rw [List.flatten_cons, List.flatten_append, flatten_slices hsize le_rfl]
      simp only [deleteSpaces_append, deleteSpaces_trim, ih, List.nil_append, List.flatten_cons]
    · rw [List.flatten_cons]
      simp only [deleteSpaces_append, deleteSpaces_trim, ih, List.flatten_cons]
    · rw [List.flatten_append, flatten_slices hsize le_rfl]
      have hcurrent : current = [] := by
        by_contra hne
        exact hflush ⟨hne, by omega⟩
      subst hcurrent
      simp only [deleteSpaces_append, ih, List.nil_append, List.flatten_cons]
    · rw [ih]
      simp only [deleteSpaces_append, List.flatten_cons, List.append_assoc]

variable {words : List Units}

lemma length_piece_le {current : Units} {piece : Units} (hcurrent : current.length ≤ size)
    (h : piece ∈ splitWords size current words) : piece.length ≤ size := by
  induction words generalizing current with
  | nil =>
    rw [splitWords] at h
    split at h
    · simp at h
    · rw [List.mem_singleton] at h
      exact h ▸ (length_trim_le current).trans hcurrent
  | cons word words ih =>
    rw [splitWords_cons] at h
    split_ifs at h with hflush hlong hlong
    · rcases List.mem_cons.mp h with rfl | h
      · exact (length_trim_le current).trans hcurrent
      · rcases List.mem_append.mp h with h | h
        · exact length_slice_le h
        · exact ih (Nat.zero_le _) h
    · rcases List.mem_cons.mp h with rfl | h
      · exact (length_trim_le current).trans hcurrent
      · exact ih (by omega) h
    · rcases List.mem_append.mp h with h | h
      · exact length_slice_le h
      · exact ih hcurrent h
    · refine ih ?_ h
      rw [List.length_append]
      by_cases hne : current = []
      · subst hne
        simpa using hlong
      · by_contra hlt
        exact hflush ⟨hne, by omega⟩

lemma deleteSpaces_split (hsize : 1 ≤ size) (block : EvidenceChunkerBlock Location) :
    deleteSpaces (splitPathologicalLongBlock block size).flatten = deleteSpaces block.text := by
  unfold splitPathologicalLongBlock
  rw [deleteSpaces_splitWords hsize, List.nil_append, wordsOf, List.flatten_splitBy]

/-! ### White space alone on its line -/

/-- The length of the line after a word, as far as lengths say. -/
def lineAfter (size : ℕ) (line : ℕ) (word : Units) : ℕ :=
  let line := if line ≠ 0 && size < line + word.length then 0 else line
  if size < word.length then line else line + word.length

/-- White space that is not left alone on a line: it is no longer than a line, and it stands on
one with what comes before it or with the word after it. -/
def SpaceFits (size line : ℕ) (space : Units) (after : List Units) : Prop :=
  isBlank space = true → space.length ≤ size ∧ ∀ word ∈ after.head?,
    (line ≠ 0 ∧ line + space.length ≤ size) ∨ space.length + word.length ≤ size

/-- Does all white space of a text fit, from a line of some length on? -/
def SpacesFitFrom (size line : ℕ) (words : List Units) : Prop :=
  ∀ before space after, words = before ++ space :: after →
    SpaceFits size (before.foldl (lineAfter size) line) space after

/-- Does all white space of a text fit? -/
def SpacesFit (size : ℕ) (text : Units) : Prop := SpacesFitFrom size 0 (wordsOf text)

lemma spacesFitFrom_cons {line : ℕ} :
    SpacesFitFrom size line (word :: words) ↔
      SpaceFits size line word words ∧ SpacesFitFrom size (lineAfter size line word) words := by
  constructor
  · intro h
    refine ⟨h [] word words rfl, fun before space after hwords => ?_⟩
    exact h (word :: before) space after (by rw [hwords]; rfl)
  · rintro ⟨hword, hwords⟩ before space after hsplit
    cases before with
    | nil =>
      rw [List.nil_append, List.cons.injEq] at hsplit
      obtain ⟨rfl, rfl⟩ := hsplit
      exact hword
    | cons w before =>
      rw [List.cons_append, List.cons.injEq] at hsplit
      obtain ⟨rfl, hsplit⟩ := hsplit
      exact hwords before space after hsplit

/-- Words and white space take turns, and neither is empty. -/
def Alternating : List Units → Prop
  | [] => True
  | word :: words => word ≠ [] ∧
      (isBlank word = true ∨ word.all (!isSpace ·) = true) ∧
      (∀ next ∈ words.head?, isBlank word = true → isBlank next = false) ∧ Alternating words

lemma uniform_word (h : word.IsChain fun a b => isSpace a = isSpace b) :
    isBlank word = true ∨ word.all (!isSpace ·) = true := by
  induction word with
  | nil => exact .inl rfl
  | cons u word ih =>
    cases word with
    | nil =>
      cases hu : isSpace u with
      | true => exact .inl (by simp [isBlank, hu])
      | false => exact .inr (by simp [hu])
    | cons v word =>
      rw [List.isChain_cons_cons] at h
      rcases ih h.2 with hall | hall
      · refine .inl ?_
        have hv : isSpace v = true := List.all_eq_true.mp hall v List.mem_cons_self
        rw [isBlank, List.all_cons, h.1, hv]
        exact hall
      · refine .inr ?_
        have hv := List.all_eq_true.mp hall v List.mem_cons_self
        rw [List.all_cons, h.1, hv]
        exact hall

lemma alternating_of_chain (hne : ∀ word ∈ words, word ≠ [])
    (hword : ∀ word ∈ words, word.IsChain fun a b => isSpace a = isSpace b)
    (hturn : words.IsChain fun a b => ∃ ha hb,
      decide (isSpace (a.getLast ha) = isSpace (b.head hb)) = false) : Alternating words := by
  induction words with
  | nil => trivial
  | cons word words ih =>
    rw [List.forall_mem_cons] at hne hword
    refine ⟨hne.1, uniform_word hword.1, fun next hnext hblank => ?_, ih hne.2 hword.2 hturn.tail⟩
    cases words with
    | nil => cases hnext
    | cons w words =>
      cases hnext
      rw [List.isChain_cons_cons] at hturn
      obtain ⟨ha, hb, hdiffer⟩ := hturn.1
      have hlast : isSpace (word.getLast ha) = true :=
        List.all_eq_true.mp hblank _ (List.getLast_mem ha)
      rw [hlast, decide_eq_false_iff_not] at hdiffer
      by_contra hspace
      rw [Bool.not_eq_false] at hspace
      exact hdiffer (List.all_eq_true.mp hspace _ (List.head_mem hb)).symm

lemma alternating_wordsOf (text : Units) : Alternating (wordsOf text) :=
  alternating_of_chain (fun _ h => List.ne_nil_of_mem_splitBy h)
    (fun _ h => (List.isChain_of_mem_splitBy h).imp fun _ _ hab => of_decide_eq_true hab)
    (List.isChain_getLast_head_splitBy (fun a b => decide (isSpace a = isSpace b)) text)

lemma not_isBlank_of_all (hne : word ≠ []) (h : word.all (!isSpace ·) = true) :
    isBlank word = false := by
  obtain ⟨u, word, rfl⟩ := List.exists_cons_of_ne_nil hne
  have hu : isSpace u = false := by simpa using List.all_eq_true.mp h u List.mem_cons_self
  simp [isBlank, hu]

/-- Are none of the pieces blank? -/
def NoneBlank (pieces : List Units) : Prop := ∀ piece ∈ pieces, isBlank piece = false

lemma noneBlank_append {a b : List Units} : NoneBlank (a ++ b) ↔ NoneBlank a ∧ NoneBlank b :=
  List.forall_mem_append

lemma noneBlank_cons {piece : Units} {pieces : List Units} :
    NoneBlank (piece :: pieces) ↔ isBlank piece = false ∧ NoneBlank pieces :=
  List.forall_mem_cons

lemma noneBlank_slices (hsize : 1 ≤ size) (hne : word ≠ [])
    (hword : isBlank word = true ∨ word.all (!isSpace ·) = true) :
    NoneBlank (slices size word.length word) ↔ isBlank word = false := by
  rcases hword with hblank | hall
  · refine iff_of_false (fun h => ?_) (by simp [hblank])
    obtain ⟨slice, hmem, hslice⟩ := exists_blank_slice size hblank hne le_rfl
    exact absurd hslice (by simp [h slice hmem])
  · exact iff_of_true (fun slice h => isBlank_slice hsize hall h) (not_isBlank_of_all hne hall)

/-- A line of white space alone is followed by a word that fits on it. -/
def LineFits (size : ℕ) (current : Units) (words : List Units) : Prop :=
  current ≠ [] → isBlank current = true →
    ∀ word ∈ words.head?, current.length + word.length ≤ size

/-- A line of white space alone is followed by a word. -/
def LineEnds (current : Units) (words : List Units) : Prop :=
  current ≠ [] → isBlank current = true → ∀ word ∈ words.head?, isBlank word = false

/-- **Splitting words.** No piece is blank exactly when the line before and all white space fit. -/
theorem noneBlank_splitWords (hsize : 1 ≤ size) {current : Units} (hwords : Alternating words)
    (hline : LineEnds current words) :
    NoneBlank (splitWords size current words) ↔
      LineFits size current words ∧ SpacesFitFrom size current.length words := by
  induction words generalizing current with
  | nil =>
    refine iff_of_true ?_ ⟨fun _ _ => nofun, fun before space after h => ?_⟩
    · rw [splitWords]
      split
      · exact nofun
      · rename_i hblank
        intro piece hpiece
        rw [List.mem_singleton] at hpiece
        rw [hpiece, isBlank_trim]
        simpa using hblank
    · simp at h
  | cons word words ih =>
    obtain ⟨hne, huniform, hturn, hrest⟩ := hwords
    have hslices := noneBlank_slices hsize hne huniform
    have hends : LineEnds word words := fun _ hblank next hnext => hturn next hnext hblank
    have hempty : LineEnds [] words := fun h => absurd rfl h
    have hfitsEmpty : LineFits size [] words := fun h => absurd rfl h
    have hzero : current.length ≠ 0 ↔ current ≠ [] := by simp
    rw [splitWords_cons, spacesFitFrom_cons]
    split_ifs with hflush hlong hlong
    · -- the line is flushed, and the word is cut
      have hafter : lineAfter size current.length word = ([] : Units).length := by
        simp [lineAfter, hflush, hlong]
      have hfits : LineFits size current (word :: words) ↔ isBlank current = false := by
        constructor
        · intro h
          by_contra hblank
          rw [Bool.not_eq_false] at hblank
          have := h hflush.1 hblank word rfl
          omega
        · intro h _ hblank
          simp [h] at hblank
      have hspace : SpaceFits size current.length word words ↔ isBlank word = false := by
        constructor
        · intro h
          by_contra hblank
          rw [Bool.not_eq_false] at hblank
          have := (h hblank).1
          omega
        · intro h hblank
          simp [h] at hblank
      rw [noneBlank_cons, noneBlank_append, isBlank_trim, hslices, ih hrest hempty, hafter, hfits,
        hspace]
      simp only [hfitsEmpty, true_and]
    · -- the line is flushed, and the word begins the next one
      have hafter : lineAfter size current.length word = word.length := by
        simp [lineAfter, hflush, hlong]
      have hfits : LineFits size current (word :: words) ↔ isBlank current = false := by
        constructor
        · intro h
          by_contra hblank
          rw [Bool.not_eq_false] at hblank
          have := h hflush.1 hblank word rfl
          omega
        · intro h _ hblank
          simp [h] at hblank
      have hspace : SpaceFits size current.length word words ↔ LineFits size word words := by
        constructor
        · intro h _ hblank next hnext
          rcases (h hblank).2 next hnext with hjoin | hjoin
          · omega
          · exact hjoin
        · exact fun h hblank => ⟨by omega, fun next hnext => .inr (h hne hblank next hnext)⟩
      rw [noneBlank_cons, isBlank_trim, ih hrest hends, hafter, hfits, hspace]
    · -- there is no line, and the word is cut
      have hcurrent : current = [] := by
        by_contra h
        exact hflush ⟨h, by omega⟩
      subst hcurrent
      have hafter : lineAfter size ([] : Units).length word = ([] : Units).length := by
        simp [lineAfter, hlong]
      have hspace : SpaceFits size ([] : Units).length word words ↔ isBlank word = false := by
        constructor
        · intro h
          by_contra hblank
          rw [Bool.not_eq_false] at hblank
          have := (h hblank).1
          omega
        · intro h hblank
          simp [h] at hblank
      have hfits : LineFits size [] (word :: words) := fun h => absurd rfl h
      rw [noneBlank_append, hslices, ih hrest hempty, hafter, hspace]
      simp only [hfitsEmpty, hfits, true_and]
    · -- the word joins the line
      have hjoined : current = [] ∨ current.length + word.length ≤ size := by
        by_cases h : current = []
        · exact .inl h
        · refine .inr ?_
          by_contra hlt
          exact hflush ⟨h, by omega⟩
      have hafter : lineAfter size current.length word = (current ++ word).length := by
        simp only [lineAfter]
        rw [if_neg hlong]
        split
        · rename_i hcut
          simp only [Bool.and_eq_true, decide_eq_true_eq, hzero] at hcut
          exact absurd hcut hflush
        · rw [List.length_append]
      have hfits : LineFits size current (word :: words) := by
        intro h _ next hnext
        cases hnext
        exact hjoined.resolve_left h
      have hblankWord : isBlank word = true → current = [] ∨ isBlank current = false := by
        intro hblank
        by_contra hnot
        rw [not_or, Bool.not_eq_false] at hnot
        simp [hline hnot.1 hnot.2 word rfl] at hblank
      have hnext : LineEnds (current ++ word) words := by
        intro _ hblank next hnext
        rw [isBlank_append, Bool.and_eq_true] at hblank
        exact hturn next hnext hblank.2
      have hspace : SpaceFits size current.length word words ↔
          LineFits size (current ++ word) words := by
        constructor
        · intro h _ hblank next hmem
          rw [isBlank_append, Bool.and_eq_true] at hblank
          have hcurrent : current = [] :=
            (hblankWord hblank.2).resolve_right (by simp [hblank.1])
          subst hcurrent
          rcases (h hblank.2).2 next hmem with hjoin | hjoin
          · exact absurd rfl hjoin.1
          · exact hjoin
        · intro h hblank
          refine ⟨by omega, fun next hmem => ?_⟩
          rcases hblankWord hblank with hcurrent | hcurrent
          · subst hcurrent
            exact .inr (h hne hblank next hmem)
          · have hnonempty : current ≠ [] := by
              rintro rfl
              simp [isBlank] at hcurrent
            exact .inl ⟨hzero.mpr hnonempty, hjoined.resolve_left hnonempty⟩
      rw [ih hrest hnext, hafter, hspace]
      exact ⟨fun h => ⟨hfits, h⟩, fun h => h.2⟩

lemma noneBlank_split (hsize : 1 ≤ size) (block : EvidenceChunkerBlock Location) :
    NoneBlank (splitPathologicalLongBlock block size) ↔ SpacesFit size block.text := by
  unfold splitPathologicalLongBlock SpacesFit
  rw [noneBlank_splitWords hsize (alternating_wordsOf block.text) fun h => absurd rfl h]
  exact ⟨fun h => h.2, fun h => ⟨fun hne => absurd rfl hne, h⟩⟩

/-! ### Rendering -/

/-- The texts of blocks, one after the other. -/
def textOf (blocks : List (EvidenceChunkerBlock Location)) : Units := blocks.flatMap (·.text)

lemma deleteSpaces_intercalate (texts : List Units) :
    deleteSpaces (List.intercalate [10, 10] texts) = deleteSpaces texts.flatten := by
  induction texts with
  | nil => rfl
  | cons text texts ih =>
    cases texts with
    | nil => rfl
    | cons next texts =>
      have hsep : deleteSpaces [10, 10] = [] := by decide
      rw [List.intercalate_cons_cons, deleteSpaces_append, deleteSpaces_append, ih, hsep,
        List.append_nil, ← deleteSpaces_append, ← List.flatten_cons]

lemma deleteSpaces_renderBlocks (blocks : List (EvidenceChunkerBlock Location)) :
    deleteSpaces (renderBlocks blocks) = deleteSpaces (textOf blocks) := by
  unfold renderBlocks
  rw [deleteSpaces_intercalate]
  induction blocks with
  | nil => rfl
  | cons block blocks ih =>
    have htext : deleteSpaces (textOf (block :: blocks)) =
        deleteSpaces block.text ++ deleteSpaces (textOf blocks) := deleteSpaces_append ..
    rw [htext, ← ih, List.map_cons, ← deleteSpaces_trim block.text]
    by_cases hempty : trim block.text = []
    · rw [List.filter_cons_of_neg (by simpa using hempty), hempty]
      rfl
    · rw [List.filter_cons_of_pos (by simpa using hempty), List.flatten_cons, deleteSpaces_append]

lemma isBlank_renderBlocks {blocks : List (EvidenceChunkerBlock Location)} (hne : blocks ≠ [])
    (hblocks : ∀ block ∈ blocks, isBlank block.text = false) :
    isBlank (renderBlocks blocks) = false := by
  by_contra hblank
  rw [Bool.not_eq_false, ← deleteSpaces_eq_nil, deleteSpaces_renderBlocks,
    deleteSpaces_eq_nil] at hblank
  obtain ⟨block, blocks, rfl⟩ := List.exists_cons_of_ne_nil hne
  have hfirst : isBlank block.text = true := by
    rw [textOf, List.flatMap_cons, isBlank_append, Bool.and_eq_true] at hblank
    exact hblank.1
  simp [hblocks block List.mem_cons_self] at hfirst

lemma length_renderBlocks_singleton (block : EvidenceChunkerBlock Location) :
    (renderBlocks [block]).length ≤ block.text.length := by
  unfold renderBlocks
  by_cases hempty : trim block.text = []
  · simp [hempty, List.intercalate]
  · simpa [hempty, List.intercalate] using length_trim_le block.text

/-! ### The run -/

/-- What the chunks and the pending blocks are after some blocks, none of which is blank. -/
structure Chunked (input : CreateEvidenceChunksInput Location)
    (done : List (EvidenceChunkerBlock Location)) (state : ChunkerState Location) : Prop where
  content : deleteSpaces (state.chunks.flatMap (·.text)) ++
    deleteSpaces (textOf state.pendingBlocks) = deleteSpaces (textOf done)
  fits : ∀ chunk ∈ state.chunks, chunk.text.length ≤ input.limit
  ordinals : state.chunks.map (·.chunkOrdinal) = List.range state.chunks.length
  pending : ∀ block ∈ state.pendingBlocks, isBlank block.text = false
  rendered : (renderBlocks state.pendingBlocks).length ≤ input.limit
  noneBlank : NoneBlank (state.chunks.map (·.text)) ↔
    ∀ block ∈ done, input.limit < block.text.length → SpacesFit input.limit block.text

variable {sha256 : String → String} {input : CreateEvidenceChunksInput Location}
  {done : List (EvidenceChunkerBlock Location)} {state : ChunkerState Location}

lemma pendingBlocks_flushPending :
    (state.flushPending sha256 input).pendingBlocks = [] := by
  unfold ChunkerState.flushPending
  split
  · rename_i h
    simpa using h
  · rfl

lemma Chunked.flush (h : Chunked input done state) :
    Chunked input done (state.flushPending sha256 input) := by
  unfold ChunkerState.flushPending
  split
  · exact h
  · rename_i hpending
    have hne : state.pendingBlocks ≠ [] := by simpa using hpending
    refine ⟨?_, ?_, ?_, by simp, by simp [renderBlocks, List.intercalate], ?_⟩
    · rw [← h.content, List.flatMap_append, deleteSpaces_append]
      simp [toChunk, deleteSpaces_renderBlocks, textOf]
    · exact List.forall_mem_append.mpr ⟨h.fits, by simpa [toChunk] using h.rendered⟩
    · simp [h.ordinals, toChunk, List.range_succ]
    · rw [← h.noneBlank, List.map_append, noneBlank_append]
      have hlast : NoneBlank ([toChunk sha256 input state.chunks.length
          (renderBlocks state.pendingBlocks) state.pendingBlocks none].map (·.text)) := by
        intro piece hpiece
        rw [List.map_singleton, List.mem_singleton] at hpiece
        rw [hpiece]
        exact isBlank_renderBlocks hne h.pending
      exact ⟨fun hall => hall.1, fun hall => ⟨hall, hlast⟩⟩

variable {block : EvidenceChunkerBlock Location}

lemma Chunked.push (hlimit : 1 ≤ input.limit) (hlong : input.limit < block.text.length)
    (hpending : state.pendingBlocks = []) (h : Chunked input done state) :
    Chunked input (done ++ [block]) (state.pushPieces sha256 input block) := by
  have htexts : (state.pushPieces sha256 input block).chunks.map (·.text) =
      state.chunks.map (·.text) ++ splitPathologicalLongBlock block input.limit := by
    rw [ChunkerState.pushPieces, List.map_append]
    congr 1
    apply List.ext_getElem
    · simp
    · intro i _ _
      simp [toChunk]
  refine ⟨?_, ?_, ?_, ?_, ?_, ?_⟩
  · have hcontent := h.content
    rw [hpending] at hcontent
    have hpieces : (state.pushPieces sha256 input block).chunks.flatMap (·.text) =
        state.chunks.flatMap (·.text) ++
          (splitPathologicalLongBlock block input.limit).flatten := by
      rw [List.flatMap_def, htexts, List.flatten_append, ← List.flatMap_def]
    rw [hpieces, deleteSpaces_append, deleteSpaces_split hlimit]
    simp only [ChunkerState.pushPieces, hpending, textOf, List.flatMap_append, List.flatMap_nil,
      List.flatMap_cons, List.append_nil, deleteSpaces_nil, deleteSpaces_append] at hcontent ⊢
    rw [hcontent]
  · refine List.forall_mem_append.mpr ⟨h.fits, fun chunk hchunk => ?_⟩
    have htext : chunk.text ∈ splitPathologicalLongBlock block input.limit := by
      rw [List.mem_mapIdx] at hchunk
      obtain ⟨i, hi, rfl⟩ := hchunk
      exact List.getElem_mem hi
    exact length_piece_le (Nat.zero_le _) htext
  · simp only [ChunkerState.pushPieces, List.map_append, h.ordinals, List.length_append,
      List.length_mapIdx, List.range_add]
    congr 1
    apply List.ext_getElem
    · simp
    · intro i _ _
      simp [toChunk]
  · exact h.pending
  · exact h.rendered
  · rw [htexts, noneBlank_append, noneBlank_split hlimit, h.noneBlank, List.forall_mem_append]
    simp [hlong]

lemma Chunked.join (hshort : ¬ input.limit < block.text.length)
    (hblank : isBlank block.text = false)
    (hfits : (renderBlocks (state.pendingBlocks ++ [block])).length ≤ input.limit)
    (h : Chunked input done state) : Chunked input (done ++ [block]) (state.await block) := by
  refine ⟨?_, h.fits, h.ordinals, ?_, hfits, ?_⟩
  · have hcontent := h.content
    simp only [ChunkerState.await, textOf, List.flatMap_append, deleteSpaces_append] at hcontent ⊢
    rw [← List.append_assoc, hcontent]
  · exact List.forall_mem_append.mpr ⟨h.pending, by simpa using hblank⟩
  · rw [List.forall_mem_append, ← h.noneBlank]
    simp [ChunkerState.await, hshort]

lemma chunked_takeBlock (sha256 : String → String) (hlimit : 1 ≤ input.limit)
    (hblank : isBlank block.text = false) (h : Chunked input done state) :
    Chunked input (done ++ [block]) (state.takeBlock sha256 input block) := by
  unfold ChunkerState.takeBlock
  split
  · rename_i hlong
    exact h.flush.push hlimit hlong pendingBlocks_flushPending
  · rename_i hshort
    dsimp only
    have hmoved : Chunked input done (if decide (some (headingKey block.headingPath) ≠
        state.pendingHeadingKey) = true then state.flushPending sha256 input else state) := by
      split
      · exact h.flush
      · exact h
    generalize (if decide (some (headingKey block.headingPath) ≠
      state.pendingHeadingKey) = true then state.flushPending sha256 input else state) = moved
      at hmoved ⊢
    split
    · refine hmoved.flush.join hshort hblank ?_
      rw [pendingBlocks_flushPending]
      exact (length_renderBlocks_singleton block).trans (by omega)
    · rename_i hfits
      exact hmoved.join hshort hblank (by simpa using hfits)

lemma chunked_foldl (sha256 : String → String)
    {blocks : List (EvidenceChunkerBlock Location)} (hlimit : 1 ≤ input.limit)
    (hblank : ∀ block ∈ blocks, isBlank block.text = false) (h : Chunked input done state) :
    Chunked input (done ++ blocks)
      (blocks.foldl (ChunkerState.takeBlock sha256 input) state) := by
  induction blocks generalizing done state with
  | nil => simpa using h
  | cons block blocks ih =>
    rw [List.forall_mem_cons] at hblank
    have hstep := ih hblank.2 (chunked_takeBlock sha256 hlimit hblank.1 h)
    rwa [List.append_assoc, List.singleton_append] at hstep

lemma chunked_start (input : CreateEvidenceChunksInput Location) : Chunked input [] {} :=
  ⟨rfl, by simp, rfl, by simp, by simp [renderBlocks, List.intercalate], by simp [NoneBlank]⟩

lemma chunked_end (sha256 : String → String) (hlimit : 1 ≤ input.limit) :
    ∃ state, Chunked input (input.blocks.filter fun block => !isBlank block.text) state ∧
      state.pendingBlocks = [] ∧ (createEvidenceChunks sha256 input).chunks = state.chunks := by
  have hblank : ∀ block ∈ input.blocks.filter fun block => !isBlank block.text,
      isBlank block.text = false :=
    fun block hblock => by simpa using (List.mem_filter.mp hblock).2
  have hrun := chunked_foldl sha256 hlimit hblank (chunked_start input)
  exact ⟨_, hrun.flush, pendingBlocks_flushPending, rfl⟩

lemma deleteSpaces_filter (blocks : List (EvidenceChunkerBlock Location)) :
    deleteSpaces (textOf (blocks.filter fun block => !isBlank block.text)) =
      deleteSpaces (textOf blocks) := by
  induction blocks with
  | nil => rfl
  | cons block blocks ih =>
    have htext : deleteSpaces (textOf (block :: blocks)) =
        deleteSpaces block.text ++ deleteSpaces (textOf blocks) := deleteSpaces_append ..
    rw [htext, ← ih]
    by_cases hblank : isBlank block.text = true
    · rw [List.filter_cons_of_neg (by simp [hblank]), deleteSpaces_eq_nil.mpr hblank,
        List.nil_append]
    · rw [List.filter_cons_of_pos (by simpa using hblank)]
      exact deleteSpaces_append ..

/-- **Chunks preserve content.** The chunks have the characters of the blocks that are not white
space, in their order; none is longer than the limit, and they are numbered from 0 on. -/
theorem chunks_preserve_content {Location : Type} (sha256 : String → String)
    (input : CreateEvidenceChunksInput Location) (hlimit : 1 ≤ input.limit) :
    deleteSpaces ((createEvidenceChunks sha256 input).chunks.flatMap (·.text)) =
        deleteSpaces (input.blocks.flatMap (·.text)) ∧
      (∀ chunk ∈ (createEvidenceChunks sha256 input).chunks,
        chunk.text.length ≤ input.limit) ∧
      (createEvidenceChunks sha256 input).chunks.map (·.chunkOrdinal) =
        List.range (createEvidenceChunks sha256 input).chunks.length := by
  obtain ⟨state, hchunked, hpending, hchunks⟩ := chunked_end sha256 hlimit
  rw [hchunks]
  refine ⟨?_, hchunked.fits, hchunked.ordinals⟩
  have hcontent := hchunked.content
  rw [hpending, deleteSpaces_filter] at hcontent
  simpa [textOf] using hcontent

/-- `abcde fghij` in chunks of at most `maxChunkChars` code units. -/
def twoWords (maxChunkChars : ℕ) : CreateEvidenceChunksInput Unit where
  documentId := "doc_1"
  contentVersion := 1
  retrievalConfigVersion := "v1"
  blocks :=
    [{ blockType := .paragraph
       headingPath := []
       text := [97, 98, 99, 100, 101, 32, 102, 103, 104, 105, 106]
       sourceLocation := () }]
  maxChunkChars := some maxChunkChars

theorem twoWords_preserve_content :
    deleteSpaces ((createEvidenceChunks id (twoWords 6)).chunks.flatMap (·.text)) =
        deleteSpaces ((twoWords 6).blocks.flatMap (·.text)) ∧
      (∀ chunk ∈ (createEvidenceChunks id (twoWords 6)).chunks,
        chunk.text.length ≤ (twoWords 6).limit) ∧
      (createEvidenceChunks id (twoWords 6)).chunks.map (·.chunkOrdinal) =
        List.range (createEvidenceChunks id (twoWords 6)).chunks.length :=
  chunks_preserve_content id (twoWords 6) (by decide)

/-- **Blank chunks.** No chunk is blank exactly when all white space of the blocks that are too
long fits. -/
theorem chunks_nonblank_iff {Location : Type} (sha256 : String → String)
    (input : CreateEvidenceChunksInput Location) (hlimit : 1 ≤ input.limit) :
    (∀ chunk ∈ (createEvidenceChunks sha256 input).chunks, isBlank chunk.text = false) ↔
      ∀ block ∈ input.blocks, isBlank block.text = false → input.limit < block.text.length →
        SpacesFit input.limit block.text := by
  obtain ⟨state, hchunked, hpending, hchunks⟩ := chunked_end sha256 hlimit
  have hnone := hchunked.noneBlank
  rw [hchunks]
  simp only [NoneBlank, List.forall_mem_map, List.mem_filter, Bool.not_eq_true', and_imp] at hnone
  exact hnone

/-- In chunks of six code units, the space stands on the line of the first word. -/
theorem twoWords_nonblank_iff :
    (∀ chunk ∈ (createEvidenceChunks id (twoWords 6)).chunks, isBlank chunk.text = false) ↔
      ∀ block ∈ (twoWords 6).blocks, isBlank block.text = false →
        (twoWords 6).limit < block.text.length → SpacesFit (twoWords 6).limit block.text :=
  chunks_nonblank_iff id (twoWords 6) (by decide)

/-- In chunks of five, it is left alone on a line: the chunk of that line is empty. -/
theorem twoWords_blank : ¬ ∀ (input : CreateEvidenceChunksInput Unit), 1 ≤ input.limit →
    ∀ chunk ∈ (createEvidenceChunks id input).chunks, isBlank chunk.text = false := by
  intro h
  have htexts : (createEvidenceChunks id (twoWords 5)).chunks.map (·.text) =
      [[97, 98, 99, 100, 101], [], [102, 103, 104, 105, 106]] := by decide +kernel
  have hblank : ([] : Units) ∈ (createEvidenceChunks id (twoWords 5)).chunks.map (·.text) := by
    rw [htexts]
    decide
  obtain ⟨chunk, hchunk, htext⟩ := List.mem_map.mp hblank
  have hnot := h (twoWords 5) (by decide) chunk hchunk
  rw [htext] at hnot
  exact absurd hnot (by decide)

end EvidenceChunks
end SmeDataCenter
