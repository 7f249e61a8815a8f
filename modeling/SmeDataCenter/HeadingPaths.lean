import SmeDataCenter.MarkdownProgress

/-!
# Heading paths

The headings of a text are read line by line, without the parser: a line outside the code fences
that has a title behind its marker is a heading, and closes every open heading of its level or
below. The parser's path has one place for each level up to that of the last heading; the place
of a level that was skipped is left empty.
-/

namespace SmeDataCenter
namespace EvidenceMarkdown

open Pattern Text

/-! ### Open headings -/

structure OpenHeading where
  level : ℕ
  title : Text

/-- A heading closes those of its level and below. -/
def openWith (headings : List OpenHeading) (opened : OpenHeading) : List OpenHeading :=
  headings.filter (·.level < opened.level) ++ [opened]

/-- The heading that a line outside the code fences is. -/
def headingOf (line : Text) : Option OpenHeading :=
  (heading.exec line).map fun (level, title) => ⟨level, normalizeInlineMarkdown title⟩

/-- What has been read of a text. -/
structure Reading where
  inFence : Bool := false
  headings : List OpenHeading := []

def Reading.readLine (reading : Reading) (line : Text) : Reading :=
  if isFence line then { reading with inFence := !reading.inFence }
  else if reading.inFence then reading
  else
    { reading with
      headings := (headingOf line).elim reading.headings (openWith reading.headings) }

def readingAfter (lines : List Text) (lineIndex : ℕ) : Reading :=
  (lines.take lineIndex).foldl Reading.readLine {}

/-- The headings that are open after a number of lines. -/
def openHeadings (markdown : Text) (lineCount : ℕ) : List OpenHeading :=
  (readingAfter (linesOf markdown) lineCount).headings

/-- The levels of the open headings are 1, 2, and so on. -/
def NoLevelSkipped (headings : List OpenHeading) : Prop :=
  headings.map (·.level) = List.range' 1 headings.length

instance (headings : List OpenHeading) : Decidable (NoLevelSkipped headings) :=
  inferInstanceAs (Decidable (_ = _))

/-! ### The path of some headings -/

/-- The path of headings below a level: a place for each level, and no title where it was
skipped. -/
def pathBelow : ℕ → List OpenHeading → HeadingPath
  | _, [] => []
  | above, opened :: headings =>
    List.replicate (opened.level - above - 1) none ++
      some opened.title :: pathBelow opened.level headings

/-- The levels of open headings increase, from above some level on. -/
def Nested (above : ℕ) (headings : List OpenHeading) : Prop :=
  List.IsChain (· < ·) (above :: headings.map (·.level))

variable {above : ℕ} {opened : OpenHeading} {headings : List OpenHeading}

lemma nested_cons :
    Nested above (opened :: headings) ↔ above < opened.level ∧ Nested opened.level headings :=
  List.isChain_cons_cons

variable {level : ℕ}

lemma filter_of_nested (h : Nested above headings) (hlevel : level ≤ above) :
    headings.filter (·.level < level) = [] := by
  induction headings generalizing above with
  | nil => rfl
  | cons opened headings ih =>
    rw [nested_cons] at h
    have hnot : ¬ opened.level < level := by omega
    rw [List.filter_cons_of_neg (by simpa using hnot)]
    exact ih h.2 (by omega)

lemma nested_openWith {next : OpenHeading} (h : Nested above headings)
    (hnext : above < next.level) : Nested above (openWith headings next) := by
  induction headings generalizing above with
  | nil => exact nested_cons.mpr ⟨hnext, List.IsChain.singleton _⟩
  | cons opened headings ih =>
    rw [nested_cons] at h
    by_cases hlevel : opened.level < next.level
    · rw [openWith, List.filter_cons_of_pos (by simpa using hlevel)]
      exact nested_cons.mpr ⟨h.1, ih h.2 hlevel⟩
    · rw [openWith, List.filter_cons_of_neg (by simpa using hlevel),
        filter_of_nested h.2 (by omega)]
      exact nested_cons.mpr ⟨hnext, List.IsChain.singleton _⟩

lemma pathBelow_openWith {next : OpenHeading} (h : Nested above headings)
    (hnext : above < next.level) :
    pathBelow above (openWith headings next) =
      (pathBelow above headings).take (next.level - above - 1) ++
        (List.replicate (next.level - above - 1 - (pathBelow above headings).length) none ++
          [some next.title]) := by
  induction headings generalizing above with
  | nil => simp [openWith, pathBelow]
  | cons opened headings ih =>
    rw [nested_cons] at h
    by_cases hlevel : opened.level < next.level
    · -- the heading stays open, and the path below it is set
      have hopen : openWith (opened :: headings) next = opened :: openWith headings next := by
        rw [openWith, List.filter_cons_of_pos (by simpa using hlevel), List.cons_append, openWith]
      have hsteps : next.level - above - 1 =
          opened.level - above - 1 + (next.level - opened.level - 1 + 1) := by omega
      have hrest := ih h.2 hlevel
      have htake : (pathBelow above (opened :: headings)).take (next.level - above - 1) =
          List.replicate (opened.level - above - 1) none ++ some opened.title ::
            (pathBelow opened.level headings).take (next.level - opened.level - 1) := by
        have happend := @List.take_length_add_append (Option Text)
          (List.replicate (opened.level - above - 1) none)
          (some opened.title :: pathBelow opened.level headings) (next.level - opened.level - 1 + 1)
        rwa [List.length_replicate, ← hsteps, List.take_succ_cons] at happend
      have hlength : next.level - above - 1 - (pathBelow above (opened :: headings)).length =
          next.level - opened.level - 1 - (pathBelow opened.level headings).length := by
        rw [hsteps, pathBelow, List.length_append, List.length_replicate, List.length_cons,
          Nat.add_sub_add_left, Nat.add_sub_add_right]
      rw [hopen, pathBelow, hrest, htake, hlength, List.append_assoc, List.cons_append]
    · -- the heading is closed with all below it
      have hopen : openWith (opened :: headings) next = [next] := by
        rw [openWith, List.filter_cons_of_neg (by simpa using hlevel),
          filter_of_nested h.2 (by omega), List.nil_append]
      have hshort : next.level - above - 1 ≤ opened.level - above - 1 := by omega
      rw [hopen]
      simp [pathBelow, List.take_append, hshort]
      omega

lemma pathBelow_eq_titles (h : Nested above headings) :
    pathBelow above headings = headings.map (fun opened => some opened.title) ↔
      headings.map (·.level) = List.range' (above + 1) headings.length := by
  induction headings generalizing above with
  | nil => exact iff_of_true rfl rfl
  | cons opened headings ih =>
    rw [nested_cons] at h
    rw [pathBelow, List.map_cons, List.map_cons, List.length_cons, List.range'_succ,
      List.cons.injEq]
    by_cases hnext : opened.level = above + 1
    · have hnone : opened.level - above - 1 = 0 := by omega
      rw [hnone, List.replicate_zero, List.nil_append, List.cons.injEq, ← hnext]
      exact and_congr (iff_of_true rfl rfl) (ih h.2)
    · refine iff_of_false (fun heq => ?_) fun heq => hnext heq.1
      obtain ⟨skipped, hskipped⟩ : ∃ n, opened.level - above - 1 = n + 1 :=
        ⟨opened.level - above - 2, by omega⟩
      rw [hskipped, List.replicate_succ, List.cons_append, List.cons.injEq] at heq
      cases heq.1

/-! ### Reading line by line -/

variable {lines : List Text} {i j : ℕ}

lemma readingAfter_succ (hi : i < lines.length) :
    readingAfter lines (i + 1) = (readingAfter lines i).readLine (lineAt lines i) := by
  have hline : lines[i]? = some (lineAt lines i) := by
    rw [lineAt, List.getD_eq_getElem?_getD, List.getElem?_eq_getElem hi, Option.getD_some]
  rw [readingAfter, List.take_add_one, hline, Option.toList_some, List.foldl_concat, readingAfter]

/-- A line that is neither a fence nor a heading. -/
def isPlain (line : Text) : Bool := !isFence line && (headingOf line).isNone

variable {line : Text}

lemma headingMarker_of_heading (h : (headingOf line).isNone = false) :
    headingMarker.test line = true := by
  have htest : heading.test line = true := by
    rw [headingOf, Option.isNone_map, Option.isNone_eq_false_iff] at h
    exact h
  obtain ⟨m, hm⟩ := test_iff.mp htest
  obtain ⟨level, rest, hlevel, -⟩ := mem_bind.mp hm
  exact test_iff.mpr ⟨_, hlevel⟩

lemma plain_of_not_marker (hfence : isFence line = false)
    (hmarker : headingMarker.test line = false) : isPlain line = true := by
  have hnone : (headingOf line).isNone = true := by
    by_contra h
    rw [headingMarker_of_heading (eq_false_of_ne_true h)] at hmarker
    cases hmarker
  simp [isPlain, hfence, hnone]

lemma plain_of_firstChar {c : Char} (h : firstChar line = some c) (hfence : c ≠ '\x60')
    (hheading : c ≠ '#') : isPlain line = true :=
  plain_of_not_marker (not_fence_of_firstChar h hfence) (not_heading_of_firstChar h hheading)

lemma plain_of_blank (h : isBlank line = true) : isPlain line = true := by
  refine plain_of_not_marker ?_ ?_
  · by_contra hfence
    have hnot := not_blank_of_firstChar (firstChar_of_fence (by simpa using hfence))
    rw [h] at hnot
    cases hnot
  · by_contra hheading
    have hnot := not_blank_of_firstChar (firstChar_of_heading (by simpa using hheading))
    rw [h] at hnot
    cases hnot

lemma plain_of_list (h : isMarkdownListLine line = true) : isPlain line = true := by
  obtain ⟨c, hc, hmarker⟩ := firstChar_of_list h
  have hne : c ≠ '\x60' ∧ c ≠ '#' := by
    constructor <;> rintro rfl <;> revert hmarker <;> decide
  exact plain_of_firstChar hc hne.1 hne.2

lemma plain_of_inParagraph {k : ℕ} (h : inParagraph lines k = true) :
    isPlain (lineAt lines k) = true := by
  simp only [inParagraph, Bool.and_eq_true, Bool.not_eq_true'] at h
  obtain ⟨⟨⟨⟨-, hheading⟩, hfence⟩, -⟩, -⟩ := h
  exact plain_of_not_marker hfence hheading

lemma readLine_plain {reading : Reading} (h : isPlain line = true) :
    reading.readLine line = reading := by
  rw [isPlain, Bool.and_eq_true, Bool.not_eq_true', Option.isNone_iff_eq_none] at h
  unfold Reading.readLine
  rw [if_neg (by simp [h.1]), h.2]
  split <;> rfl

lemma readingAfter_plain (hij : i ≤ j) (hj : j ≤ lines.length)
    (hplain : ∀ k, i ≤ k → k < j → isPlain (lineAt lines k) = true) :
    readingAfter lines j = readingAfter lines i := by
  induction j, hij using Nat.le_induction with
  | base => rfl
  | succ j hij ih =>
    rw [readingAfter_succ (by omega), readLine_plain (hplain j hij (by omega)),
      ih (by omega) fun k h h' => hplain k h (by omega)]

lemma readingAfter_fenced (hij : i ≤ j) (hj : j ≤ lines.length)
    (hfence : ∀ k, i ≤ k → k < j → isFence (lineAt lines k) = false)
    (hin : (readingAfter lines i).inFence = true) :
    readingAfter lines j = readingAfter lines i := by
  induction j, hij using Nat.le_induction with
  | base => rfl
  | succ j hij ih =>
    have hsame := ih (by omega) fun k h h' => hfence k h (by omega)
    rw [readingAfter_succ (by omega), hsame, Reading.readLine,
      if_neg (by simp [hfence j hij (by omega)]), if_pos hin]

/-! ### One iteration -/

/-- Where the parser stands: its path and those of its blocks are the paths of the headings that
are open there. -/
structure Placed (lines : List Text) (state : ParserState) : Prop where
  le_length : state.lineIndex ≤ lines.length
  outside : state.lineIndex < lines.length →
    (readingAfter lines state.lineIndex).inFence = false
  nested : Nested 0 (readingAfter lines state.lineIndex).headings
  path : state.headingPath = pathBelow 0 (readingAfter lines state.lineIndex).headings
  blocks : ∀ block ∈ state.blocks, Nested 0 (readingAfter lines block.startLine).headings ∧
    block.headingPath = pathBelow 0 (readingAfter lines block.startLine).headings

/-- The lines up to one at which the parser may go on, when no heading is among them. -/
structure Passes (lines : List Text) (i j : ℕ) : Prop where
  le_length : j ≤ lines.length
  outside : j < lines.length → (readingAfter lines j).inFence = false
  first : (readingAfter lines (i + 1)).headings = (readingAfter lines i).headings
  headings : (readingAfter lines j).headings = (readingAfter lines i).headings

lemma passes_scan {p : ℕ → Bool} (hi : i < lines.length) (hscan : Scans lines p i j)
    (hfirst : isPlain (lineAt lines i) = true)
    (hplain : ∀ k, p k = true → isPlain (lineAt lines k) = true)
    (hout : (readingAfter lines i).inFence = false) : Passes lines i j := by
  have hj : j ≤ lines.length := hscan.le_length (by omega)
  have hsame := readingAfter_plain hscan.start_le hj
    fun k h h' => hplain k (hscan.between k h h')
  refine ⟨hj, fun _ => by rw [hsame, hout], ?_, by rw [hsame]⟩
  rw [readingAfter_succ hi, readLine_plain hfirst]

lemma passes_fence (hi : i < lines.length) (hfence : isFence (lineAt lines i) = true)
    (hscan : Scans lines (fun k => !isFence (lineAt lines k)) (i + 1) j)
    (hout : (readingAfter lines i).inFence = false) :
    Passes lines i (if j < lines.length then j + 1 else j) := by
  have hlength : j ≤ lines.length := hscan.le_length (by omega)
  have hopen : readingAfter lines (i + 1) = { readingAfter lines i with inFence := true } := by
    rw [readingAfter_succ hi, Reading.readLine, if_pos hfence, hout, Bool.not_false]
  have hcode : readingAfter lines j = readingAfter lines (i + 1) := by
    refine readingAfter_fenced hscan.start_le hlength (fun k h h' => ?_) (by rw [hopen])
    simpa using hscan.between k h h'
  by_cases hj : j < lines.length
  · rw [if_pos hj]
    have hclosing : isFence (lineAt lines j) = true := by simpa using hscan.stops hj
    have hclose : readingAfter lines (j + 1) = readingAfter lines i := by
      rw [readingAfter_succ hj, hcode, hopen, Reading.readLine, if_pos hclosing, Bool.not_true,
        ← hout]
    exact ⟨by omega, fun _ => by rw [hclose, hout], by rw [hopen], by rw [hclose]⟩
  · rw [if_neg hj]
    exact ⟨hlength, fun h => absurd h hj, by rw [hopen], by rw [hcode, hopen]⟩

namespace ParserState

variable {state : ParserState}

lemma placed_push {blockType : EvidenceBlockType} {text : Text} {endLine stop : ℕ}
    {metadata : BlockMetadata} (h : Placed lines state)
    (hpass : Passes lines state.lineIndex stop) :
    Placed lines (state.push blockType text endLine stop metadata) := by
  have hpath : (state.push blockType text endLine stop metadata).headingPath =
      state.headingPath := rfl
  have hindex : (state.push blockType text endLine stop metadata).lineIndex = stop := rfl
  refine ⟨hpass.le_length, hpass.outside, ?_, ?_, ?_⟩
  · rw [hindex, hpass.headings]
    exact h.nested
  · rw [hpath, hindex, hpass.headings]
    exact h.path
  · refine List.forall_mem_append.mpr ⟨h.blocks, fun block hblock => ?_⟩
    rw [List.mem_singleton] at hblock
    subst hblock
    simp only [createBlock]
    rw [hpass.first]
    exact ⟨h.nested, h.path⟩

lemma one_le_level {title : Text} (h : heading.exec line = some (level, title)) : 1 ≤ level := by
  obtain ⟨m, hm, hvalue⟩ := Option.map_eq_some_iff.mp h
  have hmem : m ∈ heading line := List.mem_of_mem_head? hm
  obtain ⟨found, rest, hmarker, hm⟩ := mem_bind.mp hmem
  obtain ⟨title', rest', -, hm⟩ := mem_bind.mp hm
  obtain ⟨spaces, rest'', -, hm⟩ := mem_bind.mp hm
  obtain ⟨⟨⟩, rest₃, -, hm⟩ := mem_bind.mp hm
  have hlevel : found = level := by
    rw [List.mem_singleton.mp hm] at hvalue
    exact (Prod.mk.inj hvalue).1
  obtain ⟨marker, rest₄, hhashes, hm⟩ := mem_bind.mp hmarker
  obtain ⟨spaces', rest₅, -, hm⟩ := mem_bind.mp hm
  have hlength : (found, rest) = (marker.length, rest₅) := List.mem_singleton.mp hm
  have hleast := (mem_times.mp hhashes).2.2.1
  rw [Prod.mk.injEq] at hlength
  omega

lemma placed_takeHeading {title : Text} (h : Placed lines state)
    (hi : state.lineIndex < lines.length)
    (hheading : heading.exec (lineAt lines state.lineIndex) = some (level, title))
    (hfence : isFence (lineAt lines state.lineIndex) = false) :
    Placed lines (state.takeHeading level (normalizeInlineMarkdown title)) := by
  have hout := h.outside hi
  have hread : readingAfter lines (state.lineIndex + 1) =
      { readingAfter lines state.lineIndex with
        headings := openWith (readingAfter lines state.lineIndex).headings
          ⟨level, normalizeInlineMarkdown title⟩ } := by
    rw [readingAfter_succ hi, Reading.readLine, if_neg (by simp [hfence]),
      if_neg (by simp [hout]), headingOf, hheading]
    rfl
  have hnested : Nested 0 (readingAfter lines (state.lineIndex + 1)).headings := by
    rw [hread]
    exact nested_openWith h.nested (one_le_level hheading)
  have hpath : setHeadingPath state.headingPath level (normalizeInlineMarkdown title) =
      pathBelow 0 (readingAfter lines (state.lineIndex + 1)).headings := by
    rw [hread, pathBelow_openWith h.nested (one_le_level hheading), ← h.path, setHeadingPath]
    simp only [List.length_take, Nat.sub_zero, List.append_assoc]
    congr 3
    omega
  refine ⟨hi, fun _ => by rw [takeHeading, push, hread]; exact hout, hnested, hpath, ?_⟩
  refine List.forall_mem_append.mpr ⟨h.blocks, fun block hblock => ?_⟩
  rw [List.mem_singleton] at hblock
  subst hblock
  exact ⟨hnested, hpath⟩

lemma placed_iteration (h : Placed lines state) : Placed lines (state.iteration lines) := by
  unfold iteration
  by_cases hend : lines.length ≤ state.lineIndex
  · rwa [if_pos hend]
  rw [if_neg hend]
  have hi : state.lineIndex < lines.length := by omega
  have hout := h.outside hi
  by_cases hblank : isBlank (lineAt lines state.lineIndex) = true
  · rw [if_pos hblank]
    have hplain := plain_of_blank hblank
    have hsame : readingAfter lines (state.lineIndex + 1) =
        readingAfter lines state.lineIndex := by
      rw [readingAfter_succ hi, readLine_plain hplain]
    refine ⟨hi, fun _ => ?_, ?_, ?_, h.blocks⟩ <;> dsimp only <;> rw [hsame]
    · exact hout
    · exact h.nested
    · exact h.path
  rw [if_neg hblank]
  cases hheading : heading.exec (lineAt lines state.lineIndex) with
  | some found =>
    have hmarker : headingMarker.test (lineAt lines state.lineIndex) = true :=
      headingMarker_of_heading (by simp [headingOf, hheading])
    exact placed_takeHeading h hi hheading
      (not_fence_of_firstChar (firstChar_of_heading hmarker) (by decide))
  | none =>
    have hnone : (headingOf (lineAt lines state.lineIndex)).isNone = true := by
      simp [headingOf, hheading]
    by_cases hfence : isFence (lineAt lines state.lineIndex) = true
    · simp only [if_pos hfence]
      have hpass := passes_fence hi hfence (indexAfter_scans lines _ _) hout
      refine placed_push h ?_
      simpa using hpass
    have hplain : isPlain (lineAt lines state.lineIndex) = true := by
      simp [isPlain, hnone, hfence]
    by_cases htable : isMarkdownTableStart lines state.lineIndex = true
    · simp only [if_neg hfence, if_pos htable]
      exact placed_push h (passes_scan hi (indexAfter_scans lines _ _) hplain
        (fun k hk => plain_of_firstChar (firstChar_of_tableLine hk) (by decide) (by decide)) hout)
    by_cases hlist : isMarkdownListLine (lineAt lines state.lineIndex) = true
    · simp only [if_neg hfence, if_neg htable, if_pos hlist]
      exact placed_push h (passes_scan hi (indexAfter_scans lines _ _) hplain
        (fun k hk => plain_of_list hk) hout)
    · simp only [if_neg hfence, if_neg htable, if_neg hlist]
      exact placed_push h (passes_scan hi (indexAfter_scans lines _ _) hplain
        (fun k hk => plain_of_inParagraph hk) hout)

end ParserState

lemma placed_stateAfter (lines : List Text) (n : ℕ) : Placed lines (stateAfter lines n) := by
  induction n with
  | zero =>
    have hstart : stateAfter lines 0 = {} := rfl
    rw [hstart]
    exact ⟨Nat.zero_le _, fun _ => rfl, List.IsChain.singleton _, rfl, nofun⟩
  | succ n ih =>
    rw [stateAfter_succ]
    exact ParserState.placed_iteration ih

/-- **Heading paths.** The path of every block has the titles of the headings that are open at
its line exactly when at the line of every block no level was skipped. -/
theorem headingPaths_iff (fuel : ℕ) (markdown : Text) (blocks : List ParsedEvidenceBlock)
    (h : parseMarkdown fuel markdown = some blocks) :
    (∀ block ∈ blocks, block.headingPath =
        (openHeadings markdown block.startLine).map fun opened => some opened.title) ↔
      ∀ block ∈ blocks, NoLevelSkipped (openHeadings markdown block.startLine) := by
  have hplaced := placed_stateAfter (linesOf markdown) fuel
  have hblocks : ∀ block ∈ blocks, block ∈ (stateAfter (linesOf markdown) fuel).blocks := by
    rw [parseMarkdown, Option.ite_none_right_eq_some] at h
    rw [← Option.some.inj h.2]
    exact fun block hblock => List.mem_of_mem_filter hblock
  refine forall₂_congr fun block hblock => ?_
  obtain ⟨hnested, hpath⟩ := hplaced.blocks block (hblocks block hblock)
  rw [hpath]
  exact pathBelow_eq_titles hnested

/-- One heading, of the level given by its marker: `# A` or `## A`. -/
def oneHeading (level : ℕ) : Text := List.replicate level '#' ++ [' ', 'A']

def headingBlock (level : ℕ) (headingPath : HeadingPath) : ParsedEvidenceBlock :=
  createBlock [] .heading ['A'] headingPath 1 1 (.level level)

theorem oneHeading_paths :
    parseMarkdown 1 (oneHeading 1) = some [headingBlock 1 [some ['A']]] ∧
      ((∀ block ∈ [headingBlock 1 [some ['A']]], block.headingPath =
          (openHeadings (oneHeading 1) block.startLine).map fun opened => some opened.title) ↔
        ∀ block ∈ [headingBlock 1 [some ['A']]],
          NoLevelSkipped (openHeadings (oneHeading 1) block.startLine)) :=
  ⟨by decide, headingPaths_iff 1 (oneHeading 1) _ (by decide)⟩

/-- A text that starts at the second level: the path of its heading starts with a hole. -/
theorem second_level_hole : ¬ ∀ (fuel : ℕ) (markdown : Text) (blocks : List ParsedEvidenceBlock),
    parseMarkdown fuel markdown = some blocks → ∀ block ∈ blocks, block.headingPath =
      (openHeadings markdown block.startLine).map fun opened => some opened.title := by
  intro h
  have hpath := h 1 (oneHeading 2) [headingBlock 2 [none, some ['A']]] (by decide) _
    List.mem_cons_self
  revert hpath
  decide

end EvidenceMarkdown
end SmeDataCenter
