import SmeDataCenter.EvidenceMarkdown

/-!
# The progress of the Markdown parser

The paragraph branch stops at every line that starts with a heading marker, and the heading
branch takes only those with a title behind it. A line with a marker and no title is taken by
neither: the loop stands still there and never ends. Without such a line outside the code
fences every iteration advances. The kinds of lines are told apart by the first character
that is not a space.
-/

namespace SmeDataCenter
namespace EvidenceMarkdown

open Pattern Text

/-! ### The first character -/

/-- The first character that is not a space. -/
def firstChar (line : Text) : Option Char := line.trimStart.head?

lemma trim_isPrefix (line : Text) : line.trim <+: line.trimStart := List.rdropWhile_prefix _ _

variable {line : Text} {c : Char}

lemma firstChar_of_prefix (h : [c] <+: line.trim) : firstChar line = some c := by
  have hprefix : [c] <+: line.trimStart := h.trans (trim_isPrefix line)
  obtain ⟨rest, hrest⟩ := hprefix
  rw [firstChar, ← hrest]
  rfl

lemma trimStart_append {spaces rest : Text} (hspaces : ∀ d ∈ spaces, isSpace d = true)
    (hc : isSpace c = false) : Text.trimStart (spaces ++ c :: rest) = c :: rest := by
  induction spaces with
  | nil => simp [Text.trimStart, hc]
  | cons d ds ih =>
    have hd : isSpace d = true := hspaces d List.mem_cons_self
    rw [List.cons_append, Text.trimStart, List.dropWhile_cons_of_pos hd]
    exact ih fun e he => hspaces e (.tail _ he)

lemma firstChar_append {spaces rest : Text} {c : Char} (hspaces : ∀ d ∈ spaces, isSpace d = true)
    (hc : isSpace c = false) : firstChar (spaces ++ c :: rest) = some c := by
  rw [firstChar, trimStart_append hspaces hc]
  rfl

lemma not_space_of_firstChar (h : firstChar line = some c) : isSpace c = false := by
  have hhead : (line.dropWhile isSpace).head? = some c := h
  have hnot := List.head?_dropWhile_not isSpace line
  rw [hhead] at hnot
  simpa using hnot

lemma not_blank_of_firstChar (h : firstChar line = some c) : isBlank line = false := by
  have hmem : c ∈ line.trimStart := List.mem_of_mem_head? h
  have hc := not_space_of_firstChar h
  rw [isBlank, decide_eq_false_iff_not, List.length_eq_zero_iff, Text.trim,
    List.rdropWhile_eq_nil_iff]
  intro hall
  rw [hall c hmem] at hc
  cases hc

lemma firstChar_of_heading (h : headingMarker.test line = true) : firstChar line = some '#' := by
  obtain ⟨m, hm⟩ := test_iff.mp h
  obtain ⟨marker, rest, hmarker, -⟩ := mem_bind.mp hm
  obtain ⟨hline, hall, hleast, -⟩ := mem_times.mp hmarker
  cases marker with
  | nil => simp at hleast
  | cons c marker =>
    have hc : c = '#' := by simpa using hall c List.mem_cons_self
    rw [hline, hc, List.cons_append]
    exact @firstChar_append [] _ '#' (by simp) (by decide)

lemma firstChar_of_fence (h : isFence line = true) : firstChar line = some '\x60' := by
  have hprefix : List.replicate 3 '\x60' <+: line.trim := List.isPrefixOf_iff_prefix.mp h
  exact firstChar_of_prefix (List.IsPrefix.trans ⟨['\x60', '\x60'], rfl⟩ hprefix)

lemma firstChar_of_tableLine (h : isMarkdownTableLine line = true) : firstChar line = some '|' := by
  rw [isMarkdownTableLine, Bool.and_eq_true] at h
  exact firstChar_of_prefix (List.isPrefixOf_iff_prefix.mp h.1)

lemma firstChar_of_list (h : isMarkdownListLine line = true) :
    ∃ c, firstChar line = some c ∧ (c ∈ ['-', '*', '+'] ∨ isDigit c = true) := by
  obtain ⟨m, hm⟩ := test_iff.mp h
  obtain ⟨spaces, rest, hspaces, hm⟩ := mem_bind.mp hm
  obtain ⟨hline, hall⟩ := mem_greedy.mp hspaces
  obtain ⟨⟨⟩, rest', hmarker, -⟩ := mem_bind.mp hm
  rcases List.mem_append.mp hmarker with hbullet | hnumber
  · obtain ⟨c, rest'', hc, -⟩ := mem_bind.mp hbullet
    obtain ⟨rfl, hbullets⟩ := mem_char.mp hc
    have hmem : c ∈ ['-', '*', '+'] := by simpa using hbullets
    have hspace : isSpace c = false := by
      simp only [List.mem_cons, List.not_mem_nil, or_false] at hmem
      rcases hmem with rfl | rfl | rfl <;> decide
    exact ⟨c, by rw [hline]; exact firstChar_append hall hspace, .inl hmem⟩
  · obtain ⟨number, rest'', hnumber, -⟩ := mem_bind.mp hnumber
    obtain ⟨rfl, hdigits, hne⟩ := mem_many1.mp hnumber
    obtain ⟨c, number, rfl⟩ := List.exists_cons_of_ne_nil hne
    have hdigit := hdigits c List.mem_cons_self
    have hspace : isSpace c = false := by
      simp only [isDigit, Bool.and_eq_true, decide_eq_true_eq] at hdigit
      have hlow : 48 ≤ c.toNat := hdigit.1
      have hhigh : c.toNat ≤ 57 := hdigit.2
      simp only [isSpace, List.contains_eq_mem, List.mem_cons, List.not_mem_nil]
      simp
      omega
    exact ⟨c, by rw [hline]; exact firstChar_append hall hspace, .inr hdigit⟩

/-! ### The lines outside the code fences -/

/-- A heading marker with no title behind it. -/
def isStuck (line : Text) : Bool := headingMarker.test line && (heading.exec line).isNone

/-- The lines outside the code fences, from a line that stands in one or not. -/
def outsideFences : Bool → List Text → List Text
  | _, [] => []
  | inFence, line :: lines =>
    if isFence line then outsideFences (!inFence) lines
    else if inFence then outsideFences true lines
    else line :: outsideFences false lines

/-- No line outside the code fences is a marker without a title. -/
def Titled (inFence : Bool) (lines : List Text) : Prop :=
  ∀ line ∈ outsideFences inFence lines, isStuck line = false

lemma not_fence_of_firstChar (h : firstChar line = some c) (hc : c ≠ '\x60') :
    isFence line = false := by
  by_contra hfence
  have htick := firstChar_of_fence (by simpa using hfence)
  rw [h, Option.some.injEq] at htick
  exact hc htick

lemma not_heading_of_firstChar (h : firstChar line = some c) (hc : c ≠ '#') :
    headingMarker.test line = false := by
  by_contra hheading
  have hmark := firstChar_of_heading (by simpa using hheading)
  rw [h, Option.some.injEq] at hmark
  exact hc hmark

lemma not_stuck_of_not_heading (h : headingMarker.test line = false) : isStuck line = false := by
  simp [isStuck, h]

/-- A line that is neither a fence nor stuck. -/
def isCalm (line : Text) : Bool := !isFence line && !isStuck line

lemma calm_of_firstChar (h : firstChar line = some c) (hfence : c ≠ '\x60') (hheading : c ≠ '#') :
    isCalm line = true := by
  have hf := not_fence_of_firstChar h hfence
  have hs := not_stuck_of_not_heading (not_heading_of_firstChar h hheading)
  simp [isCalm, hf, hs]

lemma calm_of_blank (h : isBlank line = true) : isCalm line = true := by
  have hfence : isFence line = false := by
    by_contra hfence
    have hnot := not_blank_of_firstChar (firstChar_of_fence (by simpa using hfence))
    rw [h] at hnot
    cases hnot
  have hheading : headingMarker.test line = false := by
    by_contra hheading
    have hnot := not_blank_of_firstChar (firstChar_of_heading (by simpa using hheading))
    rw [h] at hnot
    cases hnot
  simp [isCalm, hfence, not_stuck_of_not_heading hheading]

lemma calm_of_tableLine (h : isMarkdownTableLine line = true) : isCalm line = true :=
  calm_of_firstChar (firstChar_of_tableLine h) (by decide) (by decide)

lemma calm_of_list (h : isMarkdownListLine line = true) : isCalm line = true := by
  obtain ⟨c, hc, hmarker⟩ := firstChar_of_list h
  have hne : c ≠ '\x60' ∧ c ≠ '#' := by
    constructor <;> rintro rfl <;> revert hmarker <;> decide
  exact calm_of_firstChar hc hne.1 hne.2

lemma titled_cons_calm {lines : List Text} (h : isCalm line = true) :
    Titled false (line :: lines) ↔ Titled false lines := by
  rw [isCalm, Bool.and_eq_true, Bool.not_eq_true', Bool.not_eq_true'] at h
  simp [Titled, outsideFences, h.1, h.2]

/-! ### The inner loops -/

variable {lines : List Text} {i j : ℕ}

/-- What a loop over the lines does: it stops at the first line that does not go on. -/
structure Scans (lines : List Text) (p : ℕ → Bool) (i j : ℕ) : Prop where
  start_le : i ≤ j
  le_length : i ≤ lines.length → j ≤ lines.length
  between : ∀ k, i ≤ k → k < j → p k = true
  stops : j < lines.length → p j = false

lemma indexAfter_scans (lines : List Text) (p : ℕ → Bool) (i : ℕ) :
    Scans lines p i (indexAfter lines p i) := by
  generalize hn : lines.length - i = n
  induction n generalizing i with
  | zero =>
    have hend : indexAfter lines p i = i := by simp [indexAfter, hn]
    rw [hend]
    exact ⟨le_refl i, id, fun k h h' => by omega, fun h => by omega⟩
  | succ n ih =>
    by_cases hp : p i = true
    · have hnext : indexAfter lines p i = indexAfter lines p (i + 1) := by
        have hn' : lines.length - (i + 1) = n := by omega
        rw [indexAfter, indexAfter, hn, hn', List.range'_succ, List.takeWhile_cons_of_pos hp,
          List.length_cons]
        omega
      obtain ⟨hstart, hlength, hbetween, hstops⟩ := ih (i + 1) (by omega)
      rw [hnext]
      refine ⟨by omega, fun _ => hlength (by omega), fun k h h' => ?_, hstops⟩
      rcases Nat.eq_or_lt_of_le h with rfl | hlt
      · exact hp
      · exact hbetween k hlt h'
    · have hend : indexAfter lines p i = i := by
        rw [indexAfter, hn, List.range'_succ, List.takeWhile_cons_of_neg hp]
        rfl
      rw [hend]
      exact ⟨le_refl i, id, fun k h h' => by omega, fun _ => by simpa using hp⟩

lemma drop_eq_cons (h : i < lines.length) :
    lines.drop i = lineAt lines i :: lines.drop (i + 1) := by
  rw [List.drop_eq_getElem_cons h, lineAt, List.getD_eq_getElem?_getD,
    List.getElem?_eq_getElem h, Option.getD_some]

lemma titled_drop_calm (hij : i ≤ j) (hj : j ≤ lines.length)
    (hcalm : ∀ k, i ≤ k → k < j → isCalm (lineAt lines k) = true) :
    Titled false (lines.drop i) ↔ Titled false (lines.drop j) := by
  induction j, hij using Nat.le_induction with
  | base => rfl
  | succ j hij ih =>
    have hlt : j < lines.length := by omega
    rw [ih (by omega) fun k h h' => hcalm k h (by omega), drop_eq_cons hlt,
      titled_cons_calm (hcalm j hij (by omega))]

lemma titled_drop_fenced (hij : i ≤ j) (hj : j ≤ lines.length)
    (hfence : ∀ k, i ≤ k → k < j → isFence (lineAt lines k) = false) :
    Titled true (lines.drop i) ↔ Titled true (lines.drop j) := by
  induction j, hij using Nat.le_induction with
  | base => rfl
  | succ j hij ih =>
    have hlt : j < lines.length := by omega
    have hline : isFence (lineAt lines j) = false := hfence j hij (by omega)
    rw [ih (by omega) fun k h h' => hfence k h (by omega), drop_eq_cons hlt]
    simp [Titled, outsideFences, hline]

/-! ### One iteration -/

/-- An iteration goes from one line on to a later one, and leaves out nothing that is stuck. -/
structure Advances (lines : List Text) (i j : ℕ) : Prop where
  lt : i < j
  le_length : j ≤ lines.length
  titled : Titled false (lines.drop i) ↔ Titled false (lines.drop j)

lemma advances_of_calm (hlt : i < j) (hj : j ≤ lines.length)
    (hcalm : ∀ k, i ≤ k → k < j → isCalm (lineAt lines k) = true) : Advances lines i j :=
  ⟨hlt, hj, titled_drop_calm (by omega) hj hcalm⟩

lemma advances_of_calm_line (hi : i < lines.length) (hcalm : isCalm (lineAt lines i) = true) :
    Advances lines i (i + 1) := by
  refine advances_of_calm (by omega) (by omega) fun k h h' => ?_
  have hk : k = i := by omega
  rw [hk]
  exact hcalm

lemma advances_of_scan {p : ℕ → Bool} (hi : i < lines.length) (hscan : Scans lines p i j)
    (hfirst : p i = true) (hcalm : ∀ k, p k = true → isCalm (lineAt lines k) = true) :
    Advances lines i j := by
  have hlt : i < j := by
    rcases Nat.eq_or_lt_of_le hscan.start_le with rfl | hlt
    · have hnot := hscan.stops hi
      rw [hfirst] at hnot
      cases hnot
    · exact hlt
  exact advances_of_calm hlt (hscan.le_length (by omega))
    fun k h h' => hcalm k (hscan.between k h h')

lemma advances_of_fence (hi : i < lines.length) (hfence : isFence (lineAt lines i) = true)
    (hscan : Scans lines (fun k => !isFence (lineAt lines k)) (i + 1) j) :
    Advances lines i (if j < lines.length then j + 1 else j) := by
  have hlength : j ≤ lines.length := hscan.le_length (by omega)
  have hstart : i + 1 ≤ j := hscan.start_le
  have hopen : Titled false (lines.drop i) ↔ Titled true (lines.drop (i + 1)) := by
    rw [drop_eq_cons hi]
    simp [Titled, outsideFences, hfence]
  have hcode : Titled true (lines.drop (i + 1)) ↔ Titled true (lines.drop j) :=
    titled_drop_fenced hstart hlength fun k h h' => by simpa using hscan.between k h h'
  by_cases hj : j < lines.length
  · rw [if_pos hj]
    have hclosing : isFence (lineAt lines j) = true := by simpa using hscan.stops hj
    refine ⟨by omega, by omega, ?_⟩
    rw [hopen, hcode, drop_eq_cons hj]
    simp [Titled, outsideFences, hclosing]
  · rw [if_neg hj]
    refine ⟨by omega, hlength, ?_⟩
    have hend : lines.drop j = [] := List.drop_eq_nil_of_le (by omega)
    rw [hopen, hcode, hend]
    simp [Titled, outsideFences]

lemma calm_of_inParagraph {k : ℕ} (h : inParagraph lines k = true) :
    isCalm (lineAt lines k) = true := by
  simp only [inParagraph, Bool.and_eq_true, Bool.not_eq_true'] at h
  obtain ⟨⟨⟨⟨-, hheading⟩, hfence⟩, -⟩, -⟩ := h
  simp [isCalm, hfence, not_stuck_of_not_heading hheading]

namespace ParserState

variable {state : ParserState}

lemma iteration_advances (hi : state.lineIndex < lines.length)
    (hstuck : isStuck (lineAt lines state.lineIndex) = false) :
    Advances lines state.lineIndex (state.iteration lines).lineIndex := by
  unfold iteration
  rw [if_neg (by omega)]
  by_cases hblank : isBlank (lineAt lines state.lineIndex) = true
  · rw [if_pos hblank]
    exact advances_of_calm_line hi (calm_of_blank hblank)
  rw [if_neg hblank]
  cases hheading : heading.exec (lineAt lines state.lineIndex) with
  | some found =>
    -- a heading is one line, and a line with a marker is no fence
    have hmarker : headingMarker.test (lineAt lines state.lineIndex) = true := by
      have htest : heading.test (lineAt lines state.lineIndex) = true := by
        rw [Pattern.test, hheading]
        rfl
      obtain ⟨m, hm⟩ := test_iff.mp htest
      obtain ⟨level, rest, hlevel, -⟩ := mem_bind.mp hm
      exact test_iff.mpr ⟨_, hlevel⟩
    have hfence := not_fence_of_firstChar (firstChar_of_heading hmarker) (by decide)
    exact advances_of_calm_line hi (by simp [isCalm, hfence, hstuck])
  | none =>
    by_cases hfence : isFence (lineAt lines state.lineIndex) = true
    · simp only [if_pos hfence]
      have h := advances_of_fence hi hfence (indexAfter_scans lines _ _)
      simpa [takeCode, push] using h
    by_cases htable : isMarkdownTableStart lines state.lineIndex = true
    · simp only [if_neg hfence, if_pos htable]
      have hline : isMarkdownTableLine (lineAt lines state.lineIndex) = true := by
        rw [isMarkdownTableStart, Bool.and_eq_true, Bool.and_eq_true] at htable
        exact htable.1.1
      exact advances_of_scan hi (indexAfter_scans lines _ _) hline
        fun k hk => calm_of_tableLine hk
    by_cases hlist : isMarkdownListLine (lineAt lines state.lineIndex) = true
    · simp only [if_neg hfence, if_neg htable, if_pos hlist]
      exact advances_of_scan hi (indexAfter_scans lines _ _) hlist fun k hk => calm_of_list hk
    · simp only [if_neg hfence, if_neg htable, if_neg hlist]
      -- no branch above takes the line, and it has no marker: the paragraph takes it
      have hmarker : headingMarker.test (lineAt lines state.lineIndex) = false := by
        simpa [isStuck, hheading] using hstuck
      have hfirst : inParagraph lines state.lineIndex = true := by
        simp [inParagraph, hblank, hmarker, hfence, htable, hlist]
      exact advances_of_scan hi (indexAfter_scans lines _ _) hfirst
        fun k hk => calm_of_inParagraph hk

lemma iteration_stuck (hstuck : isStuck (lineAt lines state.lineIndex) = true) :
    (state.iteration lines).lineIndex = state.lineIndex := by
  rw [isStuck, Bool.and_eq_true, Option.isNone_iff_eq_none] at hstuck
  obtain ⟨hmarker, hheading⟩ := hstuck
  have hfirst := firstChar_of_heading hmarker
  have hblank := not_blank_of_firstChar hfirst
  have hfence := not_fence_of_firstChar hfirst (by decide)
  have hlist : isMarkdownListLine (lineAt lines state.lineIndex) = false := by
    by_contra hlist
    obtain ⟨c, hc, hmark⟩ := firstChar_of_list (by simpa using hlist)
    rw [hfirst, Option.some.injEq] at hc
    subst hc
    revert hmark
    decide
  have htable : isMarkdownTableStart lines state.lineIndex = false := by
    by_contra htable
    have hline : isMarkdownTableLine (lineAt lines state.lineIndex) = true := by
      simp only [isMarkdownTableStart, Bool.and_eq_true, Bool.not_eq_false] at htable
      exact htable.1.1
    have hbar := firstChar_of_tableLine hline
    rw [hfirst] at hbar
    cases hbar
  have hstop : indexAfter lines (inParagraph lines) state.lineIndex = state.lineIndex := by
    have hscan := indexAfter_scans lines (inParagraph lines) state.lineIndex
    rcases Nat.eq_or_lt_of_le hscan.start_le with heq | hlt
    · exact heq.symm
    · have hin := hscan.between _ (le_refl _) hlt
      simp [inParagraph, hmarker] at hin
  unfold iteration
  by_cases hend : lines.length ≤ state.lineIndex
  · rw [if_pos hend]
  · simp [hend, hblank, hheading, hfence, htable, hlist, takeParagraph, push, hstop]

end ParserState

/-! ### Whole runs -/

variable {markdown : Text}

/-- Every iteration advances, and the loop ends after at most one iteration a line. -/
def Terminates (markdown : Text) : Prop :=
  (∀ n, (stateAfter (linesOf markdown) n).lineIndex < (linesOf markdown).length →
    (stateAfter (linesOf markdown) n).lineIndex <
      (stateAfter (linesOf markdown) (n + 1)).lineIndex) ∧
  (parseMarkdown (linesOf markdown).length markdown).isSome = true

lemma stateAfter_succ (lines : List Text) (n : ℕ) :
    stateAfter lines (n + 1) = (stateAfter lines n).iteration lines :=
  Function.iterate_succ_apply' _ n _

lemma not_stuck_of_titled (hi : i < lines.length) (h : Titled false (lines.drop i)) :
    isStuck (lineAt lines i) = false := by
  rw [drop_eq_cons hi] at h
  by_cases hfence : isFence (lineAt lines i) = true
  · exact not_stuck_of_not_heading
      (not_heading_of_firstChar (firstChar_of_fence hfence) (by decide))
  · exact h _ (by simp [outsideFences, hfence])

lemma stateAfter_of_titled (h : Titled false lines) (n : ℕ) :
    Titled false (lines.drop (stateAfter lines n).lineIndex) ∧
      (n ≤ (stateAfter lines n).lineIndex ∨
        lines.length ≤ (stateAfter lines n).lineIndex) := by
  induction n with
  | zero =>
    have hzero : (stateAfter lines 0).lineIndex = 0 := rfl
    exact ⟨by rwa [hzero, List.drop_zero], .inl (Nat.zero_le _)⟩
  | succ n ih =>
    obtain ⟨htitled, hn⟩ := ih
    rw [stateAfter_succ]
    by_cases hend : lines.length ≤ (stateAfter lines n).lineIndex
    · have hsame : (stateAfter lines n).iteration lines = stateAfter lines n := by
        rw [ParserState.iteration, if_pos hend]
      rw [hsame]
      exact ⟨htitled, .inr hend⟩
    · have hi : (stateAfter lines n).lineIndex < lines.length := by omega
      have hstep := ParserState.iteration_advances hi (not_stuck_of_titled hi htitled)
      refine ⟨hstep.titled.mp htitled, .inl ?_⟩
      have hlt := hstep.lt
      omega

lemma stateAfter_of_not_titled (h : ¬Titled false lines) (n : ℕ) :
    ¬Titled false (lines.drop (stateAfter lines n).lineIndex) := by
  induction n with
  | zero =>
    have hzero : (stateAfter lines 0).lineIndex = 0 := rfl
    rwa [hzero, List.drop_zero]
  | succ n ih =>
    rw [stateAfter_succ]
    have hi : (stateAfter lines n).lineIndex < lines.length := by
      by_contra hend
      rw [List.drop_eq_nil_of_le (by omega)] at ih
      exact ih (by simp [Titled, outsideFences])
    by_cases hstuck : isStuck (lineAt lines (stateAfter lines n).lineIndex) = true
    · rwa [ParserState.iteration_stuck hstuck]
    · have hstep := ParserState.iteration_advances hi (by simpa using hstuck)
      rwa [← hstep.titled]

lemma terminates_of_titled (h : Titled false (linesOf markdown)) : Terminates markdown := by
  constructor
  · intro n hn
    rw [stateAfter_succ]
    have htitled := (stateAfter_of_titled h n).1
    exact (ParserState.iteration_advances hn (not_stuck_of_titled hn htitled)).lt
  · have hend : (linesOf markdown).length ≤
        (stateAfter (linesOf markdown) (linesOf markdown).length).lineIndex := by
      rcases (stateAfter_of_titled h (linesOf markdown).length).2 with hn | hn <;> exact hn
    rw [parseMarkdown, if_pos hend]
    rfl

lemma never_returns (h : ¬Titled false (linesOf markdown)) (fuel : ℕ) :
    parseMarkdown fuel markdown = none := by
  have hleft := stateAfter_of_not_titled h fuel
  have hi : (stateAfter (linesOf markdown) fuel).lineIndex < (linesOf markdown).length := by
    by_contra hend
    rw [List.drop_eq_nil_of_le (by omega)] at hleft
    exact hleft (by simp [Titled, outsideFences])
  rw [parseMarkdown, if_neg (by omega)]

/-- **Termination of the Markdown parser.** The loop advances on every iteration and ends after
at most one a line exactly when no line outside the code fences is a heading marker without a
title; with such a line it does not end at all. -/
theorem parseMarkdown_terminates_iff (markdown : Text) :
    (Terminates markdown ↔ Titled false (linesOf markdown)) ∧
      ((∃ fuel, (parseMarkdown fuel markdown).isSome = true) ↔
        Titled false (linesOf markdown)) := by
  refine ⟨⟨fun h => ?_, terminates_of_titled⟩, fun h => ?_, fun h => ⟨_, (terminates_of_titled h).2⟩⟩
  · by_contra hnot
    have hnone := never_returns hnot (linesOf markdown).length
    have hsome := h.2
    rw [hnone] at hsome
    cases hsome
  · obtain ⟨fuel, hsome⟩ := h
    by_contra hnot
    rw [never_returns hnot fuel] at hsome
    cases hsome

/-- An empty heading: a marker and one space. -/
theorem empty_heading_never_returns :
    ¬Terminates ['#', ' '] ∧ ¬∃ fuel, (parseMarkdown fuel ['#', ' ']).isSome = true := by
  have hstuck : ¬Titled false (linesOf ['#', ' ']) := by
    intro h
    have hline := h ['#', ' '] (by decide)
    revert hline
    decide
  constructor
  · rintro ⟨-, hsome⟩
    rw [never_returns hstuck] at hsome
    cases hsome
  · rintro ⟨fuel, hsome⟩
    rw [never_returns hstuck] at hsome
    cases hsome

end EvidenceMarkdown
end SmeDataCenter
