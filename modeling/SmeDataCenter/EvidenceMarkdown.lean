import Mathlib.Logic.Function.Iterate
import SmeDataCenter.TextPatterns

/-!
# Markdown evidence

`parseMarkdown` of the evidence parser. The text is cut into lines, and a loop takes one block
after the other: a heading, a fenced code block, a table, a list or a paragraph. `iteration` is
the body of the loop; `parseMarkdown` runs it at most `fuel` times, and has no result when the
loop has not ended by then.
-/

namespace SmeDataCenter
namespace EvidenceMarkdown

open Pattern Text

/-! ### Blocks -/

inductive EvidenceBlockType where
  | heading
  | paragraph
  | list
  | table
  | code
  deriving DecidableEq

inductive BlockMetadata where
  | level (n : ℕ)
  | language (name : Option Text)
  | rowCount (n : ℕ)
  | itemCount (n : ℕ)
  | none
  deriving DecidableEq

/-- The headings above a block. A level that was skipped has no title. -/
abbrev HeadingPath := List (Option Text)

structure ParsedEvidenceBlock where
  blockId : String
  blockType : EvidenceBlockType
  text : Text
  headingPath : HeadingPath
  startLine : ℕ
  endLine : ℕ
  metadata : BlockMetadata
  deriving DecidableEq

def createBlock (existingBlocks : List ParsedEvidenceBlock) (blockType : EvidenceBlockType)
    (text : Text) (headingPath : HeadingPath) (startLine endLine : ℕ)
    (metadata : BlockMetadata) : ParsedEvidenceBlock where
  blockId := "blk_" ++ toString existingBlocks.length
  blockType
  text
  headingPath
  startLine
  endLine
  metadata

def nonEmptyBlocks (blocks : List ParsedEvidenceBlock) : List ParsedEvidenceBlock :=
  blocks.filter fun block => 0 < block.text.trim.length

def setHeadingPath (headingPath : HeadingPath) (level : ℕ) (title : Text) : HeadingPath :=
  let path := headingPath.take (level - 1)
  path ++ List.replicate (level - 1 - path.length) none ++ [some title]

/-! ### Text -/

/-- `/\r\n?/g` becomes a newline. -/
def normalizeLineEndings : Text → Text
  | '\r' :: '\n' :: cs => '\n' :: normalizeLineEndings cs
  | '\r' :: cs => '\n' :: normalizeLineEndings cs
  | c :: cs => c :: normalizeLineEndings cs
  | [] => []

/-- `/[\t\v\f \u00a0]+/g` becomes a space. -/
def normalizeTextWhitespace (value : Text) : Text :=
  (replaceAll (do
    let _ ← many1 fun c => [0x9, 0xb, 0xc, 0x20, 0xa0].contains c.toNat
    return [' ']) value).trim

/-- `/\[([^\]]+)]\([^)]+\)/g` becomes what stands between the brackets. -/
def link : Pattern Text := do
  let _ ← char (· = '[')
  let label ← many1 (· ≠ ']')
  let _ ← char (· = ']')
  let _ ← char (· = '(')
  let _ ← many1 (· ≠ ')')
  let _ ← char (· = ')')
  return label

def normalizeInlineMarkdown (value : Text) : Text :=
  normalizeTextWhitespace ((replaceAll link value).filter fun c => !(['*', '_', '\x60'].contains c))

/-! ### Kinds of lines -/

def isBlank (line : Text) : Bool := line.trim.length = 0

/-- `/^(#{1,6})\s+/`, with the length of the marker. -/
def headingMarker : Pattern ℕ := do
  let marker ← times (· = '#') 1 6
  let _ ← many1 isSpace
  return marker.length

/-- `/^(#{1,6})\s+(.+?)\s*$/`, with the length of the marker and the title. -/
def heading : Pattern (ℕ × Text) := do
  let level ← headingMarker
  let title ← lazy1 isDot
  let _ ← greedy isSpace
  atEnd
  return (level, title)

/-- `` /^```/.test(line.trim()) `` -/
def isFence (line : Text) : Bool := (List.replicate 3 '\x60').isPrefixOf line.trim

/-- `(?:[-*+]|\d+[.)])` -/
def listMarker : Pattern Unit :=
  either (do let _ ← char fun c => ['-', '*', '+'].contains c)
    (do let _ ← many1 isDigit; let _ ← char fun c => ['.', ')'].contains c)

/-- `/^\s*(?:[-*+]|\d+[.)])\s+/` -/
def listStart : Pattern Text := do
  let _ ← greedy isSpace
  listMarker
  let _ ← many1 isSpace
  return []

def isMarkdownListLine (line : Text) : Bool := listStart.test line

def cleanMarkdownListLine (line : Text) : Text := listStart.replaceFront line

def isMarkdownTableLine (line : Text) : Bool :=
  ['|'].isPrefixOf line.trim && ['|'].isSuffixOf line.trim

def parseMarkdownTableRow (line : Text) : List Text :=
  let row := replaceFront (do let _ ← char (· = '|'); return []) line.trim
  let row := if ['|'].isSuffixOf row then row.dropLast else row
  (row.splitOn '|').map normalizeInlineMarkdown

/-- `/^:?-{3,}:?$/` -/
def separatorCell : Pattern Unit := do
  let _ ← times (· = ':') 0 1
  let dashes ← many1 (· = '-')
  guard (3 ≤ dashes.length)
  let _ ← times (· = ':') 0 1
  atEnd

def isMarkdownSeparatorRow (row : List Text) : Bool :=
  0 < row.length && row.all separatorCell.test

/-- `lines[lineIndex] ?? ""` -/
def lineAt (lines : List Text) (lineIndex : ℕ) : Text := lines.getD lineIndex []

def isMarkdownTableStart (lines : List Text) (lineIndex : ℕ) : Bool :=
  isMarkdownTableLine (lineAt lines lineIndex) && lineIndex + 1 < lines.length &&
    isMarkdownSeparatorRow (parseMarkdownTableRow (lineAt lines (lineIndex + 1)))

/-! ### The loop -/

structure ParserState where
  lineIndex : ℕ := 0
  headingPath : HeadingPath := []
  blocks : List ParsedEvidenceBlock := []

/-- `while (lineIndex < lines.length && p(lineIndex))`: the index where it ends. -/
def indexAfter (lines : List Text) (p : ℕ → Bool) (lineIndex : ℕ) : ℕ :=
  lineIndex + ((List.range' lineIndex (lines.length - lineIndex)).takeWhile p).length

/-- The lines from one index up to another. -/
def linesBetween (lines : List Text) (start stop : ℕ) : List Text :=
  (List.range' start (stop - start)).map (lineAt lines)

/-- Does a paragraph go on at a line? -/
def inParagraph (lines : List Text) (lineIndex : ℕ) : Bool :=
  let line := lineAt lines lineIndex
  !isBlank line && !headingMarker.test line && !isFence line && !isMarkdownListLine line &&
    !isMarkdownTableStart lines lineIndex

namespace ParserState

/-- Push a block of the lines up to `stop`, and go on there. -/
def push (state : ParserState) (blockType : EvidenceBlockType) (text : Text) (endLine stop : ℕ)
    (metadata : BlockMetadata) : ParserState :=
  { state with
    lineIndex := stop
    blocks := state.blocks ++ [createBlock state.blocks blockType text state.headingPath
      (state.lineIndex + 1) endLine metadata] }

def takeHeading (state : ParserState) (level : ℕ) (title : Text) : ParserState :=
  { state with headingPath := setHeadingPath state.headingPath level title }.push .heading title
    (state.lineIndex + 1) (state.lineIndex + 1) (.level level)

/-- `language` is null when nothing stands behind the fence. -/
def takeCode (lines : List Text) (state : ParserState) : ParserState :=
  let language := Text.trim ((lineAt lines state.lineIndex).trim.drop 3)
  let last := indexAfter lines (fun i => !isFence (lineAt lines i)) (state.lineIndex + 1)
  let closed : Bool := last < lines.length
  state.push .code
    (Text.trim (List.intercalate ['\n'] (linesBetween lines (state.lineIndex + 1) last)))
    (if closed then last + 1 else lines.length) (if closed then last + 1 else last)
    (.language (if language.isEmpty then none else some language))

def takeTable (lines : List Text) (state : ParserState) : ParserState :=
  let stop := indexAfter lines (fun i => isMarkdownTableLine (lineAt lines i)) state.lineIndex
  let rows := ((linesBetween lines state.lineIndex stop).map parseMarkdownTableRow).filter
    fun row => 0 < row.length && !isMarkdownSeparatorRow row
  state.push .table
    (List.intercalate ['\n'] (rows.map (List.intercalate [' ', '|', ' ']))) stop stop
    (.rowCount rows.length)

def takeList (lines : List Text) (state : ParserState) : ParserState :=
  let stop := indexAfter lines (fun i => isMarkdownListLine (lineAt lines i)) state.lineIndex
  let items := (linesBetween lines state.lineIndex stop).map cleanMarkdownListLine
  state.push .list (List.intercalate ['\n'] (items.map normalizeInlineMarkdown)) stop stop
    (.itemCount items.length)

def takeParagraph (lines : List Text) (state : ParserState) : ParserState :=
  let stop := indexAfter lines (inParagraph lines) state.lineIndex
  state.push .paragraph
    (normalizeInlineMarkdown
      (List.intercalate [' '] (linesBetween lines state.lineIndex stop))) stop stop .none

/-- The body of the loop; once the loop has ended nothing happens. -/
def iteration (lines : List Text) (state : ParserState) : ParserState :=
  let line := lineAt lines state.lineIndex
  if lines.length ≤ state.lineIndex then state
  else if isBlank line then { state with lineIndex := state.lineIndex + 1 }
  else match heading.exec line with
    | some (level, title) => state.takeHeading level (normalizeInlineMarkdown title)
    | none =>
      if isFence line then state.takeCode lines
      else if isMarkdownTableStart lines state.lineIndex then state.takeTable lines
      else if isMarkdownListLine line then state.takeList lines
      else state.takeParagraph lines

end ParserState

/-- The lines of a text. -/
def linesOf (markdown : Text) : List Text := (normalizeLineEndings markdown).splitOn '\n'

/-- The state after a number of iterations. -/
def stateAfter (lines : List Text) (iterations : ℕ) : ParserState :=
  (ParserState.iteration lines)^[iterations] {}

/-- The blocks, when the loop ends within `fuel` iterations. -/
def parseMarkdown (fuel : ℕ) (markdown : Text) : Option (List ParsedEvidenceBlock) :=
  let lines := linesOf markdown
  let state := stateAfter lines fuel
  if lines.length ≤ state.lineIndex then some (nonEmptyBlocks state.blocks) else none

end EvidenceMarkdown
end SmeDataCenter
