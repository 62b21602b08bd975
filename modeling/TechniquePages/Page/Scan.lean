import TechniquePages.Html.Reference
import TechniquePages.Page.Marker

/-!
# Scanning a page

Scanning gives every line its kind.  Fenced blocks are found on the way: the
lines between an opening and a closing fence are code and never markers.

A block never reaches across a test heading, even where that heading looks
like code.  An opening fence without an end before the next test heading is
marked as unclosed, and the lines after it are read as if it were not there.

A scanned page is divided into a preamble and one section for each test
heading, and commands are taken from the fenced blocks of a section.
-/

namespace TechniquePages.Page

/-- How many lines stand before the closing fence, if it comes before a test heading. -/
def codeLength? : List Text → Option Nat
  | [] => none
  | text :: rest =>
    if isTestHeading text then none
    else if Marker.closesFence text then some 0
    else (codeLength? rest).map (· + 1)

/-- The kind of a line outside fenced blocks, given the lines after it. -/
def kindBefore (text : Text) (following : List Text) : LineKind :=
  match Marker.fenceLanguage? text with
  | some language => .fenceOpen language (codeLength? following).isSome
  | none => classify text

/--
The lines from a number on.  Inside a fenced block, `code` is the number of
lines before its closing fence.
-/
def scanFrom
    (number : Nat)
    (code : Option Nat) : List Text → List Line
  | [] => []
  | text :: rest =>
    match code with
    | some (code + 1) => ⟨number, text, .code⟩ :: scanFrom (number + 1) (some code) rest
    | some 0 => ⟨number, text, .fenceClose⟩ :: scanFrom (number + 1) none rest
    | none =>
      -- Without an end the fence opens nothing, and the next line is scanned as any other.
      let inside :=
        if (Marker.fenceLanguage? text).isSome then codeLength? rest else none
      ⟨number, text, kindBefore text rest⟩ :: scanFrom (number + 1) inside rest

/-- The lines of a page with their numbers and kinds. -/
def scan (page : Text) : List Line :=
  scanFrom 1 none page.lines

@[simp]
theorem scanFrom_nil
    (number : Nat)
    (code : Option Nat) :
    scanFrom number code [] = [] := rfl

/-- Scanning keeps every line's text. -/
theorem map_text_scanFrom
    (number : Nat)
    (code : Option Nat)
    (texts : List Text) :
    (scanFrom number code texts).map Line.text = texts := by
  induction texts generalizing number code with
  | nil => rfl
  | cons text rest hypothesis =>
    cases code with
    | none => simp [scanFrom, hypothesis]
    | some count => cases count <;> simp [scanFrom, hypothesis]

/-!
## Sections

A section reaches from its test heading to the next one.
-/

/-- The lines of one test, below its heading. -/
structure Section where
  name : Text
  body : List Line
  deriving DecidableEq

/-- The preamble and the sections of a page. -/
def divide : List Line → List Line × List Section
  | [] => ([], [])
  | line :: rest =>
    let (before, sections) := divide rest
    match line.kind.testName? with
    | some name => ([], ⟨name, before⟩ :: sections)
    | none => (line :: before, sections)

/-- The lines before the first test heading. -/
def preamble (lines : List Line) : List Line :=
  (divide lines).1

/-- The sections of a page in order. -/
def sections (lines : List Line) : List Section :=
  (divide lines).2

@[simp]
theorem divide_nil : divide [] = ([], []) := rfl

/-!
## Fenced blocks

A block's content is the text between its fences, trimmed, with references
replaced; it is written trimmed and as it is.
-/

/-- A block's content, and the lines after its closing fence. -/
structure FencedBlock where
  content : Text
  rest : List Line
  deriving DecidableEq

namespace FencedBlock

/-- The lines up to a closing fence, and those after it. -/
def untilClose? : List Line → Option (List Line × List Line)
  | [] => none
  | line :: rest =>
    if line.kind = .fenceClose then some ([], rest)
    else (untilClose? rest).map fun (inside, after) => (line :: inside, after)

/-- A fence that opens a block with an end. -/
def opens? : LineKind → Option Unit
  | .fenceOpen _ true => some ()
  | _ => none

/-- The first fenced block among lines, whichever heading it stands under. -/
def first? (lines : List Line) : Option FencedBlock := do
  let ((), inside) ← Line.afterFirst? opens? lines
  let (code, rest) ← untilClose? inside
  some ⟨Html.decode (Line.join code).trim, rest⟩

/-- The lines of a written block. -/
def write (language content : Text) : List Text :=
  ["```".toList ++ language, content.trim, "```".toList]

end FencedBlock

end TechniquePages.Page
