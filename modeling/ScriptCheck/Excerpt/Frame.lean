import ScriptCheck.Diagnostic
import ScriptCheck.Excerpt.Line

/-! # Excerpts

A diagnostic is shown with the lines of the source that it is about, inside a frame whose left edge
holds the line numbers. A range within one line is underlined with carets. A range over several
lines is marked by a bracket at their left; of its inner lines only the first and the last few are
shown.
-/

namespace ScriptCheck

structure SourceFile where
  name : String
  source : String
deriving DecidableEq, Repr

namespace Excerpt

/-- One row of a frame: the number of a line or a blank of the same width, the edge, the body. -/
def row (width : Nat) (number : Option Nat) (edge : Char) (body : List Char) : List Char :=
  let number := match number with
    | some n => Nat.toDigits 10 n
    | none => []
  Text.padLeft width number ++ ' ' :: edge :: body

def edge : Char := '│'

/-- The left edge where lines are left out. -/
def gap : Char := '·'

/-- A row with a line of the source, after what the bracket shows there. -/
def sourceRow (width : Nat) (bracket : String) (line : Line) : List Char :=
  row width (some line.number) edge (bracket.toList ++ line.shown)

/-- Carets under the characters of a line that the range from `start` to `stop` overlaps, and
spaces under those before its end. One more cell stands for the end of the line. -/
def carets (line : Line) (start stop : Nat) : List Char :=
  let lineEnd : Text.Placed := ⟨Text.byteLength line.text, 1, '\x00'⟩
  (line.layout ++ [lineEnd]).flatMap fun placed =>
    if placed.offset < stop ∧ start < placed.stop then List.replicate placed.width '^'
    else if placed.offset < stop then List.replicate placed.width ' '
    else []

def single (width : Nat) (line : Line) (start stop : Nat) : List (List Char) :=
  [row width none edge [],
   sourceRow width " " line,
   row width none edge (' ' :: carets line start (max stop (start + 1)))]

/-- The horizontal stroke of a bracket up to a caret. -/
def stroke (corner : Char) (cells : Nat) : List Char :=
  [' ', corner] ++ List.replicate cells '─' ++ ['^']

def linesAfterStart : Nat := 3

def linesBeforeStop : Nat := 1

/-- The lines strictly inside a range. Leaving out a single line would save nothing. -/
def innerRows (width : Nat) (lines : List Line) : List (List Char) :=
  let shown := lines.map (sourceRow width " │ ")
  if lines.length ≤ linesAfterStart + 1 + linesBeforeStop then shown
  else shown.take linesAfterStart ++ [row width none gap [' ', edge]] ++
    shown.drop (lines.length - linesBeforeStop)

/-- The row or rows of the first line of a range. When nothing but white space precedes the range
the bracket begins on the line itself. -/
def firstRows (width : Nat) (line : Line) (start : Nat) : List (List Char) :=
  if start ≤ line.indentation then [sourceRow width " ╭ " line]
  else [sourceRow width "   " line,
    row width none edge (stroke '╭' (line.cellsBefore (start + 1)))]

/-- A range over several lines. Offsets count from the line they lie in. -/
def multiple (width : Nat) (first : Line) (inner : List Line) (last : Line) (start stop : Nat) :
    List (List Char) :=
  [row width none edge [' ', ' ']] ++ firstRows width first start ++ innerRows width inner ++
    [sourceRow width " │ " last, row width none edge (stroke '╰' (last.cellsBefore stop))]

/-- The frame around the lines of a range, headed by the place where the range begins. -/
def frame (file : SourceFile) (span : Span) : List (List Char) :=
  let lines := Line.ofSource file.source
  match Line.holding? lines span.start, Line.holding? lines span.stop with
  | some first, some last =>
    let width := (Nat.toDigits 10 (max first.number last.number)).length
    let column := first.column span.start
    let place := s!" {file.name}:{first.number}:{column}"
    let start := span.start - first.start
    let stop := span.stop - last.start
    let rows :=
      if first.number = last.number then single width first start stop
      else
        let inner := lines.filter fun line =>
          first.number < line.number && line.number < last.number
        multiple width first inner last start stop
    row width none '┌' ('─' :: place.toList) :: rows
  | _, _ => []

end Excerpt

end ScriptCheck
