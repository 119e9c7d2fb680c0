import ScriptCheck.Text.Bytes
import ScriptCheck.Text.Columns

/-! # Lines of a source

A source is cut after each line feed, so that one which ends with a line feed has one more, empty,
line. A line knows its number and the offset of its first byte.
-/

namespace ScriptCheck

/-- A line of a source, with the line feed at its end. -/
structure Line where
  number : Nat
  start : Nat
  chars : List Char
deriving DecidableEq, Repr

namespace Line

/-- Cuts a text after each line feed. -/
def cut : List Char → List (List Char)
  | [] => [[]]
  | c :: rest =>
    if c = '\n' then [c] :: cut rest
    else match cut rest with
      | [] => [[c]]
      | line :: lines => (c :: line) :: lines

/-- Lines in a row, of which the first has the given number and offset. -/
def place (number start : Nat) : List (List Char) → List Line
  | [] => []
  | cs :: rest => ⟨number, start, cs⟩ :: place (number + 1) (start + Text.byteLength cs) rest

def ofSource (source : String) : List Line := place 1 0 (cut source.toList)

/-- The line that holds the byte at `offset`: the last one that does not begin after it. -/
def holding? (lines : List Line) (offset : Nat) : Option Line :=
  (lines.takeWhile (·.start ≤ offset)).getLast?

/-- The column of the byte at `offset`, which counts the characters that end at or before it. -/
def column (line : Line) (offset : Nat) : Nat :=
  1 + ((Text.layout line.start 0 line.chars).takeWhile (·.stop ≤ offset)).length

/-- A line feed, a carriage return and NUL are not shown at the end of a line. -/
def isLineEnd (c : Char) : Bool := c == '\n' || c == '\r' || c == '\x00'

/-- The characters of a line without its end. -/
def text (line : Line) : List Char := (line.chars.reverse.dropWhile isLineEnd).reverse

/-- The characters of a line in their places, which count from the beginning of the line. -/
def layout (line : Line) : List Text.Placed := Text.layout 0 0 line.text

/-- The text of a line as it is shown: each tab as spaces up to the next tab stop. -/
def shown (line : Line) : List Char :=
  line.layout.flatMap fun placed =>
    if placed.char = '\t' then List.replicate placed.width ' ' else [placed.char]

/-- The number of cells of the characters that begin before `offset`, which counts from the line. -/
def cellsBefore (line : Line) (offset : Nat) : Nat :=
  (line.layout.takeWhile (·.offset < offset)).foldl (fun cells placed => cells + placed.width) 0

/-- The number of bytes of the white space that a line begins with. -/
def indentation (line : Line) : Nat := Text.byteLength (line.text.takeWhile Text.isBlank)

end Line

end ScriptCheck
