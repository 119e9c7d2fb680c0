import ScriptCheck.Text.Invisible
import ScriptCheck.Text.Wide

/-! # Columns of a fixed-pitch display

How many cells a character fills, where tab stops lie, and padding to a width. Padding counts
characters, because it is applied to ASCII labels and numbers.
-/

namespace ScriptCheck.Text

/-- Hangul vowels and final consonants, which join the syllable before them. -/
def conjoining : CodePoints := [(0x1160, 0x11ff), (0xd7b0, 0xd7c6), (0xd7cb, 0xd7fb)]

/-- Marks that are drawn above or below the characters after them. -/
def overlaid : CodePoints :=
  [(0x605, 0x605), (0x70f, 0x70f), (0x890, 0x891), (0x8e2, 0x8e2), (0xa8fa, 0xa8fa)]

/-- Characters whose cells follow from no property: the filler of a Hangul consonant keeps the place
of a wide character, a Khmer vowel and a Khmer sign are drawn as two and three letters, and the
Tifinagh joiner keeps a cell unless its font joins the letters beside it. -/
def irregular : List (Char × Nat) :=
  [('\u115f', 2), ('\u17a4', 2), ('\u17d8', 3), ('\u2d7f', 1)]

/-- The number of cells that `c` fills: none for a control character and for one that combines with
its neighbours, two for a wide one. -/
def columns (c : Char) : Nat :=
  if isPlain c then 1
  else if control.has c then 0
  else match irregular.lookup c with
    | some cells => cells
    | none =>
      if ignorable.has c || combining.has c || conjoining.has c || overlaid.has c then 0
      else if wide.has c then 2
      else 1

def tabWidth : Nat := 4

/-- The cells that `c` fills when it starts at `column`: a tab reaches to the next tab stop. -/
def columnsAt (column : Nat) (c : Char) : Nat :=
  if c = '\t' then tabWidth - column % tabWidth else columns c

/-- A character in its place: the offset of its first byte and the number of cells it fills. -/
structure Placed where
  offset : Nat
  width : Nat
  char : Char
deriving DecidableEq, Repr

def Placed.stop (placed : Placed) : Nat := placed.offset + placed.char.utf8Size

/-- The characters of a line in their places. -/
def layout (offset column : Nat) : List Char → List Placed
  | [] => []
  | c :: rest =>
    let width := columnsAt column c
    ⟨offset, width, c⟩ :: layout (offset + c.utf8Size) (column + width) rest

/-- Spaces in front of `text`, up to `width` characters in all. -/
def padLeft (width : Nat) (text : List Char) : List Char :=
  List.replicate (width - text.length) ' ' ++ text

/-- Spaces behind `text`, up to `width` characters in all. -/
def padRight (width : Nat) (text : List Char) : List Char :=
  text ++ List.replicate (width - text.length) ' '

/-- Spaces on both sides of `text`, up to `width` characters in all, an odd one behind. -/
def centre (width : Nat) (text : List Char) : List Char :=
  padRight width (List.replicate ((width - text.length) / 2) ' ' ++ text)

end ScriptCheck.Text
