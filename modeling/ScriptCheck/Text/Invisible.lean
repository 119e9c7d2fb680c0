import ScriptCheck.Text.Unassigned
import ScriptCheck.Text.Combining

/-! # Characters that cannot be shown by themselves

Quoted text spells these out by their code points: control and format characters, code points
without a character, private use, separators other than the space, characters that combine with
the one before them, and those that a display is meant to ignore.
-/

namespace ScriptCheck.Text

def control : CodePoints := [(0x0, 0x1f), (0x7f, 0x9f)]

def format : CodePoints := [
  (0xad, 0xad), (0x600, 0x605), (0x61c, 0x61c), (0x6dd, 0x6dd), (0x70f, 0x70f), (0x890, 0x891),
  (0x8e2, 0x8e2), (0x180e, 0x180e), (0x200b, 0x200f), (0x202a, 0x202e), (0x2060, 0x2064),
  (0x2066, 0x206f), (0xfeff, 0xfeff), (0xfff9, 0xfffb), (0x110bd, 0x110bd), (0x110cd, 0x110cd),
  (0x13430, 0x1343f), (0x1bca0, 0x1bca3), (0x1d173, 0x1d17a), (0xe0001, 0xe0001),
  (0xe0020, 0xe007f)]

def privateUse : CodePoints := [
  (0xe000, 0xf8ff), (0xf0000, 0xffffd), (0x100000, 0x10fffd)]

/-- The space, line and paragraph separators (general categories `Zs`, `Zl`, `Zp`) except U+0020. -/
def separators : CodePoints := [
  (0xa0, 0xa0), (0x1680, 0x1680), (0x2000, 0x200a), (0x2028, 0x2029), (0x202f, 0x202f),
  (0x205f, 0x205f), (0x3000, 0x3000)]

/-- The characters that a display ignores unless it supports them (the property
`Default_Ignorable_Code_Point`). -/
def ignorable : CodePoints := [
  (0xad, 0xad), (0x34f, 0x34f), (0x61c, 0x61c), (0x115f, 0x1160), (0x17b4, 0x17b5),
  (0x180b, 0x180f), (0x200b, 0x200f), (0x202a, 0x202e), (0x2060, 0x206f), (0x3164, 0x3164),
  (0xfe00, 0xfe0f), (0xfeff, 0xfeff), (0xffa0, 0xffa0), (0xfff0, 0xfff8), (0x1bca0, 0x1bca3),
  (0x1d173, 0x1d17a), (0xe0000, 0xe0fff)]

/-- The visible ASCII characters and the space. -/
def isPlain (c : Char) : Bool := ' ' ≤ c && c ≤ '~'

/-- Whether quoted text writes `c` by its code point. -/
def isInvisible (c : Char) : Bool :=
  !isPlain c && (control.has c || format.has c || privateUse.has c || separators.has c ||
    ignorable.has c || combining.has c || unassigned.has c)

/-- The characters with the property `White_Space`. -/
def isBlank (c : Char) : Bool :=
  c == ' ' || c == '\u0085' || ('\t' ≤ c && c ≤ '\r') || separators.has c

end ScriptCheck.Text
