/-!
# A place in a YAML text

A cursor is the rest of a text with the line and column it starts at. Line breaks are LF, CR, CR LF,
NEL and the two Unicode separators; blanks are the space and the tab.
-/

namespace FlowRunner.Yaml

/-- A place in a text. -/
structure Cursor where
  rest : List Char
  index : Nat
  line : Nat
  column : Nat
  deriving Inhabited

/-- Characters that may stand in a YAML text. -/
def isAllowed (c : Char) : Bool :=
  let n := c.toNat
  n == 0x09 || n == 0x0A || n == 0x0D || (0x20 ≤ n && n ≤ 0x7E) || n == 0x85 ||
    (0xA0 ≤ n && n ≤ 0xD7FF) || (0xE000 ≤ n && n ≤ 0xFFFD && n != 0xFEFF) || 0x10000 ≤ n

/-- Line breaks. -/
def isBreak (c : Char) : Bool :=
  let n := c.toNat
  n == 0x0A || n == 0x0D || n == 0x85 || n == 0x2028 || n == 0x2029

/-- Blanks within a line. -/
def isBlank (c : Char) : Bool :=
  c == ' ' || c == '\t'

/-- Blanks and line breaks. -/
def isGap (c : Char) : Bool :=
  isBlank c || isBreak c

/-- Characters of anchors and tag handles. -/
def isWord (c : Char) : Bool :=
  c.isAlphanum || c == '_' || c == '-'

namespace Cursor

/-- The start of a text. -/
def ofText (text : List Char) : Cursor :=
  ⟨text, 0, 0, 0⟩

/-- Whether the text has ended. -/
def atEnd (c : Cursor) : Bool :=
  c.rest.isEmpty

/-- The character `n` places ahead. -/
def peek? (c : Cursor) (n : Nat) : Option Char :=
  c.rest[n]?

/-- Whether the character `n` places ahead is `x`. -/
def looksAt (c : Cursor) (n : Nat) (x : Char) : Bool :=
  c.peek? n == some x

/-- Whether the place `n` ahead is a blank, a break or the end. -/
def gapAt (c : Cursor) (n : Nat) : Bool :=
  match c.peek? n with
  | none => true
  | some x => isGap x

/-- Whether the place is a break or the end. -/
def atLineEnd (c : Cursor) : Bool :=
  match c.rest with
  | [] => true
  | x :: _ => isBreak x

/-- Passes `n` characters of a line. -/
def skip (c : Cursor) (n : Nat) : Cursor :=
  ⟨c.rest.drop n, c.index + n, c.line, c.column + n⟩

/-- Passes the characters of a kind, which are no breaks, and gives them. -/
def takeWhile (p : Char → Bool) (c : Cursor) : List Char × Cursor :=
  let found := c.rest.takeWhile p
  (found, c.skip found.length)

/-- Passes the characters of a kind, which are no breaks. -/
def skipWhile (p : Char → Bool) (c : Cursor) : Cursor :=
  (c.takeWhile p).2

/-- Passes a line break, if one is here, and gives it as it counts in a text: as LF, unless it is
one of the Unicode separators. -/
def takeBreak (c : Cursor) : List Char × Cursor :=
  match c.rest with
  | '\r' :: '\n' :: rest => (['\n'], ⟨rest, c.index + 2, c.line + 1, 0⟩)
  | x :: rest =>
    if isBreak x then
      (if x.toNat = 0x2028 ∨ x.toNat = 0x2029 then [x] else ['\n'],
        ⟨rest, c.index + 1, c.line + 1, 0⟩)
    else ([], c)
  | [] => ([], c)

/-- Passes a line break, if one is here. -/
def skipBreak (c : Cursor) : Cursor :=
  c.takeBreak.2

/-- Passes blanks and a comment up to the end of the line. -/
def skipComment (c : Cursor) : Cursor :=
  let c := c.skipWhile isBlank
  if c.looksAt 0 '#' then c.skipWhile (fun x => !isBreak x) else c

/-- Whether a line starts here with three marks followed by a gap. -/
def marksDocument (c : Cursor) (mark : Char) : Bool :=
  c.column == 0 && c.looksAt 0 mark && c.looksAt 1 mark && c.looksAt 2 mark && c.gapAt 3

end Cursor

end FlowRunner.Yaml
