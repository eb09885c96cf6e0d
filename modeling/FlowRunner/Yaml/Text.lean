import FlowRunner.Number.Reading
import FlowRunner.Yaml.Cursor

/-!
# YAML scalars

The text of a scalar in its five styles: plain, in single or double quotes, literal and folded. A
line break inside a flow scalar counts as a blank, unless more breaks follow; those stay. A literal
block keeps its breaks; a folded block joins lines that are not indented further.
-/

namespace FlowRunner.Yaml

/-- The styles that matter to a reader: plain text may mean a number or a word, literal text may be
tagged as one, and quoted text is text. -/
inductive Style
  | plain
  | quoted
  | literal
  | folded
  deriving DecidableEq, Repr

namespace Text

/-- The gap between two stretches of text: the blanks of one line, or line breaks. -/
structure Gap where
  /-- Blanks before any break. -/
  blanks : List Char
  /-- The first break, if it has a text. -/
  first : List Char
  /-- The breaks after the first. -/
  later : List Char
  /-- Whether a break has been passed. -/
  broken : Bool

/-- No gap. -/
def Gap.none : Gap := ⟨[], [], [], false⟩

/-- The text that stands for a gap. -/
def Gap.text (g : Gap) : List Char :=
  if g.broken then
    if g.first = ['\n'] then
      if g.later.isEmpty then [' '] else g.later
    else g.first ++ g.later
  else g.blanks

/-- Passes blanks and breaks. In a block, a tab may not stand where indentation is expected, that is
before column `indent` of a later line; with `indent` zero it may stand anywhere. -/
def takeGap (indent : Nat) : (fuel : Nat) → Gap → Cursor → Option (Gap × Cursor)
  | 0, _, _ => none
  | fuel + 1, g, c =>
    match c.rest with
    | [] => some (g, c)
    | x :: _ =>
      if isBlank x then
        if g.broken && c.column < indent && x == '\t' then none
        else
          let g := if g.broken then g else { g with blanks := g.blanks ++ [x] }
          takeGap indent fuel g (c.skip 1)
      else if isBreak x then
        let (b, c) := c.takeBreak
        let g :=
          if g.broken then { g with later := g.later ++ b }
          else { g with blanks := [], first := b, broken := true }
        takeGap indent fuel g c
      else some (g, c)

/-! ## Quoted scalars -/

/-- The value of an escape of one letter after the backslash. -/
def escape? : Char → Option Char
  | '0' => some (Char.ofNat 0)
  | 'a' => some (Char.ofNat 7)
  | 'b' => some (Char.ofNat 8)
  | 't' => some '\t'
  | '\t' => some '\t'
  | 'n' => some '\n'
  | 'v' => some (Char.ofNat 11)
  | 'f' => some (Char.ofNat 12)
  | 'r' => some '\r'
  | 'e' => some (Char.ofNat 27)
  | ' ' => some ' '
  | '"' => some '"'
  | '/' => some '/'
  | '\\' => some '\\'
  | 'N' => some (Char.ofNat 0x85)
  | '_' => some (Char.ofNat 0xA0)
  | 'L' => some (Char.ofNat 0x2028)
  | 'P' => some (Char.ofNat 0x2029)
  | _ => none

/-- The number of hexadecimal digits after a letter that announces them. -/
def codeLength? : Char → Option Nat
  | 'x' => some 2
  | 'u' => some 4
  | 'U' => some 8
  | _ => none

/-- A character by its hexadecimal code; surrogates and codes past the last character are refused.
-/
def codeChar? (digits : List Char) : Option Char :=
  (Reading.digits? 16 digits).bind fun n =>
    if (0xD800 ≤ n ∧ n ≤ 0xDFFF) ∨ 0x10FFFF < n then none else some (Char.ofNat n)

/-- Reads up to the next gap or to the quote. Gives the text, whether an escaped line break ended
it, and the place. -/
def takeQuotedPart (single : Bool) :
    (fuel : Nat) → List Char → Cursor → Option (List Char × Bool × Cursor)
  | 0, _, _ => none
  | fuel + 1, soFar, c =>
    match c.rest with
    | [] => some (soFar, false, c)
    | x :: more =>
      if isGap x then some (soFar, false, c)
      else if single then
        if x = '\'' then
          match more with
          | '\'' :: _ => takeQuotedPart single fuel ('\'' :: soFar) (c.skip 2)
          | _ => some (soFar, false, c)
        else takeQuotedPart single fuel (x :: soFar) (c.skip 1)
      else if x = '"' then some (soFar, false, c)
      else if x = '\\' then
        match more with
        | [] => none
        | e :: _ =>
          if isBreak e then some (soFar, true, (c.skip 1).skipBreak)
          else
            match escape? e, codeLength? e with
            | some y, _ => takeQuotedPart single fuel (y :: soFar) (c.skip 2)
            | none, some n =>
              let digits := (c.rest.drop 2).take n
              if digits.length = n then
                match codeChar? digits with
                | some y => takeQuotedPart single fuel (y :: soFar) (c.skip (2 + n))
                | none => none
              else none
            | none, none => none
      else takeQuotedPart single fuel (x :: soFar) (c.skip 1)

/-- Reads a quoted scalar up to its closing quote; `soFar` is its text, backwards. -/
def takeQuoted (single : Bool) : (fuel : Nat) → List Char → Cursor → Option (List Char × Cursor)
  | 0, _, _ => none
  | fuel + 1, soFar, c =>
    if c.marksDocument '-' || c.marksDocument '.' then none
    else if c.atEnd then none
    else
      match takeQuotedPart single (c.rest.length + 1) soFar c with
      | none => none
      | some (soFar, escapedBreak, c) =>
        if c.looksAt 0 (if single then '\'' else '"') then some (soFar.reverse, c.skip 1)
        else
          match takeGap 0 (c.rest.length + 1) { Gap.none with broken := escapedBreak } c with
          | none => none
          | some (g, c) => takeQuoted single fuel (g.text.reverse ++ soFar) c

/-! ## Plain scalars -/

/-- The brackets and commas that end plain text inside flow collections. -/
def isFlowMark (x : Char) : Bool :=
  x == ',' || x == '[' || x == ']' || x == '\x7b' || x == '\x7d'

/-- Reads the characters of a plain scalar up to a gap or an indicator. -/
def takePlainPart (flow : Bool) :
    (fuel : Nat) → List Char → Cursor → Option (List Char × Cursor)
  | 0, _, _ => none
  | fuel + 1, soFar, c =>
    match c.rest with
    | [] => some (soFar, c)
    | x :: more =>
      if isGap x then some (soFar, c)
      else
        let clash := flow && x == ':' &&
          (match more with
            | y :: _ => isFlowMark y || y == '?'
            | [] => false)
        if clash then none
        else if x == ':' && c.gapAt 1 then some (soFar, c)
        else if flow && isFlowMark x then some (soFar, c)
        else takePlainPart flow fuel (x :: soFar) (c.skip 1)

/-- Reads a plain scalar. `indent` is the column below which it ends in a block. Gives its text,
whether it ended after a line break, and the place. -/
def takePlain (flow : Bool) (indent : Nat) :
    (fuel : Nat) → List Char → Gap → Cursor → Option (List Char × Bool × Cursor)
  | 0, _, _, _ => none
  | fuel + 1, soFar, gap, c =>
    if c.marksDocument '-' || c.marksDocument '.' || c.looksAt 0 '#' then
      some (soFar.reverse, gap.broken, c)
    else
      match takePlainPart flow (c.rest.length + 1) [] c with
      | none => none
      | some (part, after) =>
        let soFar := if part.isEmpty then soFar else part ++ gap.text.reverse ++ soFar
        let gap := if part.isEmpty then gap else Gap.none
        match after.rest with
        | [] => some (soFar.reverse, gap.broken, after)
        | x :: _ =>
          if isGap x then
            match takeGap indent (after.rest.length + 1) gap after with
            | none => none
            | some (gap, c) =>
              if !flow && c.column < indent then some (soFar.reverse, gap.broken, c)
              else takePlain flow indent fuel soFar gap c
          else some (soFar.reverse, gap.broken, after)

/-! ## Block scalars -/

/-- What becomes of the line breaks at the end of a block scalar. -/
inductive Chomping
  | clip
  | strip
  | keep
  deriving DecidableEq

/-- Passes indentation and empty lines. With an unknown indentation, the deepest line seen is it. -/
def takeIndentation (indent : Option Nat) :
    (fuel deepest : Nat) → List Char → Cursor → Option (Nat × List Char × Cursor)
  | 0, _, _, _ => none
  | fuel + 1, deepest, breaks, c =>
    let room := match indent with
      | none => c.rest.length
      | some n => n - c.column
    let c := c.skip ((c.rest.take room).takeWhile (· == ' ')).length
    let deepest := max deepest c.column
    let short := match indent with
      | none => true
      | some n => c.column < n
    if short && c.looksAt 0 '\t' then none
    else
      match c.rest with
      | [] => some (deepest, breaks, c)
      | x :: _ =>
        if isBreak x then
          let (b, c) := c.takeBreak
          takeIndentation indent fuel deepest (breaks ++ b) c
        else some (deepest, breaks, c)

/-- Reads the lines of a block scalar. `lead` is the break after the line before, `breaks` the empty
lines after that, `blankLead` whether that line began with a blank. -/
def takeLines (folded : Bool) (indent : Nat) :
    (fuel : Nat) → (soFar lead breaks : List Char) → (blankLead : Bool) → Cursor →
    Option (List Char × List Char × List Char × Cursor)
  | 0, _, _, _, _, _ => none
  | fuel + 1, soFar, lead, breaks, blankLead, c =>
    if c.column ≠ indent ∨ c.atEnd then some (soFar, lead, breaks, c)
    else
      let blank := match c.rest with
        | x :: _ => isBlank x
        | [] => false
      let joined :=
        if folded && lead == ['\n'] && !blankLead && !blank then
          if breaks.isEmpty then [' '] else []
        else lead
      let (line, c) := c.takeWhile (fun x => !isBreak x)
      let soFar := line.reverse ++ breaks.reverse ++ joined.reverse ++ soFar
      let (lead, c) := c.takeBreak
      match takeIndentation (some indent) (c.rest.length + 1) 0 [] c with
      | none => none
      | some (_, breaks, c) => takeLines folded indent fuel soFar lead breaks blank c

/-- Reads the signs after a block scalar's mark: chomping and indentation, in either order. -/
def blockHeader (c : Cursor) : Option (Chomping × Option Nat × Cursor) :=
  let chomping (c : Cursor) : Option (Chomping × Cursor) :=
    if c.looksAt 0 '+' then some (.keep, c.skip 1)
    else if c.looksAt 0 '-' then some (.strip, c.skip 1)
    else none
  let digit (c : Cursor) : Option (Option Nat × Cursor) :=
    match c.rest with
    | x :: _ =>
      if x = '0' then none
      else if x.isDigit then some (some (x.toNat - 48), c.skip 1)
      else some (none, c)
    | [] => some (none, c)
  match chomping c with
  | some (how, c) => (digit c).map fun (n, c) => (how, n, c)
  | none =>
    (digit c).map fun (n, c) =>
      match n with
      | none => (.clip, none, c)
      | some _ =>
        match chomping c with
        | some (how, c) => (how, n, c)
        | none => (.clip, n, c)

/-- Reads a block scalar after its mark; `parent` is the indentation around it, `-1` at the top. -/
def takeBlock (folded : Bool) (parent : Int) (c : Cursor) : Option (List Char × Cursor) := do
  let (chomping, increment, c) ← blockHeader c
  let c := c.skipComment
  if !c.atLineEnd then none
  else
    let c := c.skipBreak
    let given := increment.map fun n => n + parent.toNat
    let (deepest, breaks, c) ← takeIndentation given (c.rest.length + 1) 0 [] c
    let indent := given.getD (max deepest (max (parent + 1).toNat 1))
    let (soFar, lead, breaks, c) ← takeLines folded indent (c.rest.length + 1) [] [] breaks false c
    let ending := match chomping with
      | .strip => []
      | .clip => lead
      | .keep => lead ++ breaks
    some (soFar.reverse ++ ending, c)

end Text

end FlowRunner.Yaml
