import FlowRunner.Yaml.Text

/-!
# YAML tokens

`Token.ofText?` cuts a text into tokens. Indentation becomes tokens of its own: a deeper column
opens a block, a shallower one closes it. A key is recognised only by the colon after it, so every
token that may start a key on its line leaves a note (`KeyNote`), and the colon inserts the key
token there. A note lasts for one line and 1024 characters.
-/

namespace FlowRunner.Yaml

/-- A token of a YAML text. -/
inductive Token
  | version (major minor : Nat)
  /-- Declares what a tag handle stands for. -/
  | handleMeaning (name start : String)
  | documentStart
  | documentEnd
  | blockListStart
  | blockMapStart
  | blockEnd
  | flowListStart
  | flowListEnd
  | flowMapStart
  | flowMapEnd
  | entry
  | separator
  | key
  | value
  | alias (name : String)
  | anchor (name : String)
  /-- A tag: a handle, empty for a tag written in full, and what follows it. -/
  | tag (handle rest : String)
  | scalar (text : String) (style : Style)
  deriving DecidableEq, Repr

namespace Token

/-- A place where a key may have started. -/
structure KeyNote where
  /-- The number of tokens before it. -/
  position : Nat
  index : Nat
  line : Nat
  column : Nat
  /-- Whether the block layout demands a key there. -/
  required : Bool

/-- The state of the scan. -/
structure Scan where
  cursor : Cursor
  tokens : Array Token
  /-- The column of the innermost block, `-1` outside all blocks. -/
  indent : Int
  /-- The columns of the blocks around it. -/
  outer : List Int
  /-- The number of open flow collections. -/
  flow : Nat
  /-- Whether a key may start here. -/
  keyAllowed : Bool
  /-- The last note of this flow collection. -/
  note : Option KeyNote
  /-- The notes of the flow collections around it. -/
  outerNotes : List (Option KeyNote)

namespace Scan

/-- The start of a text. -/
def start (text : List Char) : Scan :=
  ⟨.ofText text, #[], -1, [], 0, true, none, []⟩

/-- Appends a token. -/
def emit (s : Scan) (t : Token) : Scan :=
  { s with tokens := s.tokens.push t }

/-- Appends a token of `n` characters. -/
def emitMark (s : Scan) (n : Nat) (t : Token) : Scan :=
  { s with tokens := s.tokens.push t, cursor := s.cursor.skip n }

/-- Forgets the note here; fails when a key was required. -/
def dropNote (s : Scan) : Option Scan :=
  match s.note with
  | some n => if n.required then none else some { s with note := none }
  | none => some s

/-- Notes that a key may start here. -/
def saveNote (s : Scan) : Option Scan :=
  if s.keyAllowed then
    s.dropNote.map fun s =>
      { s with
        note := some
          { position := s.tokens.size
            index := s.cursor.index
            line := s.cursor.line
            column := s.cursor.column
            required := s.flow == 0 && s.indent == (s.cursor.column : Int) } }
  else some s

/-- Whether a note no longer counts. -/
def isStale (c : Cursor) (n : KeyNote) : Bool :=
  n.line < c.line || n.index + 1024 < c.index

/-- Forgets a stale note; fails when a key was required. -/
def freshNote (c : Cursor) : Option KeyNote → Option (Option KeyNote)
  | none => some none
  | some n => if isStale c n then (if n.required then none else some none) else some (some n)

/-- Forgets every stale note; fails when a key was required. -/
def dropStale (s : Scan) : Option Scan := do
  let note ← freshNote s.cursor s.note
  let outerNotes ← s.outerNotes.mapM (freshNote s.cursor)
  some { s with note, outerNotes }

/-- Opens a block at a column deeper than the current one, before the token at a position. -/
def openBlock (s : Scan) (column position : Nat) (t : Token) : Scan :=
  if s.flow == 0 && s.indent < (column : Int) then
    { s with
      indent := column
      outer := s.indent :: s.outer
      tokens := s.tokens.insertIdx! position t }
  else s

/-- Closes the blocks deeper than a column. -/
def closeBlocks (s : Scan) (column : Int) : Scan :=
  if s.flow == 0 then go s s.outer else s
where
  /-- Closes blocks while they are deeper. -/
  go (s : Scan) : List Int → Scan
    | [] => s
    | around :: more =>
      if column < s.indent then
        go { s with indent := around, outer := more, tokens := s.tokens.push .blockEnd } more
      else s

/-- Passes blanks, comments and line breaks. Tabs count as blanks where no key can start. -/
def skipGaps : (fuel : Nat) → Scan → Scan
  | 0, s => s
  | fuel + 1, s =>
    let tabs := s.flow != 0 || !s.keyAllowed
    let c := s.cursor.skipWhile (fun x => x == ' ' || (tabs && x == '\t'))
    let c := if c.looksAt 0 '#' then c.skipWhile (fun x => !isBreak x) else c
    match c.rest with
    | [] => { s with cursor := c }
    | x :: _ =>
      if isBreak x then
        skipGaps fuel { s with cursor := c.skipBreak, keyAllowed := s.keyAllowed || s.flow == 0 }
      else { s with cursor := c }

/-! ## Directives, anchors and tags -/

/-- A number of at most nine digits. -/
def versionNumber (c : Cursor) : Option (Nat × Cursor) :=
  let (digits, c) := c.takeWhile Char.isDigit
  if digits.length ≤ 9 then (Reading.digits? 10 digits).map fun n => (n, c) else none

/-- A tag handle: words between exclamation marks, the second optional. -/
def tagHandle (directive : Bool) (c : Cursor) : Option (List Char × Cursor) :=
  if !c.looksAt 0 '!' then none
  else
    let (name, c) := (c.skip 1).takeWhile isWord
    if c.looksAt 0 '!' then some ('!' :: (name ++ ['!']), c.skip 1)
    else if directive && !name.isEmpty then none
    else some ('!' :: name, c)

/-- Characters of a tag, apart from escapes; the last three only inside angle brackets. -/
def isTagChar (verbatim : Bool) (x : Char) : Bool :=
  isWord x || ";/?:@&=+$.!~*'()".toList.contains x ||
    (verbatim && (x == ',' || x == '[' || x == ']'))

/-- The bytes of percent escapes, `n` of them. -/
def escapedBytes : (n : Nat) → Cursor → Option (List Nat × Cursor)
  | 0, c => some ([], c)
  | n + 1, c =>
    match c.rest with
    | '%' :: a :: b :: _ =>
      match Reading.digits? 16 [a, b] with
      | some v => (escapedBytes n (c.skip 3)).map fun (vs, c) => (v :: vs, c)
      | none => none
    | _ => none

/-- A character written as percent escapes of its bytes. -/
def escapedChar (c : Cursor) : Option (Char × Cursor) := do
  let (first, _) ← escapedBytes 1 c
  match first with
  | [b] =>
    let width := if b < 0x80 then 1 else if b / 0x20 = 6 then 2 else if b / 0x10 = 14 then 3
      else if b / 8 = 30 then 4 else 0
    if width = 0 then none
    else
      let (bytes, c) ← escapedBytes width c
      let tail := bytes.drop 1
      if tail.all (fun b => b / 0x40 == 2) then
        let lead := if width = 1 then b else b % (128 >>> width)
        some (Char.ofNat (tail.foldl (fun n b => n * 64 + b % 64) lead), c)
      else none
  | _ => none

/-- The characters of a tag, with escapes read; `soFar` is backwards. -/
def tagChars (verbatim : Bool) : (fuel : Nat) → List Char → Cursor → Option (List Char × Cursor)
  | 0, _, _ => none
  | fuel + 1, soFar, c =>
    match c.rest with
    | [] => some (soFar.reverse, c)
    | x :: _ =>
      if x = '%' then
        match escapedChar c with
        | some (y, c) => tagChars verbatim fuel (y :: soFar) c
        | none => none
      else if isTagChar verbatim x then tagChars verbatim fuel (x :: soFar) (c.skip 1)
      else some (soFar.reverse, c)

/-- Reads the part of a tag after its handle. -/
def tagRest (verbatim : Bool) (c : Cursor) : Option (List Char × Cursor) :=
  tagChars verbatim (c.rest.length + 1) [] c

/-- A tag. -/
def scanTag (s : Scan) : Option Scan := do
  let c := s.cursor
  let (handle, rest, c) ←
    if c.looksAt 1 '<' then do
      let (rest, c) ← tagRest true (c.skip 2)
      if rest.isEmpty || !c.looksAt 0 '>' then none else some ([], rest, c.skip 1)
    else do
      let (handle, c) ← tagHandle false c
      if 1 < handle.length && handle.getLast? == some '!' then do
        let (rest, c) ← tagRest false c
        if rest.isEmpty then none else some (handle, rest, c)
      else do
        let (rest, c) ← tagRest false c
        let rest := handle.drop 1 ++ rest
        if rest.isEmpty then some ([], ['!'], c) else some (['!'], rest, c)
  if c.gapAt 0 || (s.flow != 0 && c.looksAt 0 ',') then
    some ({ s with cursor := c }.emit (.tag (String.ofList handle) (String.ofList rest)))
  else none

/-- An anchor or an alias: a word, followed by a gap or an indicator. -/
def scanName (s : Scan) (make : String → Token) : Option Scan :=
  let (name, c) := (s.cursor.skip 1).takeWhile isWord
  let ends := match c.rest with
    | [] => true
    | x :: _ => isGap x || "?:,]\x7d%@\x60".toList.contains x
  if name.isEmpty || !ends then none
  else some ({ s with cursor := c }.emit (make (String.ofList name)))

/-- A directive: the version of the language, or the meaning of a tag handle. -/
def scanDirective (s : Scan) : Option Scan := do
  let (name, c) := (s.cursor.skip 1).takeWhile isWord
  if name.isEmpty || !c.gapAt 0 then none
  else
    let (token, c) ←
      if name = "YAML".toList then do
        let (major, c) ← versionNumber (c.skipWhile isBlank)
        if !c.looksAt 0 '.' then none
        else do
          let (minor, c) ← versionNumber (c.skip 1)
          some (Token.version major minor, c)
      else if name = "TAG".toList then do
        let (handle, c) ← tagHandle true (c.skipWhile isBlank)
        if !c.gapAt 0 || c.atLineEnd then none
        else do
          let (start, c) ← tagRest true (c.skipWhile isBlank)
          if start.isEmpty || !c.gapAt 0 then none
          else some (Token.handleMeaning (String.ofList handle) (String.ofList start), c)
      else none
    let c := c.skipComment
    if c.atLineEnd then some ({ s with cursor := c.skipBreak }.emit token) else none

/-! ## One token -/

/-- Starts a flow collection. -/
def openFlow (s : Scan) (t : Token) : Option Scan :=
  s.saveNote.map fun s =>
    { s.emitMark 1 t with
      flow := s.flow + 1, keyAllowed := true, note := none, outerNotes := s.note :: s.outerNotes }

/-- Ends a flow collection. -/
def closeFlow (s : Scan) (t : Token) : Option Scan :=
  s.dropNote.map fun s =>
    let s := { s.emitMark 1 t with keyAllowed := false }
    match s.outerNotes with
    | around :: more => { s with flow := s.flow - 1, note := around, outerNotes := more }
    | [] => s

/-- The colon: the value of the noted key, or of a key that was marked as one. -/
def scanValue (s : Scan) : Option Scan :=
  match s.note with
  | some n =>
    let s := { s with tokens := s.tokens.insertIdx! n.position .key, note := none }
    let s := s.openBlock n.column n.position .blockMapStart
    some ({ s with keyAllowed := false }.emitMark 1 .value)
  | none =>
    if s.flow == 0 then
      if s.keyAllowed then
        let s := s.openBlock s.cursor.column s.tokens.size .blockMapStart
        some ({ s with keyAllowed := true }.emitMark 1 .value)
      else none
    else some ({ s with keyAllowed := false }.emitMark 1 .value)

/-- A mark that opens a block in block context: the dash of an entry or the mark of a key. -/
def scanMark (s : Scan) (block mark : Token) (allowed : Bool) : Option Scan := do
  let s ←
    if s.flow == 0 then
      if s.keyAllowed then some (s.openBlock s.cursor.column s.tokens.size block) else none
    else some s
  let s ← s.dropNote
  some ({ s with keyAllowed := allowed }.emitMark 1 mark)

/-- A document mark. -/
def scanDocumentMark (s : Scan) (t : Token) : Option Scan :=
  (s.closeBlocks (-1)).dropNote.map fun s => { s with keyAllowed := false }.emitMark 3 t

/-- Whether a plain scalar starts here. A tab starts none: where a key may start it is no blank
either, so a block cannot be indented with it. -/
def startsPlain (s : Scan) (x : Char) : Bool :=
  let c := s.cursor
  !(isGap x || "-?:,[]\x7b\x7d#&*!|>'\"%@\x60".toList.contains x) ||
    (x == '-' && !c.gapAt 1) ||
    (s.flow == 0 && (x == '?' || x == ':') && !c.gapAt 1)

/-- Reads the next token of a line that starts with `x`. -/
def next (s : Scan) (x : Char) : Option Scan :=
  let c := s.cursor
  let wordToken (scan : Scan → Option Scan) : Option Scan := do
    let s ← s.saveNote
    scan { s with keyAllowed := false }
  if c.column == 0 && x == '%' then
    (s.closeBlocks (-1)).dropNote.bind fun s => { s with keyAllowed := false }.scanDirective
  else if c.marksDocument '-' then s.scanDocumentMark .documentStart
  else if c.marksDocument '.' then s.scanDocumentMark .documentEnd
  else if x == '[' then s.openFlow .flowListStart
  else if x == '\x7b' then s.openFlow .flowMapStart
  else if x == ']' then s.closeFlow .flowListEnd
  else if x == '\x7d' then s.closeFlow .flowMapEnd
  else if x == ',' then
    s.dropNote.map fun s => { s with keyAllowed := true }.emitMark 1 .separator
  else if x == '-' && c.gapAt 1 then s.scanMark .blockListStart .entry true
  else if x == '?' && (s.flow != 0 || c.gapAt 1) then
    s.scanMark .blockMapStart .key (s.flow == 0)
  else if x == ':' && (s.flow != 0 || c.gapAt 1) then s.scanValue
  else if x == '*' then wordToken (·.scanName .alias)
  else if x == '&' then wordToken (·.scanName .anchor)
  else if x == '!' then wordToken scanTag
  else if (x == '|' || x == '>') && s.flow == 0 then do
    let s ← s.dropNote
    let (text, c) ← Text.takeBlock (x == '>') s.indent (s.cursor.skip 1)
    let style := if x == '>' then Style.folded else Style.literal
    some ({ s with keyAllowed := true, cursor := c }.emit (.scalar (String.ofList text) style))
  else if x == '\'' || x == '"' then
    wordToken fun s => do
      let (text, c) ← Text.takeQuoted (x == '\'') (c.rest.length + 1) [] (s.cursor.skip 1)
      some ({ s with cursor := c }.emit (.scalar (String.ofList text) .quoted))
  else if s.startsPlain x then
    wordToken fun s => do
      let (text, broken, c) ←
        Text.takePlain (s.flow != 0) (s.indent + 1).toNat (c.rest.length + 1) [] .none s.cursor
      some ({ s with cursor := c, keyAllowed := broken }.emit (.scalar (String.ofList text) .plain))
  else none

/-- Reads tokens to the end of the text. -/
def run : (fuel : Nat) → Scan → Option Scan
  | 0, _ => none
  | fuel + 1, s => do
    let s ← (s.skipGaps (s.cursor.rest.length + 1)).dropStale
    let s := s.closeBlocks s.cursor.column
    match s.cursor.rest with
    | [] => (s.closeBlocks (-1)).dropNote
    | x :: _ => do
      let s ← s.next x
      run fuel s

end Scan

/-- The tokens of a text; `none` when it is not YAML. A byte order mark may stand at its start. -/
def ofText? (text : String) : Option (List Token) :=
  let chars := match text.toList with
    | x :: rest => if x.toNat = 0xFEFF then rest else x :: rest
    | [] => []
  if chars.all isAllowed then
    (Scan.run (chars.length + 2) (Scan.start chars)).map fun s => s.tokens.toList
  else none

end Token

end FlowRunner.Yaml
