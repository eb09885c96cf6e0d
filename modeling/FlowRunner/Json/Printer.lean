import FlowRunner.Json.Value

/-!
# The text of JSON values

`Value.compact` writes a value without blanks; `Value.pretty` gives each item and member a line of
its own, two spaces deeper than its container. Both escape the quote, the backslash and the control
characters below U+0020 and write every other character as it is.
-/

namespace FlowRunner.Value

/-- A lower-case hexadecimal digit. -/
def hexDigit (n : Nat) : Char :=
  if n < 10 then Char.ofNat (48 + n) else Char.ofNat (87 + n)

/-- A character inside quotes. -/
def escapeChar (c : Char) : List Char :=
  if c = '"' then ['\\', '"']
  else if c = '\\' then ['\\', '\\']
  else if 32 ≤ c.toNat then [c]
  else if c = '\n' then ['\\', 'n']
  else if c = '\r' then ['\\', 'r']
  else if c = '\t' then ['\\', 't']
  else if c.toNat = 8 then ['\\', 'b']
  else if c.toNat = 12 then ['\\', 'f']
  else ['\\', 'u', '0', '0', hexDigit (c.toNat / 16), hexDigit (c.toNat % 16)]

/-- A text in quotes. -/
def quote (s : String) : String :=
  "\"" ++ String.ofList (s.toList.flatMap escapeChar) ++ "\""

/-- The text of a truth value. -/
def boolText (b : Bool) : String :=
  if b then "true" else "false"

mutual

/-- The text of a value without blanks. -/
def compact : Value → String
  | .null => "null"
  | .bool b => boolText b
  | .number n => n.text
  | .text s => quote s
  | .list items => "[" ++ compactItems items ++ "]"
  | .object members => "\x7b" ++ compactMembers members ++ "\x7d"

/-- Items parted by commas. -/
def compactItems : List Value → String
  | [] => ""
  | [v] => compact v
  | v :: next :: rest => compact v ++ "," ++ compactItems (next :: rest)

/-- Members parted by commas. -/
def compactMembers : List (String × Value) → String
  | [] => ""
  | [(k, v)] => quote k ++ ":" ++ compact v
  | (k, v) :: next :: rest => quote k ++ ":" ++ compact v ++ "," ++ compactMembers (next :: rest)

end

/-- A line break and the blanks that start a line at a depth. -/
def lineAt (depth : Nat) : String :=
  "\n" ++ String.ofList (List.replicate (2 * depth) ' ')

mutual

/-- The text of a value that stands at a depth. -/
def prettyAt (depth : Nat) : Value → String
  | .null => "null"
  | .bool b => boolText b
  | .number n => n.text
  | .text s => quote s
  | .list items =>
    if items.isEmpty then "[]" else "[" ++ prettyItems (depth + 1) items ++ lineAt depth ++ "]"
  | .object members =>
    if members.isEmpty then "\x7b\x7d"
    else "\x7b" ++ prettyMembers (depth + 1) members ++ lineAt depth ++ "\x7d"

/-- Items on lines of their own. -/
def prettyItems (depth : Nat) : List Value → String
  | [] => ""
  | [v] => lineAt depth ++ prettyAt depth v
  | v :: next :: rest => lineAt depth ++ prettyAt depth v ++ "," ++ prettyItems depth (next :: rest)

/-- Members on lines of their own. -/
def prettyMembers (depth : Nat) : List (String × Value) → String
  | [] => ""
  | [(k, v)] => lineAt depth ++ quote k ++ ": " ++ prettyAt depth v
  | (k, v) :: next :: rest =>
    lineAt depth ++ quote k ++ ": " ++ prettyAt depth v ++ "," ++ prettyMembers depth (next :: rest)

end

/-- The text of a value on several lines. -/
def pretty (v : Value) : String :=
  prettyAt 0 v

/-- The text of a value as it stands inside other text: a text value is itself. -/
def plain : Value → String
  | .text s => s
  | v => v.compact

end FlowRunner.Value
