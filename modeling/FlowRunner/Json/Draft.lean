import FlowRunner.Json.Value
import FlowRunner.Json.Literal

/-!
# JSON text, read as far as it goes

A draft is the tree of a JSON text up to the place where the text breaks, with the break as a leaf.
A reader that walks the draft in order meets a wrong kind of value before a break that comes later
in the text, as it should.

Two things break a value only for a reader that wants it: a number past the largest float and half a
surrogate pair in a text. They are kept with the value (`Except`), so that a value which is skipped
does not need to have a meaning. For the same reason a break can differ for the two kinds of reader.
-/

namespace FlowRunner.Json

/-- Why a text is not read: it is not JSON, it ends early, or it does not fit what is wanted. -/
inductive Fault
  | malformed
  | truncated
  | mismatched
  deriving DecidableEq, Repr

/-- A JSON text as far as it could be read. -/
inductive Draft
  | null
  | bool (value : Bool)
  | number (value : Except Fault Number)
  | text (value : Except Fault String)
  /-- A list; a fault stands where the list should go on or end. -/
  | list (items : List Draft) (ending : Option Fault)
  /-- An object; a fault stands where the object should go on or end. -/
  | object (members : List (Except Fault String × Draft)) (ending : Option Fault)
  /-- A break, for a reader that wants the value and for one that skips it. -/
  | broken (wanted skipped : Fault)
  deriving Inhabited

namespace Draft

/-- The rest of a text, `none` once it is broken. -/
abbrev Rest := Option (List Char)

/-- Blanks between tokens. -/
def isSpace (c : Char) : Bool :=
  c = ' ' || c = '\n' || c = '\t' || c = '\r'

/-- The text without the blanks at its start. -/
def skipSpace (s : List Char) : List Char :=
  s.dropWhile isSpace

/-- The rest after the remaining letters of a word. -/
def word : (expected text : List Char) → Except Fault (List Char)
  | [], s => .ok s
  | _ :: _, [] => .error .truncated
  | e :: es, c :: cs => if e = c then word es cs else .error .malformed

/-- The value of four hexadecimal digits, and the rest. A text with less than four bytes left has
ended early, whatever those are. -/
def hexWord (s : List Char) : Except Fault (Nat × List Char) :=
  match s with
  | a :: b :: c :: d :: rest =>
    match Reading.digits? 16 [a, b, c, d] with
    | some n => .ok (n, rest)
    | none => .error .malformed
  | _ =>
    if (String.ofList s).utf8ByteSize < 4 then .error .truncated else .error .malformed

/-- The character that a one-letter escape stands for. -/
def shortEscape? : Char → Option Char
  | '"' => some '"'
  | '\\' => some '\\'
  | '/' => some '/'
  | 'b' => some '\x08'
  | 'f' => some '\x0c'
  | 'n' => some '\n'
  | 'r' => some '\r'
  | 't' => some '\t'
  | _ => none

/-- Whether a 16-bit word is the first half of a surrogate pair. -/
def isHigh (n : Nat) : Bool := 0xD800 ≤ n && n ≤ 0xDBFF

/-- Whether a 16-bit word is the second half of a surrogate pair. -/
def isLow (n : Nat) : Bool := 0xDC00 ≤ n && n ≤ 0xDFFF

/-- The word of the escape that has to follow the first half of a pair. -/
def secondHalf (s : List Char) : Except Fault Nat :=
  match s with
  | [] => .error .truncated
  | '\\' :: [] => .error .truncated
  | '\\' :: 'u' :: rest => (hexWord rest).map Prod.fst
  | _ => .error .malformed

/-- Reads the inside of a text up to its closing quote. The first result is the text, or the fault
that a reader of it meets first; the second is the rest, or the fault that a reader meets who passes
over it. `half` is the first half of a pair whose second half comes next. -/
def inside : (fuel : Nat) → (soFar : List Char) → (half : Option Nat) → (fault : Option Fault) →
    List Char → Except Fault String × Except Fault (List Char)
  | 0, _, _, _, _ => (.error .malformed, .error .malformed)
  | fuel + 1, soFar, half, fault, s =>
    let stop (f : Fault) : Except Fault String × Except Fault (List Char) :=
      (.error (fault.getD f), .error f)
    match s with
    | [] => stop .truncated
    | '"' :: rest =>
      match fault with
      | some f => (.error f, .ok rest)
      | none => (.ok (String.ofList soFar.reverse), .ok rest)
    | '\\' :: [] => stop .truncated
    | '\\' :: 'u' :: rest =>
      match hexWord rest with
      | .error f => stop f
      | .ok (n, rest) =>
        match half with
        | some high =>
          let c := Char.ofNat (0x10000 + (high - 0xD800) * 0x400 + (n - 0xDC00))
          inside fuel (c :: soFar) none fault rest
        | none =>
          if isLow n then inside fuel soFar none (fault <|> some .malformed) rest
          else if isHigh n then
            match secondHalf rest with
            | .error f => inside fuel soFar none (fault <|> some f) rest
            | .ok m =>
              if isLow m then inside fuel soFar (some n) fault rest
              else inside fuel soFar none (fault <|> some .malformed) rest
          else inside fuel (Char.ofNat n :: soFar) none fault rest
    | '\\' :: e :: rest =>
      match shortEscape? e with
      | some c => inside fuel (c :: soFar) none fault rest
      | none => stop .malformed
    | c :: rest =>
      if c.toNat < 32 then stop .malformed else inside fuel (c :: soFar) none fault rest

/-- Reads a text after its opening quote. -/
def quoted (s : List Char) : Except Fault String × Except Fault (List Char) :=
  inside (s.length + 1) [] none none s

/-- Reads a number. The first result is its value, the second the rest; at the end of the text the
two can fail differently, because only a wanted number counts as cut short. -/
def numeral (s : List Char) : Except Fault Number × Except Fault (List Char) :=
  let cutShort : List Char → Except Fault Number × Except Fault (List Char)
    | [] => (.error .truncated, .error .malformed)
    | _ => (.error .malformed, .error .malformed)
  let (negative, s) := match s with
    | '-' :: rest => (true, rest)
    | _ => (false, s)
  let (whole, rest) := Reading.spanDigits s
  match whole with
  | [] => cutShort s
  | '0' :: _ :: _ => (.error .malformed, .error .malformed)
  | _ =>
    let afterFraction (fraction : Option (List Char)) (rest : List Char) :
        Except Fault Number × Except Fault (List Char) :=
      let finish (exponent : Option (Bool × List Char)) (rest : List Char) :
          Except Fault Number × Except Fault (List Char) :=
        match Literal.toNumber? ⟨negative, whole, fraction, exponent⟩ with
        | some n => (.ok n, .ok rest)
        | none => (.error .malformed, .ok rest)
      let exponent (s : List Char) : Except Fault Number × Except Fault (List Char) :=
        let (minus, s) := match s with
          | '+' :: rest => (false, rest)
          | '-' :: rest => (true, rest)
          | _ => (false, s)
        let (digits, rest) := Reading.spanDigits s
        if digits.isEmpty then cutShort s else finish (some (minus, digits)) rest
      match rest with
      | 'e' :: more => exponent more
      | 'E' :: more => exponent more
      | _ => finish none rest
    match rest with
    | '.' :: more =>
      let (fraction, rest) := Reading.spanDigits more
      if fraction.isEmpty then cutShort more else afterFraction (some fraction) rest
    | _ => afterFraction none rest

/-- A break that is the same for every reader. -/
def brokenBy (fault : Fault) : Draft :=
  .broken fault fault

/-- The fault of a reading, or another one when it has none. -/
def faultOr (other : Fault) : Except Fault α → Fault
  | .error f => f
  | .ok _ => other

/-- A value whose text has been read, with the rest or the break after it. -/
def leaf (make : Except Fault α → Draft) (read : Except Fault α × Except Fault (List Char)) :
    Draft × Rest :=
  match read.2 with
  | .ok rest => (make read.1, some rest)
  | .error f => (.broken (faultOr f read.1) f, none)

/-- A word such as `null`. -/
def wordLeaf (value : Draft) (expected s : List Char) : Draft × Rest :=
  match word expected s with
  | .ok rest => (value, some rest)
  | .error f => (brokenBy f, none)

mutual

/-- Reads a value. -/
def value : (fuel : Nat) → List Char → Draft × Rest
  | 0, _ => (brokenBy .malformed, none)
  | fuel + 1, s =>
    match skipSpace s with
    | [] => (brokenBy .truncated, none)
    | 'n' :: rest => wordLeaf .null ['u', 'l', 'l'] rest
    | 't' :: rest => wordLeaf (.bool true) ['r', 'u', 'e'] rest
    | 'f' :: rest => wordLeaf (.bool false) ['a', 'l', 's', 'e'] rest
    | '"' :: rest => leaf .text (quoted rest)
    | '[' :: rest =>
      match skipSpace rest with
      | [] => (.list [] (some .truncated), none)
      | ']' :: rest => (.list [] none, some rest)
      | rest =>
        let (found, ending, rest) := items fuel rest
        (.list found ending, rest)
    | '\x7b' :: rest =>
      match skipSpace rest with
      | [] => (.object [] (some .truncated), none)
      | '\x7d' :: rest => (.object [] none, some rest)
      | rest =>
        let (found, ending, rest) := members fuel rest
        (.object found ending, rest)
    | c :: rest =>
      if c = '-' ∨ c.isDigit then leaf .number (numeral (c :: rest))
      else (brokenBy .malformed, none)

/-- Reads the items of a list up to its end. -/
def items : (fuel : Nat) → List Char → List Draft × Option Fault × Rest
  | 0, _ => ([], some .malformed, none)
  | fuel + 1, s =>
    let (item, rest) := value fuel s
    match rest with
    | none => ([item], none, none)
    | some rest =>
      match skipSpace rest with
      | [] => ([item], some .truncated, none)
      | ']' :: rest => ([item], none, some rest)
      | ',' :: rest =>
        match skipSpace rest with
        | ']' :: _ => ([item, brokenBy .malformed], none, none)
        | rest =>
          let (more, ending, rest) := items fuel rest
          (item :: more, ending, rest)
      | _ => ([item], some .malformed, none)

/-- Reads the members of an object up to its end. -/
def members : (fuel : Nat) → List Char →
    List (Except Fault String × Draft) × Option Fault × Rest
  | 0, _ => ([], some .malformed, none)
  | fuel + 1, s =>
    match skipSpace s with
    | '"' :: rest =>
      match quoted rest with
      | (key, .error f) => ([(.error (faultOr f key), brokenBy f)], none, none)
      | (key, .ok rest) =>
        match skipSpace rest with
        | [] => ([(key, brokenBy .truncated)], none, none)
        | ':' :: rest =>
          let (item, rest) := value fuel rest
          match rest with
          | none => ([(key, item)], none, none)
          | some rest =>
            match skipSpace rest with
            | [] => ([(key, item)], some .truncated, none)
            | '\x7d' :: rest => ([(key, item)], none, some rest)
            | ',' :: rest =>
              let (more, ending, rest) := members fuel rest
              ((key, item) :: more, ending, rest)
            | _ => ([(key, item)], some .malformed, none)
        | _ => ([(key, brokenBy .malformed)], none, none)
    | [] => ([], some .truncated, none)
    | _ => ([], some .malformed, none)

end

/-- A text as a draft, with the fault of what follows the value. -/
def ofText (s : String) : Draft × Option Fault :=
  let cs := s.toList
  match value (2 * cs.length + 4) cs with
  | (draft, none) => (draft, none)
  | (draft, some rest) =>
    match skipSpace rest with
    | [] => (draft, none)
    | _ => (draft, some .malformed)

/-- The fault that ends a sequence, if any. -/
def checkEnding : Option Fault → Except Fault Unit
  | none => .ok ()
  | some f => .error f

mutual

/-- Passes over a value that is not wanted: only its form is looked at. -/
def skip : Draft → Except Fault Unit
  | .list items ending => do skipItems items; checkEnding ending
  | .object members ending => do skipMembers members; checkEnding ending
  | .broken _ f => .error f
  | _ => .ok ()

/-- Passes over items. -/
def skipItems : List Draft → Except Fault Unit
  | [] => .ok ()
  | d :: rest => do skip d; skipItems rest

/-- Passes over members. -/
def skipMembers : List (Except Fault String × Draft) → Except Fault Unit
  | [] => .ok ()
  | (_, d) :: rest => do skip d; skipMembers rest

end

mutual

/-- The value of a draft. Containers nest at most 127 deep: `depth` counts down from 128 and may not
reach zero. -/
def toValue (depth : Nat) : Draft → Except Fault Value
  | .null => .ok .null
  | .bool b => .ok (.bool b)
  | .number n => n.map .number
  | .text s => s.map .text
  | .list items ending =>
    if depth ≤ 1 then .error .malformed
    else do
      let values ← toValues (depth - 1) items
      checkEnding ending
      .ok (.list values)
  | .object members ending =>
    if depth ≤ 1 then .error .malformed
    else do
      let pairs ← toPairs (depth - 1) members
      checkEnding ending
      .ok (.object (Members.ofPairs pairs))
  | .broken f _ => .error f

/-- The values of items. -/
def toValues (depth : Nat) : List Draft → Except Fault (List Value)
  | [] => .ok []
  | d :: rest => do
    let v ← toValue depth d
    let vs ← toValues depth rest
    .ok (v :: vs)

/-- The values of members, with their keys. -/
def toPairs (depth : Nat) : List (Except Fault String × Draft) →
    Except Fault (List (String × Value))
  | [] => .ok []
  | (key, d) :: rest => do
    let k ← key
    let v ← toValue depth d
    let pairs ← toPairs depth rest
    .ok ((k, v) :: pairs)

end

/-- The containers that a JSON text may nest, plus one. -/
def depthLimit : Nat := 128

end Draft

end FlowRunner.Json

namespace FlowRunner.Value

/-- The value of a JSON text. -/
def ofJson (s : String) : Except Json.Fault Value := do
  let (draft, trailing) := Json.Draft.ofText s
  let v ← draft.toValue Json.Draft.depthLimit
  Json.Draft.checkEnding trailing
  .ok v

end FlowRunner.Value
