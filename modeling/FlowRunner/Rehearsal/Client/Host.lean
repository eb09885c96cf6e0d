import FlowRunner.Rehearsal.Client.Percent
import FlowRunner.Rehearsal.Client.Punycode
import FlowRunner.Text.Case
import FlowRunner.Text.Cut

/-!
# Hosts

A host of the web is a domain in lower case, an IPv4 address or an IPv6 address in brackets, each in
its one written form. A domain whose last label is a number has to be an IPv4 address.
-/

namespace FlowRunner.Host

/-- A host and the digits of its port; a colon inside brackets belongs to the host. -/
def splitPort? (s : List Char) : Option (List Char × List Char) :=
  let inBrackets :=
    match s with
    | '[' :: _ => (Text.cutLast? ']' s).map fun (before, after) => (before ++ [']'], after)
    | _ => none
  let (host, rest) :=
    match inBrackets with
    | some parts => parts
    | none => (s.takeWhile (· != ':'), s.dropWhile (· != ':'))
  match rest with
  | [] => some (host, [])
  | ':' :: port => if port.all Char.isDigit then some (host, port) else none
  | _ => none

/-! ## IPv4 -/

/-- A part of an IPv4 address, in the base that its first characters say. -/
def part? (s : List Char) : Option Nat :=
  match s with
  | [] => none
  | ['0', 'x'] => some 0
  | ['0', 'X'] => some 0
  | '0' :: 'x' :: rest => Reading.digits? 16 rest
  | '0' :: 'X' :: rest => Reading.digits? 16 rest
  | ['0'] => some 0
  | '0' :: rest => Reading.digits? 8 rest
  | s => Reading.digits? 10 s

/-- The labels of a domain, without an empty one at its end. -/
def labels (s : List Char) : List (List Char) :=
  let all := Text.splitOn '.' s
  if all.length > 1 && all.getLast? == some [] then all.dropLast else all

/-- Whether the last label of a domain is a number. -/
def endsInNumber (s : List Char) : Bool :=
  match (labels s).getLast? with
  | some last => (!last.isEmpty && last.all Char.isDigit) ||
      ((last.take 2 == ['0', 'x'] || last.take 2 == ['0', 'X']) && (part? last).isSome)
  | none => false

/-- The number of an IPv4 address: up to four parts, of which the last fills what is left. -/
def ipv4? (s : List Char) : Option Nat := do
  let parts ← (labels s).mapM part?
  let last ← parts.getLast?
  let front := parts.dropLast
  let room := 8 * (5 - parts.length)
  if parts.length > 4 || front.any (255 < ·) || !Reading.fits room last then none
  else some ((front.foldl (fun soFar n => soFar * 256 + n) 0 <<< room) + last)

/-- The text of an IPv4 address. -/
def ipv4Text (n : Nat) : String :=
  ".".intercalate ([n / 16777216, n / 65536 % 256, n / 256 % 256, n % 256].map toString)

/-! ## IPv6 -/

/-- The pieces of a row of hexadecimal numbers parted by colons; an IPv4 address may end it and
counts as two. -/
def pieces? (s : List Char) : Option (List Nat) :=
  if s.isEmpty then some []
  else
    let parts := Text.splitOn ':' s
    let number? (part : List Char) : Option Nat :=
      if part.length ≤ 4 then Reading.digits? 16 part else none
    let dotted? (part : List Char) : Option (List Nat) := do
      let numbers ← (Text.splitOn '.' part).mapM fun digits =>
        if digits.length > 1 && digits.head? == some '0' then none
        else (Reading.digits? 10 digits).filter (· < 256)
      match numbers with
      | [a, b, c, d] => some [a * 256 + b, c * 256 + d]
      | _ => none
    let last := parts.getLast?.getD []
    if last.contains '.' then do
      let front ← parts.dropLast.mapM number?
      let back ← dotted? last
      some (front ++ back)
    else parts.mapM number?

/-- A text cut at the first double colon. -/
def cutAtGap : List Char → Option (List Char × List Char)
  | ':' :: ':' :: rest => some ([], rest)
  | c :: rest => (cutAtGap rest).map fun (before, after) => (c :: before, after)
  | [] => none

/-- The eight pieces of an IPv6 address; a double colon stands for at least one zero. -/
def ipv6? (s : List Char) : Option (List Nat) :=
  match cutAtGap s with
  | some (before, after) => do
    let front ← pieces? before
    let back ← pieces? after
    if front.length + back.length > 7 || before.contains '.' then none
    else some (front ++ List.replicate (8 - front.length - back.length) 0 ++ back)
  | none => (pieces? s).filter (·.length == 8)

/-- The length of the row of zeros at the start. -/
def zeros (pieces : List Nat) : Nat :=
  (pieces.takeWhile (· == 0)).length

/-- The first longest row of zeros: where it starts and how long it is. -/
def longestZeros : (start : Nat) → List Nat → Nat × Nat
  | start, [] => (start, 0)
  | start, n :: rest =>
    let here := zeros (n :: rest)
    let (later, length) := longestZeros (start + 1) rest
    if length > here then (later, length) else (start, here)

/-- The text of an IPv6 address: the first longest row of two zeros or more is a double colon. -/
def ipv6Text (pieces : List Nat) : String :=
  let row (part : List Nat) : String :=
    ":".intercalate (part.map fun n => String.ofList (Nat.toDigits 16 n))
  let (start, length) := longestZeros 0 pieces
  if length < 2 then row pieces
  else row (pieces.take start) ++ "::" ++ row (pieces.drop (start + length))

/-! ## Domains -/

/-- Characters that no host holds. -/
def isForbidden (c : Char) : Bool :=
  c.toNat ≤ 32 || c.toNat == 127 || "#%/:<>?@[\\]^\x60\x7b|\x7d".toList.contains c

/-- A label in its ASCII form. -/
def label (s : List Char) : List Char :=
  if s.all fun c => c.toNat < 128 then s else "xn--".toList ++ Punycode.encode s

/-- The written form of a host of the web. -/
def ofText? (s : List Char) : Option String :=
  match s with
  | [] => none
  | '[' :: rest => do
    let inside ← Text.before? [']'] rest
    let pieces ← ipv6? inside
    some ("[" ++ ipv6Text pieces ++ "]")
  | s => do
    let decoded ← Text.ofBytes? ⟨(Percent.decode s).toArray⟩
    let domain := Text.join ['.'] ((Text.splitOn '.' (Text.lower decoded.toList)).map label)
    if domain.isEmpty || domain.any isForbidden then none
    else if endsInNumber domain then (ipv4? domain).map ipv4Text
    else some (String.ofList domain)

/-- The written form of a host in a scheme that is not of the web. -/
def opaqueOfText? (s : List Char) : Option String :=
  match s with
  | '[' :: rest => do
    let inside ← Text.before? [']'] rest
    let pieces ← ipv6? inside
    some ("[" ++ ipv6Text pieces ++ "]")
  | s =>
    if s.any fun c => isForbidden c && c != '%' then none
    else some (String.ofList (Percent.encode Percent.isControl s))

end FlowRunner.Host
