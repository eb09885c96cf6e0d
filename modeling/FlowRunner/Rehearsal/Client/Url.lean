import FlowRunner.Rehearsal.Client.Host

/-!
# URLs

A URL as it is sent: scheme and host in lower case, the default port left out, dot segments
resolved, and characters that may not stand where they are percent-encoded. User and password are
not part of it.

`Url.ofText?` reads an absolute URL. In the schemes of the web a backslash counts as a slash and
there is always a host; in other schemes the part after the colon may be a plain path.
-/

namespace FlowRunner

/-- A URL. -/
structure Url where
  scheme : String
  /-- The host and port as written after the two slashes; nothing when there are no slashes. -/
  authority : Option String
  path : String
  query : Option String
  fragment : Option String
  deriving DecidableEq, Repr

namespace Url

/-- The text of a URL. -/
def text (url : Url) : String :=
  let authority :=
    match url.authority with
    | some a => "//" ++ a
    | none => ""
  let query :=
    match url.query with
    | some q => "?" ++ q
    | none => ""
  let fragment :=
    match url.fragment with
    | some f => "#" ++ f
    | none => ""
  url.scheme ++ ":" ++ authority ++ url.path ++ query ++ fragment

/-- The schemes in which a host is needed, with their default ports. -/
def webSchemes : List (String × Option Nat) :=
  [("http", some 80), ("https", some 443), ("ws", some 80), ("wss", some 443), ("ftp", some 21)]

/-- Whether a scheme is one of the web. -/
def isWeb (scheme : String) : Bool :=
  (webSchemes.lookup scheme).isSome

/-- The scheme before the first colon, in lower case, and the rest. -/
def scheme? (s : List Char) : Option (String × List Char) := do
  let (before, after) ← Text.cut? ':' s
  let legal (c : Char) : Bool := c.isAlphanum || c == '+' || c == '-' || c == '.'
  match before with
  | first :: _ =>
    if first.isAlpha && before.all legal then
      some (String.ofList (before.map Char.toLower), after)
    else none
  | [] => none

/-- Characters of a path that are encoded, besides those outside ASCII. -/
def pathEncoded (c : Char) : Bool :=
  Percent.isControl c || " \"#<>?\x60\x7b\x7d".toList.contains c

/-- Characters of a query that are encoded, besides those outside ASCII. -/
def queryEncoded (web : Bool) (c : Char) : Bool :=
  Percent.isControl c || " \"#<>".toList.contains c || (web && c == '\'')

/-- Characters of a fragment that are encoded, besides those outside ASCII. -/
def fragmentEncoded (c : Char) : Bool :=
  Percent.isControl c || " \"<>\x60".toList.contains c

/-- A text cut at the first character that passes a test, which stays with the second part. -/
def cutAt (test : Char → Bool) (s : List Char) : List Char × List Char :=
  (s.takeWhile fun c => !test c, s.dropWhile fun c => !test c)

/-- A path segment with its encoded dots written out. -/
def plainDots (segment : List Char) : String :=
  let text := String.ofList (segment.map Char.toLower)
  text.replace "%2e" "."

/-- Adds a segment to the segments so far, last one first. One dot adds nothing and two dots take
one away; at the end of the path either leaves an empty segment. -/
def addSegment (soFar : List (List Char)) (segment : List Char) (isLast : Bool) :
    List (List Char) :=
  let ended (segments : List (List Char)) := if isLast then [] :: segments else segments
  if plainDots segment == "." then ended soFar
  else if plainDots segment == ".." then ended (soFar.drop 1)
  else Percent.encode pathEncoded segment :: soFar

/-- The segments of a path with the dot segments resolved, last one first. -/
def addSegments (soFar : List (List Char)) : List (List Char) → List (List Char)
  | [] => soFar
  | [segment] => addSegment soFar segment true
  | segment :: rest => addSegments (addSegment soFar segment false) rest

/-- The path of a text that starts with a slash or is empty. -/
def absolutePath (web : Bool) (s : List Char) : String :=
  let s := if web then s.map fun c => if c = '\\' then '/' else c else s
  match s with
  | [] => if web then "/" else ""
  | _ :: rest =>
    let segments := (addSegments [] (Text.splitOn '/' rest)).reverse
    "/" ++ String.ofList (Text.join ['/'] segments)

/-- The parts after the authority. -/
def finish (scheme : String) (authority : Option String) (s : List Char) : Url :=
  let web := isWeb scheme
  let (beforeFragment, fragment) := cutAt (· == '#') s
  let (path, query) := cutAt (· == '?') beforeFragment
  let encoded (test : Char → Bool) (part : List Char) : Option String :=
    match part with
    | [] => none
    | _ :: rest => some (String.ofList (Percent.encode test rest))
  {
    scheme
    authority
    path :=
      if authority.isSome || path.head? == some '/' then absolutePath web path
      else String.ofList (Percent.encode Percent.isControl path)
    query := encoded (queryEncoded web) query
    fragment := encoded fragmentEncoded fragment
  }

/-- The host and port after an authority's user part. -/
def authority? (scheme : String) (s : List Char) : Option String := do
  let web := isWeb scheme
  let afterUser :=
    match Text.cutLast? '@' s with
    | some (_, rest) => rest
    | none => s
  let (host, port) ← Host.splitPort? afterUser
  let host ← if web then Host.ofText? host else Host.opaqueOfText? host
  match port with
  | [] => some host
  | digits =>
    let n ← (Reading.digits? 10 digits).filter (Reading.fits 16)
    if webSchemes.lookup scheme == some (some n) then some host
    else some (host ++ ":" ++ toString n)

/-- The URL of a text. -/
def ofText? (text : String) : Option Url := do
  let isEdge (c : Char) : Bool := c.toNat ≤ 32
  let trimmed := ((text.toList.dropWhile isEdge).reverse.dropWhile isEdge).reverse
  let s := trimmed.filter fun c => !(c == '\t' || c == '\n' || c == '\r')
  let (scheme, rest) ← scheme? s
  let web := isWeb scheme
  let isSlash (c : Char) : Bool := c == '/' || (web && c == '\\')
  let hostPart :=
    if web then some (rest.dropWhile isSlash) else Text.after? ['/', '/'] rest
  match hostPart with
  | none => some (finish scheme none rest)
  | some s =>
    let (authority, rest) := cutAt (fun c => isSlash c || c == '?' || c == '#') s
    let authority ← authority? scheme authority
    let rest :=
      match rest with
      | c :: _ => if isSlash c then rest else if web then '/' :: rest else rest
      | [] => rest
    some (finish scheme (some authority) rest)

end Url

end FlowRunner
