import FlowRunner.Text.CaseTable

/-!
# Lower and upper case

`lower` is the full lower case of a text. Two rules go beyond single characters: a capital I with a
dot becomes two characters, and a capital sigma becomes a final sigma at the end of a word, that is
after a letter and not before one, where ignorable characters do not count.

`upper` is meant for words of ASCII letters: it gives the upper case of every character whose upper
case is made of ASCII letters and leaves the others as they are.
-/

namespace FlowRunner.Text

/-- Whether the first character that counts is a letter. -/
def startsWithLetter (s : List Char) : Bool :=
  match s.dropWhile isCaseIgnorable with
  | c :: _ => isCased c
  | [] => false

/-- Lower case of the rest of a text; `before` is what precedes it, last character first. -/
def lowerAfter (before : List Char) : List Char → List Char
  | [] => []
  | c :: rest =>
    let here :=
      if c.toNat < 0x80 then [c.toLower]
      else if c = 'Σ' then
        if startsWithLetter before && !startsWithLetter rest then ['ς'] else ['σ']
      else if c = 'İ' then ['i', Char.ofNat 0x307]
      else [lowerChar c]
    here ++ lowerAfter (c :: before) rest

/-- The lower case of a text. -/
def lower (s : List Char) : List Char :=
  lowerAfter [] s

/-- `lower` on strings. -/
def lowered (s : String) : String :=
  String.ofList (lower s.toList)

/-- The upper case of a character, as far as it is made of ASCII letters. -/
def upperChar (c : Char) : List Char :=
  match c with
  | 'ß' => ['S', 'S']
  | 'ı' => ['I']
  | 'ſ' => ['S']
  | 'ﬀ' => ['F', 'F']
  | 'ﬁ' => ['F', 'I']
  | 'ﬂ' => ['F', 'L']
  | 'ﬃ' => ['F', 'F', 'I']
  | 'ﬄ' => ['F', 'F', 'L']
  | 'ﬅ' => ['S', 'T']
  | 'ﬆ' => ['S', 'T']
  | c => [c.toUpper]

/-- The upper case of a text, as far as it is made of ASCII letters. -/
def upper (s : List Char) : List Char :=
  s.flatMap upperChar

/-- Whether two texts are equal but for the case of ASCII letters. -/
def sameLetters (a b : String) : Bool :=
  a.toList.map Char.toLower == b.toList.map Char.toLower

end FlowRunner.Text
