/-!
# Punycode

The ASCII form of a label with other characters: the ASCII characters, a hyphen if there are any,
and then the other characters in the order of their code points, as differences written with digits
of base 36 whose thresholds adapt to the differences seen before.
-/

namespace FlowRunner.Punycode

/-- A digit of base 36: the letters, then the decimal digits. -/
def digit (d : Nat) : Char :=
  if d < 26 then Char.ofNat (97 + d) else Char.ofNat (22 + d)

/-- The threshold of the digit at a place. -/
def threshold (place bias : Nat) : Nat :=
  if place ≤ bias then 1 else if bias + 26 ≤ place then 26 else place - bias

/-- The digits of a difference, from a place on. Every round divides it by ten or more, so that its
own size bounds the rounds. -/
def digits (bias : Nat) : (fuel place n : Nat) → List Char
  | 0, _, _ => []
  | fuel + 1, place, n =>
    let t := threshold place bias
    if n < t then [digit n]
    else digit (t + (n - t) % (36 - t)) :: digits bias fuel (place + 36) ((n - t) / (36 - t))

/-- Shrinks a difference until it is small, counting the rounds. -/
def shrink : (fuel delta rounds : Nat) → Nat × Nat
  | 0, delta, rounds => (delta, rounds)
  | fuel + 1, delta, rounds =>
    if 455 < delta then shrink fuel (delta / 35) (rounds + 36) else (delta, rounds)

/-- The bias after a difference, when so many characters are placed. -/
def adapt (delta count : Nat) (first : Bool) : Nat :=
  let halved := if first then delta / 700 else delta / 2
  let (small, rounds) := shrink 64 (halved + halved / count) 0
  rounds + 36 * small / (small + 38)

/-- How far the placing of the other characters has come. -/
structure Progress where
  delta : Nat
  bias : Nat
  placed : Nat
  first : Bool
  output : List Char

/-- Passes one character of the label while the code point `n` is placed. -/
def pass (n : Nat) (p : Progress) (c : Char) : Progress :=
  if c.toNat < n then { p with delta := p.delta + 1 }
  else if c.toNat = n then {
    delta := 0
    bias := adapt p.delta (p.placed + 1) p.first
    placed := p.placed + 1
    first := false
    output := p.output ++ digits p.bias (p.delta + 1) 36 p.delta }
  else p

/-- Places the characters of every given code point in turn. -/
def place (label : List Char) : (previous : Nat) → List Nat → Progress → Progress
  | _, [], p => p
  | previous, n :: rest, p =>
    let p := { p with delta := p.delta + (n - previous) * (p.placed + 1) }
    let p := label.foldl (pass n) p
    place label (n + 1) rest { p with delta := p.delta + 1 }

/-- The code points of a label that are not ASCII, in order, each once. -/
def others (label : List Char) : List Nat :=
  let points := (label.map Char.toNat).filter (128 ≤ ·)
  (points.mergeSort (· ≤ ·)).eraseDups

/-- The ASCII form of a label. -/
def encode (label : List Char) : List Char :=
  let basic := label.filter fun c => c.toNat < 128
  let start := if basic.isEmpty then [] else basic ++ ['-']
  let p := place label 128 (others label) ⟨0, 72, basic.length, true, []⟩
  start ++ p.output

end FlowRunner.Punycode
