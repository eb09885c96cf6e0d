import FlowRunner.Number.Reading
import FlowRunner.Text.Utf8

/-!
# Percent-encoding

A character is encoded as the bytes of its UTF-8 form, each as a percent sign and two upper-case
hexadecimal digits. A percent sign that stands in a text already is left alone.
-/

namespace FlowRunner.Percent

/-- Control characters of ASCII. -/
def isControl (c : Char) : Bool :=
  c.toNat < 32 || c.toNat == 127

/-- An upper-case hexadecimal digit. -/
def hexDigit (n : Nat) : Char :=
  if n < 10 then Char.ofNat (48 + n) else Char.ofNat (55 + n)

/-- An encoded byte. -/
def encodeByte (b : UInt8) : List Char :=
  ['%', hexDigit (b.toNat / 16), hexDigit (b.toNat % 16)]

/-- A text in which the characters that pass a test, and all outside ASCII, are encoded. -/
def encode (test : Char → Bool) (s : List Char) : List Char :=
  s.flatMap fun c =>
    if test c || 0x80 ≤ c.toNat then (String.utf8EncodeChar c).flatMap encodeByte else [c]

/-- The bytes of a text whose encoded bytes are decoded. -/
def decode : List Char → List UInt8
  | [] => []
  | '%' :: a :: b :: rest =>
    match Reading.digits? 16 [a, b] with
    | some n => UInt8.ofNat n :: decode rest
    | none => UInt8.ofNat 37 :: decode (a :: b :: rest)
  | c :: rest => String.utf8EncodeChar c ++ decode rest

end FlowRunner.Percent
