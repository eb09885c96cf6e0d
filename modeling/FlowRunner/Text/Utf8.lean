/-!
# Texts and bytes

`bytesOf` is the UTF-8 form of a text and `ofBytes?` reads it back, when the bytes are valid.
`ofBytesLossy` reads any bytes: each longest start of a character that is not completed, and each
byte that starts none, becomes one replacement character.
-/

namespace FlowRunner.Text

/-- The UTF-8 form of a text. -/
def bytesOf (s : String) : ByteArray :=
  s.toUTF8

/-- The text whose UTF-8 form the bytes are. -/
def ofBytes? (bytes : ByteArray) : Option String :=
  String.fromUTF8? bytes

theorem ofBytes?_bytesOf (s : String) : ofBytes? (bytesOf s) = some s := by
  have h : s.toUTF8.IsValidUTF8 := s.isValidUTF8
  unfold ofBytes? bytesOf String.fromUTF8?
  rw [dif_pos h]
  rfl

/-- What the first byte of a character of several bytes says: how many bytes follow, the range of
the second one, and the bits that the first byte gives. -/
structure Lead where
  following : Nat
  low : Nat
  high : Nat
  bits : Nat

/-- The meaning of a first byte of several. -/
def Lead.ofByte? (b : Nat) : Option Lead :=
  if 0xC2 ≤ b ∧ b ≤ 0xDF then some ⟨1, 0x80, 0xBF, b - 0xC0⟩
  else if b = 0xE0 then some ⟨2, 0xA0, 0xBF, 0⟩
  else if b = 0xED then some ⟨2, 0x80, 0x9F, 0xD⟩
  else if 0xE1 ≤ b ∧ b ≤ 0xEF then some ⟨2, 0x80, 0xBF, b - 0xE0⟩
  else if b = 0xF0 then some ⟨3, 0x90, 0xBF, 0⟩
  else if 0xF1 ≤ b ∧ b ≤ 0xF3 then some ⟨3, 0x80, 0xBF, b - 0xF0⟩
  else if b = 0xF4 then some ⟨3, 0x80, 0x8F, 4⟩
  else none

/-- The replacement character. -/
def replacement : Char := Char.ofNat 0xFFFD

/-- Reads the following bytes of a character, of which the next one lies in a range. Gives the
character, or the replacement when it is not completed, and the rest. -/
def following : (count low high soFar : Nat) → List UInt8 → Char × List UInt8
  | 0, _, _, soFar, rest => (Char.ofNat soFar, rest)
  | _ + 1, _, _, _, [] => (replacement, [])
  | count + 1, low, high, soFar, b :: rest =>
    if low ≤ b.toNat ∧ b.toNat ≤ high then
      following count 0x80 0xBF (soFar * 64 + (b.toNat - 0x80)) rest
    else (replacement, b :: rest)

theorem following_length (count low high soFar : Nat) (bytes : List UInt8) :
    (following count low high soFar bytes).2.length ≤ bytes.length := by
  induction bytes generalizing count low high soFar with
  | nil => cases count <;> simp [following]
  | cons b rest ih =>
    cases count with
    | zero => simp [following]
    | succ n =>
      simp only [following]
      split
      · exact Nat.le_trans (ih ..) (by simp)
      · simp

/-- The characters of any bytes. -/
def charsLossy : List UInt8 → List Char
  | [] => []
  | b :: rest =>
    if b.toNat < 0x80 then Char.ofNat b.toNat :: charsLossy rest
    else
      match Lead.ofByte? b.toNat with
      | none => replacement :: charsLossy rest
      | some lead =>
        (following lead.following lead.low lead.high lead.bits rest).1 ::
          charsLossy (following lead.following lead.low lead.high lead.bits rest).2
termination_by bytes => bytes.length
decreasing_by
  · simp
  · simp
  · have := following_length lead.following lead.low lead.high lead.bits rest
    simp only [List.length_cons]
    omega

/-- The text of any bytes. -/
def ofBytesLossy (bytes : ByteArray) : String :=
  String.ofList (charsLossy bytes.toList)

end FlowRunner.Text
