import UserPlane.ByteString
import UserPlane.Hexadecimal

/-! # The text of a byte string

A byte string is written as `0x` and two lower-case hexadecimal digits a byte. The reader takes
the digits in either case, two characters a byte; a plus sign may stand for the high digit of a
pair, which is then zero. -/

namespace UserPlane.ByteString

/-- The characters of a byte string's text. -/
def chars (b : ByteString) : List Char := '0' :: 'x' :: b.bytes.flatMap Hexadecimal.ofByte

/-- The text of a byte string. -/
def text (b : ByteString) : String := String.ofList b.chars

/-- The byte that two characters denote: two digits, or a plus sign and one digit. -/
def byte? (high low : Char) : Option UInt8 :=
  if high = '+' then (Hexadecimal.value? low).map Nat.toUInt8
  else do
    let h ← Hexadecimal.value? high
    let l ← Hexadecimal.value? low
    some (h * 16 + l).toUInt8

/-- The bytes that characters denote, taken in pairs. -/
def pairs? : List Char → Option (List UInt8)
  | [] => some []
  | high :: low :: rest => do
    let b ← byte? high low
    let bs ← pairs? rest
    some (b :: bs)
  | [_] => none

/-- The byte string that characters denote, if they are `0x` and pairs. -/
def ofChars? : List Char → Option ByteString
  | '0' :: 'x' :: rest => (pairs? rest).map ByteString.mk
  | _ => none

/-- The byte string that a text denotes. -/
def ofText (text : String) : Except Error ByteString :=
  match ofChars? text.toList with
  | some b => .ok b
  | none => .error (.invalidFormat text)

/-- What went wrong, in words. -/
def Error.message : Error → String
  | .doesNotFit value width =>
    "byte sequence " ++ value.text ++ " does not fit in " ++ Decimal.text width ++ " byte(s)"
  | .invalidFormat text => "invalid byte sequence format: " ++ text

@[simp] theorem text_toList (b : ByteString) : b.text.toList = b.chars := by simp [text]

/-- The two digits of a byte denote it. -/
theorem byte?_ofByte (b : UInt8) :
    byte? (Hexadecimal.digit (b.toNat / 16)) (Hexadecimal.digit (b.toNat % 16)) = some b := by
  have hb : b.toNat < 256 := b.toNat_lt
  have hsign : ∀ n < 16, Hexadecimal.digit n ≠ '+' := by decide
  have hn : b.toNat / 16 * 16 + b.toNat % 16 = b.toNat := by omega
  rw [byte?, if_neg (hsign _ (by omega)), Hexadecimal.value?_digit _ (by omega),
    Hexadecimal.value?_digit _ (by omega)]
  simp only [Option.bind_eq_bind, Option.bind_some, hn, Nat.toUInt8_eq, UInt8.ofNat_toNat]

/-- The digits of bytes denote them. -/
@[simp] theorem pairs?_flatMap (bs : List UInt8) :
    pairs? (bs.flatMap Hexadecimal.ofByte) = some bs := by
  induction bs with
  | nil => rfl
  | cons b bs ih => simp [Hexadecimal.ofByte, pairs?, byte?_ofByte, ih]

/-- A byte string's text denotes it. -/
@[simp] theorem ofText_text (b : ByteString) : ofText b.text = .ok b := by
  simp [ofText, chars, ofChars?]

end UserPlane.ByteString
