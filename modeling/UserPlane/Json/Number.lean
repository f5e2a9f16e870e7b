import UserPlane.Decimal
import UserPlane.Json.Basic

/-! # JSON numbers

A **numeral** is the text of a number, taken apart: sign, whole digits, fraction and exponent. It
denotes an integer if it has neither fraction nor exponent and is not minus zero. Numbers are held
as doubles where they are not integers, so a numeral beyond their range cannot be read at all. Its
digits are first taken into a 64-bit **significand** while they fit, and the power of ten that is
left is rounded on its own; `Numeral.overflows` says when the product is too large. -/

namespace UserPlane.Json

/-- The parts of a number's text. -/
structure Numeral where
  /-- Whether a minus sign comes first. -/
  negative : Bool
  /-- The digits before the point. -/
  whole : List Char
  /-- The digits after the point, if there is one. -/
  fraction : Option (List Char)
  /-- The exponent, if there is one: whether it is negative, and its digits. -/
  exponent : Option (Bool × List Char)

namespace Numeral

/-! ## Taking text apart -/

/-- A nonempty run of digits at the head of a text. -/
def scanDigits (cs : List Char) : Option (List Char × List Char) :=
  if (cs.takeWhile Char.isDigit).isEmpty then none
  else some (cs.takeWhile Char.isDigit, cs.dropWhile Char.isDigit)

/-- The whole digits at the head of a text: a zero alone, or digits that begin with another. -/
def scanWhole : List Char → Option (List Char × List Char)
  | '0' :: rest => some (['0'], rest)
  | cs => scanDigits cs

/-- The fraction at the head of a text, if there is a point. -/
def scanFraction : List Char → Option (Option (List Char) × List Char)
  | '.' :: rest => (scanDigits rest).map fun (digits, rest) => (some digits, rest)
  | cs => some (none, cs)

/-- The sign at the head of an exponent. -/
def scanSign : List Char → Bool × List Char
  | '-' :: rest => (true, rest)
  | '+' :: rest => (false, rest)
  | cs => (false, cs)

/-- The exponent at the head of a text, if there is one. -/
def scanExponent : List Char → Option (Option (Bool × List Char) × List Char)
  | c :: rest =>
    if c = 'e' ∨ c = 'E' then
      let (negative, rest) := scanSign rest
      (scanDigits rest).map fun (digits, rest) => (some (negative, digits), rest)
    else some (none, c :: rest)
  | [] => some (none, [])

/-- Whether a minus sign is at the head of a text, and what follows it. -/
def scanMinus : List Char → Bool × List Char
  | '-' :: rest => (true, rest)
  | cs => (false, cs)

/-- The numeral at the head of a text. -/
def scan (cs : List Char) : Option (Numeral × List Char) := do
  let (negative, cs) := scanMinus cs
  let (whole, cs) ← scanWhole cs
  let (fraction, cs) ← scanFraction cs
  let (exponent, cs) ← scanExponent cs
  some ({ negative, whole, fraction, exponent }, cs)

/-! ## The range of doubles -/

/-- Takes digits into a number while it stays below 2^64, and leaves the others. -/
def absorb (n : Nat) : List Char → Nat × List Char
  | [] => (n, [])
  | d :: rest =>
    let next := n * 10 + (d.toNat - '0'.toNat)
    if next < UInt64.size then absorb next rest else (n, d :: rest)

/-- The nearest number of 53 significant bits; halfway, the one whose last bit is zero. -/
def round53 (n : Nat) : Nat :=
  let unit := Nat.pow 2 (n.log2 - 52)
  let below := n / unit
  let rest := n % unit
  if unit < 2 * rest ∨ 2 * rest = unit ∧ below % 2 = 1 then (below + 1) * unit else below * unit

/-- The exponent as a number. -/
def power (n : Numeral) : Int :=
  match n.exponent with
  | some (true, digits) => -(Nat.ofDigitChars 10 digits 0 : Int)
  | some (false, digits) => Nat.ofDigitChars 10 digits 0
  | none => 0

/-- The digits that make up the significand as a number, and the power of ten it stands for. -/
def significand (n : Numeral) : Nat × Int :=
  let (whole, wholeLeft) := absorb 0 n.whole
  let fraction := n.fraction.getD []
  -- Each digit left of the whole part counts as a factor of ten; one left of the fraction is lost.
  let (digits, fractionLeft) := absorb whole fraction
  (digits, n.power + wholeLeft.length - (fraction.length - fractionLeft.length : Nat))

/-- Where numbers begin that are nearer to infinity than to the largest double. -/
def infinite : Nat := Nat.pow 2 1024 - Nat.pow 2 970

/-- Whether a significand times a power of ten is beyond the largest double. -/
def tooLarge (digits : Nat) : (power : Int) → Bool
  | .ofNat (n + 1) =>
    digits != 0
      -- No power beyond this one is a double, whatever it is multiplied by.
      && (decide (308 < n + 1) || decide (infinite ≤ round53 digits * round53 (Nat.pow 10 (n + 1))))
  | _ => false

/-- Whether a numeral is beyond the range of doubles. -/
def overflows (n : Numeral) : Bool := tooLarge n.significand.1 n.significand.2

/-! ## What a numeral denotes -/

/-- The characters of a numeral. -/
def chars (n : Numeral) : List Char :=
  (if n.negative then ['-'] else []) ++ n.whole
    ++ (match n.fraction with
      | some digits => '.' :: digits
      | none => [])
    ++ (match n.exponent with
      | some (true, digits) => 'e' :: '-' :: digits
      | some (false, digits) => 'e' :: digits
      | none => [])

/-- The integer that a numeral denotes, if it is written as one. -/
def integer? (n : Numeral) : Option Int :=
  if n.fraction.isSome || n.exponent.isSome then none
  else
    let magnitude := Nat.ofDigitChars 10 n.whole 0
    if n.negative then if magnitude = 0 then none else some (-magnitude) else some magnitude

/-- The value that a numeral denotes. -/
def toJson (n : Numeral) : Json :=
  if n.overflows then .unreadable
  else match n.integer? with
    | some value => .integer value
    | none => .fractional (String.ofList n.chars)

end Numeral

end UserPlane.Json
