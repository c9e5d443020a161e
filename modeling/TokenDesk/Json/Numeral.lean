import TokenDesk.Json

/-! The numbers of JSON texts.

Integers of 64 bits are exact. All other numbers become floating point: as many
leading digits as fit in 64 bits are scaled by powers of ten in floating point
steps, and a number too large for that is refused.
-/

set_option autoImplicit false

namespace TokenDesk.Json

structure Numeral where
  isNegative : Bool
  integer : List Char
  fraction : List Char
  exponent : Option Int
  deriving DecidableEq, Repr

def spanDigits (text : List Char) : List Char × List Char :=
  (text.takeWhile Char.isDigit, text.dropWhile Char.isDigit)

/-- The digits after a point, if there is one; a point needs a digit after it. -/
def fraction? : List Char → Option (List Char × List Char)
  | '.' :: rest =>
    let (digits, after) := spanDigits rest
    if digits.isEmpty then none else some (digits, after)
  | text => some ([], text)

/-- The exponent after an `e`, if there is one; the letter needs a digit after it. -/
def exponent? : List Char → Option (Option Int × List Char)
  | c :: rest =>
    if c = 'e' ∨ c = 'E' then
      let (isNegative, unsigned) := match rest with
        | '-' :: more => (true, more)
        | '+' :: more => (false, more)
        | more => (false, more)
      let (digits, after) := spanDigits unsigned
      let size : Int := Nat.ofDigitChars 10 digits 0
      if digits.isEmpty then none else some (some (if isNegative then -size else size), after)
    else some (none, c :: rest)
  | [] => some (none, [])

def numeral? (text : List Char) : Option (Numeral × List Char) := do
  let (isNegative, unsigned) := match text with
    | '-' :: rest => (true, rest)
    | rest => (false, rest)
  let (integer, rest) := spanDigits unsigned
  if integer.isEmpty ∨ (1 < integer.length ∧ integer.head? = some '0') then none
  let (fraction, rest) ← fraction? rest
  let (exponent, rest) ← exponent? rest
  return (⟨isNegative, integer, fraction, exponent⟩, rest)

/-- Take digits into the significand while it stays below 2^64, and count those taken. -/
def takeDigits (significand taken : Nat) : List Char → Nat × Nat
  | [] => (significand, taken)
  | c :: rest =>
    let next := significand * 10 + (c.toNat - 48)
    if next < Nat.pow 2 64 then takeDigits next (taken + 1) rest else (significand, taken)

/-- Scale by a power of ten, in steps of at most 308; nothing if the result is infinite. -/
def scaled (value : Float) (exponent : Int) : (steps : Nat) → Option Float
  | 0 => some value
  | steps + 1 =>
    if exponent.natAbs ≤ 308 then
      let power := Float.ofScientific 1 false exponent.natAbs
      let result := if 0 ≤ exponent then value * power else value / power
      if result.isInf then none else some result
    else if value == 0.0 then some value
    else if 0 ≤ exponent then none
    else scaled (value / Float.ofScientific 1 false 308) (exponent + 308) steps

def Numeral.float? (x : Numeral) : Option UInt64 :=
  let (whole, taken) := takeDigits 0 0 x.integer
  let (significand, more) := takeDigits whole 0 x.fraction
  let shift : Int := (x.integer.length - taken : Nat) - (more : Int)
  let exponent := x.exponent.getD 0
  let size := if exponent.natAbs < Nat.pow 2 31 then some (shift + exponent) else none
  let value := match size with
    | some exponent => scaled (UInt64.ofNat significand).toFloat exponent 8
    | none => if significand = 0 ∨ exponent < 0 then some 0.0 else none
  value.map fun value => (if x.isNegative then -value else value).toBits

/-- The number of a numeral: exact if it is an integer of 64 bits. -/
def Numeral.number? (x : Numeral) : Option Number :=
  let whole := Nat.ofDigitChars 10 x.integer 0
  let isInteger := x.fraction.isEmpty && x.exponent.isNone
  if isInteger && !x.isNegative && whole < Nat.pow 2 64 then some (.natural whole)
  else if isInteger && x.isNegative && 0 < whole && whole ≤ Nat.pow 2 63 then some (.negative whole)
  else x.float?.map .float

end TokenDesk.Json
