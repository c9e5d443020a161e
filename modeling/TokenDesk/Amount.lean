import TokenDesk.Digits
import TokenDesk.Text.Cut

/-! Amounts of a token, counted in its smallest unit, and their decimal text.

An amount is a natural number of raw units. People write it with a point that
stands `decimals` digits from the right. Reading never rounds: a text is
refused when its fraction has more digits than the token has decimals. Writing
drops zeros at the end of the fraction, so equal amounts have equal texts.
-/

set_option autoImplicit false

namespace TokenDesk

/-- A quantity in raw units, of any size. -/
abbrev Amount := Nat

/-- How many digits of a raw amount stand behind the point. -/
structure Decimals where
  places : Nat
  places_le : places ≤ 18 := by decide
  deriving DecidableEq, Repr

inductive AmountFault where
  | secondPoint
  | integerNotDigits
  | fractionNotDigits
  | noDigits
  | leadingZero
  | fractionTooLong
  | notInteger
  deriving DecidableEq, Repr

def AmountFault.reason : AmountFault → String
  | secondPoint => "more than one decimal point"
  | integerNotDigits => "integer part must be decimal digits"
  | fractionNotDigits => "fractional part must be decimal digits"
  | noDigits => "no digits"
  | leadingZero => "leading zero in integer part"
  | fractionTooLong => "more fractional digits than the token's decimals"
  | notInteger => "not a base-10 integer"

inductive AmountError where
  | invalidFormat (text : String) (fault : AmountFault)
  | decimalsOutOfRange (decimals : Nat)
  deriving DecidableEq, Repr

def AmountError.message : AmountError → String
  | invalidFormat text fault => "invalid amount format '" ++ text ++ "': " ++ fault.reason
  | decimalsOutOfRange decimals =>
    "decimals " ++ toString decimals ++ " out of range, at most 18 supported"

namespace Decimals

def zero : Decimals := { places := 0 }

/-- The widest scale, which is also that of a chain's own currency. -/
def widest : Decimals := { places := 18 }

def ofNat (n : Nat) : Except AmountError Decimals :=
  if h : n ≤ 18 then .ok ⟨n, h⟩ else .error (.decimalsOutOfRange n)

end Decimals

namespace Amount

/-- The shortest decimal digits of a number; zero has one digit. -/
def digits (amount : Amount) : List Char :=
  Nat.toDigits 10 amount

/-- The number that decimal digits spell; no digits spell zero. -/
def ofDigits (ds : List Char) : Amount :=
  Nat.ofDigitChars 10 ds 0

/-- The integer and the fraction of a text; without a point all of it is integer. -/
def parts (text : List Char) : List Char × List Char :=
  (Text.cut? '.' text).getD (text, [])

def checkParts (decimals : Decimals) (integer fraction : List Char) : Except AmountFault Unit :=
  if '.' ∈ fraction then .error .secondPoint
  else if ¬ integer.all Char.isDigit then .error .integerNotDigits
  else if ¬ fraction.all Char.isDigit then .error .fractionNotDigits
  else if integer.isEmpty && fraction.isEmpty then .error .noDigits
  else if 1 < integer.length ∧ integer.head? = some '0' then .error .leadingZero
  else if decimals.places < fraction.length then .error .fractionTooLong
  else .ok ()

def readInteger? (text : List Char) : Option Amount :=
  if text ≠ [] ∧ text.all Char.isDigit then some (ofDigits text) else none

/-- The digits of both parts with zeros behind them until the fraction has all its places. -/
def glue (decimals : Decimals) (integer fraction : List Char) : List Char :=
  integer ++ fraction ++ List.replicate (decimals.places - fraction.length) '0'

def parseDigits (decimals : Decimals) (text : List Char) : Except AmountFault Amount := do
  let (integer, fraction) := parts text
  checkParts decimals integer fraction
  match readInteger? (glue decimals integer fraction) with
  | some amount => return amount
  | none => throw .notInteger

def parse (decimals : Decimals) (text : String) : Except AmountError Amount :=
  (parseDigits decimals text.toList).mapError (.invalidFormat text)

def trimZeros (ds : List Char) : List Char :=
  (ds.reverse.dropWhile (· == '0')).reverse

/-- The digits of an amount, with zeros in front if there are too few to fill the fraction
and one digit before it. -/
def paddedDigits (decimals : Decimals) (amount : Amount) : List Char :=
  let ds := digits amount
  List.replicate (decimals.places + 1 - ds.length) '0' ++ ds

def render (decimals : Decimals) (amount : Amount) : String :=
  let ds := paddedDigits decimals amount
  let integer := ds.take (ds.length - decimals.places)
  let fraction := trimZeros (ds.drop (ds.length - decimals.places))
  String.ofList (if fraction.isEmpty then integer else integer ++ '.' :: fraction)

def decimal (amount : Amount) : String :=
  String.ofList (digits amount)

def digitCount (amount : Amount) : Nat :=
  (digits amount).length

/-- Big-endian bytes without leading zeros, except that zero is one zero byte. -/
def toBytes (amount : Amount) : List UInt8 :=
  if amount = 0 then [0] else Bytes.ofNat amount

end Amount

end TokenDesk
