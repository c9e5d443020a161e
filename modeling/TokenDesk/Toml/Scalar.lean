import TokenDesk.Text.Cut
import TokenDesk.Text.Hex

/-! Numbers, booleans and dates in a TOML document.

They are recognised, not evaluated: a document holds them as they are written.
Integers have to fit in 64 bits with a sign, a positive number with a fraction
or exponent must be finite, and dates must exist.
-/

set_option autoImplicit false

namespace TokenDesk.Toml

/-- Digits with single underscores between them, without the underscores. -/
def grouped? (isDigit : Char → Bool) (text : List Char) : Option (List Char) :=
  let groups := Text.pieces '_' text
  if groups.all fun group => !group.isEmpty && group.all isDigit then some groups.flatten else none

def unsigned : List Char → Bool × List Char
  | '-' :: rest => (true, rest)
  | '+' :: rest => (false, rest)
  | text => (false, text)

def wholeDigits? (text : List Char) : Option (List Char) :=
  (grouped? Char.isDigit text).filter fun ds => ds.length == 1 || ds.head? != some '0'

/-- Whether digits after a prefix such as `0x` spell a number of 63 bits. -/
def isPrefixed (base : Nat) (text : List Char) : Bool :=
  let isDigit := fun c => ((Text.Hex.digit? c).any (· < base))
  match grouped? isDigit text with
  | some ds => ds.foldl (fun n c => n * base + (Text.Hex.digit? c).getD 0) 0 < Nat.pow 2 63
  | none => false

def isInteger : List Char → Bool
  | '0' :: 'x' :: rest => isPrefixed 16 rest
  | '0' :: 'o' :: rest => isPrefixed 8 rest
  | '0' :: 'b' :: rest => isPrefixed 2 rest
  | text =>
    let (isNegative, rest) := unsigned text
    match wholeDigits? rest with
    | some ds => Nat.ofDigitChars 10 ds 0 < Nat.pow 2 63 + (if isNegative then 1 else 0)
    | none => false

/-- Whether `digits * 10 ^ exponent` rounds to a finite number of 64 bits. -/
def isFinite (digits : Nat) (exponent : Int) : Bool :=
  let limit := Nat.pow 2 1024 - Nat.pow 2 970
  if digits = 0 then true
  else if 400 < exponent then false
  else if 0 ≤ exponent then digits * Nat.pow 10 exponent.toNat < limit
  else digits < limit * Nat.pow 10 (min (-exponent).toNat 100000)

def exponent? (text : List Char) : Option Int := do
  let (isNegative, rest) := unsigned text
  let ds ← grouped? Char.isDigit rest
  let size : Int := Nat.ofDigitChars 10 ds 0
  return if isNegative then -size else size

def isFloat (text : List Char) : Bool :=
  let (isNegative, rest) := unsigned text
  if rest = ['i', 'n', 'f'] ∨ rest = ['n', 'a', 'n'] then true
  else
    let mantissa := rest.takeWhile fun c => c ≠ 'e' ∧ c ≠ 'E'
    let scale := rest.drop mantissa.length
    let (whole, fraction) := match Text.cut? '.' mantissa with
      | some (whole, fraction) => (whole, some fraction)
      | none => (mantissa, none)
    let isPlain := scale.isEmpty && fraction.isNone
    let parts : Option Bool := do
      let whole ← wholeDigits? whole
      let fraction ← match fraction with
        | some text => grouped? Char.isDigit text
        | none => some []
      let exponent ← if scale.isEmpty then some 0 else exponent? (scale.drop 1)
      return isNegative || isFinite (Nat.ofDigitChars 10 (whole ++ fraction) 0)
        (exponent - (fraction.length : Int))
    !isPlain && parts.getD false

def fixedNumber? (width : Nat) (text : List Char) : Option (Nat × List Char) :=
  let ds := text.take width
  if ds.length = width ∧ ds.all Char.isDigit then
    some (Nat.ofDigitChars 10 ds 0, text.drop width)
  else none

def after? (c : Char) : List Char → Option (List Char)
  | d :: rest => if d = c then some rest else none
  | [] => none

def daysIn (year month : Nat) : Nat :=
  if month = 2 then (if year % 4 = 0 ∧ (year % 100 ≠ 0 ∨ year % 400 = 0) then 29 else 28)
  else if month = 4 ∨ month = 6 ∨ month = 9 ∨ month = 11 then 30
  else 31

def afterDate? (text : List Char) : Option (List Char) := do
  let (year, text) ← fixedNumber? 4 text
  let (month, text) ← fixedNumber? 2 (← after? '-' text)
  let (day, text) ← fixedNumber? 2 (← after? '-' text)
  if 1 ≤ month ∧ month ≤ 12 ∧ 1 ≤ day ∧ day ≤ daysIn year month then some text else none

/-- What follows a time of day; a leap second is one. -/
def afterTime? (text : List Char) : Option (List Char) := do
  let (hour, text) ← fixedNumber? 2 text
  let (minute, text) ← fixedNumber? 2 (← after? ':' text)
  let (second, text) ← fixedNumber? 2 (← after? ':' text)
  if 23 < hour ∨ 59 < minute ∨ 60 < second then none
  match text with
  | '.' :: rest => if (rest.takeWhile Char.isDigit).isEmpty then none else some (rest.dropWhile Char.isDigit)
  | rest => some rest

def isOffset : List Char → Bool
  | [] => true
  | ['Z'] => true
  | ['z'] => true
  | c :: text =>
    let parts : Option Bool := do
      let (hour, text) ← fixedNumber? 2 text
      let (minute, text) ← fixedNumber? 2 (← after? ':' text)
      return hour ≤ 23 && minute ≤ 59 && text.isEmpty
    (c == '+' || c == '-') && parts.getD false

def isZonedTime (text : List Char) : Bool :=
  (afterTime? text).any isOffset

def isDateTime (text : List Char) : Bool :=
  match afterDate? text with
  | some [] => true
  | some (c :: time) => (c == 'T' || c == 't' || c == ' ') && isZonedTime time
  | none => (afterTime? text).any List.isEmpty

def isDate (text : List Char) : Bool :=
  (afterDate? text).any List.isEmpty

def isScalar (text : List Char) : Bool :=
  text = "true".toList || text = "false".toList || isInteger text || isFloat text || isDateTime text

end TokenDesk.Toml
