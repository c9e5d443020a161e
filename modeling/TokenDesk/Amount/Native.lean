import TokenDesk.Amount

/-! Amounts of a chain's own currency.

The currency has a major unit of 10^18 minor units. A summary shows an amount
of up to eighteen digits in the minor unit and a longer one in the major unit.
-/

set_option autoImplicit false

namespace TokenDesk

inductive NativeUnit where
  | major
  | minor
  deriving DecidableEq, Repr

structure UnitNames where
  major : String
  minor : String
  deriving DecidableEq, Repr

def UnitNames.name (names : UnitNames) : NativeUnit → String
  | .major => names.major
  | .minor => names.minor

namespace NativeUnit

def decimals : NativeUnit → Decimals
  | major => .widest
  | minor => .zero

def render (unit : NativeUnit) (amount : Amount) : String :=
  Amount.render unit.decimals amount

def forSummary (amount : Amount) : NativeUnit :=
  if Amount.digitCount amount ≤ 18 then minor else major

def renderNamed (unit : NativeUnit) (names : UnitNames) (amount : Amount) : String :=
  unit.render amount ++ " " ++ names.name unit

def renderSummary (names : UnitNames) (amount : Amount) : String :=
  (forSummary amount).renderNamed names amount

end NativeUnit

end TokenDesk
