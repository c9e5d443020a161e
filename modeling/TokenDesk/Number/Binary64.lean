/-! The shortest decimal digits of a 64-bit floating point number.

A finite number is `significand * 2 ^ exponent`, and a decimal stands for it if
it lies between the midpoints to both neighbours, the midpoints included when
the significand is even. The grids of powers of ten are searched from coarse to
fine, and on the first grid with such a decimal the nearer one is taken, and of
two that are equally near the one whose last digit is even.
-/

set_option autoImplicit false

namespace TokenDesk.Binary64

structure Magnitude where
  significand : Nat
  exponent : Int
  /-- Whether the neighbour below is half as far away as the one above. -/
  narrowBelow : Bool
  deriving DecidableEq, Repr

def isNegative (bits : UInt64) : Bool :=
  bits.toNat / Nat.pow 2 63 == 1

def magnitude (bits : UInt64) : Magnitude :=
  let fraction : Nat := bits.toNat % Nat.pow 2 52
  let biased : Nat := bits.toNat / Nat.pow 2 52 % Nat.pow 2 11
  if biased = 0 then ⟨fraction, -1074, false⟩
  else ⟨Nat.pow 2 52 + fraction, (biased : Int) - 1075, fraction == 0 && 1 < biased⟩

/-- A decimal `digits * 10 ^ scale`. -/
structure Decimal where
  digits : Nat
  scale : Int
  deriving DecidableEq, Repr

/-- Of the two multiples of `10 ^ scale` around the number, the nearer one that stands for it;
halfway between them the even multiple. -/
def Magnitude.onGrid (x : Magnitude) (scale : Int) : Option Decimal :=
  let quarter := x.exponent - 2
  let factor := Nat.pow 2 quarter.toNat * Nat.pow 10 (-scale).toNat
  let unit := Nat.pow 2 (-quarter).toNat * Nat.pow 10 scale.toNat
  let value := 4 * x.significand * factor
  let low := (4 * x.significand - if x.narrowBelow then 1 else 2) * factor
  let high := (4 * x.significand + 2) * factor
  let standsFor := fun digits =>
    let point := digits * unit
    if x.significand % 2 = 0 then low ≤ point ∧ point ≤ high else low < point ∧ point < high
  let below := value / unit
  let above := below + 1
  let toBelow := value - below * unit
  let toAbove := above * unit - value
  let choosesBelow := toBelow < toAbove ∨ toBelow = toAbove ∧ below % 2 = 0
  if standsFor below ∧ (choosesBelow ∨ ¬ standsFor above) then some ⟨below, scale⟩
  else if standsFor above then some ⟨above, scale⟩
  else none

def Magnitude.shortest (x : Magnitude) : Decimal :=
  ((List.range 640).findSome? fun step : Nat => x.onGrid (310 - (step : Int))).getD ⟨0, 0⟩

/-- Digits and exponent: positional between 10^-5 and 10^16, with a point always;
otherwise one digit before the point, and the exponent with its sign after an `e`. -/
def Decimal.text (x : Decimal) : String :=
  let ds := Nat.toDigits 10 x.digits
  let size : Int := ds.length
  let point := size + x.scale
  let zeros := fun (n : Int) => List.replicate n.toNat '0'
  String.ofList <|
    if 0 ≤ x.scale ∧ point ≤ 16 then ds ++ zeros x.scale ++ ['.', '0']
    else if 0 < point ∧ point ≤ 16 then ds.take point.toNat ++ '.' :: ds.drop point.toNat
    else if -5 < point ∧ point ≤ 0 then ['0', '.'] ++ zeros (-point) ++ ds
    else
      let fraction := ds.drop 1
      let exponent := point - 1
      ds.take 1 ++ (if fraction.isEmpty then [] else '.' :: fraction)
        ++ 'e' :: (if exponent < 0 then '-' else '+') :: Nat.toDigits 10 exponent.natAbs

def text (bits : UInt64) : String :=
  let x := magnitude bits
  let unsigned := if x.significand = 0 then "0.0" else x.shortest.text
  if isNegative bits then "-" ++ unsigned else unsigned

end TokenDesk.Binary64
