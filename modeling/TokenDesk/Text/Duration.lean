/-! Spans of time in milliseconds, and their text. -/

set_option autoImplicit false

namespace TokenDesk

structure Duration where
  milliseconds : Nat
  deriving DecidableEq, Repr

namespace Duration

def ofSeconds (n : Nat) : Duration :=
  ⟨1000 * n⟩

def seconds (d : Duration) : Nat :=
  d.milliseconds / 1000

/-- A second or more in seconds, with the fraction that is needed; less in
milliseconds; nothing at all in nanoseconds. -/
def text (d : Duration) : String :=
  if d.milliseconds = 0 then "0ns"
  else if d.seconds = 0 then toString d.milliseconds ++ "ms"
  else
    let thousandths := Nat.toDigits 10 (1000 + d.milliseconds % 1000)
    let fraction := (thousandths.drop 1).reverse.dropWhile (· == '0') |>.reverse
    let shown := if fraction.isEmpty then "" else String.ofList ('.' :: fraction)
    toString d.seconds ++ shown ++ "s"

end Duration

end TokenDesk
