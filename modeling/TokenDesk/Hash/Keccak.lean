/-! The Keccak-256 hash, in the form with padding byte `0x01`.

The state is twenty-five lanes of 64 bits; lane `(x, y)` has index `x + 5 * y`.
-/

set_option autoImplicit false

namespace TokenDesk.Hash.Keccak

abbrev State := Array UInt64

def State.lane (s : State) (x y : Nat) : UInt64 :=
  s.getD (x % 5 + 5 * (y % 5)) 0

def State.ofLanes (lane : Nat → Nat → UInt64) : State :=
  Array.ofFn fun i : Fin 25 => lane (i.val % 5) (i.val / 5)

def rotate (w : UInt64) (by' : Nat) : UInt64 :=
  if by' % 64 = 0 then w
  else (w <<< UInt64.ofNat (by' % 64)) ||| (w >>> UInt64.ofNat (64 - by' % 64))

def offsets : Array Nat := #[
  0, 1, 62, 28, 27,
  36, 44, 6, 55, 20,
  3, 10, 43, 25, 39,
  41, 45, 15, 21, 8,
  18, 2, 61, 56, 14]

def roundConstants : List UInt64 := [
  0x0000000000000001, 0x0000000000008082, 0x800000000000808A, 0x8000000080008000,
  0x000000000000808B, 0x0000000080000001, 0x8000000080008081, 0x8000000000008009,
  0x000000000000008A, 0x0000000000000088, 0x0000000080008009, 0x000000008000000A,
  0x000000008000808B, 0x800000000000008B, 0x8000000000008089, 0x8000000000008003,
  0x8000000000008002, 0x8000000000000080, 0x000000000000800A, 0x800000008000000A,
  0x8000000080008081, 0x8000000000008080, 0x0000000080000001, 0x8000000080008008]

def mixColumns (s : State) : State :=
  let parity := Array.ofFn fun x : Fin 5 =>
    s.lane x 0 ^^^ s.lane x 1 ^^^ s.lane x 2 ^^^ s.lane x 3 ^^^ s.lane x 4
  let column := fun x => parity.getD (x % 5) 0
  State.ofLanes fun x y => s.lane x y ^^^ column (x + 4) ^^^ rotate (column (x + 1)) 1

def rotateLanes (s : State) : State :=
  State.ofLanes fun x y =>
    let source := (x + 3 * y) % 5
    rotate (s.lane source x) (offsets.getD (source + 5 * x) 0)

def mixRows (s : State) : State :=
  State.ofLanes fun x y => s.lane x y ^^^ ((~~~ s.lane (x + 1) y) &&& s.lane (x + 2) y)

def round (s : State) (constant : UInt64) : State :=
  let mixed := mixRows (rotateLanes (mixColumns s))
  mixed.setIfInBounds 0 (mixed.lane 0 0 ^^^ constant)

def permute (s : State) : State :=
  roundConstants.foldl round s

def rate : Nat := 136

def pad (message : List UInt8) : List UInt8 :=
  let missing := rate - message.length % rate
  if missing = 1 then message ++ [0x81]
  else message ++ 0x01 :: List.replicate (missing - 2) 0 ++ [0x80]

def laneOf (bytes : List UInt8) : UInt64 :=
  bytes.foldr (fun byte lane => lane <<< 8 ||| byte.toUInt64) 0

def lanesOf (block : List UInt8) : Array UInt64 :=
  Array.ofFn fun i : Fin 17 => laneOf ((block.drop (8 * i.val)).take 8)

def absorb (s : State) (block : List UInt8) : State :=
  let lanes := lanesOf block
  permute (State.ofLanes fun x y => s.lane x y ^^^ lanes.getD (x + 5 * y) 0)

def absorbBlocks (s : State) (message : List UInt8) : (blocks : Nat) → State
  | 0 => s
  | blocks + 1 => absorbBlocks (absorb s (message.take rate)) (message.drop rate) blocks

/-- Byte `i` of a lane, counted from the least significant. -/
def laneByte (w : UInt64) (i : Nat) : UInt8 :=
  (w >>> UInt64.ofNat (8 * i)).toUInt8

def hash (message : List UInt8) : List UInt8 :=
  let padded := pad message
  let final := absorbBlocks (State.ofLanes fun _ _ => 0) padded (padded.length / rate)
  (List.range 32).map fun i => laneByte (final.lane (i / 8) 0) (i % 8)

@[simp] theorem length_hash (message : List UInt8) : (hash message).length = 32 := by
  simp [hash]

end TokenDesk.Hash.Keccak
