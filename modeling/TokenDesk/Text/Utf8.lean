/-! UTF-8 text as a list of bytes.

Reading runs a machine over the bytes that knows how many continuation bytes
the current character still owes and the range of the next one. The strict
reader refuses a text at the first byte out of place; the lossy reader puts
one replacement character for each longest prefix that starts no character.
-/

set_option autoImplicit false

namespace TokenDesk.Text.Utf8

def encode (text : List Char) : List UInt8 :=
  text.flatMap String.utf8EncodeChar

/-- A character begun but not ended: the continuation bytes it owes, the range
of the next one, and the bits read so far. -/
structure Pending where
  owed : Nat
  low : Nat
  high : Nat
  bits : Nat
  deriving DecidableEq, Repr

inductive Lead where
  | whole (c : Char)
  | begun (p : Pending)
  | nothing
  deriving DecidableEq, Repr

def lead (byte : UInt8) : Lead :=
  let b := byte.toNat
  if b < 0x80 then .whole (Char.ofNat b)
  else if b < 0xC2 then .nothing
  else if b < 0xE0 then .begun ⟨1, 0x80, 0xBF, b - 0xC0⟩
  else if b = 0xE0 then .begun ⟨2, 0xA0, 0xBF, 0⟩
  else if b = 0xED then .begun ⟨2, 0x80, 0x9F, 0xD⟩
  else if b < 0xF0 then .begun ⟨2, 0x80, 0xBF, b - 0xE0⟩
  else if b = 0xF0 then .begun ⟨3, 0x90, 0xBF, 0⟩
  else if b < 0xF4 then .begun ⟨3, 0x80, 0xBF, b - 0xF0⟩
  else if b = 0xF4 then .begun ⟨3, 0x80, 0x8F, 4⟩
  else .nothing

def Pending.accepts (p : Pending) (byte : UInt8) : Bool :=
  p.low ≤ byte.toNat && byte.toNat ≤ p.high

def Pending.take (p : Pending) (byte : UInt8) : Lead :=
  let bits := p.bits * 64 + (byte.toNat - 0x80)
  if p.owed ≤ 1 then .whole (Char.ofNat bits) else .begun ⟨p.owed - 1, 0x80, 0xBF, bits⟩

def replacement : Char := '\ufffd'

/-- Read the rest of a text, where `pending` is the character begun before it. -/
def lossyFrom (pending : Option Pending) : List UInt8 → List Char
  | [] => if pending.isSome then [replacement] else []
  | byte :: rest =>
    let continued := pending.bind fun p => if p.accepts byte then some (p.take byte) else none
    let lost := if pending.isSome && continued.isNone then [replacement] else []
    match continued.getD (lead byte) with
    | .whole c => lost ++ c :: lossyFrom none rest
    | .begun p => lost ++ lossyFrom (some p) rest
    | .nothing => lost ++ replacement :: lossyFrom none rest

def decodeLossy (bytes : List UInt8) : List Char :=
  lossyFrom none bytes

/-- Read the rest of a text strictly, where `pending` is the character begun before it. -/
def strictFrom (pending : Option Pending) : List UInt8 → Option (List Char)
  | [] => if pending.isSome then none else some []
  | byte :: rest =>
    let step := match pending with
      | none => lead byte
      | some p => if p.accepts byte then p.take byte else .nothing
    match step with
    | .whole c => (strictFrom none rest).map (c :: ·)
    | .begun p => strictFrom (some p) rest
    | .nothing => none

def decode? (bytes : List UInt8) : Option (List Char) :=
  strictFrom none bytes

end TokenDesk.Text.Utf8
