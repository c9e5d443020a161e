import TokenDesk.Address
import TokenDesk.Address.Base58
import TokenDesk.Address.Chain
import TokenDesk.Text.Cut

/-! Tagged addresses, and the texts accepted as the destination of a payment.

A tagged address is `NEW` followed by the checked base-58 form of a version
byte, the id of its chain and the twenty bytes of the address. It is read for
one chain and refused for every other, also for one with an equal number.
-/

set_option autoImplicit false

namespace TokenDesk

inductive AddressError where
  | invalidHex (text : String)
  | invalidLength (got : Nat)
  | missingTag
  | invalidEncoding (cause : Base58.Error)
  | noVersion
  | checksumMismatch
  | badVersion (version : UInt8)
  | payloadTooShort (length : Nat)
  | chainMismatch (expected got : ChainId)
  deriving DecidableEq, Repr

def AddressError.message : AddressError → String
  | invalidHex text => "invalid hex address '" ++ text ++ "'"
  | invalidLength got => "invalid address length: expected 20 bytes, got " ++ toString got
  | missingTag => "not a tagged address: missing 'NEW' prefix"
  | invalidEncoding cause => "invalid base58 encoding: " ++ cause.message
  | noVersion => "invalid base58 encoding: no version byte"
  | checksumMismatch => "address checksum mismatch"
  | badVersion version => "illegal address version " ++ toString version.toNat
  | payloadTooShort length => "decoded payload too short: " ++ toString length ++ " bytes"
  | chainMismatch expected got =>
    "address belongs to chain " ++ got.text ++ ", expected chain " ++ expected.text

namespace Address

def ofBytes (bytes : List UInt8) : Except AddressError Address :=
  if h : bytes.length = 20 then .ok ⟨bytes, h⟩ else .error (.invalidLength bytes.length)

def parseHex (text : String) : Except AddressError Address :=
  match ofHex? text with
  | some address => .ok address
  | none => .error (.invalidHex text)

def tag : List Char := ['N', 'E', 'W']

def version : UInt8 := 0

def tagged (chain : ChainId) (address : Address) : String :=
  String.ofList (tag ++ Base58.encodeChecked (version :: chain.bytes ++ address.bytes))

def splitPayload (payload : List UInt8) : Except AddressError (ChainId × Address) :=
  if payload.length < 20 then .error (.payloadTooShort payload.length)
  else
    let split := payload.length - 20
    (ofBytes (payload.drop split)).map fun address => (⟨payload.take split⟩, address)

def untag (text : String) : Except AddressError (ChainId × Address) :=
  match Text.stripStart? tag text.toList with
  | none => .error .missingTag
  | some body =>
    match Base58.decodeChecked body with
    | .error .checksumMismatch => .error .checksumMismatch
    | .error cause => .error (.invalidEncoding cause)
    | .ok [] => .error .noVersion
    | .ok (byte :: payload) =>
      if byte ≠ version then .error (.badVersion byte) else splitPayload payload

def untagOn (expected : ChainId) (text : String) : Except AddressError (ChainId × Address) := do
  let (chain, address) ← untag text
  if chain = expected then return (chain, address)
  throw (.chainMismatch expected chain)

def parseTagged (expected : ChainId) (text : String) : Except AddressError Address :=
  (untagOn expected text).map Prod.snd

def parseDestination (tagged? : Option ChainId) (text : String) : Except AddressError Address :=
  match parseHex text, tagged? with
  | .ok address, _ => .ok address
  | .error _, some chain => parseTagged chain text
  | .error e, none => .error e

end Address

end TokenDesk
