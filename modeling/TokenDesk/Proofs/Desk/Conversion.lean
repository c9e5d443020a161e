import TokenDesk.Command.Convert
import TokenDesk.Proofs.Address.Hex
import TokenDesk.Proofs.Address.Tagged
import TokenDesk.Proofs.Amount.Rendering
import TokenDesk.Proofs.Rpc.Transaction
import TokenDesk.Proofs.Text.Blank

/-! Addresses converted to their tagged form and back.

The number of a chain has one id, and a node's text of the number leads to the same one. So
a tagged text is converted back wherever its chain is known by the same number, and nowhere
else. Since a tagged text is never read as a hexadecimal one, converting goes only one way
from each text.
-/

set_option autoImplicit false

namespace TokenDesk

namespace Amount

theorem digits_ne_nil (amount : Amount) : digits amount ≠ [] :=
  List.ne_nil_of_length_pos Nat.length_toDigits_pos

theorem not_isBlank_digits (amount : Amount) : ∀ c ∈ digits amount, ¬ Text.isBlank c := by
  intro c listed
  have bounds := isDigit_bounds (List.all_eq_true.mp (all_digits amount) c listed)
  simp only [Text.isBlank, Bool.or_eq_true, Bool.and_eq_true, decide_eq_true_eq, beq_iff_eq]
  omega

theorem parse_decimal (amount : Amount) : parse .zero (decimal amount) = .ok amount := by
  have written : Writes .zero (decimal amount).toList (digits amount) [] := by
    rw [decimal, String.toList_ofList]
    refine .whole ⟨digits_ne_nil amount, all_digits amount, ?_⟩
    by_cases longer : 1 < (digits amount).length
    · exact .inr (head?_digits longer)
    · have single : (digits amount).length = 1 := by
        have positive := List.length_pos_of_ne_nil (digits_ne_nil amount)
        omega
      obtain ⟨c, only⟩ := List.length_eq_one_iff.mp single
      rw [only]
      by_cases zero : c = '0'
      · exact .inl (congrArg (fun first => [first]) zero)
      · exact .inr fun first => zero (Option.some.inj first)
  rw [parse_of_writes written, ofDigits_digits]
  simp [Decimals.zero, ofDigits]

end Amount

namespace ChainId

theorem number_ofNat (n : Nat) : (ofNat n).number = n :=
  Bytes.toNat_ofNat n

theorem ofNat_injective : Function.Injective ofNat :=
  Function.LeftInverse.injective number_ofNat

theorem head?_ofNat (n : Nat) : (ofNat n).bytes.head? ≠ some 0 := by
  intro zero
  rw [ofNat, Bytes.ofNat, List.head?_map, Option.map_eq_some_iff] at zero
  obtain ⟨d, first, same⟩ := zero
  -- The first byte is the first digit in base 256, and that is no zero.
  have small := Digits.lt_of_mem_digits (by decide) (List.mem_of_head? first)
  obtain rfl : d = 0 := by
    have value := congrArg UInt8.toNat same
    rwa [UInt8.toNat_ofNat', Nat.mod_eq_of_lt small] at value
  exact Digits.head?_digits (by decide) n first

end ChainId

theorem Rpc.parseNetworkVersion_decimal {before after : List Char} (blank : ∀ c ∈ before, Text.isBlank c)
    (blank_behind : ∀ c ∈ after, Text.isBlank c) (n : Nat) :
    parseNetworkVersion (String.ofList (before ++ (Amount.decimal n).toList ++ after)) = .ok (.ofNat n) := by
  have trimmed := Text.trim_append blank blank_behind (Amount.digits_ne_nil n) (Amount.not_isBlank_digits n)
  have read := Amount.parse_decimal n
  rw [Amount.decimal] at read
  rw [parseNetworkVersion, Amount.decimal, String.toList_ofList, String.toList_ofList, trimmed, read]

namespace Desk

variable {text : String} {address : Address} {chain : ChainId}

theorem converted_of_parseHex (read : Address.parseHex text = .ok address) (chain : ChainId) :
    converted text chain = .ok (address.tagged chain) := by
  rw [converted, read]

theorem converted_tagged (address : Address) (chain : ChainId) :
    converted (address.tagged chain) chain = .ok address.checksummed := by
  rw [converted, Address.parseHex_tagged, Address.parseTagged_eq_ok_iff.mpr rfl]

theorem converted_tagged_of_ne {other : ChainId} (apart : chain ≠ other) (address : Address) :
    converted (address.tagged chain) other =
      .error (.during (.parseTagged (address.tagged chain) other) (.address (.chainMismatch other chain))) := by
  have refused : Address.parseTagged other (address.tagged chain) = .error (.chainMismatch other chain) := by
    rw [Address.parseTagged, Address.untagOn_eq_chainMismatch_iff.mpr ⟨rfl, apart, address, rfl⟩]
    rfl
  rw [converted, Address.parseHex_tagged, refused]

/-- All spellings of an address are converted to one tagged text, which is converted back to the address on its own
chain and is refused for every other. A tagged text is what its conversion is converted to. -/
theorem converted_reverses :
    (∀ text address n, Address.parseHex text = .ok address →
      converted text (.ofNat n) = .ok (address.tagged (.ofNat n))) ∧
    (∀ before after n, (∀ c ∈ before, Text.isBlank c) → (∀ c ∈ after, Text.isBlank c) →
      ∃ chain, Rpc.parseNetworkVersion (String.ofList (before ++ (Amount.decimal n).toList ++ after)) = .ok chain ∧
        ∀ address, converted (Address.tagged (.ofNat n) address) chain = .ok address.checksummed) ∧
    (∀ address n m, n ≠ m → converted (Address.tagged (.ofNat n) address) (.ofNat m) =
      .error (.during (.parseTagged (address.tagged (.ofNat n)) (.ofNat m))
        (.address (.chainMismatch (.ofNat m) (.ofNat n))))) ∧
    (∀ n text chain address, Address.untagOn (.ofNat n) text = .ok (chain, address) →
      ∃ hex, converted text (.ofNat n) = .ok hex ∧ converted hex (.ofNat n) = .ok text) ∧
    Function.Injective ChainId.ofNat ∧ ∀ n, (ChainId.ofNat n).bytes.head? ≠ some 0 ∧ (ChainId.ofNat n).number = n := by
  refine ⟨?_, ?_, ?_, ?_, ChainId.ofNat_injective, fun n => ⟨ChainId.head?_ofNat n, ChainId.number_ofNat n⟩⟩
  · intro text address n read
    exact converted_of_parseHex read (.ofNat n)
  · intro before after n blank blank_behind
    refine ⟨.ofNat n, Rpc.parseNetworkVersion_decimal blank blank_behind n, ?_⟩
    intro address
    exact converted_tagged address (.ofNat n)
  · intro address n m apart
    exact converted_tagged_of_ne (ChainId.ofNat_injective.ne apart) address
  · intro n text chain address accepted
    obtain ⟨rfl, rfl⟩ := Address.untagOn_eq_ok_iff.mp accepted
    exact ⟨address.checksummed, converted_tagged address (.ofNat n),
      converted_of_parseHex (Address.parseHex_checksummed address) (.ofNat n)⟩

def zeroTagged : String := "NEW17zCMQXMA7yfdJYUQEeUQwKG6DnyStvX93a5"

theorem converted_reverses_zero :
    converted "0x0000000000000000000000000000000000000000" (.ofNat 1007) = .ok zeroTagged ∧
    (∃ chain, Rpc.parseNetworkVersion (String.ofList ([] ++ (Amount.decimal 1007).toList ++ ['\n'])) = .ok chain ∧
      converted zeroTagged chain = .ok Address.zero.checksummed) ∧
    (∃ cause, converted zeroTagged (.ofNat 1012) = .error cause) ∧
    ∃ hex, converted zeroTagged (.ofNat 1007) = .ok hex ∧ converted hex (.ofNat 1007) = .ok zeroTagged := by
  have read : Address.parseHex "0x0000000000000000000000000000000000000000" = .ok .zero :=
    toOption_eq_some_iff.mp (by decide +kernel)
  have written : Address.tagged (.ofNat 1007) .zero = zeroTagged := by decide +kernel
  have accepted : Address.untagOn (.ofNat 1007) zeroTagged = .ok (.ofNat 1007, .zero) :=
    Address.untagOn_eq_ok_iff.mpr ⟨rfl, written.symm⟩
  have blank : ∀ c ∈ ['\n'], Text.isBlank c := by
    intro c listed
    rw [List.mem_singleton.mp listed]
    rfl
  obtain ⟨there, back, apart, again, -⟩ := converted_reverses
  obtain ⟨chain, reported, known⟩ := back [] ['\n'] 1007 nofun blank
  rw [← written] at accepted ⊢
  exact ⟨there _ .zero 1007 read, ⟨chain, reported, known .zero⟩, ⟨_, apart .zero 1007 1012 (by decide)⟩,
    again 1007 _ _ .zero accepted⟩

end Desk

end TokenDesk
