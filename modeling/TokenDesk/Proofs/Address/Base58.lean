import TokenDesk.Address.Base58
import TokenDesk.Proofs.Digits
import TokenDesk.Proofs.Results

/-! Base-58 text and bytes are one to one.

Both are digits of one number, with the zeros in front carried over, so each text of
the alphabet is read as bytes which are written as that text and no other. With the
checksum, exactly the written texts are read.
-/

set_option autoImplicit false

namespace TokenDesk.Base58

variable {text : List Char} {bytes payload : List UInt8}

theorem alphabet_eq : alphabet =
    ['1', '2', '3', '4', '5', '6', '7', '8', '9', 'A', 'B', 'C', 'D', 'E', 'F', 'G', 'H', 'J', 'K', 'L', 'M', 'N', 'P',
      'Q', 'R', 'S', 'T', 'U', 'V', 'W', 'X', 'Y', 'Z', 'a', 'b', 'c', 'd', 'e', 'f', 'g', 'h', 'i', 'j', 'k', 'm', 'n',
      'o', 'p', 'q', 'r', 's', 't', 'u', 'v', 'w', 'x', 'y', 'z'] := String.toList_ofList

theorem length_alphabet : alphabet.length = 58 := by
  rw [alphabet_eq]
  rfl

theorem digit_zero : digit 0 = '1' := by
  rw [digit, alphabet_eq]
  rfl

theorem alphabet_ascending : alphabet.Pairwise fun c d => c.toNat < d.toNat := by
  have chain : alphabet.IsChain fun c d => c.toNat < d.toNat := by
    rw [alphabet_eq]
    decide +kernel
  exact chain.pairwise

theorem digit_eq {n : Nat} (fits : n < 58) : ∃ within : n < alphabet.length, digit n = alphabet[n] := by
  have within : n < alphabet.length := by rwa [length_alphabet]
  exact ⟨within, by rw [digit, List.getD, List.getElem?_eq_getElem within, Option.getD_some]⟩

-- To compare a digit with some other character is to read it from the literal, which is long.
attribute [local irreducible] alphabet

theorem digit?_eq_some_iff {c : Char} {n : Nat} : digit? c = some n ↔ n < 58 ∧ c = digit n := by
  rw [digit?, List.idxOf?_eq_some_iff]
  constructor
  · rintro ⟨within, found, -⟩
    have fits : n < 58 := length_alphabet ▸ within
    obtain ⟨_, same⟩ := digit_eq fits
    exact ⟨fits, found.symm.trans same.symm⟩
  · rintro ⟨fits, named⟩
    obtain ⟨within, same⟩ := digit_eq fits
    refine ⟨within, (named.trans same).symm, fun earlier before found => ?_⟩
    have apart := List.pairwise_iff_getElem.mp alphabet_ascending earlier n (Nat.lt_trans before within) within before
    rw [found, named, same] at apart
    exact Nat.lt_irrefl _ apart

theorem toNat_digit_le {n : Nat} (fits : n < 58) : (digit n).toNat ≤ 127 := by
  have small : alphabet.all (·.toNat ≤ 127) := by
    rw [alphabet_eq]
    decide
  obtain ⟨within, same⟩ := digit_eq fits
  rw [same]
  exact of_decide_eq_true (List.all_eq_true.mp small _ (List.getElem_mem within))

theorem digitValues_eq_ok_iff {position : Nat} {ds : List Nat} :
    digitValues position text = .ok ds ↔ text = ds.map digit ∧ ∀ d ∈ ds, d < 58 := by
  induction text generalizing position ds with
  | nil =>
    change Except.ok [] = .ok ds ↔ _
    cases ds <;> simp
  | cons c rest ih =>
    change (if 127 < c.toNat then _ else _) = Except.ok ds ↔ _
    -- The alphabet lies below 128, so the first test refuses nothing that the second would take.
    constructor
    · intro read
      by_cases beyond : 127 < c.toNat
      · rw [if_pos beyond] at read
        cases read
      · rw [if_neg beyond] at read
        cases found : digit? c with
        | none =>
          rw [found] at read
          cases read
        | some d =>
          rw [found] at read
          obtain ⟨others, rest_read, rfl⟩ := map_eq_ok_iff.mp read
          obtain ⟨fits, rfl⟩ := digit?_eq_some_iff.mp found
          obtain ⟨rfl, rest_fits⟩ := ih.mp rest_read
          exact ⟨rfl, List.forall_mem_cons.mpr ⟨fits, rest_fits⟩⟩
    · rintro ⟨same, bounded⟩
      cases ds with
      | nil => cases same
      | cons d others =>
        cases same
        obtain ⟨fits, rest_fits⟩ := List.forall_mem_cons.mp bounded
        rw [if_neg (Nat.not_lt_of_le (toNat_digit_le fits)), digit?_eq_some_iff.mpr ⟨fits, rfl⟩]
        exact map_eq_ok_iff.mpr ⟨others, ih.mpr ⟨rfl, rest_fits⟩, rfl⟩

theorem map_takeWhile_zeros {α β : Type} [BEq α] [LawfulBEq α] (zero : α) (f : α → β) (items : List α) :
    (items.takeWhile (· == zero)).map (fun _ => f zero) = (items.takeWhile (· == zero)).map f := by
  refine List.map_congr_left fun item listed => ?_
  have same := List.mem_takeWhile_imp listed
  rw [beq_iff_eq.mp same]

theorem encode_eq_rebase (bytes : List UInt8) :
    encode bytes = (Digits.rebase 256 58 (bytes.map UInt8.toNat)).map digit := by
  have zero : ((· == 0) ∘ UInt8.toNat : UInt8 → Bool) = (· == 0) := by
    funext byte
    simp [← UInt8.toNat_inj]
  have first : (digit ∘ UInt8.toNat) 0 = '1' := by
    rw [Function.comp_apply, UInt8.toNat_zero, digit_zero]
  rw [encode, Bytes.toNat, Digits.rebase, List.map_append, List.takeWhile_map, zero, List.map_map,
    ← map_takeWhile_zeros 0 (digit ∘ UInt8.toNat), first]

theorem decode_eq_rebase (text : List Char) :
    decode text = (digitValues 0 text).map fun ds => (Digits.rebase 58 256 ds).map UInt8.ofNat := by
  unfold decode
  congr 1
  funext ds
  rw [Digits.rebase, List.map_append, ← map_takeWhile_zeros 0 UInt8.ofNat]
  rfl

theorem decode_eq_ok_iff : decode text = .ok bytes ↔ text = encode bytes := by
  rw [decode_eq_rebase, encode_eq_rebase, map_eq_ok_iff]
  constructor
  · rintro ⟨ds, read, rfl⟩
    obtain ⟨rfl, bounded⟩ := digitValues_eq_ok_iff.mp read
    rw [Bytes.map_toNat_ofNat fun d => Digits.lt_of_mem_rebase (by decide),
      Digits.rebase_rebase (by decide) (by decide) bounded]
  · rintro rfl
    refine ⟨_, digitValues_eq_ok_iff.mpr ⟨rfl, fun d => Digits.lt_of_mem_rebase (by decide)⟩, ?_⟩
    rw [Digits.rebase_rebase (by decide) (by decide) (Bytes.lt_of_mem_values bytes), Bytes.map_ofNat_toNat]

@[simp] theorem length_checksum (bytes : List UInt8) : (checksum bytes).length = 4 := by
  simp [checksum]

theorem decodeChecked_eq_ok_iff : decodeChecked text = .ok payload ↔ text = encodeChecked payload := by
  rw [decodeChecked, bind_eq_ok_iff]
  constructor
  · rintro ⟨bytes, read, checked⟩
    rw [decode_eq_ok_iff.mp read, encodeChecked]
    by_cases short : bytes.length < 4
    · rw [if_pos short] at checked
      cases checked
    · rw [if_neg short] at checked
      by_cases fits : bytes.drop (bytes.length - 4) = checksum (bytes.take (bytes.length - 4))
      · simp only [fits, if_true] at checked
        obtain rfl := Except.ok.inj checked
        rw [← fits, List.take_append_drop]
      · simp only [fits, if_false] at checked
        cases checked
  · rintro rfl
    refine ⟨payload ++ checksum payload, decode_eq_ok_iff.mpr rfl, ?_⟩
    have length : (payload ++ checksum payload).length = payload.length + 4 := by
      rw [List.length_append, length_checksum]
    rw [if_neg (by omega)]
    simp only [length, Nat.add_sub_cancel, List.take_left, List.drop_left, if_true]
    rfl

end TokenDesk.Base58
