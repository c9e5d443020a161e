import TokenDesk.Address.Tagged
import TokenDesk.Proofs.Address.Base58

/-! Tagged addresses have one text each.

A text is read as the chain and the address for which it is written, and as nothing
else. So the reader for one chain tells apart its own texts, those of other chains,
and texts that are no tagged addresses at all.
-/

set_option autoImplicit false

namespace TokenDesk.Address

variable {chain expected : ChainId} {address : Address} {text : String}

theorem ofBytes_eq_ok_iff {bytes : List UInt8} : ofBytes bytes = .ok address ↔ bytes = address.bytes := by
  unfold ofBytes
  constructor
  · intro read
    by_cases length : bytes.length = 20
    · rw [dif_pos length] at read
      cases read
      rfl
    · rw [dif_neg length] at read
      cases read
  · rintro rfl
    exact dif_pos address.length_bytes

theorem splitPayload_eq_ok_iff {payload : List UInt8} :
    splitPayload payload = .ok (chain, address) ↔ payload = chain.bytes ++ address.bytes := by
  unfold splitPayload
  constructor
  · intro read
    by_cases short : payload.length < 20
    · rw [if_pos short] at read
      cases read
    · rw [if_neg short] at read
      obtain ⟨last, held, parts⟩ := map_eq_ok_iff.mp read
      cases parts
      rw [← ofBytes_eq_ok_iff.mp held, List.take_append_drop]
  · rintro rfl
    have length : (chain.bytes ++ address.bytes).length = chain.bytes.length + 20 := by
      rw [List.length_append, address.length_bytes]
    rw [if_neg (by omega)]
    simp only [length, Nat.add_sub_cancel, List.take_left, List.drop_left]
    exact map_eq_ok_iff.mpr ⟨address, ofBytes_eq_ok_iff.mpr rfl, rfl⟩

theorem splitPayload_ne_chainMismatch (payload : List UInt8) (wanted got : ChainId) :
    splitPayload payload ≠ .error (.chainMismatch wanted got) := by
  intro failed
  unfold splitPayload ofBytes at failed
  split at failed
  · cases failed
  · simp only at failed
    split at failed <;> cases failed

theorem untag_eq_splitPayload {body : List Char} {payload : List UInt8}
    (stripped : Text.stripStart? tag text.toList = some body)
    (decoded : Base58.decodeChecked body = .ok (version :: payload)) : untag text = splitPayload payload := by
  -- The body is any text here: one that is spelled out would be decoded to check this.
  simp only [untag, stripped, decoded, ne_eq, not_true_eq_false, if_false]

theorem untag_eq_ok_iff : untag text = .ok (chain, address) ↔ text = address.tagged chain := by
  constructor
  · intro read
    unfold untag at read
    -- In every other branch the reader fails.
    split at read
    · cases read
    next body stripped =>
      split at read
      · cases read
      · cases read
      · cases read
      next byte payload decoded =>
        by_cases other : byte ≠ version
        · rw [if_pos other] at read
          cases read
        · rw [if_neg other] at read
          have written := Text.eq_append_of_stripStart? stripped
          rw [Base58.decodeChecked_eq_ok_iff.mp decoded, Decidable.not_not.mp other,
            splitPayload_eq_ok_iff.mp read] at written
          rw [tagged, List.cons_append, ← written, String.ofList_toList]
  · rintro rfl
    have stripped : Text.stripStart? tag (address.tagged chain).toList =
        some (Base58.encodeChecked (version :: chain.bytes ++ address.bytes)) := by
      rw [tagged, String.toList_ofList, Text.stripStart?_append]
    rw [untag_eq_splitPayload stripped (Base58.decodeChecked_eq_ok_iff.mpr rfl)]
    exact splitPayload_eq_ok_iff.mpr rfl

theorem untag_ne_chainMismatch (text : String) (wanted got : ChainId) :
    untag text ≠ .error (.chainMismatch wanted got) := by
  intro failed
  unfold untag at failed
  split at failed
  · cases failed
  · split at failed
    · cases failed
    · cases failed
    · cases failed
    · split at failed
      · cases failed
      · exact splitPayload_ne_chainMismatch _ wanted got failed

theorem tagged_inj {chain' : ChainId} {address' : Address} :
    address.tagged chain = address'.tagged chain' ↔ chain = chain' ∧ address = address' := by
  constructor
  · intro same
    have read := untag_eq_ok_iff.mpr same
    rw [untag_eq_ok_iff.mpr rfl] at read
    cases read
    exact ⟨rfl, rfl⟩
  · rintro ⟨rfl, rfl⟩
    rfl

theorem untagOn_eq_ok_iff :
    untagOn expected text = .ok (chain, address) ↔ chain = expected ∧ text = address.tagged expected := by
  rw [untagOn, bind_eq_ok_iff]
  constructor
  · rintro ⟨⟨got, held⟩, untagged, checked⟩
    obtain rfl := untag_eq_ok_iff.mp untagged
    by_cases same : got = expected
    · simp only [same, if_true] at checked
      cases checked
      exact ⟨rfl, by rw [same]⟩
    · simp only [same, if_false] at checked
      cases checked
  · rintro ⟨rfl, rfl⟩
    exact ⟨(chain, address), untag_eq_ok_iff.mpr rfl, if_pos rfl⟩

theorem untagOn_eq_chainMismatch_iff {wanted got : ChainId} :
    untagOn expected text = .error (.chainMismatch wanted got) ↔
      wanted = expected ∧ got ≠ expected ∧ ∃ address, text = tagged got address := by
  rw [untagOn, bind_eq_error_iff]
  constructor
  · rintro (failed | ⟨⟨found, held⟩, untagged, checked⟩)
    · exact absurd failed (untag_ne_chainMismatch text wanted got)
    · obtain rfl := untag_eq_ok_iff.mp untagged
      by_cases same : found = expected
      · simp only [same, if_true] at checked
        cases checked
      · simp only [same, if_false] at checked
        cases checked
        exact ⟨rfl, same, held, rfl⟩
  · rintro ⟨rfl, other, held, rfl⟩
    exact .inr ⟨(got, held), untag_eq_ok_iff.mpr rfl, if_neg other⟩

theorem untagOn_eq_error_iff :
    (∃ error, untagOn expected text = .error error ∧ ∀ wanted got, error ≠ .chainMismatch wanted got) ↔
      ¬ ∃ chain address, text = tagged chain address := by
  constructor
  · rintro ⟨error, failed, otherwise⟩ ⟨chain, address, rfl⟩
    -- The text of some chain is either read or refused for its chain, which leaves no other error.
    by_cases same : chain = expected
    · have read := untagOn_eq_ok_iff.mpr ⟨same, congrArg address.tagged same⟩
      cases failed.symm.trans read
    · have mismatched := untagOn_eq_chainMismatch_iff.mpr ⟨rfl, same, address, rfl⟩
      rw [failed] at mismatched
      exact otherwise expected chain (Except.error.inj mismatched)
  · intro untagged
    cases read : untagOn expected text with
    | ok found => exact absurd ⟨expected, found.2, (untagOn_eq_ok_iff.mp read).2⟩ untagged
    | error error =>
      refine ⟨error, rfl, ?_⟩
      rintro wanted got rfl
      obtain ⟨-, -, address, written⟩ := untagOn_eq_chainMismatch_iff.mp read
      exact untagged ⟨got, address, written⟩

theorem bytes_ne_iff {other : ChainId} : other.bytes ≠ expected.bytes ↔ other ≠ expected := by
  obtain ⟨bytes⟩ := other
  obtain ⟨expected_bytes⟩ := expected
  simp

/-- The reader for a chain tells apart the texts of its own addresses, those of other chains' addresses,
and all other texts. Ids are compared by their bytes, of which no zero is left out. -/
theorem untagOn_exact (expected : ChainId) (text : String) :
    (∀ chain address, untagOn expected text = .ok (chain, address) ↔
      chain = expected ∧ text = address.tagged expected) ∧
    (∀ wanted got, untagOn expected text = .error (.chainMismatch wanted got) ↔
      wanted = expected ∧ got.bytes ≠ expected.bytes ∧ ∃ address, text = tagged got address) ∧
    ((∃ error, untagOn expected text = .error error ∧ ∀ wanted got, error ≠ .chainMismatch wanted got) ↔
      ¬ ∃ chain address, text = tagged chain address) ∧
    (∀ address, untagOn expected (address.tagged expected) = .ok (expected, address)) ∧
    (∀ other address, untagOn expected (tagged other address) = .error (.chainMismatch expected other) ↔
      other.bytes ≠ expected.bytes) ∧
    ∀ chain other address address', tagged chain address = tagged other address' ↔
      chain = other ∧ address = address' := by
  simp only [bytes_ne_iff]
  refine ⟨fun _ _ => untagOn_eq_ok_iff, fun _ _ => untagOn_eq_chainMismatch_iff, untagOn_eq_error_iff,
    fun _ => untagOn_eq_ok_iff.mpr ⟨rfl, rfl⟩, ?_, fun _ _ _ _ => tagged_inj⟩
  intro other address
  rw [untagOn_eq_chainMismatch_iff]
  exact ⟨fun ⟨_, apart, _⟩ => apart, fun apart => ⟨rfl, apart, address, rfl⟩⟩

theorem parseTagged_eq_ok_iff : parseTagged expected text = .ok address ↔ text = address.tagged expected := by
  rw [parseTagged, map_eq_ok_iff]
  constructor
  · rintro ⟨⟨chain, held⟩, read, rfl⟩
    exact (untagOn_eq_ok_iff.mp read).2
  · intro written
    exact ⟨(expected, address), untagOn_eq_ok_iff.mpr ⟨rfl, written⟩, rfl⟩

theorem ofHex?_tagged (chain : ChainId) (address : Address) : ofHex? (address.tagged chain) = none := by
  refine if_neg fun read => ?_
  rw [isHexText, tagged, String.toList_ofList] at read
  have digits := List.all_eq_true.mp (Bool.and_eq_true_iff.mp read).2
  exact absurd (digits 'N' List.mem_cons_self) (by decide)

theorem parseHex_tagged (chain : ChainId) (address : Address) :
    parseHex (address.tagged chain) = .error (.invalidHex (address.tagged chain)) := by
  rw [parseHex, ofHex?_tagged]

theorem parseDestination_eq_ok_iff {tagged? : Option ChainId} :
    parseDestination tagged? text = .ok address ↔
      parseHex text = .ok address ∨ ∃ chain, tagged? = some chain ∧ text = address.tagged chain := by
  unfold parseDestination
  cases hex : parseHex text with
  | ok held =>
    have untagged : ¬ ∃ chain, tagged? = some chain ∧ text = address.tagged chain := by
      rintro ⟨chain, -, rfl⟩
      cases hex.symm.trans (parseHex_tagged chain address)
    simp [untagged]
  | error cause =>
    cases tagged? with
    | none => simp
    | some chain => simp [parseTagged_eq_ok_iff]

end TokenDesk.Address
