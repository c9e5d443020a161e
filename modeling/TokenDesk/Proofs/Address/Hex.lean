import TokenDesk.Address.Tagged
import TokenDesk.Proofs.Results

/-! Hexadecimal texts of addresses.

A text is read by the values of its digits. So all texts of an address are read
alike, whichever of their letters are raised and whatever hash decides it.
-/

set_option autoImplicit false

namespace TokenDesk

namespace Text.Hex

def allDigits : List Char := "0123456789abcdefABCDEF".toList

variable {c : Char} {value position : Nat} {text : List Char} {bytes : List UInt8}

theorem allDigits_eq : allDigits = ['0', '1', '2', '3', '4', '5', '6', '7', '8', '9', 'a', 'b', 'c', 'd', 'e', 'f',
    'A', 'B', 'C', 'D', 'E', 'F'] := String.toList_ofList

theorem map_toNat_allDigits :
    allDigits.map Char.toNat = List.range' 48 10 ++ List.range' 97 6 ++ List.range' 65 6 := by
  rw [allDigits_eq]
  rfl

theorem isSome_digit?_iff : (digit? c).isSome ↔ c ∈ allDigits := by
  constructor
  · intro read
    have listed : c.toNat ∈ allDigits.map Char.toNat := by
      simp only [digit?] at read
      simp only [map_toNat_allDigits, List.mem_append, List.mem_range'_1]
      split_ifs at read
      all_goals first | omega | cases read
    obtain ⟨d, among, same⟩ := List.mem_map.mp listed
    rwa [← Char.toNat_inj.mp same]
  · have all : allDigits.all fun c => (digit? c).isSome := by
      rw [allDigits_eq]
      decide
    exact List.all_eq_true.mp all c

theorem of_all_digits {p : Char → Bool} (all : allDigits.all p) (read : (digit? c).isSome) : p c :=
  List.all_eq_true.mp all c (isSome_digit?_iff.mp read)

theorem digit?_lt (read : digit? c = some value) : value < 16 := by
  have small : (digit? c).all (· < 16) :=
    of_all_digits (p := fun c => (digit? c).all (· < 16)) (by rw [allDigits_eq]; decide) (read ▸ rfl)
  rw [read] at small
  exact of_decide_eq_true small

theorem digit?_toUpper (read : (digit? c).isSome) : digit? c.toUpper = digit? c :=
  of_decide_eq_true (of_all_digits (p := fun c => digit? c.toUpper = digit? c) (by rw [allDigits_eq]; decide) read)

theorem isAlphanum_of_digit? (read : (digit? c).isSome) : c.isAlphanum :=
  of_all_digits (by rw [allDigits_eq]; decide) read

theorem utf8Size_of_digit? (read : (digit? c).isSome) : c.utf8Size = 1 :=
  of_decide_eq_true (of_all_digits (p := fun c => c.utf8Size = 1) (by rw [allDigits_eq]; decide) read)

theorem map_digit?_encode_cons (byte : UInt8) (rest : List UInt8) :
    (encode (byte :: rest)).map digit? =
      some (byte.toNat / 16) :: some (byte.toNat % 16) :: (encode rest).map digit? := by
  have bound := byte.toNat_lt
  rw [encode, List.map_cons, List.map_cons, digit?_digit (by omega), digit?_digit (by omega)]

theorem decodePairs_eq_ok_iff :
    decodePairs position text = .ok bytes ↔ text.map digit? = (encode bytes).map digit? := by
  fun_induction decodePairs position text generalizing bytes with
  | case1 => cases bytes <;> simp [encode]
  | case2 => cases bytes <;> simp [encode]
  | case3 position high low rest unread =>
    cases bytes with
    | nil => simp [encode]
    | cons byte others => simp [map_digit?_encode_cons, unread]
  | case4 position high low rest unread _ =>
    cases bytes with
    | nil => simp [encode]
    | cons byte others => simp [map_digit?_encode_cons, unread]
  | case5 position high low rest h l read_low read_high ih =>
    have high_lt := digit?_lt read_high
    have low_lt := digit?_lt read_low
    rw [map_eq_ok_iff]
    cases bytes with
    | nil => simp [encode]
    | cons byte others =>
      have bound := byte.toNat_lt
      rw [map_digit?_encode_cons, List.map_cons, List.map_cons, read_high, read_low]
      -- The two digits are the quotient and the remainder of the byte they make.
      constructor
      · rintro ⟨bytes, read, ⟨rfl, rfl⟩⟩
        have together : (UInt8.ofNat (h * 16 + l)).toNat = h * 16 + l := by
          rw [UInt8.toNat_ofNat', Nat.mod_eq_of_lt (by omega)]
        rw [ih.mp read, together, show (h * 16 + l) / 16 = h by omega, show (h * 16 + l) % 16 = l by omega]
      · intro same
        injection same with first same
        injection same with second same
        injection first with first
        injection second with second
        refine ⟨others, ih.mpr same, ?_⟩
        rw [show h * 16 + l = byte.toNat by omega, UInt8.ofNat_toNat]

theorem byteLength_of_digits (digits : ∀ c ∈ text, (digit? c).isSome) : byteLength text = text.length := by
  induction text with
  | nil => rfl
  | cons c rest ih =>
    have first := utf8Size_of_digit? (digits c List.mem_cons_self)
    have others := ih fun c listed => digits c (List.mem_cons_of_mem _ listed)
    rw [byteLength] at others ⊢
    rw [List.foldr_cons, others, first, List.length_cons, Nat.add_comm]

theorem isSome_digit?_of_map (same : text.map digit? = (encode bytes).map digit?) : ∀ c ∈ text, (digit? c).isSome := by
  have written : ∀ read ∈ (encode bytes).map digit?, read.isSome := by
    clear same
    induction bytes with
    | nil => exact fun _ => (List.not_mem_nil · |>.elim)
    | cons byte rest ih =>
      rw [map_digit?_encode_cons]
      exact List.forall_mem_cons.mpr ⟨rfl, List.forall_mem_cons.mpr ⟨rfl, ih⟩⟩
  intro c listed
  exact written _ (same ▸ List.mem_map_of_mem listed)

theorem decode_eq_ok_iff : decode text = .ok bytes ↔ text.map digit? = (encode bytes).map digit? := by
  rw [decode]
  constructor
  · intro read
    split_ifs at read
    exact decodePairs_eq_ok_iff.mp read
  · intro same
    have length : text.length = 2 * bytes.length := by simpa using congrArg List.length same
    -- Digits are one byte each, and there are two for each byte that is read.
    rw [byteLength_of_digits (isSome_digit?_of_map same), length, if_neg (by omega)]
    exact decodePairs_eq_ok_iff.mpr same

theorem exists_bytes : ∀ {ds : List Char}, (∀ c ∈ ds, (digit? c).isSome) → ds.length % 2 = 0 →
    ∃ bytes, ds.map digit? = (encode bytes).map digit?
  | [], _, _ => ⟨[], rfl⟩
  | [_], _, even => nomatch even
  | high :: low :: rest, digits, even => by
    obtain ⟨h, read_high⟩ := Option.isSome_iff_exists.mp (digits high (by simp))
    obtain ⟨l, read_low⟩ := Option.isSome_iff_exists.mp (digits low (by simp))
    have rest_even : rest.length % 2 = 0 := by
      rw [List.length_cons, List.length_cons] at even
      omega
    obtain ⟨bytes, read⟩ := exists_bytes (fun c listed => digits c (by simp [listed])) rest_even
    have high_lt := digit?_lt read_high
    have low_lt := digit?_lt read_low
    have together : (UInt8.ofNat (h * 16 + l)).toNat = h * 16 + l := by
      rw [UInt8.toNat_ofNat', Nat.mod_eq_of_lt (by omega)]
    have high_part : (h * 16 + l) / 16 = h := by omega
    have low_part : (h * 16 + l) % 16 = l := by omega
    refine ⟨UInt8.ofNat (h * 16 + l) :: bytes, ?_⟩
    rw [map_digit?_encode_cons, together, high_part, low_part, List.map_cons, List.map_cons, read_high, read_low, read]

end Text.Hex

namespace Address

open Text.Hex (digit? isSome_digit?_of_map)

variable {address : Address} {text : String}

theorem length_digits (address : Address) : address.digits.length = 40 := by
  rw [digits, Text.Hex.length_encode, address.length_bytes]

theorem isHexText_of_map_digit? (same : (withoutMark text.toList).map digit? = address.digits.map digit?) :
    isHexText text := by
  have length : (withoutMark text.toList).length = 40 := by
    simpa [length_digits] using congrArg List.length same
  rw [isHexText, Bool.and_eq_true, beq_iff_eq, List.all_eq_true]
  exact ⟨length, isSome_digit?_of_map same⟩

theorem ofHex?_eq_some_iff :
    ofHex? text = some address ↔ (withoutMark text.toList).map digit? = address.digits.map digit? := by
  rw [ofHex?, digits, ← Text.Hex.decode_eq_ok_iff]
  constructor
  · intro read
    split_ifs at read
    obtain ⟨bytes, decoded, held⟩ := Option.bind_eq_some_iff.mp read
    rw [← ofBytes?_eq_some_iff.mp held]
    exact toOption_eq_some_iff.mp decoded
  · intro decoded
    rw [if_pos (isHexText_of_map_digit? (Text.Hex.decode_eq_ok_iff.mp decoded)), decoded]
    exact ofBytes?_eq_some_iff.mpr rfl

theorem parseHex_eq_ok_iff :
    parseHex text = .ok address ↔ (withoutMark text.toList).map digit? = address.digits.map digit? := by
  rw [← ofHex?_eq_some_iff, parseHex]
  split <;> simp_all

theorem map_digit?_raiseByHash {ds hashDigits : List Char} (long : ds.length ≤ hashDigits.length)
    (hex : ∀ c ∈ ds, (digit? c).isSome) : (raiseByHash ds hashDigits).map digit? = ds.map digit? := by
  induction ds generalizing hashDigits with
  | nil => rfl
  | cons c rest ih =>
    cases hashDigits with
    | nil => simp at long
    | cons h others =>
      have later := ih (Nat.le_of_succ_le_succ long) fun c listed => hex c (List.mem_cons_of_mem _ listed)
      have here : digit? (if 8 ≤ (digit? h).getD 0 then c.toUpper else c) = digit? c := by
        split
        · exact Text.Hex.digit?_toUpper (hex c List.mem_cons_self)
        · rfl
      rw [raiseByHash, List.zipWith_cons_cons, List.map_cons, here]
      exact congrArg (List.cons _) later

theorem parseHex_checksummed (address : Address) : parseHex address.checksummed = .ok address := by
  rw [parseHex_eq_ok_iff, checksummed, String.toList_ofList]
  refine map_digit?_raiseByHash ?_ (isSome_digit?_of_map rfl)
  rw [length_digits, Text.Hex.length_encode, Hash.Keccak.length_hash]
  decide

theorem isAlphanum_of_parseHex (read : parseHex text = .ok address) : ∀ c ∈ text.toList, c.isAlphanum := by
  have digits : ∀ c ∈ withoutMark text.toList, c.isAlphanum := fun c listed =>
    Text.Hex.isAlphanum_of_digit? (isSome_digit?_of_map (parseHex_eq_ok_iff.mp read) c listed)
  unfold withoutMark at digits
  split at digits
  next rest whole =>
    rw [whole]
    simpa using digits
  next rest whole =>
    rw [whole]
    simpa using digits
  · exact digits

end Address

end TokenDesk
