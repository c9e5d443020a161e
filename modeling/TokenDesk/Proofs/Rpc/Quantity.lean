import TokenDesk.Proofs.Rpc.Transaction

/-! Numbers and byte strings that a node writes.

A number is read as a word or as an amount, in two different ways. Both go by its digits, of
either case and with any zeros in front, and so they agree wherever both read. An amount
has any size. A number that is too large for a word is refused as one.
-/

set_option autoImplicit false

namespace TokenDesk

namespace Text.Hex

def lowerDigits : List Char := "0123456789abcdef".toList

def upperDigits : List Char := "0123456789ABCDEF".toList

def Shows (c : Char) (value : Nat) : Prop :=
  lowerDigits[value]? = some c ∨ upperDigits[value]? = some c

instance (c : Char) (value : Nat) : Decidable (Shows c value) :=
  inferInstanceAs (Decidable (_ ∨ _))

variable {c : Char} {value : Nat} {ds : List Char} {values : List Nat}

theorem lowerDigits_eq : lowerDigits =
    ['0', '1', '2', '3', '4', '5', '6', '7', '8', '9', 'a', 'b', 'c', 'd', 'e', 'f'] := String.toList_ofList

theorem upperDigits_eq : upperDigits =
    ['0', '1', '2', '3', '4', '5', '6', '7', '8', '9', 'A', 'B', 'C', 'D', 'E', 'F'] := String.toList_ofList

theorem digit?_eq_some_iff : digit? c = some value ↔ Shows c value := by
  constructor
  · intro read
    have all : allDigits.all fun c => (digit? c).all fun value => Shows c value := by
      simp only [allDigits_eq, Shows, lowerDigits_eq, upperDigits_eq]
      decide
    have placed := of_all_digits all (by rw [read]; rfl)
    rw [read] at placed
    exact of_decide_eq_true placed
  · have lower : ∀ placed ∈ lowerDigits.zipIdx, digit? placed.1 = some placed.2 := by
      rw [lowerDigits_eq]
      decide
    have upper : ∀ placed ∈ upperDigits.zipIdx, digit? placed.1 = some placed.2 := by
      rw [upperDigits_eq]
      decide
    intro shows
    rcases shows with placed | placed
    · exact lower (c, value) (List.mem_zipIdx_iff_getElem?.mpr placed)
    · exact upper (c, value) (List.mem_zipIdx_iff_getElem?.mpr placed)

theorem forall₂_shows_iff : List.Forall₂ Shows ds values ↔ ds.map digit? = values.map some := by
  rw [← List.forall₂_eq_eq_eq, List.forall₂_map_left_iff, List.forall₂_map_right_iff]
  simp only [digit?_eq_some_iff]

end Text.Hex

namespace Rpc

open Text.Hex (digit? Shows)

variable {text : String} {ds : List Char} {values : List Nat} {start n : Nat}

/-- One digit at least, and together they are the number. -/
structure Spells (n : Nat) (ds : List Char) : Prop where
  nonempty : ds ≠ []
  shown : ∃ values, List.Forall₂ Shows ds values ∧ Digits.value 16 values = n

theorem spells_iff : Spells n ds ↔
    ds ≠ [] ∧ ∃ values, ds.map digit? = values.map some ∧ Digits.value 16 values = n := by
  constructor
  · intro spells
    obtain ⟨values, shown, valued⟩ := spells.shown
    exact ⟨spells.nonempty, values, Text.Hex.forall₂_shows_iff.mp shown, valued⟩
  · intro ⟨nonempty, values, read, valued⟩
    exact ⟨nonempty, values, Text.Hex.forall₂_shows_iff.mpr read, valued⟩

theorem spells_of_isQuantity (quantity : IsQuantity n text) : ∃ ds, text.toList = '0' :: 'x' :: ds ∧ Spells n ds := by
  obtain ⟨ds, values, marked, read, valued, nonempty, -⟩ := quantity
  exact ⟨ds, marked, spells_iff.mpr ⟨nonempty, values, read, valued⟩⟩

theorem markedDigits_eq_ok_iff : markedDigits text = .ok ds ↔ text.toList = '0' :: 'x' :: ds ∧ ds ≠ [] := by
  unfold markedDigits
  split
  next whole =>
    rw [whole]
    simp
  next digits nonempty whole =>
    rw [whole]
    simp only [Except.ok.injEq, List.cons.injEq, true_and]
    constructor
    · rintro rfl
      exact ⟨rfl, nonempty⟩
    · exact fun same => same.1
  next unmarked =>
    simp
    exact fun whole => absurd whole (unmarked ds)

def paired (ds : List Char) : List Char :=
  if Text.Hex.byteLength ds % 2 = 1 then '0' :: ds else ds

theorem paired_value (n : Nat) (ds : List Char) :
    (∃ values, (paired ds).map digit? = values.map some ∧ Digits.value 16 values = n) ↔
      ∃ values, ds.map digit? = values.map some ∧ Digits.value 16 values = n := by
  unfold paired
  split
  · constructor
    · intro ⟨values, read, valued⟩
      cases values with
      | nil => cases read
      | cons d values =>
        injection read with first others
        obtain rfl : 0 = d := Option.some.inj first
        exact ⟨values, others, (Digits.value_zeros 16 1 values).symm.trans valued⟩
    · intro ⟨values, read, valued⟩
      refine ⟨0 :: values, ?_, (Digits.value_zeros 16 1 values).trans valued⟩
      rw [List.map_cons, read]
      rfl
  · exact Iff.rfl

theorem length_paired (digits : ∀ c ∈ ds, (digit? c).isSome) : (paired ds).length % 2 = 0 := by
  have bytes := Text.Hex.byteLength_of_digits digits
  unfold paired
  split
  · rw [List.length_cons]
    omega
  · omega

/-- Bytes are read from digits that come in pairs, and they are the number that the digits spell. -/
theorem exists_decode_paired_iff : (∃ bytes, Text.Hex.decode (paired ds) = .ok bytes ∧ Bytes.toNat bytes = n) ↔
    ∃ values, ds.map digit? = values.map some ∧ Digits.value 16 values = n := by
  rw [← paired_value]
  constructor
  · intro ⟨bytes, decoded, same⟩
    obtain ⟨values, shown, valued⟩ := Text.Hex.value_encode bytes
    exact ⟨values, (Text.Hex.decode_eq_ok_iff.mp decoded).trans shown, valued.trans same⟩
  · intro known
    obtain ⟨values, read, valued⟩ := known
    obtain ⟨others, read_unpaired, -⟩ := (paired_value n ds).mp ⟨values, read, valued⟩
    have digits := (Text.Hex.map_digit?_eq_iff.mp read).1
    have unpaired := (Text.Hex.map_digit?_eq_iff.mp read_unpaired).1
    obtain ⟨bytes, written⟩ := Text.Hex.exists_bytes digits (length_paired unpaired)
    obtain ⟨more, shown, same⟩ := Text.Hex.value_encode bytes
    have equal : more = values :=
      List.map_injective_iff.mpr (Option.some_injective Nat) (shown.symm.trans (written.symm.trans read))
    refine ⟨bytes, Text.Hex.decode_eq_ok_iff.mpr written, ?_⟩
    rw [← same, equal, valued]

theorem parseAmount_eq (marked : text.toList = '0' :: 'x' :: ds) (nonempty : ds ≠ []) :
    parseAmount text = ((Text.Hex.decode (paired ds)).mapError (.badAmount text)).map Bytes.toNat := by
  rw [parseAmount, markedDigits_eq_ok_iff.mpr ⟨marked, nonempty⟩]
  rfl

theorem parseAmount_eq_ok_iff {r : Amount} :
    parseAmount text = .ok r ↔ ∃ ds, text.toList = '0' :: 'x' :: ds ∧ Spells r ds := by
  constructor
  · intro read
    obtain ⟨ds, marked, rest⟩ := bind_eq_ok_iff.mp read
    obtain ⟨whole, nonempty⟩ := markedDigits_eq_ok_iff.mp marked
    rw [parseAmount_eq whole nonempty] at read
    obtain ⟨bytes, decoded, same⟩ := map_eq_ok_iff.mp read
    have spelled := exists_decode_paired_iff.mp ⟨bytes, mapError_eq_ok_iff.mp decoded, same⟩
    exact ⟨ds, whole, spells_iff.mpr ⟨nonempty, spelled⟩⟩
  · intro ⟨ds, whole, spells⟩
    obtain ⟨nonempty, spelled⟩ := spells_iff.mp spells
    obtain ⟨bytes, decoded, same⟩ := exists_decode_paired_iff.mpr spelled
    rw [parseAmount_eq whole nonempty]
    exact map_eq_ok_iff.mpr ⟨bytes, mapError_eq_ok_iff.mpr decoded, same⟩

theorem le_foldl (values : List Nat) (start : Nat) : start ≤ values.foldl (fun n d => n * 16 + d) start := by
  induction values generalizing start with
  | nil => exact Nat.le_refl start
  | cons d rest ih =>
    have later := ih (start * 16 + d)
    rw [List.foldl_cons]
    omega

theorem wordFrom_of_digits (fits : start < 2 ^ 64) (read : ds.map digit? = values.map some)
    (valued : values.foldl (fun n d => n * 16 + d) start = n) :
    wordFrom start ds = if n < 2 ^ 64 then .ok n else .error .tooLarge := by
  -- By the digits that are left: what is already read never gets smaller, so too large a number stays so.
  induction ds generalizing start values with
  | nil =>
    obtain rfl : values = [] := by simpa using read.symm
    obtain rfl : start = n := valued
    exact (if_pos fits).symm
  | cons c rest ih =>
    cases values with
    | nil => cases read
    | cons d values =>
      injection read with first others
      have limit : Nat.pow 2 64 = 2 ^ 64 := rfl
      have large := le_foldl values (start * 16 + d)
      rw [List.foldl_cons] at valued
      simp only [wordFrom, first, limit]
      by_cases small : start * 16 + d < 2 ^ 64
      · rw [if_pos small]
        exact ih small others valued
      · rw [if_neg small, if_neg (by omega)]

theorem isSome_digit?_of_wordFrom (read : wordFrom start ds = .ok n) : ∀ c ∈ ds, (digit? c).isSome := by
  induction ds generalizing start with
  | nil => simp
  | cons c rest ih =>
    unfold wordFrom at read
    cases first : digit? c with
    | none =>
      rw [first] at read
      cases read
    | some d =>
      simp only [first] at read
      split_ifs at read
      simpa [first] using ih read

theorem wordFrom_eq_ok_iff : wordFrom 0 ds = .ok n ↔
    (∃ values, ds.map digit? = values.map some ∧ Digits.value 16 values = n) ∧ n < 2 ^ 64 := by
  constructor
  · intro read
    have shown := Text.Hex.map_digit?_eq_iff.mpr ⟨isSome_digit?_of_wordFrom read, rfl⟩
    rw [wordFrom_of_digits (by decide) shown rfl] at read
    split_ifs at read with small
    obtain rfl := Except.ok.inj read
    exact ⟨⟨_, shown, rfl⟩, small⟩
  · intro ⟨⟨values, shown, valued⟩, small⟩
    rw [wordFrom_of_digits (by decide) shown valued, if_pos small]

/-- Nothing, or the plus sign that may stand in front of the digits of a word. -/
def IsSign (sign : List Char) : Prop :=
  sign = [] ∨ sign = ['+']

theorem exists_sign (ds : List Char) : ∃ sign, IsSign sign ∧ ds = sign ++ unsigned ds := by
  unfold unsigned
  split
  · exact ⟨['+'], .inr rfl, rfl⟩
  · exact ⟨[], .inl rfl, rfl⟩

theorem unsigned_append {sign : List Char} (signed : IsSign sign) (digits : ∀ c ∈ ds, (digit? c).isSome) :
    unsigned (sign ++ ds) = ds := by
  rcases signed with rfl | rfl
  · unfold unsigned
    split
    next rest same =>
      rw [List.nil_append] at same
      rw [same] at digits
      exact absurd (digits '+' List.mem_cons_self) (by decide)
    · rfl
  · rfl

theorem parseWord_eq (marked : text.toList = '0' :: 'x' :: ds) (nonempty : ds ≠ []) :
    parseWord text = (if (unsigned ds).isEmpty then .error (.badWord text .invalidDigit)
      else (wordFrom 0 (unsigned ds)).mapError (.badWord text)).map UInt64.ofNat := by
  rw [parseWord, markedDigits_eq_ok_iff.mpr ⟨marked, nonempty⟩]
  change (if (unsigned ds).isEmpty then _ else _) = _
  split <;> rfl

theorem parseWord_of_spells {sign : List Char} (marked : text.toList = '0' :: 'x' :: (sign ++ ds))
    (signed : IsSign sign) (spells : Spells n ds) :
    parseWord text = if n < 2 ^ 64 then .ok (.ofNat n) else .error (.badWord text .tooLarge) := by
  obtain ⟨nonempty, values, read, valued⟩ := spells_iff.mp spells
  have digits := (Text.Hex.map_digit?_eq_iff.mp read).1
  rw [parseWord_eq marked (by simp [nonempty]), unsigned_append signed digits,
    wordFrom_of_digits (by decide) read valued, if_neg (by simpa using nonempty)]
  split <;> rfl

theorem parseWord_eq_ok_iff {word : UInt64} : parseWord text = .ok word ↔
    ∃ sign ds, text.toList = '0' :: 'x' :: (sign ++ ds) ∧ IsSign sign ∧ Spells word.toNat ds := by
  constructor
  · intro read
    obtain ⟨ds, marked, rest⟩ := bind_eq_ok_iff.mp read
    obtain ⟨whole, nonempty⟩ := markedDigits_eq_ok_iff.mp marked
    obtain ⟨sign, signed, parts⟩ := exists_sign ds
    rw [parseWord_eq whole nonempty] at read
    obtain ⟨n, known, same⟩ := map_eq_ok_iff.mp read
    split_ifs at known with nothing
    obtain ⟨spelled, small⟩ := wordFrom_eq_ok_iff.mp (mapError_eq_ok_iff.mp known)
    have number : word.toNat = n := by rw [← same, UInt64.toNat_ofNat_of_lt' small]
    refine ⟨sign, unsigned ds, by rw [whole, ← parts], signed, spells_iff.mpr ⟨by simpa using nothing, ?_⟩⟩
    rwa [number]
  · intro ⟨sign, ds, marked, signed, spells⟩
    rw [parseWord_of_spells marked signed spells, if_pos word.toNat_lt, UInt64.ofNat_toNat]

theorem parseBytes_bytesText (bytes : List UInt8) : parseBytes (bytesText bytes) = .ok bytes := by
  rw [parseBytes, bytesText, String.toList_ofList]
  simp [TxId.withoutMark, Except.mapError]

/-- A number is read exactly from its digits, in both ways alike, and so is every text that is written for one. A
number that is too large for a word is refused, never cut. -/
theorem quantities_exact :
    (∀ text r, parseAmount text = .ok r ↔ ∃ ds, text.toList = '0' :: 'x' :: ds ∧ Spells r ds) ∧
    (∀ text word, parseWord text = .ok word ↔
      ∃ sign ds, text.toList = '0' :: 'x' :: (sign ++ ds) ∧ IsSign sign ∧ Spells word.toNat ds) ∧
    (∀ text r, parseAmount text = .ok r →
      parseWord text = if r < 2 ^ 64 then .ok (.ofNat r) else .error (.badWord text .tooLarge)) ∧
    (∀ text word, '+' ∉ text.toList → parseWord text = .ok word → parseAmount text = .ok word.toNat) ∧
    (∀ word, parseWord (quantityText word.toNat) = .ok word) ∧
    (∀ amount, parseAmount (amountText amount) = .ok amount) ∧
    ∀ bytes, parseBytes (bytesText bytes) = .ok bytes := by
  refine ⟨fun _ _ => parseAmount_eq_ok_iff, fun _ _ => parseWord_eq_ok_iff, ?_, ?_, ?_, ?_, parseBytes_bytesText⟩
  · intro text r read
    obtain ⟨ds, marked, spells⟩ := parseAmount_eq_ok_iff.mp read
    have unsigned : text.toList = '0' :: 'x' :: ([] ++ ds) := marked
    exact parseWord_of_spells unsigned (.inl rfl) spells
  -- The sign is all that the other parser does not take.
  · intro text word plusless read
    obtain ⟨sign, ds, marked, signed, spells⟩ := parseWord_eq_ok_iff.mp read
    rcases signed with rfl | rfl
    · exact parseAmount_eq_ok_iff.mpr ⟨ds, marked, spells⟩
    · rw [marked] at plusless
      simp at plusless
  · intro word
    obtain ⟨ds, marked, spells⟩ := spells_of_isQuantity (isQuantity_quantityText word.toNat)
    exact parseWord_eq_ok_iff.mpr ⟨[], ds, marked, .inl rfl, spells⟩
  · intro amount
    exact parseAmount_eq_ok_iff.mpr (spells_of_isQuantity (isQuantity_amountText amount))

def pastWords : String := "0x010000000000000000"

theorem quantities_exact_past_words : parseAmount pastWords = .ok (2 ^ 64) ∧
    parseWord pastWords = .error (.badWord pastWords .tooLarge) ∧ '+' ∉ "0xFf".toList ∧
    parseWord "0xFf" = .ok 255 ∧ parseAmount "0xFf" = .ok 255 := by
  have read : parseAmount pastWords = .ok (2 ^ 64) := toOption_eq_some_iff.mp (by decide +kernel)
  have word : parseWord "0xFf" = .ok 255 := toOption_eq_some_iff.mp (by decide +kernel)
  have plusless : '+' ∉ "0xFf".toList := by decide +kernel
  obtain ⟨-, -, agrees, agrees_back, -⟩ := quantities_exact
  exact ⟨read, agrees pastWords _ read, plusless, word, agrees_back "0xFf" 255 plusless word⟩

end Rpc

end TokenDesk
