import Mathlib.Tactic.IntervalCases
import Mathlib.Tactic.SplitIfs
import TokenDesk.Text.Utf8

/-! Text that is encoded is decoded again.

Bytes stand in the order of the texts that they encode.
-/

set_option autoImplicit false

namespace TokenDesk.Text.Utf8

variable {n low high bits : Nat}

theorem toNat_byte (small : n < 256) : (UInt8.ofNat n).toNat = n :=
  UInt8.toNat_ofNat_of_lt small

theorem lead_one (small : n < 128) : lead (UInt8.ofNat n) = .whole (Char.ofNat n) := by
  rw [lead, toNat_byte (by omega)]
  exact if_pos small

theorem lead_two (long : 2 ≤ n) (small : n < 32) : lead (UInt8.ofNat (n + 192)) = .begun ⟨1, 0x80, 0xBF, n⟩ := by
  rw [lead, toNat_byte (by omega), if_neg (by omega), if_neg (by omega), if_pos (by omega), Nat.add_sub_cancel]

/-- No three bytes are spent on what two can hold, nor on half of a surrogate pair. -/
theorem lead_three (small : n < 16) : lead (UInt8.ofNat (n + 224)) =
    .begun ⟨2, if n = 0 then 0xA0 else 0x80, if n = 13 then 0x9F else 0xBF, n⟩ := by
  interval_cases n <;> rfl

/-- No four bytes are spent on what three can hold, nor on more than the last code point. -/
theorem lead_four (small : n < 5) : lead (UInt8.ofNat (n + 240)) =
    .begun ⟨3, if n = 0 then 0x90 else 0x80, if n = 4 then 0x8F else 0xBF, n⟩ := by
  interval_cases n <;> rfl

theorem strictFrom_begun {byte : UInt8} {p : Pending} (begun : lead byte = .begun p) (rest : List UInt8) :
    strictFrom none (byte :: rest) = strictFrom (some p) rest := by
  rw [strictFrom]
  simp only [begun]

theorem accepts_byte (small : n < 64) (above : low ≤ n + 128) (below : n + 128 ≤ high) (owed : Nat) :
    Pending.accepts ⟨owed, low, high, bits⟩ (UInt8.ofNat (n + 128)) := by
  rw [Pending.accepts, toNat_byte (by omega), Bool.and_eq_true, decide_eq_true_eq, decide_eq_true_eq]
  exact ⟨above, below⟩

theorem strictFrom_more (owed : Nat) (small : n < 64) (above : low ≤ n + 128) (below : n + 128 ≤ high)
    (rest : List UInt8) :
    strictFrom (some ⟨owed + 2, low, high, bits⟩) (UInt8.ofNat (n + 128) :: rest) =
      strictFrom (some ⟨owed + 1, 0x80, 0xBF, bits * 64 + n⟩) rest := by
  rw [strictFrom]
  simp only [accepts_byte small above below, if_true, Pending.take, toNat_byte (show n + 128 < 256 by omega),
    Nat.add_sub_cancel]
  rw [if_neg (by omega)]
  rfl

theorem strictFrom_last (small : n < 64) (above : low ≤ n + 128) (below : n + 128 ≤ high) (rest : List UInt8) :
    strictFrom (some ⟨1, low, high, bits⟩) (UInt8.ofNat (n + 128) :: rest) =
      (strictFrom none rest).map (Char.ofNat (bits * 64 + n) :: ·) := by
  rw [strictFrom]
  simp only [accepts_byte small above below, if_true, Pending.take, toNat_byte (show n + 128 < 256 by omega),
    Nat.add_sub_cancel]
  rw [if_pos (Nat.le_refl 1)]

section
variable {a b c d : Nat} (rest : List UInt8)

theorem strictFrom_two (long : 2 ≤ a) (a_lt : a < 32) (b_lt : b < 64) :
    strictFrom none (UInt8.ofNat (a + 192) :: UInt8.ofNat (b + 128) :: rest) =
      (strictFrom none rest).map (Char.ofNat (a * 64 + b) :: ·) := by
  rw [strictFrom_begun (lead_two long a_lt), strictFrom_last b_lt (by omega) (by omega)]

theorem strictFrom_three (a_lt : a < 16) (b_lt : b < 64) (c_lt : c < 64) (long : a = 0 → 32 ≤ b)
    (whole : a = 13 → b < 32) :
    strictFrom none (UInt8.ofNat (a + 224) :: UInt8.ofNat (b + 128) :: UInt8.ofNat (c + 128) :: rest) =
      (strictFrom none rest).map (Char.ofNat ((a * 64 + b) * 64 + c) :: ·) := by
  rw [strictFrom_begun (lead_three a_lt), strictFrom_more 0 b_lt (by split_ifs <;> omega) (by split_ifs <;> omega),
    strictFrom_last c_lt (by omega) (by omega)]

theorem strictFrom_four (a_lt : a < 5) (b_lt : b < 64) (c_lt : c < 64) (d_lt : d < 64) (long : a = 0 → 16 ≤ b)
    (within : a = 4 → b < 16) :
    strictFrom none (UInt8.ofNat (a + 240) :: UInt8.ofNat (b + 128) :: UInt8.ofNat (c + 128) ::
        UInt8.ofNat (d + 128) :: rest) =
      (strictFrom none rest).map (Char.ofNat (((a * 64 + b) * 64 + c) * 64 + d) :: ·) := by
  rw [strictFrom_begun (lead_four a_lt), strictFrom_more 1 b_lt (by split_ifs <;> omega) (by split_ifs <;> omega),
    strictFrom_more 0 c_lt (by omega) (by omega), strictFrom_last d_lt (by omega) (by omega)]

end

theorem eq_by_groups (v : Nat) : v = v / 64 * 64 + v % 64 ∧ v / 64 = v / 4096 * 64 + v / 64 % 64 ∧
    v / 4096 = v / 262144 * 64 + v / 4096 % 64 := by
  have high : v / 64 / 64 = v / 4096 := Nat.div_div_eq_div_mul v 64 64
  have first : v / 4096 / 64 = v / 262144 := Nat.div_div_eq_div_mul v 4096 64
  rw [← first, ← high]
  exact ⟨(Nat.div_add_mod' _ _).symm, (Nat.div_add_mod' _ _).symm, (Nat.div_add_mod' _ _).symm⟩

theorem strictFrom_encodeChar (c : Char) (rest : List UInt8) :
    strictFrom none (String.utf8EncodeChar c ++ rest) = (strictFrom none rest).map (c :: ·) := by
  have valid : c.val.toNat < 0xD800 ∨ 0xDFFF < c.val.toNat ∧ c.val.toNat < 0x110000 := c.valid
  have same : Char.ofNat c.val.toNat = c := Char.ofNat_toNat c
  rw [String.utf8EncodeChar]
  generalize c.val.toNat = v at *
  -- The bytes carry the groups of six bits, which the reader puts together again.
  obtain ⟨whole, more, most⟩ := eq_by_groups v
  have last_lt : v % 64 < 64 := Nat.mod_lt v (by decide)
  have third_lt : v / 64 % 64 < 64 := Nat.mod_lt _ (by decide)
  have second_lt : v / 4096 % 64 < 64 := Nat.mod_lt _ (by decide)
  split_ifs with one two three
  · rw [List.singleton_append, strictFrom]
    simp only [lead_one (show v < 128 by omega), same]
  all_goals
    simp only [List.cons_append, List.nil_append]
    generalize v % 64 = last, v / 64 % 64 = third, v / 4096 % 64 = second at *
    generalize v / 64 = upper, v / 4096 = high, v / 262144 = first at *
  · rw [Nat.mod_eq_of_lt (by omega), strictFrom_two rest (by omega) (by omega) last_lt, ← whole, same]
  · rw [Nat.mod_eq_of_lt (by omega), strictFrom_three rest (by omega) third_lt last_lt (by omega) (by omega), ← more,
      ← whole, same]
  · rw [Nat.mod_eq_of_lt (by omega), strictFrom_four rest (by omega) second_lt third_lt last_lt (by omega) (by omega),
      ← most, ← more, ← whole, same]

theorem decode?_encode (text : List Char) : decode? (encode text) = some text := by
  rw [decode?]
  induction text with
  | nil => rfl
  | cons c text ih => rw [encode, List.flatMap_cons, strictFrom_encodeChar, ← encode, ih, Option.map_some]

/-! The lossy reader. -/

def step (pending : Option Pending) (byte : UInt8) : Lead :=
  match pending with
  | none => lead byte
  | some p => if p.accepts byte then p.take byte else .nothing

section
variable {pending : Option Pending} {byte : UInt8} (rest : List UInt8)

theorem strictFrom_cons (pending : Option Pending) (byte : UInt8) :
    strictFrom pending (byte :: rest) = match step pending byte with
      | .whole c => (strictFrom none rest).map (c :: ·)
      | .begun p => strictFrom (some p) rest
      | .nothing => none := rfl

/-- Where the strict reader goes on, no character that was begun is lost. -/
theorem lossyFrom_cons (going : step pending byte ≠ .nothing) :
    lossyFrom pending (byte :: rest) = match step pending byte with
      | .whole c => c :: lossyFrom none rest
      | .begun p => lossyFrom (some p) rest
      | .nothing => replacement :: lossyFrom none rest := by
  cases pending with
  | none => rfl
  | some p =>
    have accepted : p.accepts byte := by
      by_contra refused
      exact going (if_neg refused)
    rw [lossyFrom, step, if_pos accepted]
    simp only [Option.bind_some, if_pos accepted, Option.isNone_some, Bool.and_false, Option.getD_some]
    rfl

end

theorem lossyFrom_of_strictFrom {pending : Option Pending} {bytes : List UInt8} {text : List Char}
    (read : strictFrom pending bytes = some text) : lossyFrom pending bytes = text := by
  induction bytes generalizing pending text with
  | nil =>
    cases pending with
    | none =>
      cases read
      rfl
    | some p => cases read
  | cons byte rest ih =>
    rw [strictFrom_cons] at read
    -- Where the lossy reader would put a mark, the strict one stops.
    have going : step pending byte ≠ .nothing := by
      intro refused
      rw [refused] at read
      cases read
    rw [lossyFrom_cons rest going]
    cases next : step pending byte with
    | whole c =>
      rw [next] at read
      obtain ⟨others, held, rfl⟩ := Option.map_eq_some_iff.mp read
      exact congrArg (c :: ·) (ih held)
    | begun p =>
      rw [next] at read
      exact ih read
    | nothing => exact absurd next going

theorem decodeLossy_encode (text : List Char) : decodeLossy (encode text) = text :=
  lossyFrom_of_strictFrom (decode?_encode text)

/-! The order of texts. -/

theorem lt_of_byte_lt {m n : Nat} (below : m < n) (small : n < 256) (front back : List UInt8) :
    UInt8.ofNat m :: front < UInt8.ofNat n :: back := by
  apply List.Lex.rel
  rw [UInt8.lt_iff_toNat_lt, toNat_byte (below.trans small), toNat_byte small]
  exact below

/-- Bytes that keep the order of their numbers, whatever follows them. -/
def Ascends (m n : Nat) (front back : List UInt8) : Prop :=
  (m < n → ∀ rest others, front ++ rest < back ++ others) ∧ (m = n → front = back)

theorem ascends_lead {m n mark : Nat} (fits : n + mark < 256) :
    Ascends m n [UInt8.ofNat (m + mark)] [UInt8.ofNat (n + mark)] := by
  constructor
  · intro below rest others
    exact lt_of_byte_lt (Nat.add_lt_add_right below mark) fits rest others
  · intro same
    rw [same]

theorem Ascends.more {m n : Nat} {front back : List UInt8} (higher : Ascends (m / 64) (n / 64) front back) :
    Ascends m n (front ++ [UInt8.ofNat (m % 64 + 128)]) (back ++ [UInt8.ofNat (n % 64 + 128)]) := by
  constructor
  · intro below rest others
    rw [List.append_assoc, List.append_assoc]
    rcases Nat.lt_or_eq_of_le (Nat.div_le_div_right (c := 64) below.le) with above | same
    · exact higher.1 above _ _
    · rw [higher.2 same]
      apply List.append_left_lt
      apply lt_of_byte_lt <;> omega
  · intro same
    rw [same, higher.2 (by rw [same])]

theorem ascends_two {m n : Nat} (m_lt : m < 64 * 32) (n_lt : n < 64 * 32) :
    Ascends m n [UInt8.ofNat (m / 64 % 32 + 192), UInt8.ofNat (m % 64 + 128)]
      [UInt8.ofNat (n / 64 % 32 + 192), UInt8.ofNat (n % 64 + 128)] := by
  rw [Nat.mod_eq_of_lt (Nat.div_lt_of_lt_mul m_lt), Nat.mod_eq_of_lt (Nat.div_lt_of_lt_mul n_lt)]
  exact (ascends_lead (by omega)).more

theorem ascends_three {m n : Nat} (m_lt : m < 4096 * 16) (n_lt : n < 4096 * 16) :
    Ascends m n [UInt8.ofNat (m / 4096 % 16 + 224), UInt8.ofNat (m / 64 % 64 + 128), UInt8.ofNat (m % 64 + 128)]
      [UInt8.ofNat (n / 4096 % 16 + 224), UInt8.ofNat (n / 64 % 64 + 128), UInt8.ofNat (n % 64 + 128)] := by
  rw [Nat.mod_eq_of_lt (Nat.div_lt_of_lt_mul m_lt), Nat.mod_eq_of_lt (Nat.div_lt_of_lt_mul n_lt),
    ← Nat.div_div_eq_div_mul m 64 64, ← Nat.div_div_eq_div_mul n 64 64]
  exact (ascends_lead (by omega)).more.more

theorem ascends_four {m n : Nat} (m_lt : m < 262144 * 8) (n_lt : n < 262144 * 8) :
    Ascends m n
      [UInt8.ofNat (m / 262144 % 8 + 240), UInt8.ofNat (m / 4096 % 64 + 128), UInt8.ofNat (m / 64 % 64 + 128),
        UInt8.ofNat (m % 64 + 128)]
      [UInt8.ofNat (n / 262144 % 8 + 240), UInt8.ofNat (n / 4096 % 64 + 128), UInt8.ofNat (n / 64 % 64 + 128),
        UInt8.ofNat (n % 64 + 128)] := by
  rw [Nat.mod_eq_of_lt (Nat.div_lt_of_lt_mul m_lt), Nat.mod_eq_of_lt (Nat.div_lt_of_lt_mul n_lt),
    ← Nat.div_div_eq_div_mul m 4096 64, ← Nat.div_div_eq_div_mul n 4096 64,
    ← Nat.div_div_eq_div_mul m 64 64, ← Nat.div_div_eq_div_mul n 64 64]
  exact (ascends_lead (by omega)).more.more.more

theorem encodeChar_lt {c d : Char} (below : c < d) (rest others : List UInt8) :
    String.utf8EncodeChar c ++ rest < String.utf8EncodeChar d ++ others := by
  have smaller : c.val.toNat < d.val.toNat := below
  have last : d.val.toNat < 0x110000 := by
    rcases d.valid with low | high
    · exact low.trans (by decide)
    · exact high.2
  rw [String.utf8EncodeChar, String.utf8EncodeChar]
  generalize c.val.toNat = m at *
  generalize d.val.toNat = n at *
  -- A longer character has a greater first byte. Among those of one length the bits decide.
  split_ifs
  all_goals first
    | omega
    | exact lt_of_byte_lt (by omega) (by omega) _ _
    | exact (ascends_two (by omega) (by omega)).1 smaller rest others
    | exact (ascends_three (by omega) (by omega)).1 smaller rest others
    | exact (ascends_four (by omega) (by omega)).1 smaller rest others

theorem encode_lt {text other : List Char} (below : text < other) : encode text < encode other := by
  induction below with
  | @nil c rest =>
    obtain ⟨byte, bytes, same⟩ := List.exists_cons_of_ne_nil (String.utf8EncodeChar_ne_nil (c := c))
    rw [encode, encode, List.flatMap_cons, same]
    exact List.Lex.nil
  | rel smaller =>
    rw [encode, encode, List.flatMap_cons, List.flatMap_cons]
    exact encodeChar_lt smaller _ _
  | cons _ ih =>
    rw [encode, encode, List.flatMap_cons, List.flatMap_cons]
    exact List.append_left_lt ih

end TokenDesk.Text.Utf8
