import TokenDesk.Proofs.Toml.Quoted
import TokenDesk.Toml.Reader

/-! Lines that hold one key and one text, and what they enter into a table. -/

set_option autoImplicit false

namespace TokenDesk.Toml

variable {text rest : List Char} {key : String} {entries : Table}

theorem afterGaps_eq (begins : ∀ c ∈ text.head?, isGap c = false) : afterGaps text = text := by
  cases text with
  | nil => rfl
  | cons c rest => rw [afterGaps, List.dropWhile_cons, begins c rfl, if_neg (by decide)]

theorem not_isGap_of_begins {c : Char} (begins : isBare c ∨ c = '"' ∨ c = '\x27') : isGap c = false := by
  rcases begins with bare | rfl | rfl
  · refine Bool.eq_false_iff.mpr fun gap => ?_
    rw [isGap, Bool.or_eq_true, beq_iff_eq, beq_iff_eq] at gap
    rcases gap with rfl | rfl <;> cases bare
  · rfl
  · rfl

theorem afterGaps_writeKey (key rest : List Char) : afterGaps (writeKey key ++ rest) = writeKey key ++ rest := by
  obtain ⟨c, more, written, begins⟩ := exists_writeKey key
  refine afterGaps_eq fun d first => ?_
  rw [written] at first
  cases first
  exact not_isGap_of_begins begins

theorem afterGaps_writeText (text rest : List Char) : afterGaps (writeText text ++ rest) = writeText text ++ rest := by
  obtain ⟨q, more, written, begins⟩ := exists_writeText text
  refine afterGaps_eq fun d first => ?_
  rw [written] at first
  cases first
  exact not_isGap_of_begins (.inr begins)

theorem readKeys_writeKey (key : String) (ends : ∀ c ∈ rest.head?, isBare c = false)
    (last : (afterGaps rest).head? ≠ some '.') :
    readKeys (writeKey key.toList ++ rest) = some ([key], afterGaps rest) := by
  rw [readKeys, afterGaps_writeKey, readKey_writeKey key.toList ends]
  simp only [Option.bind_eq_bind, Option.bind_some, String.ofList_toList]
  split
  next dotted =>
    rw [dotted] at last
    exact absurd rfl last
  · rfl

theorem readPath_writeKey (key : String) (ends : ∀ c ∈ rest.head?, isBare c = false)
    (last : (afterGaps rest).head? ≠ some '.') :
    readPath (writeKey key.toList ++ rest) = some (([], key), afterGaps rest) := by
  rw [readPath, readKeys_writeKey key ends last]
  rfl

theorem readItem_writeText (depth : Nat) (value : String) (no_quote : rest.head? ≠ some '"')
    (no_single : rest.head? ≠ some '\x27') :
    readItem depth (writeText value.toList ++ rest) = some (.text value, rest) := by
  have read := readText_writeText value.toList no_quote no_single
  obtain ⟨q, more, written, begins⟩ := exists_writeText value.toList
  have quoted : readItem depth (writeText value.toList ++ rest) =
      (readText (writeText value.toList ++ rest)).map fun read => (.text (String.ofList read.1), read.2) := by
    rw [written, List.cons_append]
    rcases begins with rfl | rfl <;> cases depth <;> rfl
  rw [quoted, read]
  change some (Item.text (String.ofList value.toList), rest) = _
  rw [String.ofList_toList]

theorem readHeader_writeKey (key : String) (rest : List Char) :
    readHeader [']'] (writeKey key.toList ++ ']' :: '\n' :: rest) = some (([], key), rest) := by
  have ends : ∀ c ∈ (']' :: '\n' :: rest).head?, isBare c = false := by
    rintro c ⟨⟩
    rfl
  rw [readHeader, readPath_writeKey key ends (by rintro ⟨⟩)]
  rfl

theorem readLines_break (root : Table) (here : List String) (rest : List Char) :
    readLines root here ('\n' :: rest) = readLines root here rest := by
  rw [readLines]
  change ite (rest.length < rest.length + 1) _ _ = _
  exact if_pos (Nat.lt_succ_self _)

theorem lookup_eq_none_iff {α : Type} {entries : List (String × α)} :
    entries.lookup key = none ↔ key ∉ entries.map Prod.fst := by
  rw [List.lookup_eq_none_iff]
  constructor
  · intro unbound listed
    obtain ⟨entry, among, rfl⟩ := List.mem_map.mp listed
    simpa using unbound entry among
  · exact fun absent entry listed => bne_iff_ne.mpr fun same => absent (List.mem_map.mpr ⟨entry, listed, same.symm⟩)

theorem enter?_of_not_mem (absent : key ∉ entries.map Prod.fst) (item : Item) :
    Pair.enter? ⟨[], key, item⟩ entries = some (entries ++ [(key, item)]) := by
  rw [Pair.enter?, Table.insert?, Table.add?, lookup_eq_none_iff.mpr absent]
  rfl

theorem put_of_not_mem (absent : key ∉ entries.map Prod.fst) (item : Item) :
    entries.put key item = entries ++ [(key, item)] := by
  induction entries with
  | nil => rfl
  | cons entry entries ih =>
    obtain ⟨differs, later⟩ := not_or.mp (mt List.mem_cons.mpr absent)
    rw [Table.put, if_neg fun same => differs same.symm, ih later]
    rfl

theorem put_last (absent : key ∉ entries.map Prod.fst) (old item : Item) :
    Table.put key item (entries ++ [(key, old)]) = entries ++ [(key, item)] := by
  induction entries with
  | nil => exact if_pos rfl
  | cons entry entries ih =>
    obtain ⟨differs, later⟩ := not_or.mp (mt List.mem_cons.mpr absent)
    rw [List.cons_append, Table.put, if_neg fun same => differs same.symm, ih later]
    rfl

theorem openTable?_of_not_mem (absent : key ∉ entries.map Prod.fst) :
    entries.openTable? key [] = some (entries ++ [(key, .table .header [])]) := by
  rw [Table.openTable?, Table.inside?, lookup_eq_none_iff.mpr absent, ← put_of_not_mem absent]

theorem inside?_last (absent : key ∉ entries.map Prod.fst) (change : Table → Option Table) {inner after : Table}
    (changed : change inner = some after) :
    Table.inside? change [key] (entries ++ [(key, .table .header inner)]) =
      some (entries ++ [(key, .table .header after)]) := by
  have found : (entries ++ [(key, Item.table .header inner)]).lookup key = some (.table .header inner) := by
    rw [List.lookup_append, lookup_eq_none_iff.mpr absent]
    simp
  rw [Table.inside?, found]
  change ((Option.map _ (change inner)).map _) = _
  rw [changed]
  exact congrArg some (put_last absent _ _)

end TokenDesk.Toml
