/-! Tables from texts to values, listed in strictly increasing order of the texts.

Texts are ordered by their code points, which is also the order of their UTF-8
bytes. A lookup after an insertion finds the inserted value under its text and
the earlier one under every other.
-/

set_option autoImplicit false

namespace TokenDesk

/-- Strictly increasing keys, so that no key occurs twice. -/
def IsSorted {α : Type} (entries : List (String × α)) : Prop :=
  entries.Pairwise fun a b => a.1 < b.1

instance {α : Type} (entries : List (String × α)) : Decidable (IsSorted entries) :=
  inferInstanceAs (Decidable (List.Pairwise _ _))

structure SortedTable (α : Type) where
  entries : List (String × α)
  sorted : IsSorted entries

namespace SortedTable

variable {α : Type}

instance [DecidableEq α] : DecidableEq (SortedTable α) := fun s t =>
  if h : s.entries = t.entries then .isTrue (by cases s; cases t; cases h; rfl)
  else .isFalse fun same => h (congrArg entries same)

instance [Repr α] : Repr (SortedTable α) := ⟨fun t n => reprPrec t.entries n⟩

def empty : SortedTable α := ⟨[], .nil⟩

instance : Inhabited (SortedTable α) := ⟨empty⟩

def put (key : String) (value : α) : List (String × α) → List (String × α)
  | [] => [(key, value)]
  | entry :: rest =>
    if key < entry.1 then (key, value) :: entry :: rest
    else if key = entry.1 then (key, value) :: rest
    else entry :: put key value rest

theorem mem_put {key : String} {value : α} {entries : List (String × α)} {entry : String × α}
    (h : entry ∈ put key value entries) : entry = (key, value) ∨ entry ∈ entries := by
  induction entries with
  | nil => simp [put] at h; exact .inl h
  | cons first rest ih =>
    rw [put] at h
    split at h
    · simpa using h
    · split at h
      · rcases List.mem_cons.1 h with h | h
        · exact .inl h
        · exact .inr (List.mem_cons_of_mem _ h)
      · rcases List.mem_cons.1 h with h | h
        · exact .inr (h ▸ List.mem_cons_self)
        · exact (ih h).imp_right (List.mem_cons_of_mem _)

theorem isSorted_put {key : String} {value : α} {entries : List (String × α)}
    (sorted : IsSorted entries) : IsSorted (put key value entries) := by
  induction entries with
  | nil => exact .cons (by simp) .nil
  | cons first rest ih =>
    have firstBelow := (List.pairwise_cons.1 sorted).1
    have restSorted := (List.pairwise_cons.1 sorted).2
    rw [put]
    by_cases below : key < first.1
    · rw [if_pos below]
      refine .cons (fun entry mem => ?_) sorted
      rcases List.mem_cons.1 mem with rfl | mem
      · exact below
      · exact String.lt_trans below (firstBelow entry mem)
    · rw [if_neg below]
      by_cases same : key = first.1
      · rw [if_pos same]
        exact .cons (fun entry mem => same ▸ firstBelow entry mem) restSorted
      · rw [if_neg same]
        refine .cons (fun entry mem => ?_) (ih restSorted)
        rcases mem_put mem with rfl | mem
        · exact Std.lt_of_le_of_ne (Std.not_lt.1 below) (fun h => same h.symm)
        · exact firstBelow entry mem

def insert (table : SortedTable α) (key : String) (value : α) : SortedTable α :=
  ⟨put key value table.entries, isSorted_put table.sorted⟩

/-- The table of some entries, of which the last of each key counts. -/
def ofList (entries : List (String × α)) : SortedTable α :=
  entries.foldl (fun table entry => table.insert entry.1 entry.2) empty

def get? (table : SortedTable α) (key : String) : Option α :=
  table.entries.lookup key

def size (table : SortedTable α) : Nat :=
  table.entries.length

def isEmpty (table : SortedTable α) : Bool :=
  table.entries.isEmpty

theorem lookup_put (key other : String) (value : α) (entries : List (String × α)) :
    (put key value entries).lookup other = if other = key then some value else entries.lookup other := by
  have step : ∀ tail : List (String × α),
      List.lookup other ((key, value) :: tail) = if other = key then some value else tail.lookup other := by
    intro tail
    by_cases h : other = key
    · simp [h]
    · have differs : (other == key) = false := by simpa using h
      simp only [List.lookup_cons, differs, if_neg h]
  induction entries with
  | nil => exact step []
  | cons first rest ih =>
    rw [put]
    split
    · exact step _
    · split
      next same =>
        rw [step]
        by_cases h : other = key
        · simp [h]
        · have differs : (other == first.1) = false := by simpa [← same] using h
          obtain ⟨firstKey, firstValue⟩ := first
          simp only [if_neg h, List.lookup_cons, differs]
      next different =>
        rw [List.lookup_cons, ih, List.lookup_cons]
        by_cases h : other = key
        · have differs : (other == first.1) = false := by simpa [h] using different
          simp only [differs, if_pos h]
        · simp only [if_neg h]

theorem put_of_lt {key : String} {value : α} {entries : List (String × α)} (below : ∀ entry ∈ entries, entry.1 < key) :
    put key value entries = entries ++ [(key, value)] := by
  induction entries with
  | nil => rfl
  | cons first rest ih =>
    have smaller := below first List.mem_cons_self
    have others := ih fun entry listed => below entry (List.mem_cons_of_mem _ listed)
    rw [put, if_neg (Std.not_lt.mpr (Std.le_of_lt smaller)), if_neg (Std.ne_of_lt smaller).symm, others,
      List.cons_append]

theorem get?_of_lt {table : SortedTable α} {key : String} (below : ∀ entry ∈ table.entries, entry.1 < key) :
    table.get? key = none := by
  rw [get?, List.lookup_eq_none_iff]
  exact fun entry listed => bne_iff_ne.mpr (Std.ne_of_lt (below entry listed)).symm

@[simp] theorem get?_insert (table : SortedTable α) (key other : String) (value : α) :
    (table.insert key value).get? other = if other = key then some value else table.get? other :=
  lookup_put key other value table.entries

@[simp] theorem get?_empty (key : String) : (empty : SortedTable α).get? key = none := rfl

theorem entries_injective : Function.Injective (entries (α := α)) := by
  rintro ⟨entries, _⟩ ⟨_, _⟩ ⟨⟩
  rfl

theorem nodup_keys (table : SortedTable α) : (table.entries.map Prod.fst).Nodup :=
  List.pairwise_map.mpr (table.sorted.imp fun {_ _} below => Std.ne_of_lt below)

theorem foldl_insert_entries (entries : List (String × α)) (front : SortedTable α)
    (sorted : IsSorted (front.entries ++ entries)) :
    (entries.foldl (fun table entry => table.insert entry.1 entry.2) front).entries = front.entries ++ entries := by
  induction entries generalizing front with
  | nil => exact (List.append_nil _).symm
  | cons entry entries ih =>
    have below := (List.pairwise_append.mp sorted).2.2
    have last : (front.insert entry.1 entry.2).entries = front.entries ++ [entry] :=
      put_of_lt fun earlier listed => below earlier listed entry List.mem_cons_self
    rw [List.foldl_cons, ih _ (by rw [last, List.append_assoc]; exact sorted), last, List.append_assoc]
    rfl

@[simp] theorem ofList_entries (table : SortedTable α) : ofList table.entries = table :=
  entries_injective (foldl_insert_entries table.entries empty table.sorted)

end SortedTable

end TokenDesk
