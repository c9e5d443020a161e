import TokenDesk.Json

/-! Looking up the members of an object that was made from a list.

Of a name that the list has more than once, the last value counts.
-/

set_option autoImplicit false

namespace TokenDesk

namespace SortedTable

variable {α : Type}

theorem get?_ofList (entries : List (String × α)) (key : String) :
    (ofList entries).get? key = entries.reverse.lookup key := by
  have later (table : SortedTable α) :
      (entries.foldl (fun table entry => table.insert entry.1 entry.2) table).get? key =
        (entries.reverse.lookup key).or (table.get? key) := by
    induction entries generalizing table with
    | nil => rfl
    | cons entry rest ih =>
      obtain ⟨first, value⟩ := entry
      rw [List.foldl_cons, ih, get?_insert, List.reverse_cons, List.lookup_append, Option.or_assoc]
      by_cases same : key = first
      · simp [same]
      · have differs : (key == first) = false := by simpa using same
        simp [same, List.lookup_cons, differs]
  rw [ofList, later, get?_empty, Option.or_none]

theorem lookup_reverse {entries : List (String × α)} (sorted : IsSorted entries) (key : String) :
    entries.reverse.lookup key = entries.lookup key := by
  induction entries with
  | nil => rfl
  | cons entry rest ih =>
    obtain ⟨first, value⟩ := entry
    obtain ⟨below, sorted_rest⟩ := List.pairwise_cons.mp sorted
    rw [List.reverse_cons, List.lookup_append, ih sorted_rest, List.lookup_cons]
    by_cases same : key = first
    · -- No later entry has the key, since keys increase.
      have absent : rest.lookup key = none := by
        rw [List.lookup_eq_none_iff]
        intro other listed
        have above : first < other.1 := below other listed
        rw [← same] at above
        simpa using (String.ne_of_lt above)
      rw [absent, same]
      simp
    · have differs : (key == first) = false := by simpa using same
      simp [List.lookup_cons, differs]

end SortedTable

theorem Json.member?_objectOf (members : List (String × Json)) (name : String) :
    (objectOf members).member? name = members.reverse.lookup name := by
  rw [objectOf, member?, SortedTable.lookup_reverse (SortedTable.ofList members).sorted]
  exact SortedTable.get?_ofList members name

end TokenDesk
