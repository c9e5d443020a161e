import Mathlib.Data.List.Forall2

/-! When a computation that may fail has a result, and when it fails.

A chain of readings succeeds if each of them does and fails with the first that
does not. Over a list that is the first item with a failure.
-/

set_option autoImplicit false

namespace TokenDesk

variable {ε ε' α β : Type}

theorem bind_eq_ok_iff {first : Except ε α} {next : α → Except ε β} {result : β} :
    first >>= next = .ok result ↔ ∃ value, first = .ok value ∧ next value = .ok result := by
  cases first <;> simp [bind, Except.bind]

theorem bind_eq_error_iff {first : Except ε α} {next : α → Except ε β} {cause : ε} :
    first >>= next = .error cause ↔
      first = .error cause ∨ ∃ value, first = .ok value ∧ next value = .error cause := by
  cases first <;> simp [bind, Except.bind]

theorem map_eq_ok_iff {f : α → β} {first : Except ε α} {result : β} :
    first.map f = .ok result ↔ ∃ value, first = .ok value ∧ f value = result := by
  cases first <;> simp [Except.map]

theorem mapError_eq_ok_iff {f : ε → ε'} {first : Except ε α} {value : α} :
    first.mapError f = .ok value ↔ first = .ok value := by
  cases first <;> simp [Except.mapError]

theorem mapError_eq_error_iff {f : ε → ε'} {first : Except ε α} {cause : ε'} :
    first.mapError f = .error cause ↔ ∃ reason, first = .error reason ∧ f reason = cause := by
  cases first <;> simp [Except.mapError]

theorem toOption_eq_some_iff {first : Except ε α} {value : α} : first.toOption = some value ↔ first = .ok value := by
  cases first <;> simp [Except.toOption]

theorem exists_of_forall₂ {R : α → β → Prop} {items : List α} {results : List β} (all : List.Forall₂ R items results)
    {item : α} (listed : item ∈ items) : ∃ result ∈ results, R item result := by
  induction all with
  | nil => cases listed
  | cons here _ ih =>
    rcases List.mem_cons.mp listed with rfl | later
    · exact ⟨_, List.mem_cons_self, here⟩
    · obtain ⟨result, among, holds⟩ := ih later
      exact ⟨result, List.mem_cons_of_mem _ among, holds⟩

theorem forM_eq_ok_iff {check : α → Except ε Unit} {items : List α} :
    items.forM check = .ok () ↔ ∀ item ∈ items, check item = .ok () := by
  induction items with
  | nil => simp [List.forM, pure, Except.pure]
  | cons item rest ih =>
    change (check item >>= fun _ => rest.forM check) = _ ↔ _
    rw [bind_eq_ok_iff, ih, List.forall_mem_cons]
    exact ⟨fun ⟨_, here, others⟩ => ⟨here, others⟩, fun ⟨here, others⟩ => ⟨(), here, others⟩⟩

variable {read : α → Except ε β}

theorem mapM_eq_ok_iff {items : List α} {results : List β} :
    items.mapM read = .ok results ↔ List.Forall₂ (fun item result => read item = .ok result) items results := by
  induction items generalizing results with
  | nil => cases results <;> simp [pure, Except.pure]
  | cons item rest ih =>
    rw [List.mapM_cons, bind_eq_ok_iff]
    constructor
    · rintro ⟨result, here, others⟩
      obtain ⟨later, rest_read, ⟨rfl⟩⟩ := bind_eq_ok_iff.mp others
      exact .cons here (ih.mp rest_read)
    · rintro (_ | ⟨here, others⟩)
      exact ⟨_, here, bind_eq_ok_iff.mpr ⟨_, ih.mpr others, rfl⟩⟩

theorem mapM_eq_error_iff {items : List α} {cause : ε} :
    items.mapM read = .error cause ↔ ∃ before item after, items = before ++ item :: after ∧
      (∀ earlier ∈ before, ∃ result, read earlier = .ok result) ∧ read item = .error cause := by
  induction items with
  | nil => simp [pure, Except.pure]
  | cons item rest ih =>
    -- The head fails, or it is read and the first failure is that of the rest.
    rw [List.mapM_cons, bind_eq_error_iff]
    constructor
    · rintro (failed | ⟨result, here, others⟩)
      · exact ⟨[], item, rest, rfl, by simp, failed⟩
      · have later : rest.mapM read = .error cause := by
          rcases bind_eq_error_iff.mp others with failed | ⟨_, -, impossible⟩
          · exact failed
          · cases impossible
        obtain ⟨before, bad, after, rfl, earlier, failed⟩ := ih.mp later
        refine ⟨item :: before, bad, after, rfl, ?_, failed⟩
        rintro good (_ | ⟨_, listed⟩)
        · exact ⟨result, here⟩
        · exact earlier good listed
    · rintro ⟨before, bad, after, split, earlier, failed⟩
      cases before with
      | nil =>
        cases split
        exact .inl failed
      | cons first before =>
        cases split
        obtain ⟨result, here⟩ := earlier _ List.mem_cons_self
        have later := ih.mpr ⟨before, bad, after, rfl, fun good listed =>
          earlier good (List.mem_cons_of_mem _ listed), failed⟩
        exact .inr ⟨result, here, bind_eq_error_iff.mpr (.inl later)⟩

end TokenDesk
