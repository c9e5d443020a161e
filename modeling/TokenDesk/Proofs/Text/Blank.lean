import Mathlib.Data.List.Basic
import Mathlib.Data.List.TakeWhile
import TokenDesk.Text.Blank

/-! Texts with white space around them.

What is left of a text without the white space at its ends is known from any way to take
the text apart that leaves nothing blank there.
-/

set_option autoImplicit false

namespace TokenDesk.Text

variable {before text after : List Char}

theorem trimLeft_append (blank : ∀ c ∈ before, isBlank c) (solid : ∀ c ∈ text.head?, ¬ isBlank c) :
    trimLeft (before ++ text) = text := by
  rw [trimLeft, List.dropWhile_append_of_pos blank]
  cases text with
  | nil => rfl
  | cons c rest => exact List.dropWhile_cons_of_neg (solid c rfl)

theorem trimRight_append (blank : ∀ c ∈ after, isBlank c) (solid : ∀ c ∈ text.getLast?, ¬ isBlank c) :
    trimRight (text ++ after) = text := by
  have reversed : trimLeft (after.reverse ++ text.reverse) = text.reverse := by
    apply trimLeft_append
    · intro c listed
      exact blank c (List.mem_reverse.mp listed)
    · rwa [List.head?_reverse]
  rw [trimRight, List.reverse_append]
  exact (congrArg List.reverse reversed).trans text.reverse_reverse

theorem trim_append (blank : ∀ c ∈ before, isBlank c) (blank_behind : ∀ c ∈ after, isBlank c)
    (nonempty : text ≠ []) (solid : ∀ c ∈ text, ¬ isBlank c) : trim (before ++ text ++ after) = text := by
  rw [trim, List.append_assoc, trimLeft_append blank]
  · apply trimRight_append blank_behind
    intro c last
    exact solid c (List.mem_of_getLast? last)
  · intro c first
    rw [List.head?_append_of_ne_nil _ nonempty] at first
    exact solid c (List.mem_of_head? first)

theorem exists_trim (text : List Char) : ∃ before after, text = before ++ trim text ++ after ∧
    (∀ c ∈ before, isBlank c) ∧ ∀ c ∈ after, isBlank c := by
  have left : text = text.takeWhile isBlank ++ trimLeft text := List.takeWhile_append_dropWhile.symm
  have right : trimLeft text =
      trim text ++ ((trimLeft text).reverse.takeWhile isBlank).reverse := by
    rw [trim, trimRight, ← List.reverse_append, List.takeWhile_append_dropWhile, List.reverse_reverse]
  refine ⟨text.takeWhile isBlank, ((trimLeft text).reverse.takeWhile isBlank).reverse, ?_, ?_, ?_⟩
  · rw [List.append_assoc, ← right]
    exact left
  · intro c listed
    exact List.mem_takeWhile_imp listed
  · intro c listed
    exact List.mem_takeWhile_imp (List.mem_reverse.mp listed)

end TokenDesk.Text
