import TokenDesk.ContractBook
import TokenDesk.Proofs.Results

/-! What a book of contracts does with an insertion. -/

set_option autoImplicit false

namespace TokenDesk

/-- What a call that may fail returns, and the state that it leaves. A failure changes nothing. -/
def kept {ε α σ : Type} (state : σ) : Except ε (α × σ) → Except ε α × σ
  | .ok (value, after) => (.ok value, after)
  | .error cause => (.error cause, state)

namespace ContractBook

variable {book : ContractBook} {symbol other : String} {address : Address}

/-- The four ways in which an insertion ends. -/
inductive Inserts (book : ContractBook) (symbol : String) (address : Address) :
    Except ConfigError (Addition × ContractBook) → Prop where
  | unnamed : symbol = "" → Inserts book symbol address (.error .emptySymbol)
  | added : symbol ≠ "" → book.get? symbol = none →
      Inserts book symbol address (.ok (.added, ⟨book.table.insert symbol address⟩))
  | present : symbol ≠ "" → book.get? symbol = some address →
      Inserts book symbol address (.ok (.alreadyPresent, book))
  | taken {existing : Address} : symbol ≠ "" → book.get? symbol = some existing → existing ≠ address →
      Inserts book symbol address (.error (.symbolTaken symbol existing))

theorem inserts_insert (book : ContractBook) (symbol : String) (address : Address) :
    Inserts book symbol address (book.insert symbol address) := by
  unfold insert
  by_cases unnamed : symbol = ""
  · rw [if_pos unnamed]
    exact .unnamed unnamed
  · rw [if_neg unnamed]
    cases bound : book.get? symbol with
    | none => exact .added unnamed bound
    | some existing =>
      by_cases same : existing = address
      · simp only [if_pos same]
        exact .present unnamed (same ▸ bound)
      · simp only [if_neg same]
        exact .taken unnamed bound same

def attempt (book : ContractBook) (symbol : String) (address : Address) : Except ConfigError Addition × ContractBook :=
  kept book (book.insert symbol address)

theorem attempt_cases (book : ContractBook) (symbol : String) (address : Address) :
    symbol = "" ∧ book.attempt symbol address = (.error .emptySymbol, book) ∨
    symbol ≠ "" ∧ book.get? symbol = none ∧
      book.attempt symbol address = (.ok .added, ⟨book.table.insert symbol address⟩) ∨
    symbol ≠ "" ∧ book.get? symbol = some address ∧ book.attempt symbol address = (.ok .alreadyPresent, book) ∨
    symbol ≠ "" ∧ ∃ existing, book.get? symbol = some existing ∧ existing ≠ address ∧
      book.attempt symbol address = (.error (.symbolTaken symbol existing), book) := by
  have inserts := inserts_insert book symbol address
  rw [attempt]
  generalize book.insert symbol address = result at inserts ⊢
  cases inserts with
  | unnamed unnamed => exact .inl ⟨unnamed, rfl⟩
  | added named free => exact .inr (.inl ⟨named, free, rfl⟩)
  | present named bound => exact .inr (.inr (.inl ⟨named, bound, rfl⟩))
  | taken named bound apart => exact .inr (.inr (.inr ⟨named, _, bound, apart, rfl⟩))

theorem get?_attempt (book : ContractBook) (symbol : String) (address : Address) (other : String) :
    (book.attempt symbol address).2.get? other =
      (book.get? other).or
        (if symbol = other ∧ (book.attempt symbol address).1 = .ok .added then some address else none) := by
  rcases book.attempt_cases symbol address with
    ⟨-, ended⟩ | ⟨-, free, ended⟩ | ⟨-, -, ended⟩ | ⟨-, existing, -, -, ended⟩
  · simp [ended]
  · rw [ended]
    change (book.table.insert symbol address).get? other = _
    rw [SortedTable.get?_insert]
    by_cases same : symbol = other
    · simp [← same, free]
    · simp [same, Ne.symm same, get?]
  · simp [ended]
  · simp [ended]

theorem attempt_eq_added_iff :
    (book.attempt symbol address).1 = .ok .added ↔ symbol ≠ "" ∧ book.get? symbol = none := by
  rcases book.attempt_cases symbol address with
    ⟨unnamed, ended⟩ | ⟨named, free, ended⟩ | ⟨-, bound, ended⟩ | ⟨-, existing, bound, -, ended⟩
  · rw [ended]
    simp [unnamed]
  · simp [ended, named, free]
  · simp [ended, bound]
  · simp [ended, bound]

theorem attempt_eq_unnamed_iff : (book.attempt symbol address).1 = .error .emptySymbol ↔ symbol = "" := by
  rcases book.attempt_cases symbol address with
    ⟨unnamed, ended⟩ | ⟨named, -, ended⟩ | ⟨named, -, ended⟩ | ⟨named, existing, -, -, ended⟩
  · rw [ended]
    simp [unnamed]
  · simp [ended, named]
  · simp [ended, named]
  · simp [ended, named]

theorem attempt_of_ne_added (refused : (book.attempt symbol address).1 ≠ .ok .added) :
    (book.attempt symbol address).2 = book := by
  rcases book.attempt_cases symbol address with
    ⟨-, ended⟩ | ⟨-, -, ended⟩ | ⟨-, -, ended⟩ | ⟨-, existing, -, -, ended⟩
  · rw [ended]
  · rw [ended] at refused
    exact absurd rfl refused
  · rw [ended]
  · rw [ended]

section
variable (unnamed : book.get? "" = none)
include unnamed

theorem attempt_eq_present_iff :
    (book.attempt symbol address).1 = .ok .alreadyPresent ↔ book.get? symbol = some address := by
  rcases book.attempt_cases symbol address with
    ⟨empty, ended⟩ | ⟨-, free, ended⟩ | ⟨-, bound, ended⟩ | ⟨-, existing, bound, apart, ended⟩
  · rw [ended, empty]
    simp [unnamed]
  · simp [ended, free]
  · simp [ended, bound]
  · simp [ended, bound, apart]

theorem attempt_eq_taken_iff {taken : String} {existing : Address} :
    (book.attempt symbol address).1 = .error (.symbolTaken taken existing) ↔
      taken = symbol ∧ book.get? symbol = some existing ∧ existing ≠ address := by
  rcases book.attempt_cases symbol address with
    ⟨empty, ended⟩ | ⟨-, free, ended⟩ | ⟨-, bound, ended⟩ | ⟨-, other, bound, apart, ended⟩
  · rw [ended, empty]
    simp [unnamed]
  · simp [ended, free]
  · simp [ended, bound, eq_comm]
  · rw [ended, bound]
    constructor
    · intro same
      cases same
      exact ⟨rfl, rfl, apart⟩
    · intro same
      obtain ⟨rfl, ⟨⟩, -⟩ := same
      rfl

end

theorem entries_injective : Function.Injective entries := by
  rintro ⟨⟨entries, _⟩⟩ ⟨⟨_, _⟩⟩ ⟨⟩
  rfl

theorem resolve_eq_ok_iff : book.resolve symbol = .ok address ↔ book.get? symbol = some address := by
  rw [resolve]
  split <;> simp_all

theorem resolve_eq_unknown_iff : book.resolve symbol = .error (.unknownSymbol symbol) ↔ book.get? symbol = none := by
  rw [resolve]
  split <;> simp_all

end ContractBook

end TokenDesk
