import Mathlib.Data.List.Dedup
import TokenDesk.Abi.CallData
import TokenDesk.Proofs.ContractBook
import TokenDesk.Proofs.Text.Utf8

/-! What remains of a history of contracts.

Contracts are added under symbols, looked up, and one of them may be made the default.
The book binds each symbol to the first address that came with it and keeps it. The
default is the last one that was set. Neither of the two answers for the other.
-/

set_option autoImplicit false

namespace TokenDesk.Contracts

def initial : Contracts :=
  ⟨none, .empty⟩

inductive Operation where
  | insert (symbol : String) (address : Address)
  | lookUp (symbol : String)
  | setDefault (address : Option Address)
  | resolve (symbol : Option String)
  deriving DecidableEq, Repr

inductive Answer where
  | inserted (result : Except ConfigError Addition)
  | resolved (result : Except ConfigError Address)
  | done

namespace Operation

def run (contracts : Contracts) : Operation → Answer × Contracts
  | insert symbol address =>
    let (result, book) := contracts.book.attempt symbol address
    (.inserted result, { contracts with book })
  | lookUp symbol => (.resolved (contracts.book.resolve symbol), contracts)
  | setDefault address => (.done, { contracts with default? := address })
  | resolve symbol => (.resolved (contracts.resolve symbol), contracts)

def added? (contracts : Contracts) : Operation → Option String
  | insert symbol address =>
    if (contracts.book.attempt symbol address).1 = .ok .added then some symbol else none
  | _ => none

def binding? : Operation → Option (String × Address)
  | insert symbol address => if symbol = "" then none else some (symbol, address)
  | _ => none

def default? : Operation → Option (Option Address)
  | setDefault address => some address
  | _ => none

end Operation

def after (contracts : Contracts) (operations : List Operation) : Contracts :=
  operations.foldl (fun contracts operation => (operation.run contracts).2) contracts

def added (contracts : Contracts) : List Operation → List String
  | [] => []
  | operation :: rest => (operation.added? contracts).toList ++ (operation.run contracts).2.added rest

def bindings (operations : List Operation) : List (String × Address) :=
  operations.flatMap fun operation => operation.binding?.toList

def lastDefault (operations : List Operation) : Option Address :=
  (operations.filterMap Operation.default?).getLast?.join

theorem lookup_binding? (other : String) (address : Address) (symbol : String) :
    (Operation.insert other address).binding?.toList.lookup symbol =
      if other ≠ "" ∧ other = symbol then some address else none := by
  by_cases unnamed : other = ""
  · simp [Operation.binding?, unnamed]
  · by_cases same : other = symbol
    · subst same
      simp [Operation.binding?, unnamed]
    · have differs : (symbol == other) = false := beq_eq_false_iff_ne.mpr (Ne.symm same)
      simp [Operation.binding?, unnamed, same, List.lookup_cons, differs]

theorem get?_run (operation : Operation) (contracts : Contracts) (symbol : String) :
    (operation.run contracts).2.book.get? symbol =
      (contracts.book.get? symbol).or (operation.binding?.toList.lookup symbol) := by
  cases operation with
  | insert other address =>
    change (contracts.book.attempt other address).2.get? symbol = _
    rw [ContractBook.get?_attempt, lookup_binding?]
    cases bound : contracts.book.get? symbol with
    | some existing => rfl
    | none =>
      rw [Option.none_or, Option.none_or]
      apply if_congr _ rfl rfl
      rw [ContractBook.attempt_eq_added_iff]
      constructor
      · intro adds
        exact ⟨adds.2.1, adds.1⟩
      · intro named
        exact ⟨named.2, named.1, named.2 ▸ bound⟩
  | lookUp other => exact Option.or_none.symm
  | setDefault address => exact Option.or_none.symm
  | resolve other => exact Option.or_none.symm

theorem added?_eq_some_iff (operation : Operation) (contracts : Contracts) (symbol : String) :
    operation.added? contracts = some symbol ↔
      contracts.book.get? symbol = none ∧ (operation.run contracts).2.book.get? symbol ≠ none := by
  rw [get?_run]
  cases operation with
  | insert other address =>
    have adds : (Operation.insert other address).added? contracts = some symbol ↔
        (other ≠ "" ∧ contracts.book.get? other = none) ∧ other = symbol := by
      rw [Operation.added?, Option.ite_none_right_eq_some, ContractBook.attempt_eq_added_iff, Option.some.injEq]
    rw [adds, lookup_binding?]
    by_cases same : other = symbol
    · cases bound : contracts.book.get? symbol with
      | some existing => simp [same, bound]
      | none => simp [same, bound]
    · cases contracts.book.get? symbol with
      | some existing => simp [same]
      | none => simp [same]
  | lookUp other => simp [Operation.added?, Operation.binding?]
  | setDefault address => simp [Operation.added?, Operation.binding?]
  | resolve other => simp [Operation.added?, Operation.binding?]

theorem after_append (contracts : Contracts) (earlier later : List Operation) :
    contracts.after (earlier ++ later) = (contracts.after earlier).after later :=
  List.foldl_append

theorem get?_after (contracts : Contracts) (operations : List Operation) (symbol : String) :
    (contracts.after operations).book.get? symbol =
      (contracts.book.get? symbol).or ((bindings operations).lookup symbol) := by
  induction operations generalizing contracts with
  | nil => exact Option.or_none.symm
  | cons operation rest ih =>
    change ((operation.run contracts).2.after rest).book.get? symbol = _
    rw [ih, get?_run, Option.or_assoc, ← List.lookup_append]
    rfl

theorem get?_history (operations : List Operation) (symbol : String) :
    (initial.after operations).book.get? symbol = (bindings operations).lookup symbol :=
  (get?_after initial operations symbol).trans Option.none_or

theorem mem_added_iff (contracts : Contracts) (operations : List Operation) (symbol : String) :
    symbol ∈ contracts.added operations ↔
      contracts.book.get? symbol = none ∧ (contracts.after operations).book.get? symbol ≠ none := by
  induction operations generalizing contracts with
  | nil => simp [added, after]
  | cons operation rest ih =>
    rw [added, List.mem_append, Option.mem_toList, added?_eq_some_iff, ih]
    change _ ↔ _ ∧ ((operation.run contracts).2.after rest).book.get? symbol ≠ none
    rw [get?_after, get?_run]
    generalize operation.binding?.toList.lookup symbol = here, (bindings rest).lookup symbol = later
    -- What an operation binds stays bound, so it is added by the first that binds it.
    cases contracts.book.get? symbol with
    | some existing => simp
    | none => cases here <;> simp

theorem default?_after (contracts : Contracts) (operations : List Operation) :
    (contracts.after operations).default? =
      (operations.filterMap Operation.default?).getLast?.getD contracts.default? := by
  induction operations generalizing contracts with
  | nil => rfl
  | cons operation rest ih =>
    change ((operation.run contracts).2.after rest).default? = _
    rw [ih]
    cases operation with
    | setDefault address =>
      simp [Operation.default?, List.getLast?_cons, Operation.run]
    | insert symbol address => rfl
    | lookUp symbol => rfl
    | resolve symbol => rfl

theorem named_of_binding? {operation : Operation} {entry : String × Address} (binds : operation.binding? = some entry) :
    entry.1 ≠ "" := by
  cases operation with
  | insert symbol address =>
    obtain ⟨named, same⟩ := Option.ite_none_left_eq_some.mp binds
    cases same
    exact named
  | lookUp _ => cases binds
  | setDefault _ => cases binds
  | resolve _ => cases binds

theorem get?_unnamed (operations : List Operation) : (initial.after operations).book.get? "" = none := by
  rw [get?_history, List.lookup_eq_none_iff]
  intro entry listed
  obtain ⟨operation, -, binds⟩ := List.mem_flatMap.mp listed
  exact bne_iff_ne.mpr (named_of_binding? (Option.mem_toList.mp binds)).symm

theorem mem_symbols_iff (book : ContractBook) (symbol : String) :
    symbol ∈ book.entries.map Prod.fst ↔ book.get? symbol ≠ none := by
  rw [ne_eq, ContractBook.get?, SortedTable.get?, List.lookup_eq_none_iff]
  simp [ContractBook.entries]

theorem ascending_symbols (book : ContractBook) : (book.entries.map Prod.fst).Pairwise fun symbol other =>
    Abi.Argument.utf8 symbol < Abi.Argument.utf8 other := by
  apply List.pairwise_map.mpr
  apply book.table.sorted.imp
  intro entry other below
  exact Text.Utf8.encode_lt (String.lt_iff.mp below)

theorem symbols_perm (operations : List Operation) :
    ((initial.after operations).book.entries.map Prod.fst).Perm (initial.added operations).dedup := by
  apply (List.perm_ext_iff_of_nodup (SortedTable.nodup_keys _) (List.nodup_dedup _)).mpr
  intro symbol
  rw [List.mem_dedup, mem_added_iff]
  exact (mem_symbols_iff _ symbol).trans (and_iff_right rfl).symm

theorem resolve_symbol (operations : List Operation) (symbol : String) :
    (initial.after operations).resolve (some symbol) =
      ((bindings operations).lookup symbol).elim (.error (.unknownSymbol symbol)) .ok := by
  rw [resolve, ContractBook.resolve, get?_history]
  cases (bindings operations).lookup symbol <;> rfl

theorem resolve_none (operations : List Operation) :
    (initial.after operations).resolve none = (lastDefault operations).elim (.error .noContract) .ok := by
  rw [resolve, default?_after, lastDefault]
  cases (operations.filterMap Operation.default?).getLast? with
  | none => rfl
  | some last => cases last <;> rfl

/-- Whatever is done with contracts, a symbol keeps the address that it was first bound to. An insertion tells how the
symbol stands, and changes nothing unless it adds it. The symbols in the book are those that were added, and what is
meant without a symbol is the last default. -/
theorem history_exact (operations : List Operation) :
    let contracts := initial.after operations
    (∀ later symbol address, contracts.book.resolve symbol = .ok address →
      (initial.after (operations ++ later)).book.resolve symbol = .ok address) ∧
    (∀ symbol address, let (answer, next) := (Operation.insert symbol address).run contracts
      (answer = .inserted (.ok .added) ↔
        symbol ≠ "" ∧ contracts.book.resolve symbol = .error (.unknownSymbol symbol)) ∧
      (answer = .inserted (.ok .alreadyPresent) ↔ contracts.book.resolve symbol = .ok address) ∧
      (∀ taken existing, answer = .inserted (.error (.symbolTaken taken existing)) ↔
        taken = symbol ∧ contracts.book.resolve symbol = .ok existing ∧ existing ≠ address) ∧
      (answer = .inserted (.error .emptySymbol) ↔ symbol = "") ∧
      (answer ≠ .inserted (.ok .added) → next = contracts)) ∧
    contracts.book.size = (initial.added operations).dedup.length ∧
    (contracts.book.entries.map Prod.fst).Perm (initial.added operations).dedup ∧
    ((contracts.book.entries.map Prod.fst).Pairwise fun symbol other =>
      Abi.Argument.utf8 symbol < Abi.Argument.utf8 other) ∧
    "" ∉ contracts.book.entries.map Prod.fst ∧
    (∀ symbol, contracts.resolve (some symbol) =
      ((bindings operations).lookup symbol).elim (.error (.unknownSymbol symbol)) .ok) ∧
    contracts.resolve none = (lastDefault operations).elim (.error .noContract) .ok := by
  intro contracts
  have unnamed : contracts.book.get? "" = none := get?_unnamed operations
  refine ⟨?_, ?_, ?_, symbols_perm operations, ascending_symbols _, ?_, resolve_symbol operations,
    resolve_none operations⟩
  · intro later symbol address bound
    rw [ContractBook.resolve_eq_ok_iff] at bound ⊢
    rw [after_append, get?_after, bound]
    rfl
  · intro symbol address
    dsimp only [Operation.run]
    simp only [Answer.inserted.injEq, ne_eq, ContractBook.resolve_eq_unknown_iff, ContractBook.resolve_eq_ok_iff]
    refine ⟨ContractBook.attempt_eq_added_iff, ContractBook.attempt_eq_present_iff unnamed, fun taken existing =>
      ContractBook.attempt_eq_taken_iff unnamed, ContractBook.attempt_eq_unnamed_iff, ?_⟩
    intro refused
    rw [ContractBook.attempt_of_ne_added refused]
  · rw [← (symbols_perm operations).length_eq, List.length_map]
    rfl
  · rw [mem_symbols_iff]
    exact not_not.mpr unnamed

end TokenDesk.Contracts
