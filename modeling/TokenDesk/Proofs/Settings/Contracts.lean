import TokenDesk.Proofs.Address.Hex
import TokenDesk.Proofs.ContractBook
import TokenDesk.Settings.File

/-! Saved contracts, as texts in a file and as a book of addresses.

The texts are read one by one into the book. What is added to the file is what the
book would take, in a text that is read as the same address, so the two stay in step.
-/

set_option autoImplicit false

namespace TokenDesk.SettingsFile

/-- One saved contract. The text is read before the symbol is looked at. -/
def readEntry (entry : String × String) : Except SavedContractError (String × Address) := do
  let address ← (Address.parseHex entry.2).mapError (.address entry.1)
  if entry.1 = "" then throw (.config .emptySymbol)
  return (entry.1, address)

variable {file : SettingsFile} {book : ContractBook} {symbol other text : String} {address : Address}
  {entries : List (String × String)}

theorem readEntry_eq_ok_iff {saved : String × Address} : readEntry (symbol, text) = .ok saved ↔
    symbol ≠ "" ∧ Address.parseHex text = .ok saved.2 ∧ saved.1 = symbol := by
  obtain ⟨name, address⟩ := saved
  rw [readEntry, bind_eq_ok_iff]
  constructor
  · rintro ⟨held, read, rest⟩
    by_cases unnamed : symbol = ""
    · rw [if_pos unnamed] at rest
      cases rest
    · rw [if_neg unnamed] at rest
      cases rest
      exact ⟨unnamed, mapError_eq_ok_iff.mp read, rfl⟩
  · rintro ⟨named, read, rfl⟩
    exact ⟨address, mapError_eq_ok_iff.mpr read, if_neg named⟩

theorem exists_readEntry_error_iff : (∃ error, readEntry (symbol, text) = .error error) ↔
    symbol = "" ∨ ∃ cause, Address.parseHex text = .error cause := by
  cases read : readEntry (symbol, text) with
  | ok saved =>
    obtain ⟨named, held, -⟩ := readEntry_eq_ok_iff.mp read
    simp [named, held]
  | error error =>
    refine iff_of_true ⟨error, rfl⟩ ?_
    by_cases unnamed : symbol = ""
    · exact .inl unnamed
    · cases held : Address.parseHex text with
      | error cause => exact .inr ⟨cause, rfl⟩
      | ok address =>
        have saved : readEntry (symbol, text) = .ok (symbol, address) := readEntry_eq_ok_iff.mpr ⟨unnamed, held, rfl⟩
        cases read.symm.trans saved

theorem addSaved_cons (free : book.get? symbol = none) (rest : List (String × String)) :
    addSaved book ((symbol, text) :: rest) =
      readEntry (symbol, text) >>= fun saved => addSaved ⟨book.table.insert saved.1 saved.2⟩ rest := by
  rw [addSaved, readEntry]
  cases Address.parseHex text with
  | error cause => rfl
  | ok address =>
    by_cases unnamed : symbol = ""
    · simp only [ContractBook.insert, unnamed, if_true]
      rfl
    · simp only [ContractBook.insert, unnamed, if_false, free]
      rfl

theorem addSaved_entries (sorted : IsSorted entries)
    (below : ∀ entry ∈ entries, ∀ earlier ∈ book.entries, earlier.1 < entry.1) :
    (addSaved book entries).map ContractBook.entries = (entries.mapM readEntry).map (book.entries ++ ·) := by
  induction entries generalizing book with
  | nil => simp [addSaved, Except.map, pure, Except.pure]
  | cons entry rest ih =>
    obtain ⟨symbol, text⟩ := entry
    -- The book holds smaller symbols only, so this one is not in it and comes behind them.
    have first_below := below _ List.mem_cons_self
    rw [addSaved_cons (SortedTable.get?_of_lt first_below), List.mapM_cons]
    cases read : readEntry (symbol, text) with
    | error error => rfl
    | ok saved =>
      obtain ⟨-, -, same⟩ := readEntry_eq_ok_iff.mp read
      have put : (⟨book.table.insert saved.1 saved.2⟩ : ContractBook).entries = book.entries ++ [saved] :=
        SortedTable.put_of_lt (same ▸ first_below)
      have above : ∀ entry ∈ rest, ∀ earlier ∈ book.entries ++ [saved], earlier.1 < entry.1 := by
        intro entry listed earlier among
        rcases List.mem_append.mp among with before | last
        · exact below entry (List.mem_cons_of_mem _ listed) earlier before
        · rw [List.mem_singleton.mp last, same]
          exact (List.pairwise_cons.mp sorted).1 entry listed
      have later := ih (List.pairwise_cons.mp sorted).2 (put ▸ above)
      change (addSaved _ rest).map _ = _
      rw [later, put]
      cases rest.mapM readEntry with
      | error error => rfl
      | ok others => exact congrArg Except.ok (List.append_assoc _ _ _)

theorem contractBook_entries (file : SettingsFile) :
    file.contractBook.map ContractBook.entries = file.contracts.entries.mapM readEntry := by
  have none_before : ∀ entry ∈ file.contracts.entries, ∀ earlier ∈ ContractBook.empty.entries, earlier.1 < entry.1 := by
    rintro _ _ _ ⟨⟩
  have read := addSaved_entries file.contracts.sorted none_before
  rw [contractBook, read]
  cases file.contracts.entries.mapM readEntry <;> rfl

theorem contractBook_eq_ok_iff : file.contractBook = .ok book ↔
    List.Forall₂ (fun entry saved => readEntry entry = .ok saved) file.contracts.entries book.entries := by
  rw [← mapM_eq_ok_iff, ← contractBook_entries, map_eq_ok_iff]
  constructor
  · intro read
    exact ⟨book, read, rfl⟩
  · rintro ⟨other, read, same⟩
    rw [read, ContractBook.entries_injective same]

theorem contractBook_eq_error_iff {error : SavedContractError} :
    file.contractBook = .error error ↔ file.contracts.entries.mapM readEntry = .error error := by
  rw [← contractBook_entries]
  cases file.contractBook <;> simp [Except.map]

/-! Adding a contract. -/

def attempt (file : SettingsFile) (symbol : String) (address : Address) :
    Except SavedContractError Addition × SettingsFile :=
  kept file (file.addContract symbol address)

theorem forall₂_put {others : List (String × Address)}
    (saved : List.Forall₂ (fun entry saved => readEntry entry = .ok saved) entries others)
    (here : readEntry (symbol, text) = .ok (symbol, address)) :
    List.Forall₂ (fun entry saved => readEntry entry = .ok saved) (SortedTable.put symbol text entries)
      (SortedTable.put symbol address others) := by
  induction saved with
  | nil => exact .cons here .nil
  | @cons entry other entries others first rest ih =>
    obtain ⟨-, -, same⟩ := readEntry_eq_ok_iff.mp first
    rw [SortedTable.put, SortedTable.put, same]
    by_cases before : symbol < entry.1
    · rw [if_pos before, if_pos before]
      exact .cons here (.cons first rest)
    · rw [if_neg before, if_neg before]
      by_cases replaced : symbol = entry.1
      · rw [if_pos replaced, if_pos replaced]
        exact .cons here rest
      · rw [if_neg replaced, if_neg replaced]
        exact .cons first ih

theorem readEntry_checksummed (named : symbol ≠ "") (address : Address) :
    readEntry (symbol, address.checksummed) = .ok (symbol, address) :=
  readEntry_eq_ok_iff.mpr ⟨named, address.parseHex_checksummed, rfl⟩

/-- The call does to the file what it does to the book of the file. -/
structure Refines (file : SettingsFile) (book : ContractBook) (symbol : String) (address : Address) : Prop where
  result : (file.attempt symbol address).1 = (book.attempt symbol address).1.mapError .config
  book : (file.attempt symbol address).2.contractBook = .ok (book.attempt symbol address).2
  rest : (file.attempt symbol address).2 = { file with contracts := (file.attempt symbol address).2.contracts }
  others : ∀ other, other ≠ symbol → (file.attempt symbol address).2.contracts.get? other = file.contracts.get? other
  unchanged : (file.attempt symbol address).1 ≠ .ok .added → (file.attempt symbol address).2 = file

theorem addContract_of_valid (valid : file.contractBook = .ok book) (symbol : String) (address : Address) :
    file.addContract symbol address = match book.insert symbol address with
      | .ok (.added, _) =>
        .ok (.added, { file with contracts := file.contracts.insert symbol address.checksummed })
      | .ok (.alreadyPresent, _) => .ok (.alreadyPresent, file)
      | .error cause => .error (.config cause) := by
  rw [addContract, valid]
  simp only [bind, Except.bind]
  rcases book.insert symbol address with cause | ⟨_ | _, after⟩ <;> rfl

theorem contractBook_insert (valid : file.contractBook = .ok book) (named : symbol ≠ "") :
    { file with contracts := file.contracts.insert symbol address.checksummed }.contractBook =
      .ok ⟨book.table.insert symbol address⟩ := by
  rw [contractBook_eq_ok_iff] at valid ⊢
  exact forall₂_put valid (readEntry_checksummed named address)

theorem refines_of_unchanged (valid : file.contractBook = .ok book) (result : Except ConfigError Addition)
    (same_file : file.attempt symbol address = (result.mapError .config, file))
    (same_book : book.attempt symbol address = (result, book)) : Refines file book symbol address := by
  constructor <;> rw [same_file]
  · rw [same_book]
  · rw [same_book]
    exact valid
  · exact fun _ _ => rfl
  · exact fun _ => rfl

theorem refines_of_added (valid : file.contractBook = .ok book) (named : symbol ≠ "")
    (changed : file.attempt symbol address =
      (.ok .added, { file with contracts := file.contracts.insert symbol address.checksummed }))
    (changed_book : book.attempt symbol address = (.ok .added, ⟨book.table.insert symbol address⟩)) :
    Refines file book symbol address := by
  constructor <;> rw [changed]
  · rw [changed_book]
    rfl
  · rw [changed_book]
    exact contractBook_insert valid named
  · intro other apart
    exact (SortedTable.get?_insert _ _ _ _).trans (if_neg apart)
  · exact fun refused => absurd rfl refused

theorem refines_of_valid (valid : file.contractBook = .ok book) (symbol : String) (address : Address) :
    Refines file book symbol address := by
  have inserts := book.inserts_insert symbol address
  have adding := addContract_of_valid valid symbol address
  generalize inserted : book.insert symbol address = outcome at inserts adding
  -- The table is written only if the contract is new. In the other cases nothing changes on either side.
  cases inserts with
  | added named _ =>
    refine refines_of_added valid named ?_ ?_
    · rw [attempt, adding]
      rfl
    · rw [ContractBook.attempt, inserted]
      rfl
  | present _ _ =>
    refine refines_of_unchanged valid (.ok .alreadyPresent) ?_ ?_
    · rw [attempt, adding]
      rfl
    · rw [ContractBook.attempt, inserted]
      rfl
  | unnamed _ =>
    refine refines_of_unchanged valid (.error .emptySymbol) ?_ ?_
    · rw [attempt, adding]
      rfl
    · rw [ContractBook.attempt, inserted]
      rfl
  | @taken existing _ _ _ =>
    refine refines_of_unchanged valid (.error (.symbolTaken symbol existing)) ?_ ?_
    · rw [attempt, adding]
      rfl
    · rw [ContractBook.attempt, inserted]
      rfl

theorem addContract_of_invalid {error : SavedContractError} (invalid : file.contractBook = .error error)
    (symbol : String) (address : Address) : file.addContract symbol address = .error error := by
  rw [addContract, invalid]
  rfl

theorem exists_contractBook_error_iff : (∃ error, file.contractBook = .error error) ↔
    ∃ entry ∈ file.contracts.entries, entry.1 = "" ∨ ∃ cause, Address.parseHex entry.2 = .error cause := by
  constructor
  · rintro ⟨error, failed⟩
    obtain ⟨before, entry, after, split, -, bad⟩ := mapM_eq_error_iff.mp (contractBook_eq_error_iff.mp failed)
    exact ⟨entry, by simp [split], exists_readEntry_error_iff.mp ⟨error, bad⟩⟩
  · rintro ⟨entry, listed, bad⟩
    obtain ⟨error, failed⟩ := exists_readEntry_error_iff.mpr bad
    cases read : file.contractBook with
    | error error => exact ⟨error, rfl⟩
    | ok book =>
      obtain ⟨saved, -, good⟩ := exists_of_forall₂ (contractBook_eq_ok_iff.mp read) listed
      cases failed.symm.trans good

/-! Adding contracts one after another. -/

def attemptAll (file : SettingsFile) :
    List (String × Address) → List (Except SavedContractError Addition) × SettingsFile
  | [] => ([], file)
  | (symbol, address) :: rest =>
    let (result, next) := file.attempt symbol address
    let (results, last) := next.attemptAll rest
    (result :: results, last)

def firstAdded (symbol : String) (calls : List (String × Address))
    (results : List (Except SavedContractError Addition)) : Option Address :=
  ((calls.zip results).find? fun (call, result) => call.1 = symbol ∧ result = .ok .added).map fun (call, _) => call.2

theorem firstAdded_cons (symbol : String) (call : String × Address) (calls : List (String × Address))
    (result : Except SavedContractError Addition) (results : List (Except SavedContractError Addition)) :
    firstAdded symbol (call :: calls) (result :: results) =
      (if call.1 = symbol ∧ result = .ok .added then some call.2 else none).or (firstAdded symbol calls results) := by
  rw [firstAdded, List.zip_cons_cons, List.find?_cons]
  by_cases adds : call.1 = symbol ∧ result = .ok .added
  · simp [adds]
  · simp [adds, firstAdded]

theorem attemptAll_get? (valid : file.contractBook = .ok book) (calls : List (String × Address)) :
    ∃ last, (file.attemptAll calls).2.contractBook = .ok last ∧
      ∀ symbol, last.get? symbol = (book.get? symbol).or (firstAdded symbol calls (file.attemptAll calls).1) := by
  -- Each call leaves a file that has a book again, and from this one the others start.
  induction calls generalizing file book with
  | nil => exact ⟨book, valid, fun symbol => (Option.or_none).symm⟩
  | cons call rest ih =>
    obtain ⟨symbol, address⟩ := call
    have step := refines_of_valid valid symbol address
    obtain ⟨last, read, bound⟩ := ih step.book
    refine ⟨last, read, fun other => ?_⟩
    have alike : (book.attempt symbol address).1 = .ok .added ↔ (file.attempt symbol address).1 = .ok .added := by
      rw [step.result, mapError_eq_ok_iff]
    rw [bound, ContractBook.get?_attempt, Option.or_assoc, attemptAll, firstAdded_cons]
    simp only [alike]

/-- Adding a contract to a file is inserting it into the book of the file. So a symbol keeps the address that
the file had for it, or else the one of the first call that added it. -/
theorem addContract_refines_insert (file : SettingsFile) :
    (∀ book, file.contractBook = .ok book →
      (∀ symbol address, Refines file book symbol address) ∧
      ∀ calls, ∃ last, (file.attemptAll calls).2.contractBook = .ok last ∧
        ∀ symbol address, last.resolve symbol = .ok address ↔
          (book.get? symbol).or (firstAdded symbol calls (file.attemptAll calls).1) = some address) ∧
    ((∃ error, file.contractBook = .error error) ↔
      ∃ entry ∈ file.contracts.entries, entry.1 = "" ∨ ∃ cause, Address.parseHex entry.2 = .error cause) ∧
    ∀ error, file.contractBook = .error error → ∀ symbol address,
      file.addContract symbol address = .error error ∧ file.attempt symbol address = (.error error, file) := by
  refine ⟨fun book valid => ⟨refines_of_valid valid, fun calls => ?_⟩, exists_contractBook_error_iff, ?_⟩
  · obtain ⟨last, read, bound⟩ := attemptAll_get? valid calls
    refine ⟨last, read, fun symbol address => ?_⟩
    rw [ContractBook.resolve_eq_ok_iff, bound]
  · intro error invalid symbol address
    have failed := addContract_of_invalid invalid symbol address
    exact ⟨failed, by rw [attempt, failed]; rfl⟩

theorem addContract_refines_insert_two :
    ∃ (file : SettingsFile) (book last : ContractBook) (address : Address), file.contractBook = .ok book ∧
      book.resolve "NUSD" = .ok .zero ∧ address ≠ .zero ∧ Refines file book "NUSD" address ∧
      (file.attemptAll [("NUSD", address), ("NEW", address)]).2.contractBook = .ok last ∧
      last.resolve "NUSD" = .ok .zero ∧ last.resolve "NEW" = .ok address := by
  let address : Address := ⟨List.replicate 20 255, List.length_replicate ..⟩
  let file : SettingsFile :=
    { SettingsFile.empty with contracts := .ofList [("NUSD", "0x0000000000000000000000000000000000000000")] }
  let book : ContractBook := ⟨.ofList [("NUSD", .zero)]⟩
  have valid : file.contractBook = .ok book := by decide +kernel
  obtain ⟨refines, runs⟩ := (addContract_refines_insert file).1 book valid
  obtain ⟨last, read, resolves⟩ := runs [("NUSD", address), ("NEW", address)]
  have results : (file.attemptAll [("NUSD", address), ("NEW", address)]).1 =
      [.error (.config (.symbolTaken "NUSD" .zero)), .ok .added] := by decide +kernel
  rw [results] at resolves
  refine ⟨file, book, last, address, valid, by decide +kernel, by decide, refines "NUSD" address, read, ?_, ?_⟩
  · exact (resolves "NUSD" .zero).mpr (by decide +kernel)
  · exact (resolves "NEW" address).mpr (by decide +kernel)

end TokenDesk.SettingsFile
