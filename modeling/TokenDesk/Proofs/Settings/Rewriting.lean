import TokenDesk.Proofs.Settings.Contracts
import TokenDesk.Proofs.Settings.Text

/-! What is left of a document when a contract is added to its settings.

The settings are written anew from what was read. Keys that mean nothing here are
not among them, so the document loses those.
-/

set_option autoImplicit false

namespace TokenDesk.SettingsFile
open Toml

variable {file changed : SettingsFile} {book : ContractBook} {symbol : String} {address : Address} {document : Table}

theorem map_fst_contractBook (valid : file.contractBook = .ok book) :
    book.entries.map Prod.fst = file.contracts.entries.map Prod.fst := by
  have read := contractBook_eq_ok_iff.mp valid
  generalize file.contracts.entries = entries at read
  generalize book.entries = others at read
  induction read with
  | nil => rfl
  | cons first _ ih =>
    rw [List.map_cons, List.map_cons, ih]
    exact congrArg (· :: _) (readEntry_eq_ok_iff.mp first).2.2

theorem get?_eq_none_iff_of_contractBook (valid : file.contractBook = .ok book) :
    book.get? symbol = none ↔ file.contracts.get? symbol = none := by
  change book.entries.lookup symbol = none ↔ file.contracts.entries.lookup symbol = none
  rw [lookup_eq_none_iff, lookup_eq_none_iff, map_fst_contractBook valid]

theorem addContract_eq_ok {addition : Addition} (same : file.addContract symbol address = .ok (addition, changed)) :
    (addition = .added ∧ file.contracts.get? symbol = none ∧
        changed = { file with contracts := file.contracts.insert symbol address.checksummed }) ∨
      (addition = .alreadyPresent ∧ file.contracts.get? symbol ≠ none) := by
  cases valid : file.contractBook with
  | error cause => cases same.symm.trans (addContract_of_invalid valid symbol address)
  | ok book =>
    rw [addContract_of_valid valid] at same
    have inserts := book.inserts_insert symbol address
    generalize book.insert symbol address = outcome at same inserts
    cases inserts with
    | added _ free =>
      cases same
      exact .inl ⟨rfl, (get?_eq_none_iff_of_contractBook valid).mp free, rfl⟩
    | present _ bound =>
      cases same
      refine .inr ⟨rfl, mt (get?_eq_none_iff_of_contractBook valid).mpr ?_⟩
      rw [bound]
      rintro ⟨⟩
    | unnamed _ => cases same
    | taken _ _ _ => cases same

theorem lookup_of_textAt? {key : String} {value : Option String} (held : textAt? document key = some value) :
    document.lookup key = value.map .text := by
  unfold textAt? at held
  split at held <;> cases held
  · assumption
  · assumption

theorem ofDocument?_eq_some (loads : ofDocument? document = some file) :
    (∀ field ∈ file.fields, field.1 ≠ "password" → textAt? document field.1 = some field.2) ∧
      ∃ lower capital, textAt? document "password" = some lower ∧ textAt? document "Password" = some capital ∧
        file.password = lower.or capital := by
  unfold ofDocument? at loads
  obtain ⟨walletPath, wallet, loads⟩ := Option.bind_eq_some_iff.mp loads
  obtain ⟨rpcUrl, rpc, loads⟩ := Option.bind_eq_some_iff.mp loads
  obtain ⟨contractAddress, contract, loads⟩ := Option.bind_eq_some_iff.mp loads
  obtain ⟨payer, sender, loads⟩ := Option.bind_eq_some_iff.mp loads
  obtain ⟨mode, kind, loads⟩ := Option.bind_eq_some_iff.mp loads
  obtain ⟨lower, small, loads⟩ := Option.bind_eq_some_iff.mp loads
  obtain ⟨capital, large, loads⟩ := Option.bind_eq_some_iff.mp loads
  obtain ⟨blockchain, chain, loads⟩ := Option.bind_eq_some_iff.mp loads
  obtain ⟨contracts, book, loads⟩ := Option.bind_eq_some_iff.mp loads
  split at loads
  · cases loads
  · cases loads
    refine ⟨?_, lower, capital, small, large, rfl⟩
    simp [fields, wallet, rpc, contract, sender, kind, chain]

theorem lookup_fields (file : SettingsFile) {field : String × Option String} (listed : field ∈ file.fields) :
    (file.fields.lookup field.1).bind id = field.2 := by
  simp only [fields, List.mem_cons, List.not_mem_nil, or_false] at listed
  rcases listed with rfl | rfl | rfl | rfl | rfl | rfl | rfl <;> rfl

/-- After an addition the document has the keys that are known, as they were, the password under one name, and
apart from the contracts nothing else. -/
theorem addContract_rewrites (loads : ofDocument? document = some file)
    (added : file.addContract symbol address = .ok (.added, changed)) :
    ∃ rewritten, Toml.parse? changed.text = some rewritten ∧ ∀ key, key ≠ contractsKey →
      rewritten.lookup key =
        if key = "password" then (document.lookup "password").or (document.lookup "Password")
        else if key ∈ fieldNames then document.lookup key else none := by
  obtain ⟨-, -, rfl⟩ | ⟨⟨⟩, -⟩ := addContract_eq_ok added
  obtain ⟨known, lower, capital, small, large, password⟩ := ofDocument?_eq_some loads
  refine ⟨_, parse?_text_eq_document _, fun key other => ?_⟩
  rw [lookup_document _ other]
  change ((file.fields.lookup key).bind id).map Item.text = _
  split_ifs with secret listed
  · have field : (file.fields.lookup key).bind id = file.password := by rw [secret]; rfl
    rw [field, password, lookup_of_textAt? small, lookup_of_textAt? large]
    cases lower <;> rfl
  · obtain ⟨field, among, rfl⟩ := List.mem_map.mp (show key ∈ file.fields.map Prod.fst from listed)
    rw [lookup_fields file among, lookup_of_textAt? (known field among secret)]
  · rw [lookup_eq_none_iff.mpr (show key ∉ file.fields.map Prod.fst from listed)]
    rfl

def keystoreText : String := "keystore = \"./keys/\"\n"

theorem parse?_keystoreText : Toml.parse? keystoreText = some (textItems [("keystore", "./keys/")]) := by
  have lines := readLines_writePairs [] (fun entries => entries) (fun _ _ _ changed => changed) []
    [("keystore", "./keys/")] (by decide) []
  change readLines [] [] (writePairs [("keystore", "./keys/")] ++ []) = _
  rw [lines, readLines]
  rfl

theorem addContract_rewrites_keystore : ∃ document file changed rewritten,
    Toml.parse? keystoreText = some document ∧ ofDocument? document = some file ∧
      file.addContract "NUSD" .zero = .ok (.added, changed) ∧ Toml.parse? changed.text = some rewritten ∧
      (document.lookup "keystore").isSome ∧ (rewritten.lookup "keystore").isNone := by
  have loads : ofDocument? (textItems [("keystore", "./keys/")]) = some empty := rfl
  have added : empty.addContract "NUSD" .zero =
      .ok (.added, { empty with contracts := empty.contracts.insert "NUSD" Address.zero.checksummed }) := rfl
  obtain ⟨rewritten, written, keys⟩ := addContract_rewrites loads added
  refine ⟨_, _, _, rewritten, parse?_keystoreText, loads, added, written, rfl, ?_⟩
  rw [keys "keystore" (by decide)]
  rfl

end TokenDesk.SettingsFile
