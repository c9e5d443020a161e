import TokenDesk.Proofs.Toml.Lines
import TokenDesk.Settings.File

/-! A file that is written reads as the settings it was written from.

Between the two stands the document of the file, which has exactly the keys
that are present.
-/

set_option autoImplicit false

namespace TokenDesk.SettingsFile
open Toml

theorem pairLine_append (key value : String) (rest : List Char) : pairLine key value ++ rest =
    writeKey key.toList ++ (' ' :: '=' :: ' ' :: (writeText value.toList ++ '\n' :: rest)) := by
  simp [pairLine]

theorem readPair_pairLine (key value : String) (rest : List Char) :
    readPair (readItem depthLimit) (pairLine key value ++ rest) = some (⟨[], key, .text value⟩, '\n' :: rest) := by
  have ends : ∀ c ∈ (' ' :: '=' :: ' ' :: (writeText value.toList ++ '\n' :: rest)).head?, isBare c = false := by
    rintro c ⟨⟩
    rfl
  have gap : afterGaps (' ' :: (writeText value.toList ++ '\n' :: rest)) = writeText value.toList ++ '\n' :: rest :=
    afterGaps_writeText value.toList ('\n' :: rest)
  rw [pairLine_append, readPair, readPath_writeKey key ends (by rintro ⟨⟩)]
  change (readItem depthLimit (afterGaps (' ' :: (writeText value.toList ++ '\n' :: rest)))).bind _ = _
  rw [gap, readItem_writeText depthLimit value (by rintro ⟨⟩) (by rintro ⟨⟩)]
  rfl

theorem readLines_pairLine (root : Table) (here : List String) (key value : String) (rest : List Char) :
    readLines root here (pairLine key value ++ rest) =
      (root.inside? (Pair.enter? ⟨[], key, .text value⟩) here).bind fun root => readLines root here rest := by
  obtain ⟨c, more, written, begins⟩ := exists_writeKey key.toList
  have start : pairLine key value ++ rest =
      c :: (more ++ (' ' :: '=' :: ' ' :: (writeText value.toList ++ '\n' :: rest))) := by
    rw [pairLine_append, written, List.cons_append]
  have plain : c ≠ '[' ∧ ¬ (c = '#' ∨ c = '\n' ∨ c = '\r') := by
    refine ⟨?_, ?_⟩
    · rintro rfl
      revert begins
      decide
    · rintro (rfl | rfl | rfl) <;> revert begins <;> decide
  have shorter : rest.length < (pairLine key value ++ rest).length := by
    rw [pairLine_append]
    simp
    omega
  have unspaced : afterGaps (pairLine key value ++ rest) = pairLine key value ++ rest := by
    rw [pairLine_append]
    exact afterGaps_writeKey _ _
  have pair := readPair_pairLine key value rest
  rw [readLines, unspaced]
  -- The line becomes a variable, so that its first character alone selects the branch.
  generalize pairLine key value ++ rest = line at *
  subst start
  simp only []
  split
  case h_1 same => cases same
  case h_2 same => exact absurd (List.cons.inj same).1 plain.1
  case h_3 same => exact absurd (List.cons.inj same).1 plain.1
  case h_4 same =>
    cases same
    rw [if_neg plain.2, pair]
    exact if_pos shorter

def textItems (pairs : List (String × String)) : Table :=
  pairs.map fun (key, value) => (key, .text value)

@[simp] theorem map_fst_textItems (pairs : List (String × String)) :
    (textItems pairs).map Prod.fst = pairs.map Prod.fst := by
  simp [textItems]

theorem lookup_textItems (pairs : List (String × String)) (key : String) :
    (textItems pairs).lookup key = (pairs.lookup key).map .text := by
  induction pairs with
  | nil => rfl
  | cons pair pairs ih =>
    rw [textItems, List.map_cons, List.lookup_cons, List.lookup_cons]
    cases key == pair.1 with
    | true => rfl
    | false => exact ih

theorem textEntries?_textItems (pairs : List (String × String)) : textEntries? (textItems pairs) = some pairs := by
  induction pairs with
  | nil => rfl
  | cons pair pairs ih =>
    rw [textItems, List.map_cons, textEntries?, List.mapM_cons]
    rw [textEntries?, textItems] at ih
    rw [ih]
    rfl

theorem readLines_writePairs (here : List String) (within : Table → Table)
    (changes : ∀ (change : Table → Option Table) entries after, change entries = some after →
      (within entries).inside? change here = some (within after))
    (entries : Table) (pairs : List (String × String))
    (distinct : (entries.map Prod.fst ++ pairs.map Prod.fst).Nodup) (rest : List Char) :
    readLines (within entries) here (writePairs pairs ++ rest) =
      readLines (within (entries ++ textItems pairs)) here rest := by
  induction pairs generalizing entries with
  | nil => rw [textItems, List.map_nil, List.append_nil, writePairs, List.flatMap_nil, List.nil_append]
  | cons pair pairs ih =>
    obtain ⟨key, value⟩ := pair
    have absent : key ∉ entries.map Prod.fst := fun listed =>
      (List.nodup_append.mp distinct).2.2 key listed key (by simp) rfl
    have filled := changes _ _ _ (enter?_of_not_mem absent (.text value))
    have later := ih (entries ++ [(key, .text value)]) (by simpa using distinct)
    rw [writePairs, List.flatMap_cons, List.append_assoc, readLines_pairLine, filled, Option.bind_some]
    refine later.trans ?_
    rw [List.append_assoc]
    rfl

def fields (file : SettingsFile) : List (String × Option String) :=
  [("walletPath", file.walletPath), ("rpcURL", file.rpcUrl), ("contractAddress", file.contractAddress),
    ("from", file.payer), ("mode", file.mode), ("password", file.password), ("blockchain", file.blockchain)]

def fieldNames : List String :=
  ["walletPath", "rpcURL", "contractAddress", "from", "mode", "password", "blockchain"]

def present (fields : List (String × Option String)) : List (String × String) :=
  fields.filterMap fun (key, value) => value.map fun value => (key, value)

theorem map_fst_present_sublist (fields : List (String × Option String)) :
    ((present fields).map Prod.fst).Sublist (fields.map Prod.fst) := by
  induction fields with
  | nil => exact .slnil
  | cons field fields ih =>
    obtain ⟨key, _ | value⟩ := field
    · exact ih.cons key
    · exact ih.cons_cons key

theorem lookup_present {fields : List (String × Option String)} (distinct : (fields.map Prod.fst).Nodup)
    (key : String) : (present fields).lookup key = (fields.lookup key).bind id := by
  induction fields with
  | nil => rfl
  | cons field fields ih =>
    obtain ⟨known, value⟩ := field
    obtain ⟨fresh, others⟩ := List.nodup_cons.mp distinct
    have later := ih others
    rw [List.lookup_cons]
    by_cases same : key = known
    · subst same
      -- A field without a value is not written, and no later field has its name.
      have unwritten : (present fields).lookup key = none :=
        lookup_eq_none_iff.mpr fun listed => fresh ((map_fst_present_sublist fields).mem listed)
      cases value with
      | some value => simp [present]
      | none => simpa [present] using unwritten
    · have differs : (key == known) = false := by simpa using same
      cases value with
      | some value => simpa [present, List.lookup_cons, differs] using later
      | none => simpa [present, differs] using later

theorem keys_sublist (file : SettingsFile) : (file.pairs.map Prod.fst).Sublist fieldNames :=
  map_fst_present_sublist file.fields

theorem nodup_keys (file : SettingsFile) : (file.pairs.map Prod.fst).Nodup :=
  file.keys_sublist.nodup (by decide)

theorem lookup_pairs (file : SettingsFile) (key : String) :
    file.pairs.lookup key = (file.fields.lookup key).bind id :=
  lookup_present (by change fieldNames.Nodup; decide) key

/-! The document of a file. -/

def contractsKey : String := "Contracts"

theorem contractsKey_not_mem (file : SettingsFile) : contractsKey ∉ file.pairs.map Prod.fst :=
  mt file.keys_sublist.mem (by decide)

/-- What a file means: a text under each key that is present, and the table of its contracts if it has any. -/
def document (file : SettingsFile) : Table :=
  textItems file.pairs ++
    if file.contracts.isEmpty then [] else [(contractsKey, .table .header (textItems file.contracts.entries))]

theorem lookup_document (file : SettingsFile) {key : String} (known : key ≠ contractsKey) :
    file.document.lookup key = ((file.fields.lookup key).bind id).map .text := by
  rw [document, List.lookup_append, lookup_textItems, lookup_pairs]
  split
  · exact Option.or_none
  · have differs : (key == contractsKey) = false := by simpa using known
    rw [List.lookup_cons, differs]
    exact Option.or_none

theorem lookup_contracts (file : SettingsFile) :
    file.document.lookup contractsKey = if file.contracts.isEmpty then none
      else some (.table .header (textItems file.contracts.entries)) := by
  rw [document, List.lookup_append, lookup_textItems, lookup_eq_none_iff.mpr file.contractsKey_not_mem]
  split
  · rfl
  · simp

theorem textAt?_document (file : SettingsFile) {key : String} (known : key ≠ contractsKey) :
    textAt? file.document key = some ((file.fields.lookup key).bind id) := by
  rw [textAt?, lookup_document file known]
  cases (file.fields.lookup key).bind id <;> rfl

theorem contractsAt?_document (file : SettingsFile) : contractsAt? file.document = some file.contracts := by
  have found : file.document.lookup "Contracts" = _ := lookup_contracts file
  rw [contractsAt?, found]
  by_cases none_saved : file.contracts.isEmpty
  · have same : file.contracts = .empty := SortedTable.entries_injective (List.isEmpty_iff.mp none_saved)
    rw [if_pos none_saved, same]
  · rw [if_neg none_saved]
    simp only [textEntries?_textItems, Option.map_some, SortedTable.ofList_entries]

/-- The settings in the document of a file are those of the file. Its password never has a capital letter. -/
theorem ofDocument?_document (file : SettingsFile) : ofDocument? file.document = some file := by
  have text (key : String) (known : key ≠ contractsKey) := textAt?_document file known
  have lower : (file.fields.lookup "password").bind id = file.password := rfl
  have capital : (file.fields.lookup "Password").bind id = none := rfl
  rw [ofDocument?, text "walletPath" (by decide), text "rpcURL" (by decide), text "contractAddress" (by decide),
    text "from" (by decide), text "mode" (by decide), text "password" (by decide), text "Password" (by decide),
    text "blockchain" (by decide), contractsAt?_document, lower, capital]
  change (if file.password.isSome ∧ false then none else some { file with password := file.password.or none }) = _
  rw [if_neg (by simp), Option.or_none]

/-- The header of the contracts opens their table at the end of the document. -/
theorem readLines_header {root : Table} (absent : contractsKey ∉ root.map Prod.fst) (here : List String)
    (rest : List Char) :
    readLines root here ("[Contracts]\n".toList ++ rest) =
      readLines (root ++ [(contractsKey, .table .header [])]) [contractsKey] rest := by
  have header : readHeader [']'] ('C' :: ("ontracts]\n".toList ++ rest)) = some (([], contractsKey), rest) :=
    readHeader_writeKey contractsKey rest
  change readLines root here ('[' :: 'C' :: ("ontracts]\n".toList ++ rest)) = _
  rw [readLines]
  change (readHeader [']'] ('C' :: ("ontracts]\n".toList ++ rest))).bind _ = _
  rw [header]
  change ite _ ((root.openTable? contractsKey []).bind _) _ = _
  rw [openTable?_of_not_mem absent]
  refine if_pos ?_
  simp
  omega

theorem readLines_text (file : SettingsFile) : readLines [] [] file.text.toList = some file.document := by
  have keys (rest : List Char) :
      readLines [] [] (writePairs file.pairs ++ rest) = readLines (textItems file.pairs) [] rest :=
    readLines_writePairs [] (fun entries => entries) (fun _ _ _ changed => changed) [] file.pairs
      (by simpa using file.nodup_keys) rest
  have absent : contractsKey ∉ (textItems file.pairs).map Prod.fst := by
    rw [map_fst_textItems]
    exact file.contractsKey_not_mem
  rw [text, String.toList_ofList, keys, document]
  -- The contracts stand in a table of their own behind the pairs, if there are any.
  by_cases none_saved : file.contracts.isEmpty
  · rw [if_pos none_saved, if_pos none_saved, List.append_nil, readLines]
    rfl
  · have contracts := readLines_writePairs [contractsKey]
      (fun entries => textItems file.pairs ++ [(contractsKey, .table .header entries)])
      (fun change _ _ changed => inside?_last absent change changed) [] file.contracts.entries
      (by simpa using file.contracts.nodup_keys) []
    rw [List.append_nil, List.nil_append] at contracts
    have gap (rest : List Char) : readLines (textItems file.pairs) []
        ((if (writePairs file.pairs).isEmpty then [] else ['\n']) ++ rest) =
          readLines (textItems file.pairs) [] rest := by
      split
      · rfl
      · exact readLines_break _ _ _
    rw [if_neg none_saved, if_neg none_saved, List.append_assoc, gap, readLines_header absent]
    exact contracts.trans (readLines.eq_def _ _ [])

theorem text_begins (file : SettingsFile) :
    ∀ c ∈ file.text.toList.head?, isBare c ∨ c = '"' ∨ c = '\x27' ∨ c = '[' := by
  rw [text, String.toList_ofList]
  cases file.pairs with
  | nil =>
    rw [writePairs, List.flatMap_nil, List.nil_append]
    split
    · rintro _ ⟨⟩
    · rintro _ ⟨⟩
      exact .inr (.inr (.inr rfl))
  | cons pair pairs =>
    obtain ⟨c, more, written, begins⟩ := exists_writeKey pair.1.toList
    rw [writePairs, List.flatMap_cons, List.append_assoc, pairLine_append, written]
    rintro _ ⟨⟩
    exact begins.imp_right (·.imp_right .inl)

theorem parse?_text_eq_document (file : SettingsFile) : Toml.parse? file.text = some file.document := by
  rw [Toml.parse?, ← readLines_text file]
  split
  next marked =>
    have begins := file.text_begins '\ufeff' (by rw [marked]; rfl)
    exact absurd begins (by decide)
  · rfl

theorem parse?_text (file : SettingsFile) : parse? file.text = some file := by
  rw [parse?, parse?_text_eq_document, Option.bind_some, ofDocument?_document]

end TokenDesk.SettingsFile
