import TokenDesk.Host.Directory
import TokenDesk.Proofs.Results
import TokenDesk.Proofs.Text.Utf8

/-! Files of a directory, before and after something is written.

Where a path leads depends on the folders alone. A write that fails changes no file,
and a file that a path leads to can always be written.
-/

set_option autoImplicit false

namespace TokenDesk.Directory

variable {directory before after : Directory} {start place : Place} {names : List (List Char)} {path text : String}

theorem entry_eq_folder_iff : directory.entry place = .folder ↔ place.isAbove ∨ place ∈ directory.folders := by
  unfold entry
  by_cases folder : place.isAbove ∨ place ∈ directory.folders
  · rw [if_pos folder]
    exact iff_of_true rfl folder
  · rw [if_neg folder]
    refine iff_of_false ?_ folder
    split <;> rintro ⟨⟩

theorem requireFolder_eq_ok_iff : directory.requireFolder place = .ok () ↔ directory.entry place = .folder := by
  unfold requireFolder
  cases directory.entry place <;> simp

def move (place : Place) (name : List Char) : Except FileFault Place :=
  if name = [] ∨ name = Path.here then .ok place
  else if name = Path.up then .ok place.parent
  else if nameLimit < (String.ofList name).utf8ByteSize then .error .nameTooLong
  else .ok (name :: place)

theorem step_eq (directory : Directory) (place : Place) (name : List Char) :
    directory.step place name = directory.requireFolder place >>= fun _ => move place name := by
  unfold step move
  split
  · rfl
  · split
    · rfl
    · split <;> rfl

def Leads (directory : Directory) (start : Place) (names : List (List Char)) (place : Place) : Prop :=
  names.foldlM directory.step start = .ok place

theorem leads_nil : directory.Leads start [] start := rfl

theorem leads_cons_iff {name : List Char} : directory.Leads start (name :: names) place ↔
    directory.entry start = .folder ∧ ∃ next, move start name = .ok next ∧ directory.Leads next names place := by
  rw [Leads, List.foldlM_cons, step_eq, bind_assoc, bind_eq_ok_iff]
  constructor
  · rintro ⟨_, folder, others⟩
    exact ⟨requireFolder_eq_ok_iff.mp folder, bind_eq_ok_iff.mp others⟩
  · rintro ⟨folder, others⟩
    exact ⟨(), requireFolder_eq_ok_iff.mpr folder, bind_eq_ok_iff.mpr others⟩

theorem leads_append_iff {more : List (List Char)} : directory.Leads start (names ++ more) place ↔
    ∃ middle, directory.Leads start names middle ∧ directory.Leads middle more place := by
  rw [Leads, List.foldlM_append]
  exact bind_eq_ok_iff

theorem Leads.mono (leads : before.Leads start names place) (more : before.folders ⊆ after.folders) :
    after.Leads start names place := by
  induction names generalizing start with
  | nil => exact leads
  | cons name names ih =>
    obtain ⟨folder, next, moved, others⟩ := leads_cons_iff.mp leads
    exact leads_cons_iff.mpr
      ⟨entry_eq_folder_iff.mpr ((entry_eq_folder_iff.mp folder).imp_right (more ·)), next, moved, ih others⟩

theorem move_of_still {name : List Char} (still : name = [] ∨ name = Path.here) : move place name = .ok place :=
  if_pos still

theorem Leads.filter (leads : directory.Leads start names place) (kept : List Char → Bool)
    (still : ∀ name, kept name = false → name = [] ∨ name = Path.here) :
    directory.Leads start (names.filter kept) place := by
  induction names generalizing start with
  | nil => exact leads
  | cons name names ih =>
    obtain ⟨folder, next, moved, others⟩ := leads_cons_iff.mp leads
    rw [List.filter_cons]
    split_ifs with stays
    · exact leads_cons_iff.mpr ⟨folder, next, moved, ih others⟩
    · rw [move_of_still (still name (Bool.eq_false_iff.mpr stays))] at moved
      cases moved
      exact ih others

theorem locate_eq_ok_iff : directory.locate path = .ok place ↔
    requirePath path = .ok () ∧ directory.Leads (.start path) (Path.names path) place := by
  rw [locate, bind_eq_ok_iff]
  exact ⟨fun ⟨_, admitted, leads⟩ => ⟨admitted, leads⟩, fun ⟨admitted, leads⟩ => ⟨(), admitted, leads⟩⟩

/-! The file that a path leads to. -/

def fileAt? (directory : Directory) (path : String) : Option (List UInt8) :=
  match directory.locate path with
  | .ok place =>
    match directory.entry place with
    | .file bytes => some bytes
    | _ => none
  | .error _ => none

theorem fileAt?_eq_some_iff {bytes : List UInt8} : directory.fileAt? path = some bytes ↔
    ∃ place, directory.locate path = .ok place ∧ directory.entry place = .file bytes := by
  unfold fileAt?
  cases directory.locate path with
  | error fault => simp
  | ok place => cases found : directory.entry place <;> simp [found]

theorem beforeFolder?_of_file {bytes : List UInt8} (leads : directory.Leads start (Path.names path) place)
    (file : directory.entry place = .file bytes) : Path.beforeFolder? path = none := by
  rw [Path.beforeFolder?]
  split
  next before slash =>
    have ends : Path.names path = before.reverse ++ [[]] := by
      rw [← List.reverse_reverse (Path.names path), slash, List.reverse_cons]
    rw [ends] at leads
    obtain ⟨middle, -, last⟩ := leads_append_iff.mp leads
    obtain ⟨folder, next, moved, stopped⟩ := leads_cons_iff.mp last
    rw [move_of_still (.inl rfl)] at moved
    cases moved
    cases stopped
    cases folder.symm.trans file
  · rfl

/-! Writing a file. -/

theorem writeText_eq_ok_iff : directory.writeText path text = .ok after ↔
    ∃ place, directory.locateFile path = .ok place ∧ directory.entry place ≠ .folder ∧
      after = directory.store place (Text.Utf8.encode text.toList) := by
  rw [writeText, bind_eq_ok_iff]
  refine exists_congr fun place => and_congr_right fun _ => ?_
  by_cases folder : directory.entry place = .folder
  · rw [if_pos folder]
    exact iff_of_false (by rintro ⟨⟩) fun ⟨other, _⟩ => other folder
  · rw [if_neg folder]
    exact ⟨by rintro ⟨⟩; exact ⟨folder, rfl⟩, fun ⟨_, same⟩ => same ▸ rfl⟩

theorem locate_of_locateFile (located : directory.locateFile path = .ok place) :
    directory.locate path = .ok place := by
  rw [locateFile, bind_eq_ok_iff] at located
  obtain ⟨_, admitted, leads⟩ := located
  refine locate_eq_ok_iff.mpr ⟨admitted, ?_⟩
  split at leads
  · rw [bind_eq_ok_iff] at leads
    obtain ⟨_, _, impossible⟩ := leads
    rw [bind_eq_ok_iff] at impossible
    obtain ⟨_, _, ⟨⟩⟩ := impossible
  · exact leads

theorem entry_store (file : directory.entry place ≠ .folder) (bytes : List UInt8) :
    (directory.store place bytes).entry place = .file bytes := by
  have outside : ¬ (place.isAbove ∨ place ∈ directory.folders) := mt entry_eq_folder_iff.mpr file
  rw [entry, store, if_neg outside, SortedTable.get?_insert, if_pos rfl]

/-- What was written is there, and it is a file of the directory like the others, which stay as they are. -/
theorem of_writeText_ok (written : directory.writeText path text = .ok after) :
    after.fileAt? path = some (Text.Utf8.encode text.toList) ∧
      ∃ name, ∀ other, after.files.get? other =
        if other = name then some (Text.Utf8.encode text.toList) else directory.files.get? other := by
  obtain ⟨place, located, file, rfl⟩ := writeText_eq_ok_iff.mp written
  obtain ⟨admitted, leads⟩ := locate_eq_ok_iff.mp (locate_of_locateFile located)
  refine ⟨fileAt?_eq_some_iff.mpr ⟨place, locate_eq_ok_iff.mpr ⟨admitted, leads.mono fun _ => id⟩, ?_⟩, ?_⟩
  · exact entry_store file _
  · exact ⟨pathOf place, fun other => SortedTable.get?_insert _ _ _ _⟩

theorem fileAt?_of_writeText_error {fault : FileFault} (refused : directory.writeText path text = .error fault) :
    directory.fileAt? path = none := by
  rw [Option.eq_none_iff_forall_ne_some]
  intro bytes found
  obtain ⟨place, located, file⟩ := fileAt?_eq_some_iff.mp found
  obtain ⟨admitted, leads⟩ := locate_eq_ok_iff.mp located
  have written : directory.writeText path text = .ok (directory.store place (Text.Utf8.encode text.toList)) := by
    refine writeText_eq_ok_iff.mpr ⟨place, ?_, by rw [file]; rintro ⟨⟩, rfl⟩
    rw [locateFile, admitted, beforeFolder?_of_file leads file]
    exact leads
  cases written.symm.trans refused

theorem isPresent_of_fileAt? {bytes : List UInt8} (found : directory.fileAt? path = some bytes) :
    directory.isPresent path := by
  obtain ⟨place, located, file⟩ := fileAt?_eq_some_iff.mp found
  rw [isPresent, located]
  simp [file]

theorem readText_of_fileAt? (found : directory.fileAt? path = some (Text.Utf8.encode text.toList)) :
    directory.readText path = .ok text := by
  obtain ⟨place, located, file⟩ := fileAt?_eq_some_iff.mp found
  rw [readText, bind_eq_ok_iff]
  refine ⟨place, located, ?_⟩
  rw [file]
  simp only [Text.Utf8.decode?_encode, String.ofList_toList]

/-! Creating folders. -/

/-- The same files, and more folders where nothing was. -/
structure Extends (before after : Directory) : Prop where
  files : after.files = before.files
  folders : before.folders ⊆ after.folders
  fresh : ∀ place ∈ after.folders, place ∈ before.folders ∨ before.files.get? (pathOf place) = none

namespace Extends

theorem refl (directory : Directory) : Extends directory directory :=
  ⟨rfl, fun _ => id, fun _ => .inl⟩

theorem trans {middle : Directory} (first : Extends before middle) (second : Extends middle after) :
    Extends before after where
  files := second.files.trans first.files
  folders := List.Subset.trans first.folders second.folders
  fresh place listed := by
    rcases second.fresh place listed with earlier | missing
    · exact first.fresh place earlier
    · exact .inr (first.files ▸ missing)

theorem fileAt?_eq_some {bytes : List UInt8} (extended : Extends before after)
    (found : before.fileAt? path = some bytes) : after.fileAt? path = some bytes := by
  obtain ⟨place, located, file⟩ := fileAt?_eq_some_iff.mp found
  obtain ⟨admitted, leads⟩ := locate_eq_ok_iff.mp located
  refine fileAt?_eq_some_iff.mpr ⟨place, locate_eq_ok_iff.mpr ⟨admitted, leads.mono extended.folders⟩, ?_⟩
  have outside : ¬ (place.isAbove ∨ place ∈ before.folders) := by
    rw [← entry_eq_folder_iff, file]
    rintro ⟨⟩
  rw [entry, if_neg outside] at file
  have still_outside : ¬ (place.isAbove ∨ place ∈ after.folders) := by
    rintro (above | listed)
    · exact outside (.inl above)
    · rcases extended.fresh place listed with earlier | missing
      · exact outside (.inr earlier)
      · rw [missing] at file
        cases file
  rw [entry, if_neg still_outside, extended.files]
  exact file

end Extends

theorem createFolder_extends (created : directory.createFolder start names = .ok after) :
    Extends directory after := by
  rw [createFolder, bind_eq_ok_iff] at created
  obtain ⟨place, -, created⟩ := created
  by_cases missing : directory.entry place = .missing
  · rw [if_neg (not_not.mpr missing)] at created
    cases created
    refine ⟨rfl, List.subset_cons_self _ _, fun other listed => ?_⟩
    rcases List.mem_cons.mp listed with rfl | earlier
    · unfold entry at missing
      split_ifs at missing
      split at missing
      · cases missing
      next absent => exact .inr absent
    · exact .inl earlier
  · rw [if_pos missing] at created
    cases created

theorem ensureFolder_extends (directory : Directory) (start names : Place) :
    Extends directory (directory.ensureFolder start names).1 := by
  rw [ensureFolder]
  cases created : directory.createFolder start names with
  | ok changed => exact createFolder_extends created
  | error fault =>
    dsimp only
    split_ifs <;> exact .refl directory

theorem ensureFolders_extends (directory : Directory) (start names : Place) :
    Extends directory (directory.ensureFolders start names).1 := by
  induction names with
  | nil => exact .refl directory
  | cons name rest ih =>
    rw [ensureFolders]
    split
    · split
      next created =>
        rw [created] at ih
        exact ih.trans (ensureFolder_extends _ _ _)
      · exact ih
    · exact ensureFolder_extends directory start (name :: rest)

theorem createFolders_extends (directory : Directory) (path : String) :
    Extends directory (directory.createFolders path).1 := by
  unfold createFolders
  split
  · exact .refl directory
  · exact ensureFolders_extends _ _ _

theorem leadsToFolder_iff : directory.leadsToFolder start names = true ↔
    ∃ place, directory.Leads start names.reverse place ∧ directory.entry place = .folder := by
  unfold leadsToFolder Leads
  cases names.reverse.foldlM directory.step start <;> simp

theorem leadsToFolder_of_createFolder_error {fault : FileFault}
    (refused : directory.createFolder start names = .error fault)
    (other : ¬ (fault = .alreadyThere ∧ directory.leadsToFolder start names)) :
    directory.leadsToFolder start names = false := by
  refine Bool.eq_false_iff.mpr fun folder => other ⟨?_, folder⟩
  obtain ⟨place, leads, present⟩ := leadsToFolder_iff.mp folder
  rw [createFolder, bind_eq_error_iff] at refused
  rcases refused with failed | ⟨other_place, other_leads, refused⟩
  · cases failed.symm.trans leads
  · cases other_leads.symm.trans leads
    rw [if_pos (by rw [present]; rintro ⟨⟩)] at refused
    cases refused
    rfl

theorem ensureFolder_error {fault : FileFault} (failed : (directory.ensureFolder start names).2 = .error fault) :
    (directory.ensureFolder start names).1.leadsToFolder start names = false := by
  unfold ensureFolder at failed ⊢
  cases created : directory.createFolder start names with
  | ok changed =>
    rw [created] at failed
    cases failed
  | error fault =>
    rw [created] at failed
    dsimp only at failed ⊢
    split_ifs at failed ⊢ with there
    exact leadsToFolder_of_createFolder_error created there

theorem ensureFolders_error {fault : FileFault} (failed : (directory.ensureFolders start names).2 = .error fault) :
    (directory.ensureFolders start names).1.leadsToFolder start names = false := by
  induction names generalizing fault with
  | nil => cases failed
  | cons name rest ih =>
    rw [ensureFolders] at failed ⊢
    split at failed
    · split at failed
      · exact ensureFolder_error failed
      next result rejected =>
        have without := ih failed
        refine Bool.eq_false_iff.mpr fun folder => ?_
        obtain ⟨place, leads, -⟩ := leadsToFolder_iff.mp folder
        rw [List.reverse_cons] at leads
        obtain ⟨middle, before, last⟩ := leads_append_iff.mp leads
        have reached := leadsToFolder_iff.mpr ⟨middle, before, (leads_cons_iff.mp last).1⟩
        cases reached.symm.trans without
    · exact ensureFolder_error failed

end TokenDesk.Directory

/-! The folder that holds what a path names. -/

namespace TokenDesk.Path

variable {path folder : String}

theorem exists_withoutEnd (names : List (List Char)) : ∃ dropped, names = dropped ++ withoutEnd names := by
  induction names with
  | nil => exact ⟨[], rfl⟩
  | cons name rest ih =>
    cases rest with
    | nil => exact ⟨[], rfl⟩
    | cons next rest =>
      rw [withoutEnd]
      split
      · obtain ⟨dropped, same⟩ := ih
        exact ⟨name :: dropped, congrArg (name :: ·) same⟩
      · exact ⟨[], rfl⟩
      · rintro ⟨⟩

theorem withoutEnd_ne_nil {names : List (List Char)} (nonempty : names ≠ []) : withoutEnd names ≠ [] := by
  induction names with
  | nil => exact absurd rfl nonempty
  | cons name rest ih =>
    cases rest with
    | nil => exact nonempty
    | cons next rest =>
      rw [withoutEnd]
      split
      · exact ih (List.cons_ne_nil _ _)
      · exact List.cons_ne_nil _ _
      · rintro ⟨⟩

theorem parent?_eq_some (told : parent? path = some folder) : ∃ before after, names path = before ++ after ∧
    before ≠ [] ∧ after ≠ [] ∧ folder.toList = if before = [[]] then ['/'] else Text.joinWith '/' before := by
  unfold parent? at told
  obtain ⟨slashes, whole⟩ := exists_withoutEnd (names path).reverse
  generalize withoutEnd (names path).reverse = ends at *
  -- Slashes at the end go first, then the last name, then the slashes in front of it.
  cases ends with
  | nil => cases told
  | cons last inner =>
    obtain ⟨between, inner_eq⟩ := exists_withoutEnd inner
    cases inner with
    | nil => cases told
    | cons next inner =>
      have nonempty := withoutEnd_ne_nil (List.cons_ne_nil next inner)
      rw [List.tail_cons] at told
      simp only [] at told
      generalize withoutEnd (next :: inner) = found at *
      refine ⟨found.reverse, between.reverse ++ last :: slashes.reverse, ?_, by simpa using nonempty, by simp, ?_⟩
      · rw [← List.reverse_reverse (names path), whole, inner_eq]
        simp
      · split at told
        · cases told
          rfl
        next several =>
          cases told
          rw [if_neg (by simpa [List.reverse_eq_iff] using several), String.toList_ofList]

theorem joinWith_append {before after : List (List Char)} (some_before : before ≠ []) (some_after : after ≠ []) :
    Text.joinWith '/' (before ++ after) = Text.joinWith '/' before ++ '/' :: Text.joinWith '/' after := by
  induction before with
  | nil => exact absurd rfl some_before
  | cons name before ih =>
    cases before with
    | nil =>
      obtain ⟨first, rest, rfl⟩ := List.exists_cons_of_ne_nil some_after
      rfl
    | cons next before =>
      have later := ih (List.cons_ne_nil _ _)
      rw [List.cons_append] at later
      change name ++ '/' :: Text.joinWith '/' (next :: (before ++ after)) =
        (name ++ '/' :: Text.joinWith '/' (next :: before)) ++ '/' :: Text.joinWith '/' after
      rw [later, List.append_assoc]
      rfl

theorem parent?_isPrefix (told : parent? path = some folder) : folder.toList ≠ [] ∧ folder.toList <+: path.toList := by
  obtain ⟨before, after, whole, some_before, some_after, same⟩ := parent?_eq_some told
  have written : path.toList = Text.joinWith '/' before ++ '/' :: Text.joinWith '/' after := by
    rw [← joinWith_append some_before some_after, ← whole, names, Text.joinWith_pieces]
  rw [same, written]
  split_ifs with root
  · rw [root]
    exact ⟨List.cons_ne_nil _ _, _, rfl⟩
  · refine ⟨fun nothing => ?_, _, rfl⟩
    match before, some_before with
    | [name], _ => exact root (congrArg (fun name => [name]) nothing)
    | name :: next :: rest, _ => simp [Text.joinWith] at nothing

end TokenDesk.Path

namespace TokenDesk.Directory
variable {directory before after : Directory} {start place : Place} {names : List (List Char)} {path folder : String}

theorem requirePath_parent (told : Path.parent? path = some folder) (admitted : requirePath path = .ok ()) :
    requirePath folder = .ok () := by
  obtain ⟨nonempty, more, whole⟩ := Path.parent?_isPrefix told
  have joined : path = folder ++ String.ofList more := by
    rw [← String.toList_inj, String.toList_append, String.toList_ofList, whole]
  -- The folder is where the path begins, so it is shorter and has no other characters.
  unfold requirePath at admitted ⊢
  split_ifs at admitted with zero nothing long
  rw [if_neg, if_neg, if_neg]
  · rw [joined, String.utf8ByteSize_append] at long
    omega
  · rintro rfl
    exact nonempty rfl
  · exact fun within => zero (whole ▸ List.mem_append_left _ within)

theorem start_parent (told : Path.parent? path = some folder) : Place.start folder = .start path := by
  obtain ⟨nonempty, more, whole⟩ := Path.parent?_isPrefix told
  obtain ⟨c, rest, same⟩ := List.exists_cons_of_ne_nil nonempty
  rw [Place.start, Place.start, Path.isAbsolute, Path.isAbsolute, ← whole, same]
  rfl

theorem Leads.steps (leads : directory.Leads start (Path.names folder) place) :
    directory.Leads start (Path.steps folder) place := by
  have still (name : List Char) (dropped : (!name.isEmpty && name != Path.here) = false) :
      name = [] ∨ name = Path.here := by
    cases name with
    | nil => exact .inl rfl
    | cons c rest => exact .inr (by simpa using dropped)
  rw [Path.steps]
  split
  next none =>
    rwa [none] at leads
  next first rest same =>
    rw [same] at leads
    split
    · obtain ⟨is_folder, next, moved, others⟩ := leads_cons_iff.mp leads
      exact leads_cons_iff.mpr ⟨is_folder, next, moved, others.filter _ still⟩
    · exact leads.filter _ still

theorem leadsToFolder_parent {bytes : List UInt8} (told : Path.parent? path = some folder)
    (found : directory.fileAt? path = some bytes) :
    directory.leadsToFolder (.start folder) (Path.steps folder).reverse = true := by
  obtain ⟨place, located, -⟩ := fileAt?_eq_some_iff.mp found
  obtain ⟨-, leads⟩ := locate_eq_ok_iff.mp located
  obtain ⟨before, after, whole, some_before, some_after, same⟩ := Path.parent?_eq_some told
  rw [whole] at leads
  obtain ⟨middle, there, beyond⟩ := leads_append_iff.mp leads
  obtain ⟨name, rest, rfl⟩ := List.exists_cons_of_ne_nil some_after
  obtain ⟨is_folder, -⟩ := leads_cons_iff.mp beyond
  rw [start_parent told, leadsToFolder_iff, List.reverse_reverse]
  split_ifs at same with root
  · obtain rfl : folder = "/" := String.toList_inj.mp same
    rw [root] at there
    exact ⟨.start path, leads_nil, (leads_cons_iff.mp there).1⟩
  · refine ⟨middle, .steps ?_, is_folder⟩
    have apart : ∀ part ∈ before, '/' ∉ part := fun part listed =>
      Text.not_mem_of_mem_pieces (whole ▸ List.mem_append_left _ listed : part ∈ Path.names path)
    rwa [Path.names, same, Text.pieces_joinWith some_before apart]

theorem fileAt?_of_createFolders_error {fault : FileFault} (told : Path.parent? path = some folder)
    (failed : (directory.createFolders folder).2 = .error fault) :
    (directory.createFolders folder).1.fileAt? path = none := by
  rw [Option.eq_none_iff_forall_ne_some]
  intro bytes found
  obtain ⟨place, located, -⟩ := fileAt?_eq_some_iff.mp found
  have admitted := requirePath_parent told (locate_eq_ok_iff.mp located).1
  have there := leadsToFolder_parent told found
  rw [createFolders, admitted] at failed there
  cases there.symm.trans (ensureFolders_error failed)

end TokenDesk.Directory
