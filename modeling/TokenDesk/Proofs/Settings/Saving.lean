import TokenDesk.Proofs.Host.Directory
import TokenDesk.Proofs.Settings.Text
import TokenDesk.Settings.Storage

/-! Settings that are saved in a directory.

Saving that succeeds leaves a file that loads as the settings it was saved from. Saving
that fails may leave new folders, but no file other than before.
-/

set_option autoImplicit false

namespace TokenDesk

namespace Directory

variable {directory after : Directory} {path text : String}

def writeOver (directory : Directory) (path text : String) : Directory × Except FileFault Unit :=
  match directory.writeText path text with
  | .ok changed => (changed, .ok ())
  | .error fault => (directory, .error fault)

/-- What becomes of the attempt to write a file in a folder that may be missing. -/
def saveText (directory : Directory) (path text : String) : Directory × Except FileFault Unit :=
  match Path.parent? path with
  | none => directory.writeOver path text
  | some folder =>
    match directory.createFolders folder with
    | (opened, .ok ()) => opened.writeOver path text
    | failed => failed

def ChangesOne (before after : Directory) : Prop :=
  ∃ name, ∀ other, other ≠ name → after.files.get? other = before.files.get? other

theorem writeOver_ok (written : directory.writeOver path text = (after, .ok ())) :
    after.fileAt? path = some (Text.Utf8.encode text.toList) ∧ ChangesOne directory after := by
  rw [writeOver] at written
  cases changed : directory.writeText path text with
  | ok next =>
    rw [changed] at written
    cases written
    obtain ⟨found, name, others⟩ := of_writeText_ok changed
    exact ⟨found, name, fun other differs => (others other).trans (if_neg differs)⟩
  | error fault =>
    rw [changed] at written
    cases written

theorem writeOver_error {fault : FileFault} (failed : directory.writeOver path text = (after, .error fault)) :
    after = directory ∧ directory.fileAt? path = none := by
  rw [writeOver] at failed
  cases refused : directory.writeText path text with
  | ok next =>
    rw [refused] at failed
    cases failed
  | error fault =>
    rw [refused] at failed
    cases failed
    exact ⟨rfl, fileAt?_of_writeText_error refused⟩

theorem saveText_ok (saved : directory.saveText path text = (after, .ok ())) :
    after.fileAt? path = some (Text.Utf8.encode text.toList) ∧ ChangesOne directory after := by
  unfold saveText at saved
  split at saved
  · exact writeOver_ok saved
  next folder told =>
    have extended := createFolders_extends directory folder
    split at saved
    next opened created =>
      rw [created] at extended
      obtain ⟨found, name, others⟩ := writeOver_ok saved
      exact ⟨found, name, fun other differs => extended.files ▸ others other differs⟩
    next unopened =>
      exact absurd saved (unopened after)

/-- Saving that fails leaves every file as it was, and the path leads to none that it did not lead to. -/
theorem saveText_error {fault : FileFault} (failed : directory.saveText path text = (after, .error fault)) :
    after.files = directory.files ∧ after.fileAt? path = directory.fileAt? path := by
  unfold saveText at failed
  split at failed
  · obtain ⟨rfl, -⟩ := writeOver_error failed
    exact ⟨rfl, rfl⟩
  next folder told =>
    -- Folders made on the way stay, but no file changes, and none appears where there was none.
    have extended := createFolders_extends directory folder
    have nowhere (missing : (directory.createFolders folder).1.fileAt? path = none) :
        directory.fileAt? path = none :=
      Option.eq_none_iff_forall_ne_some.mpr fun bytes found =>
        Option.eq_none_iff_forall_ne_some.mp missing bytes (extended.fileAt?_eq_some found)
    split at failed
    next opened created =>
      rw [created] at extended nowhere
      obtain ⟨rfl, missing⟩ := writeOver_error failed
      exact ⟨extended.files, missing.trans (nowhere missing).symm⟩
    · have missing := fileAt?_of_createFolders_error told (congrArg Prod.snd failed)
      obtain rfl := congrArg Prod.fst failed
      exact ⟨extended.files, missing.trans (nowhere missing).symm⟩

end Directory

section
variable {α β : Type} {x : ExceptT Failure (StateM Directory) α} {next : α → ExceptT Failure (StateM Directory) β}
  {before after : Directory}

theorem run_bind_ok {value : α} (ran : x.run.run before = (.ok value, after)) :
    (x >>= next).run.run before = (next value).run.run after := by
  rw [ExceptT.run_bind, StateT.run_bind, ran]
  rfl

theorem run_bind_error {cause : Failure} (ran : x.run.run before = (.error cause, after)) :
    (x >>= next).run.run before = (.error cause, after) := by
  rw [ExceptT.run_bind, StateT.run_bind, ran]
  rfl

end

namespace Directory

variable {directory : Directory} {path : String}

theorem run_readText (directory : Directory) (path : String) (f : FileFault → Failure) :
    ((asFiles.readText path).adapt f : ExceptT Failure (StateM Directory) String).run.run directory =
      ((directory.readText path).mapError f, directory) :=
  rfl

theorem run_createFolders (directory : Directory) (path : String) (f : FileFault → Failure) :
    ((asFiles.createFolders path).adapt f : ExceptT Failure (StateM Directory) Unit).run.run directory =
      ((directory.createFolders path).2.mapError f, (directory.createFolders path).1) :=
  rfl

theorem asFiles_writeText {m : Type → Type} [Monad m] [MonadStateOf Directory m] (path text : String) :
    (asFiles : Files m).writeText path text =
      .mk (modifyGet fun directory => (directory.writeOver path text).swap) := by
  refine congrArg (fun change => ExceptT.mk (modifyGet change)) (funext fun directory => ?_)
  unfold writeOver
  cases directory.writeText path text <;> rfl

theorem run_writeText (directory : Directory) (path text : String) (f : FileFault → Failure) :
    ((asFiles.writeText path text).adapt f : ExceptT Failure (StateM Directory) Unit).run.run directory =
      ((directory.writeOver path text).2.mapError f, (directory.writeOver path text).1) := by
  rw [asFiles_writeText]
  rfl

def settings (directory : Directory) (path : String) : Except Failure SettingsFile :=
  ((SettingsFile.load asFiles path : ExceptT Failure (StateM Directory) SettingsFile).run.run directory).1

theorem settings_of_not_isPresent (absent : directory.isPresent path = false) :
    directory.settings path = .ok .empty := by
  change (StateT.run (ite (directory.isPresent path = true) _ _ : ExceptT Failure (StateM Directory) SettingsFile).run
    directory).1 = _
  rw [absent, if_neg Bool.false_ne_true]
  rfl

theorem settings_of_isPresent (present : directory.isPresent path) : directory.settings path =
    match directory.readText path with
    | .error fault => .error (.during (.readSettings path) (.file fault))
    | .ok text =>
      match SettingsFile.parse? text with
      | some file => .ok file
      | none => .error (.during (.parseSettings path) .malformedDocument) := by
  have read := run_readText directory path fun fault => .during (.readSettings path) (.file fault)
  change (StateT.run (ite (directory.isPresent path = true) _ _ : ExceptT Failure (StateM Directory) SettingsFile).run
    directory).1 = _
  rw [if_pos present]
  cases result : directory.readText path with
  | error fault =>
    rw [result] at read
    rw [run_bind_error read]
  | ok text =>
    rw [result] at read
    rw [run_bind_ok read]
    dsimp only
    cases SettingsFile.parse? text <;> rfl

theorem settings_of_fileAt? {file : SettingsFile}
    (found : directory.fileAt? path = some (Text.Utf8.encode file.text.toList)) :
    directory.settings path = .ok file := by
  rw [settings_of_isPresent (isPresent_of_fileAt? found), readText_of_fileAt? found]
  simp only [SettingsFile.parse?_text]

end Directory

namespace SettingsFile

theorem run_save (file : SettingsFile) (path : String) (directory : Directory) :
    ∃ result, (file.save Directory.asFiles path : ExceptT Failure (StateM Directory) Unit).run.run directory =
        (result, (directory.saveText path file.text).1) ∧
      (result = .ok () ↔ (directory.saveText path file.text).2 = .ok ()) := by
  have writes (directory : Directory) :=
    directory.run_writeText path file.text fun fault => .during (.writeSettings path) (.file fault)
  unfold save Directory.saveText
  cases Path.parent? path with
  | none =>
    refine ⟨_, writes directory, mapError_eq_ok_iff⟩
  | some folder =>
    have opens := directory.run_createFolders folder fun fault => .during (.createFolder folder) (.file fault)
    dsimp only
    generalize directory.createFolders folder = made at *
    obtain ⟨opened, _ | _⟩ := made
    · exact ⟨_, run_bind_error opens, by simp⟩
    · exact ⟨_, (run_bind_ok opens).trans (writes opened), mapError_eq_ok_iff⟩

/-- Whatever the settings are, their text reads as them, and saved in a directory they are what is loaded. -/
theorem load_save (file : SettingsFile) : parse? file.text = some file ∧
    ∀ (path : String) (before after : Directory),
      (file.save Directory.asFiles path : ExceptT Failure (StateM Directory) Unit).run.run before = (.ok (), after) →
        after.settings path = .ok file := by
  refine ⟨file.parse?_text, fun path before after ran => ?_⟩
  obtain ⟨result, same, saved⟩ := file.run_save path before
  obtain ⟨rfl, rfl⟩ := Prod.mk.inj (same.symm.trans ran)
  have whole : before.saveText path file.text = ((before.saveText path file.text).1, .ok ()) :=
    Prod.ext rfl (saved.mp rfl)
  exact Directory.settings_of_fileAt? (Directory.saveText_ok whole).1

/-- Settings with an empty text, and with symbols and values that need quotes and escapes. -/
def awkward : SettingsFile :=
  { empty with
    rpcUrl := some ""
    password := some "a\\b\n\x7f\x27\x27\x27"
    contracts := .ofList [("", "\"\"\""), ("[A.B]\r", "=# \t")] }

theorem load_save_awkward : ∃ after : Directory,
    (awkward.save Directory.asFiles "a/b.toml" : ExceptT Failure (StateM Directory) Unit).run.run ⟨.empty, []⟩ =
        (.ok (), after) ∧ after.settings "a/b.toml" = .ok awkward := by
  have saved : ((⟨.empty, []⟩ : Directory).saveText "a/b.toml" awkward.text).2 = .ok () := by decide +kernel
  obtain ⟨_, ran, result⟩ := awkward.run_save "a/b.toml" ⟨.empty, []⟩
  rw [result.mpr saved] at ran
  exact ⟨_, ran, awkward.load_save.2 "a/b.toml" _ _ ran⟩

end SettingsFile

end TokenDesk
