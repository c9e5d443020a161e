import TokenDesk.Proofs.Command.Creation
import TokenDesk.Proofs.Host.Disk

/-! What commands make of the settings in a directory.

A command that fails leaves every file as it was. One that succeeds does so as well,
unless it writes first settings, adds a contract under a new symbol, or remembers a
contract that it created. What is added or remembered goes into the file that was there,
whatever the flags are.
-/

set_option autoImplicit false

namespace TokenDesk

namespace Directory

/-- The files are those of before, also the one that the path leads to. Folders may have been created. -/
def Keeps (path : String) (before after : Directory) : Prop :=
  after.files = before.files ∧ after.fileAt? path = before.fileAt? path

/-- The settings are stored at the path, where they can be loaded, and no other file is written. -/
structure Stores (path : String) (file : SettingsFile) (before after : Directory) : Prop where
  settings : after.settings path = .ok file
  stored : after.fileAt? path = some (Text.Utf8.encode file.text.toList)
  others : ChangesOne before after

/-- The settings are stored that were chosen, and without a choice the directory stays what it is. -/
def Becomes (path : String) (before : Directory) : (choice : Option SettingsFile) → (after : Directory) → Prop
  | some file, after => Stores path file before after
  | none, after => after = before

variable {path text : String} {before after : Directory} {log : List HostEvent} {file : SettingsFile}

theorem keeps_rfl : Keeps path before before :=
  ⟨rfl, rfl⟩

theorem stores_of_saveText (saved : before.saveText path file.text = (after, .ok ())) :
    Stores path file before after := by
  obtain ⟨stored, others⟩ := saveText_ok saved
  exact ⟨settings_of_fileAt? stored, stored, others⟩

end Directory

open Directory
open Rpc (Session)

variable {path text : String} {before after : Directory} {log : List HostEvent}

theorem Loads.passes {result : Except Failure SettingsFile} (loads : Loads path log result)
    (passes : before.Passes log after) : after = before ∧ before.settings path = result := by
  -- A file that is there is read in the directory in which it was found.
  have read_passes {text : Except FileFault String}
      (passes : before.Passes [.checked path true, .readText path text] after) :
      after = before ∧ before.isPresent path = true ∧ before.readText path = text := by
    obtain ⟨middle, ⟨present, rfl⟩, reads⟩ := passes.of_cons
    obtain ⟨read, rfl⟩ := reads.of_single
    exact ⟨rfl, present.symm, read.symm⟩
  cases loads with
  | absent =>
    obtain ⟨absent, rfl⟩ := passes.of_single
    exact ⟨rfl, settings_of_not_isPresent absent.symm⟩
  | unreadable fault =>
    obtain ⟨rfl, present, read⟩ := read_passes passes
    exact ⟨rfl, by rw [settings_of_isPresent present, read]⟩
  | malformed unparsed =>
    obtain ⟨rfl, present, read⟩ := read_passes passes
    exact ⟨rfl, by simp only [settings_of_isPresent present, read, unparsed]⟩
  | read parsed =>
    obtain ⟨rfl, present, read⟩ := read_passes passes
    exact ⟨rfl, by simp only [settings_of_isPresent present, read, parsed]⟩

theorem Saves.passes {result : Except Failure Unit} (saves : Saves path text log result)
    (passes : before.Passes log after) :
    ∃ outcome, before.saveText path text = (after, outcome) ∧ (result = .ok () ↔ outcome = .ok ()) := by
  unfold saveText
  cases saves with
  | @refused folder fault told =>
    have created : before.createFolders folder = (after, .error fault) := passes.of_single
    rw [told]
    exact ⟨.error fault, by simp only [created], by simp⟩
  | @within folder result told =>
    obtain ⟨opened, creates, writes⟩ := passes.of_cons
    have created : before.createFolders folder = (opened, .ok ()) := creates
    have written : opened.writeOver path text = (after, result) := writes.of_single
    rw [told]
    exact ⟨result, by simp only [created, written], mapError_eq_ok_iff⟩
  | here result told =>
    rw [told]
    exact ⟨result, passes.of_single, mapError_eq_ok_iff⟩

theorem Rewrites.passes {Chooses : List HostEvent → Option SettingsFile → Prop} {result : Except Failure Unit}
    (rewrites : Rewrites path Chooses log result) (passes : before.Passes log after) :
    (∃ cause, result = .error cause) ∧ before.Keeps path after ∨
      result = .ok () ∧ ∃ choice, Chooses log choice ∧ before.Becomes path choice after := by
  cases rewrites with
  | failed unchanged =>
    cases passes.eq_of_unchanging unchanged
    exact .inl ⟨⟨_, rfl⟩, keeps_rfl⟩
  | kept unchanged chosen => exact .inr ⟨rfl, none, chosen, passes.eq_of_unchanging unchanged⟩
  | saves read saves more chosen =>
    obtain ⟨middle, first, others⟩ := passes.of_append
    obtain ⟨later, saving, last⟩ := others.of_append
    cases first.eq_of_unchanging read
    cases last.eq_of_unchanging more
    obtain ⟨outcome, saved, same⟩ := saves.passes saving
    cases outcome with
    | ok nothing => exact .inr ⟨same.mpr rfl, _, chosen, stores_of_saveText saved⟩
    | error fault =>
      cases result with
      | ok nothing => cases same.mp rfl
      | error cause => exact .inl ⟨⟨cause, rfl⟩, saveText_error saved⟩

namespace Command

/-- How a command that succeeds leaves a directory. -/
def Leaves (flags : Flags) (path : String) (before : Directory) (log : List HostEvent) (after : Directory) :
    Command → Prop
  | .init force => (force = true ∨ before.isPresent path = false) ∧
      ∃ file, SettingsFile.initial flags = .ok file ∧ before.Stores path file after
  | .add request => ∃ file choice, before.settings path = .ok file ∧ request.Chooses file log choice ∧
      before.Becomes path choice after
  | .create request => ∃ file settings choice, before.settings path = .ok file ∧
      Settings.resolve flags file = .ok settings ∧ request.Chooses file settings.rpcUrl log choice ∧
        before.Becomes path choice after
  | _ => after = before

/-- A command that fails keeps the files. -/
def Settles (command : Command) (flags : Flags) (path : String) (before : Directory) (log : List HostEvent)
    (result : Except Failure Unit) (after : Directory) : Prop :=
  match result with
  | .ok () => command.Leaves flags path before log after
  | .error _ => before.Keeps path after

variable {command : Command} {flags : Flags} {result : Except Failure Unit}

theorem settles_error {cause : Failure} (failed : result = .error cause) (keeps : before.Keeps path after) :
    command.Settles flags path before log result after := by
  rw [failed]
  exact keeps

theorem settles_ok (succeeded : result = .ok ()) (leaves : command.Leaves flags path before log after) :
    command.Settles flags path before log result after := by
  rw [succeeded]
  exact leaves

theorem settles_of_not_saves (reads : command.saves = false) :
    command.Settles flags path before log result before := by
  cases result with
  | error cause => exact keeps_rfl
  | ok nothing =>
    refine settles_ok rfl ?_
    cases command with
    | init force => cases reads
    | add request => cases reads
    | create request => cases reads
    | _ => rfl

theorem passes_of_chained {Chooses : SettingsFile → Settings → List HostEvent → Option SettingsFile → Prop}
    (chained : Chained (Loads path) (fun file =>
      Chained (fun log result => log = [] ∧ result = Settings.resolve flags file) fun settings =>
        Rewrites path (Chooses file settings)) log result) (passes : before.Passes log after) :
    (∃ cause, result = .error cause) ∧ before.Keeps path after ∨
      result = .ok () ∧ ∃ file settings choice loading rest, log = loading ++ rest ∧ before.settings path = .ok file ∧
        Settings.resolve flags file = .ok settings ∧ Chooses file settings rest choice ∧
          before.Becomes path choice after := by
  rcases chained with loads | ⟨loads, ⟨rfl, -⟩ | ⟨⟨rfl, resolved⟩, rewrites⟩⟩
  · obtain ⟨rfl, -⟩ := loads.passes passes
    exact .inl ⟨⟨_, rfl⟩, keeps_rfl⟩
  · rw [List.append_nil] at passes
    obtain ⟨rfl, -⟩ := loads.passes passes
    exact .inl ⟨⟨_, rfl⟩, keeps_rfl⟩
  · obtain ⟨middle, first, later⟩ := passes.of_append
    obtain ⟨rfl, loaded⟩ := loads.passes first
    refine (rewrites.passes later).imp_right fun ⟨succeeded, choice, chosen, becomes⟩ => ⟨succeeded, ?_⟩
    exact ⟨_, _, choice, _, _, rfl, loaded, resolved.symm, chosen, becomes⟩

section
variable {m : Type → Type} [Monad m] [LawfulMonad m] {trace : Trace m HostEvent} {host : Host m}
  (seen : host.IsSeen trace)
include seen

theorem init_settles (flags : Flags) (path : String) (force : Bool) :
    trace.Emits (run host flags path (.init force)).run fun log result =>
      ∀ before after, before.Passes log after → (init force).Settles flags path before log result after := by
  refine trace.emits_mono (Host.initSettings_rewrites seen flags path force) ?_
  intro log result rewrites before after passes
  rcases rewrites.passes passes with
    ⟨⟨cause, failed⟩, keeps⟩ | ⟨succeeded, _, ⟨forced, file, same, rfl⟩, stores⟩
  · exact settles_error failed keeps
  · refine settles_ok succeeded ⟨forced.imp_right ?_, file, same, stores⟩
    rintro ⟨rest, rfl⟩
    obtain ⟨_, ⟨absent, -⟩, -⟩ := passes.of_cons
    exact absent.symm

theorem add_settles (flags : Flags) (path : String) (request : AddRequest) :
    trace.Emits (run host flags path (.add request)).run fun log result =>
      ∀ before after, before.Passes log after → (add request).Settles flags path before log result after := by
  have adds (file : SettingsFile) (settings : Settings) :
      (trace.beside Session).Emits (Desk.add ⟨settings, host⟩ file path request).run
        (Rewrites path (request.Chooses file)) := Desk.add_rewrites seen file path request
  rw [run]
  refine trace.emits_mono (atDesk_loads seen adds) fun log result chained before after passes => ?_
  rcases passes_of_chained chained passes with ⟨⟨cause, failed⟩, keeps⟩ |
    ⟨succeeded, file, _, choice, loading, rest, rfl, loaded, -, chosen, becomes⟩
  · exact settles_error failed keeps
  · exact settles_ok succeeded ⟨file, choice, loaded, chosen.prepend loading, becomes⟩

theorem create_settles (flags : Flags) (path : String) (request : CreateRequest) :
    trace.Emits (run host flags path (.create request)).run fun log result =>
      ∀ before after, before.Passes log after → (create request).Settles flags path before log result after := by
  have creates (file : SettingsFile) (settings : Settings) :
      (trace.beside Session).Emits (Desk.create ⟨settings, host⟩ file path request).run
        (Rewrites path (request.Chooses file settings.rpcUrl)) := Desk.create_rewrites seen file path request
  rw [run]
  refine trace.emits_mono (atDesk_loads seen creates) fun log result chained before after passes => ?_
  rcases passes_of_chained chained passes with ⟨⟨cause, failed⟩, keeps⟩ |
    ⟨succeeded, file, settings, choice, loading, rest, rfl, loaded, resolved, chosen, becomes⟩
  · exact settles_error failed keeps
  · exact settles_ok succeeded ⟨file, settings, choice, loaded, resolved, chosen.prepend loading, becomes⟩

theorem run_seen_settles (flags : Flags) (path : String) (command : Command) :
    trace.Emits (command.run host flags path).run fun log result =>
      ∀ before after, before.Passes log after → command.Settles flags path before log result after := by
  cases reads : command.saves with
  | false =>
    refine trace.emits_mono (run_unchanging seen reads flags path) fun log result unchanged before after passes => ?_
    cases passes.eq_of_unchanging unchanged
    exact settles_of_not_saves reads
  | true =>
    cases command with
    | init force => exact init_settles seen flags path force
    | add request => exact add_settles seen flags path request
    | create request => exact create_settles seen flags path request
    | _ => cases reads

end

variable {σ : Type}

/-- Whatever node and terminal a command meets, and whatever is in the directory, it leaves the settings at its path as
they were unless it is one of three commands that succeeds. -/
theorem run_settles (outside : Host (StateM σ)) (flags : Flags) (path : String) (command : Command)
    (before : Directory) (state : σ) :
    ∃ result log after later,
      (((command.run outside.withDirectory.recorded flags path).run.run []).run before).run state =
          (((result, log), after), later) ∧
        command.Settles flags path before log result after := by
  obtain ⟨log, result, after, later, ran, passes, settles⟩ :=
    run_seen_settles outside.withDirectory_seen flags path command [] before state
  exact ⟨result, log, after, later, ran, settles before after passes⟩

end Command

end TokenDesk
