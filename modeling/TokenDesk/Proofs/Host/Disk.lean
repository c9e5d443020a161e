import TokenDesk.Proofs.Host.ReadOnly
import TokenDesk.Proofs.Settings.Saving

/-! Runs on a host whose files are those of a directory.

Each event of such a run is an act in the directory as it is then. The events of a whole
run therefore lead from the directory before it to the directory after it, and to no other
directory if none of them changes a file.
-/

set_option autoImplicit false

namespace TokenDesk

/-- What an event says of the directory in which it happens, and what that is afterwards. -/
def HostEvent.Acts (before : Directory) : HostEvent → (after : Directory) → Prop
  | checked path present, after => present = before.isPresent path ∧ after = before
  | readText path text, after => text = before.readText path ∧ after = before
  | wroteText path text result, after => before.writeOver path text = (after, result)
  | createdFolders path result, after => before.createFolders path = (after, result)
  | _, after => after = before

theorem HostEvent.Acts.eq_of_unchanging {event : HostEvent} {before after : Directory} (acts : event.Acts before after)
    (unchanging : event.isChange = false) : after = before := by
  cases event with
  | checked path present => exact acts.2
  | readText path text => exact acts.2
  | wroteText path text result => cases unchanging
  | createdFolders path result => cases unchanging
  | _ => exact acts

namespace Directory

/-- The events happen one after another, from a directory to another. -/
inductive Passes : Directory → List HostEvent → Directory → Prop where
  | nil {directory : Directory} : Passes directory [] directory
  | cons {before middle after : Directory} {event : HostEvent} {events : List HostEvent} :
      event.Acts before middle → Passes middle events after → Passes before (event :: events) after

namespace Passes

variable {before middle after : Directory} {event : HostEvent} {log more : List HostEvent}

theorem append (first : Passes before log middle) (later : Passes middle more after) :
    Passes before (log ++ more) after := by
  induction first with
  | nil => exact later
  | cons acts _ ih => exact .cons acts (ih later)

theorem of_append (passes : Passes before (log ++ more) after) :
    ∃ middle, Passes before log middle ∧ Passes middle more after := by
  induction log generalizing before with
  | nil => exact ⟨before, .nil, passes⟩
  | cons event rest ih =>
    cases passes with
    | cons acts others =>
      obtain ⟨middle, first, later⟩ := ih others
      exact ⟨middle, .cons acts first, later⟩

theorem single (acts : event.Acts before after) : Passes before [event] after :=
  .cons acts .nil

theorem of_cons (passes : Passes before (event :: log) after) :
    ∃ middle, event.Acts before middle ∧ Passes middle log after := by
  cases passes with
  | cons acts others => exact ⟨_, acts, others⟩

theorem of_single (passes : Passes before [event] after) : event.Acts before after := by
  cases passes with
  | cons acts nothing =>
    cases nothing
    exact acts

theorem eq_of_unchanging (passes : Passes before log after) (unchanging : Unchanging log) : after = before := by
  induction passes with
  | nil => rfl
  | cons acts _ ih =>
    exact (ih fun event listed => unchanging event (List.mem_cons_of_mem _ listed)).trans
      (acts.eq_of_unchanging (unchanging _ List.mem_cons_self))

end Passes

end Directory

variable {σ : Type}

def Host.withDirectory (outside : Host (StateM σ)) : Host (StateT Directory (StateM σ)) where
  files := Directory.asFiles
  web := {
    post url body := StateT.lift (outside.web.post url body)
    get url := StateT.lift (outside.web.get url)
    sleep time := StateT.lift (outside.web.sleep time) }
  say line := StateT.lift (outside.say line)
  askPassphrase message := StateT.lift (outside.askPassphrase message)

/-- Events are what a computation appends to its journal, and they act in its directory. -/
def Trace.disk (σ : Type) : Trace (StateT (List HostEvent) (StateT Directory (StateM σ))) HostEvent where
  Emits x P := ∀ journal before state, ∃ events value after later,
    ((x.run journal).run before).run state = (((value, journal ++ events), after), later) ∧
      before.Passes events after ∧ P events value
  emits_pure holds journal before state := ⟨[], _, before, state, by rw [List.append_nil]; rfl, .nil, holds⟩
  emits_bind {α β first next Q P} emits others journal before state := by
    obtain ⟨events, value, middle, meanwhile, ran, passes, first_holds⟩ := emits journal before state
    obtain ⟨more, result, after, later, ran_next, passes_next, holds⟩ :=
      others events value first_holds (journal ++ events) middle meanwhile
    refine ⟨events ++ more, result, after, later, ?_, passes.append passes_next, holds⟩
    rw [← List.append_assoc, ← ran_next, StateT.run_bind, StateT.run_bind, StateT.run_bind, ran]
    rfl
  emits_mono emits weaker journal before state := by
    obtain ⟨events, value, after, later, ran, passes, holds⟩ := emits journal before state
    exact ⟨events, value, after, later, ran, passes, weaker events value holds⟩

theorem Host.withDirectory_seen (outside : Host (StateM σ)) : outside.withDirectory.recorded.IsSeen (.disk σ) where
  say _ _ _ _ := ⟨_, _, _, _, rfl, .single rfl, rfl⟩
  askPassphrase _ _ _ _ := ⟨_, _, _, _, rfl, .single rfl, rfl⟩
  web := {
    post _ _ _ _ _ := ⟨_, _, _, _, rfl, .single rfl, rfl⟩
    get _ _ _ _ := ⟨_, _, _, _, rfl, .single rfl, rfl⟩
    sleep _ _ _ _ := ⟨_, _, _, _, rfl, .single rfl, rfl⟩ }
  isPresent _ _ _ _ := ⟨_, _, _, _, rfl, .single ⟨rfl, rfl⟩, rfl⟩
  readText _ _ _ _ := ⟨_, _, _, _, rfl, .single ⟨rfl, rfl⟩, rfl⟩
  writeText path text := by
    change (Trace.disk σ).Emits (Host.noted (.wroteText path text) (Directory.asFiles.writeText path text).run) _
    rw [Directory.asFiles_writeText]
    exact fun _ _ _ => ⟨_, _, _, _, rfl, .single rfl, rfl⟩
  createFolders path _ before _ := ⟨_, _, _, _, rfl, .single rfl, rfl⟩

end TokenDesk
