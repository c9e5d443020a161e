import TokenDesk.Command
import TokenDesk.Proofs.Desk.Unlock

/-! How the runs of commands go.

A command loads the settings and works at a desk with them. There it reads first.
One that sends transactions then has the payer's account unlocked, and goes on only
if the node said that it is.
-/

set_option autoImplicit false

namespace TokenDesk

open Rpc (IsSilent Quiet Session)

/-- What loading the settings leaves behind, and what comes of it. -/
inductive Loads (path : String) : List HostEvent → Except Failure SettingsFile → Prop where
  | absent : Loads path [.checked path false] (.ok .empty)
  | unreadable (fault : FileFault) : Loads path [.checked path true, .readText path (.error fault)]
      (.error (.during (.readSettings path) (.file fault)))
  | malformed {text : String} : SettingsFile.parse? text = none →
      Loads path [.checked path true, .readText path (.ok text)]
        (.error (.during (.parseSettings path) .malformedDocument))
  | read {text : String} {file : SettingsFile} : SettingsFile.parse? text = some file →
      Loads path [.checked path true, .readText path (.ok text)] (.ok file)

def LoadsSettings (path : String) (flags : Flags) : List HostEvent → Except Failure Settings → Prop :=
  Chained (Loads path) fun file log result => log = [] ∧ result = Settings.resolve flags file

theorem Loads.isSilent {path : String} {log : List HostEvent} {result : Except Failure SettingsFile}
    (loads : Loads path log result) : IsSilent log := by
  cases loads <;> exact ⟨Rpc.quiet_of_calls_eq_nil rfl, rfl⟩

theorem LoadsSettings.isSilent {path : String} {flags : Flags} {log : List HostEvent}
    {result : Except Failure Settings} (loads : LoadsSettings path flags log result) : IsSilent log := by
  refine Chained.closed loads .append Loads.isSilent fun ⟨nothing, _⟩ => ?_
  rw [nothing]
  exact .nil

theorem Settings.payer_eq_ok_iff {settings : Settings} {payer : Address} :
    settings.payer = .ok payer ↔ settings.payer? = some payer := by
  unfold Settings.payer
  cases settings.payer? <;> simp

section
variable {m : Type → Type} [Monad m] [LawfulMonad m] {trace : Trace m HostEvent} {host : Host m}
  (seen : host.IsSeen trace)
include seen

theorem SettingsFile.load_seen (path : String) :
    trace.Emits (SettingsFile.load host.files path).run (Loads path) := by
  refine trace.emits_bind_lift_run (seen.isPresent path) ?_
  rintro _ (_ | _) rfl
  · exact trace.emits_pure_run .absent
  · refine trace.emits_bind_adapt_run (seen.readText path) ?_ ?_
    · rintro _ fault rfl
      exact .unreadable fault
    · rintro _ text rfl
      cases parsed : SettingsFile.parse? text with
      | some file => exact trace.emits_pure_run (.read parsed)
      | none => exact trace.emits_throw_run (.malformed parsed)

theorem Command.atDesk_loads {flags : Flags} {path : String} {action : SettingsFile → Desk m → Action m Unit}
    {P : SettingsFile → Settings → List HostEvent → Except Failure Unit → Prop}
    (acts : ∀ file settings, (trace.beside Session).Emits (action file { settings, host }).run (P file settings)) :
    trace.Emits (atDesk host flags path action).run (Chained (Loads path) fun file =>
      Chained (fun log result => log = [] ∧ result = Settings.resolve flags file) (P file)) := by
  refine trace.emits_chained (SettingsFile.load_seen seen path) fun file => ?_
  refine trace.emits_chained (trace.emits_liftM_run ⟨rfl, rfl⟩) fun settings => ?_
  exact trace.emits_map (trace.emits_mono (acts file settings {}) fun _ _ holds => holds)

theorem Command.atDesk_seen {flags : Flags} {path : String} {action : SettingsFile → Desk m → Action m Unit}
    {P : Settings → List HostEvent → Except Failure Unit → Prop}
    (acts : ∀ file settings, (trace.beside Session).Emits (action file { settings, host }).run (P settings)) :
    trace.Emits (atDesk host flags path action).run (Chained (LoadsSettings path flags) P) := by
  refine trace.emits_mono (Command.atDesk_loads seen acts) ?_
  rintro _ _ (loads | ⟨loads, resolved | ⟨resolved, holds⟩⟩)
  · exact .stopped (.stopped loads)
  · exact .stopped (.continued loads resolved)
  · rw [← List.append_assoc]
    exact .continued (.continued loads resolved) holds

end

/-- What a run leaves behind that sends transactions only after it had the payer's account unlocked.
What is sent may depend on what was read before. -/
inductive Outline (payer? : Option Address) (Sends : Address → (read sent : List HostEvent) → Prop) :
    List HostEvent → Prop where
  | stopped {read unlocking : List HostEvent} : Quiet read → IsUnlocking unlockAttempts unlocking →
      Outline payer? Sends (read ++ unlocking)
  | sending {payer : Address} {read unlocking sent : List HostEvent} : payer? = some payer → Quiet read →
      IsUnlocking unlockAttempts unlocking → IsUnlocked payer unlocking → Sends payer read sent →
        Outline payer? Sends (read ++ (unlocking ++ sent))

namespace Outline

variable {payer? : Option Address} {Sends Asks : Address → (read sent : List HostEvent) → Prop}
  {log more : List HostEvent}

theorem of_quiet (quiet : Quiet log) : Outline payer? Sends log := by
  rw [← List.append_nil log]
  exact .stopped quiet (.of_quiet Rpc.quiet_nil unlockAttempts)

theorem prepend (quiet : Quiet more) (outline : Outline payer? Asks log)
    (stronger : ∀ payer read sent, payer? = some payer → Asks payer read sent → Sends payer (more ++ read) sent) :
    Outline payer? Sends (more ++ log) := by
  cases outline with
  | stopped silent unlocking =>
    rw [← List.append_assoc]
    exact .stopped (quiet.append silent) unlocking
  | sending configured silent unlocking unlocked sends =>
    rw [← List.append_assoc]
    exact .sending configured (quiet.append silent) unlocking unlocked (stronger _ _ _ configured sends)

theorem append_quiet (outline : Outline payer? Sends log) (quiet : Quiet more)
    (kept : ∀ payer read sent, Sends payer read sent → Sends payer read (sent ++ more)) :
    Outline payer? Sends (log ++ more) := by
  cases outline with
  | @stopped read unlocking silent unlocks =>
    rw [List.append_assoc]
    exact .stopped silent (unlocks.append (.of_quiet quiet 0))
  | sending configured silent unlocks unlocked sends =>
    rw [List.append_assoc, List.append_assoc]
    exact .sending configured silent unlocks unlocked (kept _ _ _ sends)

end Outline

def IsOutlined {n : Type → Type} [Monad n] {ε α : Type} (trace : Trace n HostEvent) (payer? : Option Address)
    (Sends : Address → (read sent : List HostEvent) → Prop) (action : ExceptT ε n α) : Prop :=
  trace.Emits action.run fun log _ => Outline payer? Sends log

namespace IsOutlined

section
variable {n : Type → Type} [Monad n] {ε ε' α β : Type} {trace : Trace n HostEvent} {payer? : Option Address}
  {Sends Asks : Address → (read sent : List HostEvent) → Prop}

theorem of_quiet {action : ExceptT ε n α} (quiet : IsQuiet trace action) : IsOutlined trace payer? Sends action :=
  trace.emits_mono quiet fun _ _ silent => .of_quiet silent

theorem mono {action : ExceptT ε n α} (outlined : IsOutlined trace payer? Asks action)
    (stronger : ∀ payer read sent, payer? = some payer → Asks payer read sent → Sends payer read sent) :
    IsOutlined trace payer? Sends action :=
  trace.emits_mono outlined fun _ _ outline => outline.prepend Rpc.quiet_nil stronger

theorem afterReading {Reading : α → List HostEvent → Prop} {first : ExceptT ε n α} {next : α → ExceptT ε n β}
    (emits : trace.Emits first.run fun log result => Quiet log ∧ ∀ value, result = .ok value → Reading value log)
    (others : ∀ value, IsOutlined trace payer?
      (fun payer read sent => ∀ log, Reading value log → Sends payer (log ++ read) sent) (next value)) :
    IsOutlined trace payer? Sends (first >>= next) :=
  trace.emits_bind_run emits (fun _ _ holds => .of_quiet holds.1) fun log value holds =>
    trace.emits_mono (others value) fun _ _ outline =>
      outline.prepend holds.1 fun _ _ _ _ sends => sends log (holds.2 value rfl)

theorem after {first : ExceptT ε n α} {next : α → ExceptT ε n β} (quiet : IsQuiet trace first)
    (others : ∀ value, IsOutlined trace payer? Sends (next value))
    (kept : ∀ log payer read sent, Sends payer read sent → Sends payer (log ++ read) sent) :
    IsOutlined trace payer? Sends (first >>= next) :=
  trace.emits_bind_run quiet (fun _ _ => .of_quiet) fun log value silent =>
    trace.emits_mono (others value) fun _ _ outline =>
      outline.prepend silent fun payer read sent _ => kept log payer read sent

theorem afterQuiet {S : Address → List HostEvent → Prop} {first : ExceptT ε n α} {next : α → ExceptT ε n β}
    (quiet : IsQuiet trace first) (others : ∀ value, IsOutlined trace payer? (fun payer _ => S payer) (next value)) :
    IsOutlined trace payer? (fun payer _ => S payer) (first >>= next) :=
  .after quiet others fun _ _ _ _ sends => sends

theorem bindExcept [LawfulMonad n] {first : Except ε α} {next : α → ExceptT ε n β}
    (others : ∀ value, first = .ok value → IsOutlined trace payer? Sends (next value)) :
    IsOutlined trace payer? Sends (liftM first >>= next) :=
  trace.emits_bind_liftM_run (fun _ _ => .of_quiet Rpc.quiet_nil) others

end

variable {m : Type → Type} [Monad m] [LawfulMonad m] {α : Type} {trace : Trace m HostEvent}
  {Sends : Address → (read sent : List HostEvent) → Prop}

theorem unlock {desk : Desk m} (seen : desk.host.IsSeen trace) {payer : Address}
    (configured : desk.settings.payer? = some payer) {next : Unit → Action m α}
    (sends : ∀ value, (trace.beside Session).Emits (next value).run fun log _ => Sends payer [] log) :
    IsOutlined (trace.beside Session) desk.settings.payer? Sends (desk.unlock payer >>= next) := by
  refine (trace.beside Session).emits_bind_run (desk.unlock_seen seen payer) ?_ ?_
  · rintro unlocking cause ⟨attempts, -⟩
    exact (.stopped Rpc.quiet_nil attempts.toIsUnlocking : Outline _ Sends ([] ++ unlocking))
  · rintro unlocking value ⟨attempts, unlocked⟩
    refine (trace.beside Session).emits_mono (sends value) fun sent _ holds => ?_
    exact (.sending configured Rpc.quiet_nil attempts.toIsUnlocking (unlocked.mp rfl) holds :
      Outline _ Sends ([] ++ (unlocking ++ sent)))

end IsOutlined

end TokenDesk
