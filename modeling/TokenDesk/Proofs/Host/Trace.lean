import TokenDesk.Host.Journal
import TokenDesk.Proofs.Trace

/-! What is seen of a host. -/

set_option autoImplicit false

namespace TokenDesk

def HostEvent.line? : HostEvent → Option String
  | said line => some line
  | _ => none

def printed (log : List HostEvent) : List String :=
  log.filterMap HostEvent.line?

@[simp] theorem printed_append (log more : List HostEvent) : printed (log ++ more) = printed log ++ printed more :=
  List.filterMap_append

@[simp] theorem printed_said (lines : List String) : printed (lines.map .said) = lines := by
  induction lines with
  | nil => rfl
  | cons line rest ih => exact congrArg (line :: ·) ih

variable {m : Type → Type} [Monad m]

structure Web.IsSeen (trace : Trace m HostEvent) (web : Web m) : Prop where
  post : ∀ url body, trace.Emits (web.post url body) fun events reply => events = [.posted url body reply]
  get : ∀ url, trace.Emits (web.get url) fun events reply => events = [.got url reply]
  sleep : ∀ time, trace.Emits (web.sleep time) fun events _ => events = [.slept time]

/-- Each operation of the host is seen as the event of that operation, and nothing else is. -/
structure Host.IsSeen (trace : Trace m HostEvent) (host : Host m) : Prop where
  say : ∀ line, trace.Emits (host.say line) fun events _ => events = [.said line]
  askPassphrase : ∀ message, trace.Emits (host.askPassphrase message) fun events answer =>
    events = [.askedPassphrase message answer]
  web : host.web.IsSeen trace
  isPresent : ∀ path, trace.Emits (host.files.isPresent path) fun events isPresent =>
    events = [.checked path isPresent]
  readText : ∀ path, trace.Emits (host.files.readText path).run fun events text => events = [.readText path text]
  writeText : ∀ path text, trace.Emits (host.files.writeText path text).run fun events result =>
    events = [.wroteText path text result]
  createFolders : ∀ path, trace.Emits (host.files.createFolders path).run fun events result =>
    events = [.createdFolders path result]

theorem Web.recorded_seen {σ : Type} (web : Web (StateM σ)) : web.recorded.IsSeen (.journal HostEvent σ) where
  post _ _ _ _ := ⟨_, _, _, rfl, rfl⟩
  get _ _ _ := ⟨_, _, _, rfl, rfl⟩
  sleep _ _ _ := ⟨_, _, _, rfl, rfl⟩

theorem Host.recorded_seen {σ : Type} (host : Host (StateM σ)) : host.recorded.IsSeen (.journal HostEvent σ) where
  say _ _ _ := ⟨_, _, _, rfl, rfl⟩
  askPassphrase _ _ _ := ⟨_, _, _, rfl, rfl⟩
  web := host.web.recorded_seen
  isPresent _ _ _ := ⟨_, _, _, rfl, rfl⟩
  readText _ _ _ := ⟨_, _, _, rfl, rfl⟩
  writeText _ _ _ _ := ⟨_, _, _, rfl, rfl⟩
  createFolders _ _ _ := ⟨_, _, _, rfl, rfl⟩

end TokenDesk
