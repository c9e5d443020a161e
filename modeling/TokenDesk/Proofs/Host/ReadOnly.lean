import TokenDesk.Proofs.Rpc.Calls

/-! Runs that change nothing on the disk.

What never writes does the same on a host that refuses to write. Whatever is seen of a
run there is seen of it on the host itself, where nothing is written then.
-/

set_option autoImplicit false

namespace TokenDesk

def HostEvent.isChange : HostEvent → Bool
  | wroteText _ _ _ => true
  | createdFolders _ _ => true
  | _ => false

def unchanging (log : List HostEvent) : List HostEvent :=
  log.filter fun event => !event.isChange

def Unchanging (log : List HostEvent) : Prop :=
  ∀ event ∈ log, event.isChange = false

section
variable {log more : List HostEvent}

@[simp] theorem unchanging_append : unchanging (log ++ more) = unchanging log ++ unchanging more :=
  List.filter_append _ _

theorem unchanging_unchanging : Unchanging (unchanging log) := fun event listed => by
  simpa using (List.mem_filter.mp listed).2

theorem Unchanging.unchanging_eq (unchanged : Unchanging log) : unchanging log = log :=
  List.filter_eq_self.mpr fun event listed => by simp [unchanged event listed]

theorem unchanging_of_single {event : HostEvent} (kept : event.isChange = false) : Unchanging [event] :=
  fun other listed => by rwa [List.mem_singleton.mp listed]

theorem Unchanging.nil : Unchanging [] := fun _ listed => by cases listed

theorem Unchanging.append (first : Unchanging log) (second : Unchanging more) : Unchanging (log ++ more) :=
  fun event listed => (List.mem_append.mp listed).elim (first event) (second event)

end

namespace Rpc

@[simp] theorem calls_unchanging (log : List HostEvent) : calls (unchanging log) = calls log := by
  rw [calls, unchanging, List.filterMap_filter]
  refine congrArg (fun call? => log.filterMap call?) (funext fun event => ?_)
  cases event <;> rfl

variable {url : String} {part : List HostEvent}

theorem Posts.unchanging {method : String} {params : List Json} {reply : Except String HttpReply}
    (posts : Posts url method params reply part) : Unchanging part := by
  obtain ⟨id, rfl⟩ := posts
  exact unchanging_of_single rfl

theorem Polls.unchanging {tx : TxId} {answer : Except TransportError Receipt} (polls : Polls url tx part answer) :
    Unchanging part := by
  induction polls with
  | failed posts _ => exact posts.unchanging
  | ended _ posts _ => exact posts.unchanging
  | given posts _ _ => exact posts.unchanging
  | @paused _ _ _ _ pause posts _ _ ih =>
    have pausing : Unchanging [.slept pause] := unchanging_of_single rfl
    exact posts.unchanging.append (pausing.append ih)

end Rpc

variable {m : Type → Type} [Monad m] {trace : Trace m HostEvent} {host : Host m}

/-- The same trace, in which changes of files may be read between the events. -/
def Trace.unwritten (trace : Trace m HostEvent) : Trace m HostEvent where
  Emits x P := trace.Emits x fun log value => ∃ events, log = unchanging events ∧ P events value
  emits_pure holds := trace.emits_pure ⟨[], rfl, holds⟩
  emits_bind emits others := by
    refine trace.emits_bind emits ?_
    rintro _ value ⟨events, rfl, first_holds⟩
    refine trace.emits_mono (others events value first_holds) ?_
    rintro _ result ⟨more, rfl, holds⟩
    exact ⟨events ++ more, unchanging_append.symm, holds⟩
  emits_mono emits weaker := trace.emits_mono emits fun _ value ⟨events, same, holds⟩ =>
    ⟨events, same, weaker events value holds⟩

theorem Trace.emits_of_unwritten {S α : Type} {x : StateT S m α} {P : List HostEvent → α → Prop}
    (emits : (trace.unwritten.beside S).Emits x P) :
    (trace.beside S).Emits x fun log value => ∃ events, log = unchanging events ∧ P events value :=
  emits

def readOnlyFault : FileFault := .other "Read-only file system (os error 30)"

def Host.readOnly (host : Host m) : Host m where
  files := {
    isPresent := host.files.isPresent
    readText := host.files.readText
    writeText _ _ := throw readOnlyFault
    createFolders _ := throw readOnlyFault }
  web := host.web
  say := host.say
  askPassphrase := host.askPassphrase

theorem Trace.unwritten_single {α : Type} {x : m α} {event : α → HostEvent}
    (emits : trace.Emits x fun events value => events = [event value])
    (kept : ∀ value, (event value).isChange = false) :
    trace.unwritten.Emits x fun events value => events = [event value] :=
  trace.emits_mono emits fun _ value same => ⟨[event value], by simp [same, unchanging, kept value], rfl⟩

theorem Host.readOnly_seen (seen : host.IsSeen trace) : host.readOnly.IsSeen trace.unwritten where
  say line := Trace.unwritten_single (seen.say line) fun _ => rfl
  askPassphrase message := Trace.unwritten_single (seen.askPassphrase message) fun _ => rfl
  web := {
    post url body := Trace.unwritten_single (seen.web.post url body) fun _ => rfl
    get url := Trace.unwritten_single (seen.web.get url) fun _ => rfl
    sleep time := Trace.unwritten_single (seen.web.sleep time) fun _ => rfl }
  isPresent path := Trace.unwritten_single (seen.isPresent path) fun _ => rfl
  readText path := Trace.unwritten_single (seen.readText path) fun _ => rfl
  writeText path text := trace.emits_throw_run ⟨[.wroteText path text (.error readOnlyFault)], rfl, rfl⟩
  createFolders path := trace.emits_throw_run ⟨[.createdFolders path (.error readOnlyFault)], rfl, rfl⟩

end TokenDesk
