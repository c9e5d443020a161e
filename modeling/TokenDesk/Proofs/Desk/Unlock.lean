import TokenDesk.Proofs.Desk.Quiet

/-! Unlocking an account at a desk.

Every attempt is one request to the node, and only a reply that says so ends the
attempts with success.
-/

set_option autoImplicit false

namespace TokenDesk

open Rpc (IsSilent Quiet Session)

/-- The account is being unlocked with at most so many requests, and nothing is sent. -/
structure IsUnlocking (attempts : Nat) (log : List HostEvent) : Prop where
  sends_nothing : ∀ call ∈ Rpc.calls log, call.isSend = false
  length_le : (Rpc.calls log).countP Rpc.Call.isUnlock ≤ attempts

def IsUnlocked (account : Address) (log : List HostEvent) : Prop :=
  ∃ call ∈ Rpc.calls log, call.Unlocks account

namespace IsUnlocking

theorem of_quiet {log : List HostEvent} (quiet : Quiet log) (attempts : Nat) : IsUnlocking attempts log where
  sends_nothing call listed := (quiet call listed).1
  length_le := by
    rw [List.countP_eq_zero.mpr fun call listed => by simp [(quiet call listed).2]]
    exact Nat.zero_le _

theorem append {attempts more : Nat} {log rest : List HostEvent} (first : IsUnlocking attempts log)
    (second : IsUnlocking more rest) : IsUnlocking (attempts + more) (log ++ rest) where
  sends_nothing call listed := by
    rw [Rpc.calls_append, List.mem_append] at listed
    exact listed.elim (first.sends_nothing call) (second.sends_nothing call)
  length_le := by
    rw [Rpc.calls_append, List.countP_append]
    exact Nat.add_le_add first.length_le second.length_le

theorem mono {attempts more : Nat} {log : List HostEvent} (unlocking : IsUnlocking attempts log)
    (fits : attempts ≤ more) : IsUnlocking more log where
  sends_nothing := unlocking.sends_nothing
  length_le := Nat.le_trans unlocking.length_le fits

theorem not_isSend {attempts : Nat} {log : List HostEvent} {call : Rpc.Call} (unlocking : IsUnlocking attempts log)
    (listed : call ∈ Rpc.calls log) : ¬ call.isSend := by
  simp [unlocking.sends_nothing call listed]

theorem of_posts {url : String} {params : List Json} {reply : Except String HttpReply} {part : List HostEvent}
    (posts : Rpc.Posts url "personal_unlockAccount" params reply part) : IsUnlocking 1 part where
  sends_nothing call listed := by
    rw [posts.calls_eq, List.mem_singleton] at listed
    rw [listed]
    rfl
  length_le := by
    rw [posts.calls_eq]
    exact List.countP_le_length

section
variable {attempts : Nat} {unlocking sending more : List HostEvent} (attempted : IsUnlocking attempts unlocking)
  (quiet : Quiet more)
include attempted quiet

theorem mem_of_send {call : Rpc.Call} (listed : call ∈ Rpc.calls (unlocking ++ (sending ++ more)))
    (send : call.isSend) : call ∈ Rpc.calls sending := by
  rw [Rpc.calls_append, Rpc.calls_append, List.mem_append, List.mem_append] at listed
  rcases listed with early | here | late
  · exact absurd send (attempted.not_isSend early)
  · exact here
  · exact absurd send (quiet.not_isSend late)

theorem countP_isSend : (Rpc.calls (unlocking ++ (sending ++ more))).countP Rpc.Call.isSend =
    (Rpc.calls sending).countP Rpc.Call.isSend := by
  have before := Rpc.countP_isSend_eq_zero attempted.sends_nothing
  have after := Rpc.countP_isSend_eq_zero fun call listed => (quiet call listed).1
  rw [Rpc.calls_append, Rpc.calls_append, List.countP_append, List.countP_append, before, after]
  omega

end

end IsUnlocking

structure IsAttempting (attempts : Nat) (log : List HostEvent) : Prop extends IsUnlocking attempts log where
  prints_nothing : printed log = []

namespace IsAttempting

theorem of_quiet {log : List HostEvent} (silent : IsSilent log) (attempts : Nat) :
    IsAttempting attempts log :=
  ⟨.of_quiet silent.quiet attempts, silent.prints_nothing⟩

theorem append {attempts more : Nat} {log rest : List HostEvent} (first : IsAttempting attempts log)
    (second : IsAttempting more rest) : IsAttempting (attempts + more) (log ++ rest) :=
  ⟨first.toIsUnlocking.append second.toIsUnlocking,
    by rw [printed_append, first.prints_nothing, second.prints_nothing]; rfl⟩

theorem mono {attempts more : Nat} {log : List HostEvent} (attempting : IsAttempting attempts log)
    (fits : attempts ≤ more) : IsAttempting more log :=
  ⟨attempting.toIsUnlocking.mono fits, attempting.prints_nothing⟩

end IsAttempting

/-- A passphrase is asked for, or the node is asked to unlock the account with one. -/
inductive HostEvent.IsTrial (url : String) (account : Address) : HostEvent → Prop where
  | asked (message : String) (answer : Except String String) : IsTrial url account (.askedPassphrase message answer)
  | tried (id : UInt64) (passphrase : String) (reply : Except String HttpReply) :
      IsTrial url account (.posted url (Rpc.request id "personal_unlockAccount"
        [.string account.lower, .string passphrase, .nat unlockTime.seconds]) reply)

structure IsTrying (url : String) (account : Address) (attempts : Nat) (log : List HostEvent) : Prop
    extends IsAttempting attempts log where
  trials : ∀ event ∈ log, event.IsTrial url account

namespace IsTrying

variable {url : String} {account : Address}

theorem nil (attempts : Nat) : IsTrying url account attempts [] :=
  ⟨.of_quiet .nil attempts, fun _ listed => by cases listed⟩

theorem append {attempts more : Nat} {log rest : List HostEvent} (first : IsTrying url account attempts log)
    (second : IsTrying url account more rest) : IsTrying url account (attempts + more) (log ++ rest) :=
  ⟨first.toIsAttempting.append second.toIsAttempting,
    fun event listed => (List.mem_append.mp listed).elim (first.trials event) (second.trials event)⟩

theorem mono {attempts more : Nat} {log : List HostEvent} (trying : IsTrying url account attempts log)
    (fits : attempts ≤ more) : IsTrying url account more log :=
  ⟨trying.toIsAttempting.mono fits, trying.trials⟩

end IsTrying

theorem isUnlocked_append_iff {account : Address} {log more : List HostEvent} :
    IsUnlocked account (log ++ more) ↔ IsUnlocked account log ∨ IsUnlocked account more := by
  simp only [IsUnlocked, Rpc.calls_append, List.mem_append, or_and_right, exists_or]

theorem not_isUnlocked_of_quiet {account : Address} {log : List HostEvent} (quiet : Quiet log) :
    ¬ IsUnlocked account log := by
  rintro ⟨call, listed, unlock, -⟩
  rw [(quiet call listed).2] at unlock
  cases unlock

namespace Desk

variable {m : Type → Type} [Monad m] [LawfulMonad m] {trace : Trace m HostEvent} {desk : Desk m}
  (seen : desk.host.IsSeen trace)
include seen

theorem unlocker_seen (account : Address) (passphrase : String) :
    (trace.beside Session).Emits (desk.transport.unlocker.unlock account passphrase).run fun log result =>
      IsTrying desk.settings.rpcUrl account 1 log ∧ (result = .ok () ↔ IsUnlocked account log) := by
  have asked : (trace.beside Session).Emits (desk.transport.unlockAccount account passphrase unlockTime).run
      fun log answer => IsTrying desk.settings.rpcUrl account 1 log ∧ (answer = .ok true ↔ IsUnlocked account log) := by
    refine (trace.beside Session).emits_mono (Trace.emits_through_iff.mp
      ((desk.transport_heard seen).unlockAccount account passphrase unlockTime)) ?_
    rintro _ answer ⟨_, told, rfl⟩
    obtain ⟨_, _, rfl, ⟨reply, rfl, posts⟩, ⟨⟩⟩ := told.of_cons
    rw [List.append_nil]
    refine ⟨⟨⟨.of_posts posts, posts.printed_eq_nil⟩, ?_⟩, ?_⟩
    · obtain ⟨id, rfl⟩ := posts
      exact List.forall_mem_singleton.mpr (.tried id passphrase reply)
    · rw [IsUnlocked, posts.calls_eq]
      simp [Rpc.Call.Unlocks, Rpc.Call.isUnlock]
  refine (trace.beside Session).emits_bind asked ?_
  rintro log (cause | _ | _) ⟨unlocking, unlocked⟩ <;> refine (trace.beside Session).emits_pure ?_ <;>
    rw [List.append_nil, ← unlocked] <;> simpa using unlocking

theorem passphrase_seen (account : Address) (number : Nat) (configured : Option String) :
    (trace.beside Session).Emits (Unlocker.passphrase desk.prompt account number configured).run
      fun log _ => IsTrying desk.settings.rpcUrl account 0 log ∧ ¬ IsUnlocked account log := by
  cases configured with
  | some known =>
    exact (trace.beside Session).emits_pure_run ⟨.nil 0, not_isUnlocked_of_quiet Rpc.quiet_nil⟩
  | none =>
    have asked : (trace.beside Session).Emits
        (liftM (desk.host.askPassphrase (passphraseMessage account number)) : Rpc.Requests m _)
        fun log _ => IsTrying desk.settings.rpcUrl account 0 log ∧ ¬ IsUnlocked account log := by
      refine Trace.emits_beside_lift (trace.emits_mono (seen.askPassphrase _) ?_)
      rintro _ answer rfl
      have silent : IsSilent [.askedPassphrase (passphraseMessage account number) answer] :=
        ⟨Rpc.quiet_of_calls_eq_nil rfl, rfl⟩
      exact ⟨⟨.of_quiet silent 0, List.forall_mem_singleton.mpr (.asked _ answer)⟩,
        not_isUnlocked_of_quiet silent.quiet⟩
    refine (trace.beside Session).emits_bind asked fun log answer holds => ?_
    refine (trace.beside Session).emits_pure ?_
    rwa [List.append_nil]

theorem attempt_seen (account : Address) (number : Nat) (configured : Option String) :
    (trace.beside Session).Emits (desk.transport.unlocker.attempt desk.prompt account number configured)
      fun log outcome => IsTrying desk.settings.rpcUrl account 1 log ∧
        ((∃ attempts, outcome = .ok (.unlocked attempts)) ↔ IsUnlocked account log) := by
  -- The passphrase comes from the settings or a person; the node hears of it with the one request.
  refine (trace.beside Session).emits_bind (desk.passphrase_seen seen account number configured) ?_
  rintro log (cause | tried) ⟨asking, locked⟩
  · refine (trace.beside Session).emits_pure ?_
    rw [List.append_nil]
    exact ⟨asking.mono (by omega), by simp [locked]⟩
  · refine (trace.beside Session).emits_bind (desk.unlocker_seen seen account tried) ?_
    rintro rest (cause | ⟨⟩) ⟨trying, unlocked⟩
    all_goals
      refine (trace.beside Session).emits_pure ?_
      rw [List.append_nil, isUnlocked_append_iff, ← unlocked]
      exact ⟨asking.append trying, by simp [locked]⟩

theorem attemptsAfter_seen (account : Address) (made : Nat) (configured : Option String)
    (lastError : Option LedgerError) (left : Nat) :
    (trace.beside Session).Emits
      (desk.transport.unlocker.attemptsAfter desk.prompt account made configured lastError left)
      fun log outcome => IsTrying desk.settings.rpcUrl account left log ∧
        ((∃ attempts, outcome = .unlocked attempts) ↔ IsUnlocked account log) := by
  induction left generalizing made configured lastError with
  | zero =>
    refine (trace.beside Session).emits_pure ⟨.nil 0, ?_⟩
    simp [not_isUnlocked_of_quiet Rpc.quiet_nil]
  | succ left ih =>
    refine (trace.beside Session).emits_bind (desk.attempt_seen seen account (made + 1) configured) ?_
    rintro log (cause | outcome) ⟨trying, unlocked⟩
    · refine (trace.beside Session).emits_mono (ih (made + 1) none (some cause)) fun rest outcome ⟨later, last⟩ => ?_
      rw [Nat.add_comm left, isUnlocked_append_iff, ← unlocked, last]
      exact ⟨trying.append later, by simp⟩
    · refine (trace.beside Session).emits_pure ?_
      rw [List.append_nil, ← unlocked]
      exact ⟨trying.mono (by omega), by simp⟩

/-- The node hears of nothing but attempts, and the desk goes on exactly if one of them succeeded. -/
theorem unlock_tries (account : Address) :
    (trace.beside Session).Emits (desk.unlock account).run fun log result =>
      IsTrying desk.settings.rpcUrl account unlockAttempts log ∧ (result = .ok () ↔ IsUnlocked account log) := by
  refine (trace.beside Session).emits_bind_lift_run
    (desk.attemptsAfter_seen seen account 0 desk.settings.password none unlockAttempts) ?_
  rintro log (attempts | ⟨attempts, cause⟩ | cause) ⟨trying, unlocked⟩
  · refine (trace.beside Session).emits_pure_run ?_
    rw [List.append_nil, ← unlocked]
    exact ⟨trying, by simp⟩
  all_goals
    refine (trace.beside Session).emits_throw_run ?_
    rw [List.append_nil, ← unlocked]
    exact ⟨trying, by simp⟩

theorem unlock_seen (account : Address) :
    (trace.beside Session).Emits (desk.unlock account).run fun log result =>
      IsAttempting unlockAttempts log ∧ (result = .ok () ↔ IsUnlocked account log) :=
  (trace.beside Session).emits_mono (desk.unlock_tries seen account) fun _ _ ⟨trying, unlocked⟩ =>
    ⟨trying.toIsAttempting, unlocked⟩

end Desk

end TokenDesk
