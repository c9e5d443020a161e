import Mathlib.Data.List.Basic
import TokenDesk.Ledger.Unlock

/-! The attempts to unlock an account.

A course is everything that is answered to the attempts: a person's passphrases and
what came of each trial. The outcome and the journal of an unlocking are read off its
course, whatever the answers depend on.
-/

set_option autoImplicit false

namespace TokenDesk

inductive UnlockEvent where
  | asked (account : Address) (attempt : Nat) (answer : Except PromptError String)
  | tried (account : Address) (passphrase : String) (answer : Except LedgerError Unit)

section
variable {m : Type → Type} [Monad m]

def UnlockEvent.noted {α ε : Type} (event : Except ε α → UnlockEvent) (ask : ExceptT ε m α) :
    ExceptT ε (StateT (List UnlockEvent) m) α :=
  ExceptT.mk do
    let answer ← (ask.run : m (Except ε α))
    modify fun journal => journal ++ [event answer]
    return answer

/-- The same with a journal beside it, the earliest event first. -/
def Unlocker.recorded (unlocker : Unlocker m) : Unlocker (StateT (List UnlockEvent) m) where
  unlock account passphrase := UnlockEvent.noted (.tried account passphrase) (unlocker.unlock account passphrase)

def Prompt.recorded (prompt : Prompt m) : Prompt (StateT (List UnlockEvent) m) where
  ask account attempt := UnlockEvent.noted (.asked account attempt) (prompt.ask account attempt)

variable [LawfulMonad m]

theorem UnlockEvent.run_noted {α ε : Type} (event : Except ε α → UnlockEvent)
    (ask : ExceptT ε m α) (journal : List UnlockEvent) :
    (noted event ask).run.run journal = (fun answer => (answer, journal ++ [event answer])) <$> ask.run := by
  simp [noted]

theorem Unlocker.run_unlock_recorded (unlocker : Unlocker m) (account : Address) (passphrase : String)
    (journal : List UnlockEvent) :
    (unlocker.recorded.unlock account passphrase).run.run journal =
      (fun answer => (answer, journal ++ [.tried account passphrase answer])) <$>
        (unlocker.unlock account passphrase).run :=
  UnlockEvent.run_noted _ _ _

theorem Prompt.run_ask_recorded (prompt : Prompt m) (account : Address) (attempt : Nat)
    (journal : List UnlockEvent) :
    (prompt.recorded.ask account attempt).run.run journal =
      (fun answer => (answer, journal ++ [.asked account attempt answer])) <$> (prompt.ask account attempt).run :=
  UnlockEvent.run_noted _ _ _

end

namespace Unlocker

structure Trial where
  passphrase : String
  answer : Except LedgerError Unit

def Trial.IsFailed (trial : Trial) : Prop :=
  ∃ cause, trial.answer = .error cause

/-- The passphrase of an attempt: the configured one, or else one that was asked for. -/
inductive Passphrase : Option String → Type where
  | known (text : String) : Passphrase (some text)
  | given (text : String) : Passphrase none

inductive Course : Option String → Nat → Type where
  | spent {configured : Option String} : Course configured 0
  | unanswered {left : Nat} (cause : PromptError) : Course none (left + 1)
  | unlocked {configured : Option String} {left : Nat} (passphrase : Passphrase configured) :
      Course configured (left + 1)
  | refused {configured : Option String} {left : Nat} (passphrase : Passphrase configured)
      (cause : LedgerError) (others : Course none left) : Course configured (left + 1)

variable {configured : Option String} {left : Nat}

def Passphrase.text : Passphrase configured → String
  | known text => text
  | given text => text

def Passphrase.events (account : Address) (number : Nat) : Passphrase configured → List UnlockEvent
  | known _ => []
  | given text => [.asked account number (.ok text)]

namespace Course

def outcome (account : Address) (made : Nat) (lastError : Option LedgerError) {configured : Option String}
    {left : Nat} : Course configured left → UnlockOutcome
  | spent => .exhausted made (lastError.getD (untried account))
  | unanswered cause => .promptFailed cause
  | unlocked _ => .unlocked (made + 1)
  | refused _ cause others => others.outcome account (made + 1) (some cause)

def events (account : Address) (made : Nat) {configured : Option String} {left : Nat} :
    Course configured left → List UnlockEvent
  | spent => []
  | unanswered cause => [.asked account (made + 1) (.error cause)]
  | unlocked passphrase => passphrase.events account (made + 1) ++ [.tried account passphrase.text (.ok ())]
  | refused passphrase cause others =>
    passphrase.events account (made + 1) ++ .tried account passphrase.text (.error cause) ::
      others.events account (made + 1)

def trials {configured : Option String} {left : Nat} : Course configured left → List Trial
  | spent => []
  | unanswered _ => []
  | unlocked passphrase => [⟨passphrase.text, .ok ()⟩]
  | refused passphrase cause others => ⟨passphrase.text, .error cause⟩ :: others.trials

def silence? {configured : Option String} {left : Nat} : Course configured left → Option PromptError
  | spent => none
  | unanswered cause => some cause
  | unlocked _ => none
  | refused _ _ others => others.silence?

end Course

/-! Courses as accounts and people make them. -/

section
variable {m : Type → Type} [Monad m]

/-- The course of an attempt with this passphrase, and of the others if it is refused. -/
def tryOn (unlocker : Unlocker m) (account : Address) (others : m (Course none left))
    (passphrase : Passphrase configured) : m (Course configured (left + 1)) := do
  match ← (unlocker.unlock account passphrase.text).run with
  | .ok () => return .unlocked passphrase
  | .error cause => return .refused passphrase cause (← others)

def course (unlocker : Unlocker m) (prompt : Prompt m) (account : Address) (made : Nat) :
    (configured : Option String) → (left : Nat) → m (Course configured left)
  | _, 0 => return .spent
  | some text, left + 1 =>
    unlocker.tryOn account (course unlocker prompt account (made + 1) none left) (.known text)
  | none, left + 1 => do
    match ← (prompt.ask account (made + 1)).run with
    | .error cause => return .unanswered cause
    | .ok text => unlocker.tryOn account (course unlocker prompt account (made + 1) none left) (.given text)

variable [LawfulMonad m]

theorem outcome_tryOn (unlocker : Unlocker m) (account : Address) (made : Nat) (lastError : Option LedgerError)
    (others : m (Course none left)) (passphrase : Passphrase configured) :
    Course.outcome account made lastError <$> unlocker.tryOn account others passphrase =
      (unlocker.unlock account passphrase.text).run >>= fun answer => match answer with
        | .ok () => pure (.unlocked (made + 1))
        | .error cause => Course.outcome account (made + 1) (some cause) <$> others := by
  simp only [tryOn, map_bind]
  congr 1
  funext answer
  cases answer <;> simp [Course.outcome]

theorem attemptsAfter_eq_course (unlocker : Unlocker m) (prompt : Prompt m) (account : Address) (made : Nat)
    (configured : Option String) (lastError : Option LedgerError) (left : Nat) :
    unlocker.attemptsAfter prompt account made configured lastError left =
      Course.outcome account made lastError <$> course unlocker prompt account made configured left := by
  induction left generalizing made configured lastError with
  | zero => cases configured <;> simp [attemptsAfter, course, Course.outcome]
  | succ left ih =>
    -- A configured passphrase is tried at once; without one, the first answer is that of the prompt.
    cases configured with
    | some text =>
      simp only [attemptsAfter, attempt, passphrase, course, outcome_tryOn, Passphrase.text, ExceptT.run_pure,
        pure_bind, bind_assoc, ← ih]
      congr 1
      funext answer
      cases answer <;> simp
    | none =>
      simp only [attemptsAfter, attempt, passphrase, course, map_bind, bind_assoc]
      congr 1
      funext answer
      cases answer with
      | error cause => simp [Course.outcome]
      | ok text =>
        simp only [outcome_tryOn, Passphrase.text, bind_assoc, ← ih]
        congr 1
        funext answer
        cases answer <;> simp

theorem tryOn_recorded (unlocker : Unlocker m) {account : Address} {made : Nat} {others : m (Course none left)}
    {noted : StateT (List UnlockEvent) m (Course none left)}
    (recorded : ∀ journal, noted.run journal =
      (fun taken => (taken, journal ++ taken.events account (made + 1))) <$> others)
    (passphrase : Passphrase configured) (journal : List UnlockEvent) :
    (unlocker.recorded.tryOn account noted passphrase).run (journal ++ passphrase.events account (made + 1)) =
      (fun taken => (taken, journal ++ taken.events account made)) <$> unlocker.tryOn account others passphrase := by
  simp only [tryOn, StateT.run_bind, run_unlock_recorded, bind_map_left, map_bind]
  congr 1
  funext answer
  cases answer <;> simp [recorded, Course.events]

theorem course_recorded (unlocker : Unlocker m) (prompt : Prompt m) (account : Address) (made : Nat)
    (configured : Option String) (left : Nat) (journal : List UnlockEvent) :
    (course unlocker.recorded prompt.recorded account made configured left).run journal =
      (fun taken => (taken, journal ++ taken.events account made)) <$>
        course unlocker prompt account made configured left := by
  induction left generalizing made configured journal with
  | zero => cases configured <;> simp [course, Course.events]
  | succ left ih =>
    have later := ih (made + 1) none
    cases configured with
    | some text => simpa [course, Passphrase.events] using unlocker.tryOn_recorded later (.known text) journal
    | none =>
      simp only [course, StateT.run_bind, Prompt.run_ask_recorded, bind_map_left, map_bind]
      congr 1
      funext answer
      cases answer with
      | error cause => simp [Course.events]
      | ok text => exact unlocker.tryOn_recorded later (.given text) journal

end

/-! The laws of a course. -/

/-- What is asked and tried for these trials, of which the first has the given number. Nobody is asked for
a configured passphrase. -/
def trialEvents (account : Address) : (number : Nat) → (configured : Option String) → List Trial → List UnlockEvent
  | _, _, [] => []
  | number, configured, trial :: rest =>
    (if configured.isSome then [] else [.asked account number (.ok trial.passphrase)]) ++
      .tried account trial.passphrase trial.answer :: trialEvents account (number + 1) none rest

def trialsOf (events : List UnlockEvent) : List Trial :=
  events.filterMap fun
    | .tried _ passphrase answer => some ⟨passphrase, answer⟩
    | _ => none

def givenTexts (events : List UnlockEvent) : List String :=
  events.filterMap fun
    | .asked _ _ (.ok text) => some text
    | _ => none

def silences (events : List UnlockEvent) : List PromptError :=
  events.filterMap fun
    | .asked _ _ (.error cause) => some cause
    | _ => none

/-- The trial of this number went well, and none before it. -/
def IsFirstSuccess (trials : List Trial) (number : Nat) : Prop :=
  ∃ failed passphrase later, trials = failed ++ ⟨passphrase, .ok ()⟩ :: later ∧ number = failed.length + 1 ∧
    ∀ trial ∈ failed, trial.IsFailed

theorem not_isFirstSuccess_nil (number : Nat) : ¬ IsFirstSuccess [] number := by
  rintro ⟨failed, passphrase, later, empty, -⟩
  simp at empty

theorem isFirstSuccess_cons_ok {passphrase : String} {rest : List Trial} {number : Nat} :
    IsFirstSuccess (⟨passphrase, .ok ()⟩ :: rest) number ↔ number = 1 := by
  constructor
  · rintro ⟨failed, other, later, same, rfl, all_failed⟩
    cases failed with
    | nil => rfl
    | cons first others =>
      cases same
      obtain ⟨cause, went⟩ := all_failed _ List.mem_cons_self
      cases went
  · rintro rfl
    exact ⟨[], passphrase, rest, rfl, rfl, by simp⟩

theorem isFirstSuccess_cons_error {passphrase : String} {cause : LedgerError} {rest : List Trial} {number : Nat} :
    IsFirstSuccess (⟨passphrase, .error cause⟩ :: rest) number ↔
      ∃ position, number = position + 1 ∧ IsFirstSuccess rest position := by
  constructor
  · rintro ⟨failed, other, later, same, rfl, all_failed⟩
    cases failed with
    | nil => cases same
    | cons first others =>
      cases same
      exact ⟨others.length + 1, rfl, others, other, later, rfl, rfl,
        fun trial listed => all_failed trial (List.mem_cons_of_mem _ listed)⟩
  · rintro ⟨_, rfl, failed, other, later, rfl, rfl, all_failed⟩
    exact ⟨⟨passphrase, .error cause⟩ :: failed, other, later, rfl, rfl,
      List.forall_mem_cons.mpr ⟨⟨cause, rfl⟩, all_failed⟩⟩

namespace Course

theorem trialsOf_events (account : Address) (made : Nat) (taken : Course configured left) :
    trialsOf (taken.events account made) = taken.trials := by
  induction taken generalizing made with
  | spent => rfl
  | unanswered cause => rfl
  | unlocked passphrase => cases passphrase <;> rfl
  | refused passphrase cause others ih =>
    have later := ih (made + 1)
    cases passphrase <;> simpa [trialsOf, events, trials, Passphrase.events, Passphrase.text] using later

theorem silences_events (account : Address) (made : Nat) (taken : Course configured left) :
    silences (taken.events account made) = taken.silence?.toList := by
  induction taken generalizing made with
  | spent => rfl
  | unanswered cause => rfl
  | unlocked passphrase => cases passphrase <;> rfl
  | refused passphrase cause others ih =>
    have later := ih (made + 1)
    cases passphrase <;> simpa [silences, events, silence?, Passphrase.events] using later

theorem events_eq (account : Address) (made : Nat) (taken : Course configured left) :
    taken.events account made = trialEvents account (made + 1) configured taken.trials ++
      taken.silence?.toList.map fun cause => .asked account (made + taken.trials.length + 1) (.error cause) := by
  induction taken generalizing made with
  | spent => rfl
  | unanswered cause => rfl
  | unlocked passphrase => cases passphrase <;> rfl
  | refused passphrase cause others ih =>
    cases passphrase <;>
      simp [events, trials, trialEvents, silence?, Passphrase.events, Passphrase.text, ih, Nat.add_assoc,
        Nat.add_comm 1]

theorem passphrases_eq (account : Address) (made : Nat) (taken : Course configured left)
    (asks : left = 0 → configured = none) :
    taken.trials.map Trial.passphrase = configured.toList ++ givenTexts (taken.events account made) := by
  induction taken generalizing made with
  | spent => simp [asks rfl, trials, events, givenTexts]
  | unanswered cause => rfl
  | unlocked passphrase => cases passphrase <;> rfl
  | refused passphrase cause others ih =>
    have later := ih (made + 1) fun _ => rfl
    cases passphrase <;>
      simpa [trials, events, Passphrase.events, Passphrase.text, givenTexts] using later

theorem length_trials_le (taken : Course configured left) : taken.trials.length ≤ left := by
  induction taken with
  | spent => exact Nat.le_refl 0
  | unanswered cause => exact Nat.zero_le _
  | unlocked passphrase => exact Nat.succ_le_succ (Nat.zero_le _)
  | refused passphrase cause others ih => exact Nat.succ_le_succ ih

theorem isFailed_of_mem_dropLast (taken : Course configured left) :
    ∀ trial ∈ taken.trials.dropLast, trial.IsFailed := by
  induction taken with
  | spent => simp [trials]
  | unanswered cause => simp [trials]
  | unlocked passphrase => simp [trials]
  | refused passphrase cause others ih =>
    cases later : others.trials with
    | nil => simp [trials, later]
    | cons first rest =>
      rw [later] at ih
      rw [trials, later, List.dropLast_cons_cons]
      exact List.forall_mem_cons.mpr ⟨⟨cause, rfl⟩, ih⟩

theorem silent (taken : Course configured left) {cause : PromptError} (silence : taken.silence? = some cause) :
    taken.trials.length < left ∧ ∀ trial ∈ taken.trials, trial.IsFailed := by
  induction taken with
  | spent => cases silence
  | unanswered cause => simp [trials]
  | unlocked passphrase => cases silence
  | refused passphrase cause others ih =>
    obtain ⟨fewer, failed⟩ := ih silence
    exact ⟨Nat.succ_lt_succ fewer, List.forall_mem_cons.mpr ⟨⟨cause, rfl⟩, failed⟩⟩

variable {account : Address} {made : Nat} {lastError : Option LedgerError}

theorem outcome_eq_promptFailed_iff (taken : Course configured left) (cause : PromptError) :
    taken.outcome account made lastError = .promptFailed cause ↔ taken.silence? = some cause := by
  induction taken generalizing made lastError with
  | spent => simp [outcome, silence?]
  | unanswered cause => simp [outcome, silence?]
  | unlocked passphrase => simp [outcome, silence?]
  | refused passphrase cause others ih => exact ih

theorem outcome_eq_unlocked_iff (taken : Course configured left) (number : Nat) :
    taken.outcome account made lastError = .unlocked number ↔
      ∃ position, number = made + position ∧ IsFirstSuccess taken.trials position := by
  induction taken generalizing made lastError with
  | spent => simp [outcome, trials, not_isFirstSuccess_nil]
  | unanswered cause => simp [outcome, trials, not_isFirstSuccess_nil]
  | unlocked passphrase => simp [outcome, trials, isFirstSuccess_cons_ok, eq_comm]
  | refused passphrase cause others ih =>
    simp only [outcome, trials, ih, isFirstSuccess_cons_error]
    constructor
    · rintro ⟨position, rfl, first⟩
      exact ⟨position + 1, by omega, position, rfl, first⟩
    · rintro ⟨_, rfl, position, rfl, first⟩
      exact ⟨position, by omega, first⟩

/-- The error that stays when no attempt is left: that of the last trial, if there was one. -/
theorem outcome_eq_exhausted_iff (taken : Course configured left) (attempts : Nat) (cause : LedgerError) :
    taken.outcome account made lastError = .exhausted attempts cause ↔
      attempts = made + left ∧ taken.trials.length = left ∧ taken.silence? = none ∧
        (∀ trial ∈ taken.trials, trial.IsFailed) ∧
        ((∃ passphrase, taken.trials.getLast? = some ⟨passphrase, .error cause⟩) ∨
          taken.trials = [] ∧ cause = lastError.getD (untried account)) := by
  induction taken generalizing made lastError with
  | spent => simp [outcome, trials, silence?, eq_comm]
  | unanswered cause => simp [outcome, silence?]
  | unlocked passphrase => simp [outcome, trials, Trial.IsFailed]
  | refused passphrase reason others ih =>
    simp only [outcome, trials, silence?, ih, List.length_cons, List.forall_mem_cons, Nat.add_right_cancel_iff]
    -- The error of this trial is the last one until there is a later trial.
    cases others.trials with
    | nil => simp [Trial.IsFailed, eq_comm, Nat.add_assoc, Nat.add_comm 1]
    | cons first rest => simp [Trial.IsFailed, List.getLast?_cons_cons, Nat.add_assoc, Nat.add_comm 1]

end Course

/-- What comes of at most so many attempts to unlock an account. -/
structure Attempted (account : Address) (configured : Option String) (most : Nat) (events : List UnlockEvent)
    (outcome : UnlockOutcome) : Prop where
  events_eq : events = trialEvents account 1 configured (trialsOf events) ++
    (silences events).map fun cause => .asked account ((trialsOf events).length + 1) (.error cause)
  trials_le : (trialsOf events).length ≤ most
  passphrases_eq : (trialsOf events).map Trial.passphrase = configured.toList ++ givenTexts events
  failed_before : ∀ trial ∈ (trialsOf events).dropLast, trial.IsFailed
  silences_le : (silences events).length ≤ 1 ∧
    (silences events ≠ [] → (trialsOf events).length < most ∧ ∀ trial ∈ trialsOf events, trial.IsFailed)
  unlocked_iff : ∀ number, outcome = .unlocked number ↔ IsFirstSuccess (trialsOf events) number
  promptFailed_iff : ∀ cause, outcome = .promptFailed cause ↔ (silences events).head? = some cause
  exhausted_iff : ∀ attempts cause, outcome = .exhausted attempts cause ↔
    attempts = most ∧ (trialsOf events).length = most ∧ silences events = [] ∧
      (∀ trial ∈ trialsOf events, trial.IsFailed) ∧
      ∃ passphrase, (trialsOf events)[most - 1]? = some ⟨passphrase, .error cause⟩
  lastError_tried : ∀ attempts cause, outcome = .exhausted attempts cause →
    ∃ passphrase, .tried account passphrase (.error cause) ∈ events

theorem mem_trialEvents {account : Address} {number : Nat} {configured : Option String} {trials : List Trial}
    {trial : Trial} (listed : trial ∈ trials) :
    .tried account trial.passphrase trial.answer ∈ trialEvents account number configured trials := by
  induction trials generalizing number configured with
  | nil => cases listed
  | cons first rest ih =>
    rw [trialEvents]
    rcases List.mem_cons.mp listed with rfl | later
    · exact List.mem_append_right _ List.mem_cons_self
    · exact List.mem_append_right _ (List.mem_cons_of_mem _ (ih later))

theorem Course.outcome_eq_exhausted_iff_of_pos {account : Address} (taken : Course configured left)
    (some_left : 0 < left) (attempts : Nat) (cause : LedgerError) :
    taken.outcome account 0 none = .exhausted attempts cause ↔
      attempts = left ∧ taken.trials.length = left ∧ taken.silence? = none ∧
        (∀ trial ∈ taken.trials, trial.IsFailed) ∧
        ∃ passphrase, taken.trials[left - 1]? = some ⟨passphrase, .error cause⟩ := by
  rw [outcome_eq_exhausted_iff, Nat.zero_add]
  refine and_congr_right fun _ => and_congr_right fun length => and_congr_right fun _ => and_congr_right fun _ => ?_
  have tried : taken.trials ≠ [] := by
    intro none_made
    rw [none_made] at length
    exact absurd length (Nat.ne_of_lt some_left)
  simp [tried, List.getLast?_eq_getElem?, length]

theorem Course.attempted (account : Address) (taken : Course configured left) (some_left : 0 < left) :
    Attempted account configured left (taken.events account 0) (taken.outcome account 0 none) := by
  -- What was asked and tried is read off the events, where it is what the course has.
  constructor
  case events_eq =>
    rw [trialsOf_events, silences_events]
    simpa using taken.events_eq account 0
  case trials_le =>
    rw [trialsOf_events]
    exact taken.length_trials_le
  case passphrases_eq =>
    rw [trialsOf_events]
    exact taken.passphrases_eq account 0 fun none_left => absurd none_left (Nat.ne_of_gt some_left)
  case failed_before =>
    rw [trialsOf_events]
    exact taken.isFailed_of_mem_dropLast
  case silences_le =>
    rw [trialsOf_events, silences_events]
    cases silence : taken.silence? with
    | none => simp
    | some cause => exact ⟨Nat.le_refl 1, fun _ => taken.silent silence⟩
  case unlocked_iff =>
    intro number
    rw [trialsOf_events, outcome_eq_unlocked_iff]
    simp
  case promptFailed_iff =>
    intro cause
    rw [silences_events, outcome_eq_promptFailed_iff]
    cases taken.silence? <;> simp
  case exhausted_iff =>
    intro attempts cause
    rw [trialsOf_events, silences_events, taken.outcome_eq_exhausted_iff_of_pos some_left]
    cases taken.silence? <;> simp
  case lastError_tried =>
    intro attempts cause ended
    obtain ⟨-, -, -, -, passphrase, last⟩ := (taken.outcome_eq_exhausted_iff_of_pos some_left attempts cause).mp ended
    rw [taken.events_eq account 0]
    exact ⟨passphrase, List.mem_append_left _ (mem_trialEvents (List.mem_of_getElem? last))⟩

variable {σ : Type}

def outcomeOf (unlocker : Unlocker (StateM σ)) (prompt : Prompt (StateM σ)) (account : Address)
    (configured : Option String) (maxAttempts : Nat) (state : σ) : UnlockOutcome :=
  ((unlocker.unlockWithRetries prompt account configured maxAttempts).run state).1

def eventsOf (unlocker : Unlocker (StateM σ)) (prompt : Prompt (StateM σ)) (account : Address)
    (configured : Option String) (maxAttempts : Nat) (state : σ) : List UnlockEvent :=
  (((unlocker.recorded.unlockWithRetries prompt.recorded account configured maxAttempts).run []).run state).1.2

/-- Whatever an account and a person answer, the attempts are those of one course. -/
theorem unlockWithRetries_attempted (unlocker : Unlocker (StateM σ)) (prompt : Prompt (StateM σ)) (account : Address)
    (configured : Option String) (maxAttempts : Nat) (state : σ) :
    Attempted account configured (max maxAttempts 1)
      (eventsOf unlocker prompt account configured maxAttempts state)
      (outcomeOf unlocker prompt account configured maxAttempts state) := by
  let taken := ((course unlocker prompt account 0 configured (max maxAttempts 1)).run state).1
  have outcome : outcomeOf unlocker prompt account configured maxAttempts state = taken.outcome account 0 none := by
    simp only [outcomeOf, unlockWithRetries, attemptsAfter_eq_course, StateT.run_map]
    rfl
  have events : eventsOf unlocker prompt account configured maxAttempts state = taken.events account 0 := by
    simp only [eventsOf, unlockWithRetries, attemptsAfter_eq_course, StateT.run_map, course_recorded,
      Functor.map_map]
    rfl
  rw [outcome, events]
  exact taken.attempted account (Nat.le_max_right maxAttempts 1)

end Unlocker

end TokenDesk
