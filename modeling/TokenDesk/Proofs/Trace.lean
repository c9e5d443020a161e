import Mathlib.Data.List.Forall2

/-! What computations leave behind.

A trace tells which events and value every run of a computation has together.
Where a layer of a program turns one question into several of the layer below it,
what is heard below can be read as events of the layer itself. Each layer is then
described by what its single events stand for.
-/

set_option autoImplicit false

namespace TokenDesk

variable {Event Heard : Type}

/-- Which events and value the runs of a computation have together, for computations of one monad. -/
structure Trace (m : Type → Type) [Monad m] (Event : Type) where
  Emits : {α : Type} → m α → (List Event → α → Prop) → Prop
  emits_pure : ∀ {α : Type} {value : α} {P : List Event → α → Prop}, P [] value → Emits (pure value) P
  emits_bind : ∀ {α β : Type} {first : m α} {next : α → m β} {Q : List Event → α → Prop}
    {P : List Event → β → Prop}, Emits first Q →
      (∀ events value, Q events value → Emits (next value) fun more => P (events ++ more)) →
        Emits (first >>= next) P
  emits_mono : ∀ {α : Type} {x : m α} {Q P : List Event → α → Prop},
    Emits x Q → (∀ events value, Q events value → P events value) → Emits x P

/-- What is heard when events happen one after another, of each of which a part is heard. -/
inductive Told (Stands : Event → List Heard → Prop) : List Event → List Heard → Prop where
  | nil : Told Stands [] []
  | cons {event : Event} {events : List Event} {part rest : List Heard} :
      Stands event part → Told Stands events rest → Told Stands (event :: events) (part ++ rest)

namespace Told

variable {Stands : Event → List Heard → Prop} {event : Event} {events more : List Event} {part heard rest : List Heard}

theorem single (stands : Stands event part) : Told Stands [event] part := by
  simpa using Told.cons stands .nil

theorem append (told : Told Stands events heard) (later : Told Stands more rest) :
    Told Stands (events ++ more) (heard ++ rest) := by
  induction told with
  | nil => exact later
  | cons stands _ ih =>
    rw [List.append_assoc]
    exact .cons stands ih

theorem of_append (told : Told Stands (events ++ more) heard) :
    ∃ first second, heard = first ++ second ∧ Told Stands events first ∧ Told Stands more second := by
  induction events generalizing heard with
  | nil => exact ⟨[], heard, rfl, .nil, told⟩
  | cons event rest ih =>
    cases told with
    | cons stands others =>
      obtain ⟨first, second, rfl, told_first, told_second⟩ := ih others
      exact ⟨_, second, (List.append_assoc _ _ _).symm, .cons stands told_first, told_second⟩

theorem of_cons (told : Told Stands (event :: events) heard) :
    ∃ part rest, heard = part ++ rest ∧ Stands event part ∧ Told Stands events rest := by
  cases told with
  | cons stands others => exact ⟨_, _, rfl, stands, others⟩

theorem exists_of_mem (told : Told Stands events heard) {sound : Heard} (listed : sound ∈ heard) :
    ∃ event ∈ events, ∃ part, Stands event part ∧ sound ∈ part := by
  induction told with
  | nil => cases listed
  | cons stands _ ih =>
    rcases List.mem_append.mp listed with here | later
    · exact ⟨_, List.mem_cons_self, _, stands, here⟩
    · obtain ⟨event, among, part, stands_later, within⟩ := ih later
      exact ⟨event, List.mem_cons_of_mem _ among, part, stands_later, within⟩

end Told

/-- What two computations leave behind of which the second works on the value of the first. A failure of the
first is one of both. -/
inductive Chained {α β ε : Type} (First : List Event → Except ε α → Prop)
    (Next : α → List Event → Except ε β → Prop) : List Event → Except ε β → Prop where
  | stopped {events : List Event} {cause : ε} : First events (.error cause) → Chained First Next events (.error cause)
  | continued {first rest : List Event} {value : α} {result : Except ε β} : First first (.ok value) →
      Next value rest result → Chained First Next (first ++ rest) result

/-- Nothing happens, and this is what comes of it. -/
def Yields {α ε : Type} (known : Except ε α) (events : List Event) (result : Except ε α) : Prop :=
  events = [] ∧ result = known

/-- What is left behind by one computation for each item, one after another up to the first that fails. -/
def InTurn {α β ε : Type} (One : α → List Event → Except ε β → Prop) :
    List α → List Event → Except ε (List β) → Prop
  | [] => Yields (.ok [])
  | item :: rest => Chained (One item) fun value =>
      Chained (InTurn One rest) fun values => Yields (.ok (value :: values))

theorem Chained.of_silent {α β ε : Type} {First : List Event → Except ε α → Prop}
    {Next : α → List Event → Except ε β → Prop} {events : List Event} {value : α} {result : Except ε β}
    (silent : First [] (.ok value)) (later : Next value events result) : Chained First Next events result :=
  .continued silent later

theorem Chained.closed {α β ε : Type} {First : List Event → Except ε α → Prop}
    {Next : α → List Event → Except ε β → Prop} {events : List Event} {result : Except ε β}
    (chained : Chained First Next events result) {S : List Event → Prop}
    (joined : ∀ {events more}, S events → S more → S (events ++ more))
    (first : ∀ {events result}, First events result → S events)
    (next : ∀ {value events result}, Next value events result → S events) : S events := by
  cases chained with
  | stopped holds => exact first holds
  | continued holds later => exact joined (first holds) (next later)

variable {m : Type → Type} [Monad m]

theorem bind_liftM_ok {α β ε : Type} [LawfulMonad m] (value : α) (next : α → ExceptT ε m β) :
    (liftM (Except.ok value : Except ε α) : ExceptT ε m α) >>= next = next value :=
  pure_bind value next

theorem bind_liftM_error {α β ε : Type} [LawfulMonad m] (cause : ε) (next : α → ExceptT ε m β) :
    (liftM (Except.error cause : Except ε α) : ExceptT ε m α) >>= next = throw cause :=
  ExceptT.ext (pure_bind (Except.error cause) _)

namespace Trace

/-! The traces of this development. -/

/-- Events are what a computation appends to its journal. -/
def journal (Event σ : Type) : Trace (StateT (List Event) (StateM σ)) Event where
  Emits x P := ∀ journal state, ∃ events value after,
    (x.run journal).run state = ((value, journal ++ events), after) ∧ P events value
  emits_pure holds journal state := ⟨[], _, state, by rw [List.append_nil]; rfl, holds⟩
  emits_bind {α β first next Q P} emits others journal state := by
    obtain ⟨events, value, middle, ran, first_holds⟩ := emits journal state
    obtain ⟨more, result, after, ran_next, holds⟩ := others events value first_holds (journal ++ events) middle
    refine ⟨events ++ more, result, after, ?_, holds⟩
    rw [← List.append_assoc, ← ran_next, StateT.run_bind, StateT.run_bind, ran]
    rfl
  emits_mono emits weaker journal state := by
    obtain ⟨events, value, after, ran, holds⟩ := emits journal state
    exact ⟨events, value, after, ran, weaker events value holds⟩

/-- A state beside the computation leaves no events, and any may be there at its start. -/
def beside (trace : Trace m Event) (S : Type) : Trace (StateT S m) Event where
  Emits x P := ∀ state, trace.Emits (x.run state) fun events result => P events result.1
  emits_pure holds state := trace.emits_pure holds
  emits_bind emits others state := by
    rw [StateT.run_bind]
    exact trace.emits_bind (emits state) fun events result holds => others events result.1 holds result.2
  emits_mono emits weaker state := trace.emits_mono (emits state) fun events result => weaker events result.1

/-- The same trace, read as events of the layer above. -/
def through (trace : Trace m Heard) (Stands : Event → List Heard → Prop) : Trace m Event where
  Emits x P := trace.Emits x fun heard value => ∃ events, Told Stands events heard ∧ P events value
  emits_pure holds := trace.emits_pure ⟨[], .nil, holds⟩
  emits_bind emits others := by
    refine trace.emits_bind emits fun heard value ⟨events, told, first_holds⟩ => ?_
    refine trace.emits_mono (others events value first_holds) fun rest result ⟨more, told_more, holds⟩ => ?_
    exact ⟨events ++ more, told.append told_more, holds⟩
  emits_mono emits weaker := trace.emits_mono emits fun heard value ⟨events, told, holds⟩ =>
    ⟨events, told, weaker events value holds⟩

theorem emits_through_iff {trace : Trace m Heard} {Stands : Event → List Heard → Prop} {α : Type} {x : m α}
    {P : List Event → α → Prop} : (trace.through Stands).Emits x P ↔
      trace.Emits x fun heard value => ∃ events, Told Stands events heard ∧ P events value :=
  Iff.rfl

theorem through_single {trace : Trace m Heard} {Stands : Event → List Heard → Prop} {α : Type} {x : m α}
    {event : α → Event} (stands : trace.Emits x fun heard value => Stands (event value) heard) :
    (trace.through Stands).Emits x fun events value => events = [event value] :=
  trace.emits_mono stands fun _ value holds => ⟨[event value], .single holds, rfl⟩

/-! Computations that can fail. -/

section
variable {α β ε ε' : Type} {P : List Event → Except ε β → Prop} (trace : Trace m Event)

theorem emits_pure_run {value : β} (holds : P [] (.ok value)) : trace.Emits (pure value : ExceptT ε m β).run P :=
  trace.emits_pure holds

theorem emits_throw_run {cause : ε} (holds : P [] (.error cause)) : trace.Emits (throw cause : ExceptT ε m β).run P :=
  trace.emits_pure holds

theorem emits_liftM_run {result : Except ε β} (holds : P [] result) :
    trace.Emits (liftM result : ExceptT ε m β).run P :=
  trace.emits_pure holds

theorem emits_bind_run {first : ExceptT ε m α} {next : α → ExceptT ε m β} {Q : List Event → Except ε α → Prop}
    (emits : trace.Emits first.run Q) (stops : ∀ events cause, Q events (.error cause) → P events (.error cause))
    (goes_on : ∀ events value, Q events (.ok value) →
      trace.Emits (next value).run fun more => P (events ++ more)) :
    trace.Emits (first >>= next).run P := by
  refine trace.emits_bind emits fun events result holds => ?_
  cases result with
  | error cause =>
    refine trace.emits_pure ?_
    rw [List.append_nil]
    exact stops events cause holds
  | ok value => exact goes_on events value holds

theorem emits_throw_bind (cause : ε) (next : α → ExceptT ε m β) :
    trace.Emits ((throw cause : ExceptT ε m α) >>= next).run (Yields (.error cause)) := by
  have thrown : trace.Emits (throw cause : ExceptT ε m α).run (Yields (.error cause)) :=
    trace.emits_throw_run ⟨rfl, rfl⟩
  refine trace.emits_bind_run thrown ?_ ?_
  · rintro _ _ ⟨rfl, ⟨⟩⟩
    exact ⟨rfl, rfl⟩
  · rintro _ _ ⟨-, ⟨⟩⟩

theorem emits_chained {first : ExceptT ε m α} {next : α → ExceptT ε m β} {First : List Event → Except ε α → Prop}
    {Next : α → List Event → Except ε β → Prop} (emits : trace.Emits first.run First)
    (others : ∀ value, trace.Emits (next value).run (Next value)) :
    trace.Emits (first >>= next).run (Chained First Next) :=
  trace.emits_bind_run emits (fun _ _ holds => .stopped holds) fun _ value holds =>
    trace.emits_mono (others value) fun _ _ later => .continued holds later

theorem emits_yields (known : Except ε β) : trace.Emits (liftM known : ExceptT ε m β).run (Yields known) :=
  trace.emits_liftM_run ⟨rfl, rfl⟩

theorem emits_forM {One : α → List Event → Except ε PUnit → Prop} {each : α → ExceptT ε m PUnit}
    (emits : ∀ item, trace.Emits (each item).run (One item)) (items : List α) :
    trace.Emits (items.forM each).run (Chained (InTurn One items) fun _ => Yields (.ok ⟨⟩)) := by
  induction items with
  | nil => exact trace.emits_pure_run (.of_silent (show InTurn One [] [] (.ok []) from ⟨rfl, rfl⟩) ⟨rfl, rfl⟩)
  | cons item rest ih =>
    refine trace.emits_mono (trace.emits_chained (emits item) fun _ => ih) ?_
    rintro _ _ (failed | ⟨here, failed | ⟨others, rfl, rfl⟩⟩)
    · exact .stopped (.stopped failed)
    · exact .stopped (.continued here (.stopped failed))
    · have turn : InTurn One (item :: rest) _ _ := .continued here (.continued others ⟨rfl, rfl⟩)
      rw [← List.append_nil (_ ++ _)]
      exact .continued turn ⟨rfl, rfl⟩

variable [LawfulMonad m]

theorem emits_mapM {One : α → List Event → Except ε β → Prop} {each : α → ExceptT ε m β}
    (emits : ∀ item, trace.Emits (each item).run (One item)) (items : List α) :
    trace.Emits (items.mapM each).run (InTurn One items) := by
  induction items with
  | nil => exact trace.emits_pure_run ⟨rfl, rfl⟩
  | cons item rest ih =>
    rw [List.mapM_cons]
    exact trace.emits_chained (emits item) fun first => trace.emits_chained ih fun others =>
      trace.emits_pure_run ⟨rfl, rfl⟩

theorem emits_bind_liftM_run {first : Except ε α} {next : α → ExceptT ε m β}
    (stops : ∀ cause, first = .error cause → P [] (.error cause))
    (goes_on : ∀ value, first = .ok value → trace.Emits (next value).run P) :
    trace.Emits (liftM first >>= next).run P := by
  cases first with
  | error cause =>
    rw [bind_liftM_error]
    exact trace.emits_throw_run (stops cause rfl)
  | ok value =>
    rw [bind_liftM_ok]
    exact goes_on value rfl

theorem emits_map {x : m α} {f : α → β} {Q : List Event → β → Prop}
    (emits : trace.Emits x fun events value => Q events (f value)) : trace.Emits (f <$> x) Q := by
  rw [map_eq_pure_bind]
  refine trace.emits_bind emits fun events value holds => trace.emits_pure ?_
  rwa [List.append_nil]

theorem emits_adapt_run {x : ExceptT ε' m β} {f : ε' → ε}
    (emits : trace.Emits x.run fun events result => P events (result.mapError f)) :
    trace.Emits (x.adapt f).run P := by
  rw [ExceptT.run_adapt]
  exact trace.emits_map emits

theorem emits_bind_adapt_run {first : ExceptT ε' m α} {f : ε' → ε} {next : α → ExceptT ε m β}
    {Q : List Event → Except ε' α → Prop} (emits : trace.Emits first.run Q)
    (stops : ∀ events cause, Q events (.error cause) → P events (.error (f cause)))
    (goes_on : ∀ events value, Q events (.ok value) →
      trace.Emits (next value).run fun more => P (events ++ more)) :
    trace.Emits (first.adapt f >>= next).run P := by
  have adapted : trace.Emits (first.adapt f).run fun events result =>
      (∀ cause, result = .error cause → P events (.error cause)) ∧
        ∀ value, result = .ok value → Q events (.ok value) := by
    refine trace.emits_adapt_run (trace.emits_mono emits fun events result holds => ?_)
    cases result with
    | error cause => exact ⟨by rintro _ ⟨⟩; exact stops events cause holds, by rintro _ ⟨⟩⟩
    | ok value => exact ⟨by rintro _ ⟨⟩, by rintro _ ⟨⟩; exact holds⟩
  exact trace.emits_bind_run adapted (fun _ cause holds => holds.1 cause rfl)
    fun events value holds => goes_on events value (holds.2 value rfl)

theorem emits_lift_run {x : m β} (emits : trace.Emits x fun events value => P events (.ok value)) :
    trace.Emits (liftM x : ExceptT ε m β).run P := by
  change trace.Emits (ExceptT.lift x).run P
  rw [ExceptT.run_lift]
  exact trace.emits_map emits

theorem emits_bind_lift_run {first : m α} {next : α → ExceptT ε m β} {Q : List Event → α → Prop}
    (emits : trace.Emits first Q)
    (goes_on : ∀ events value, Q events value → trace.Emits (next value).run fun more => P (events ++ more)) :
    trace.Emits ((liftM first : ExceptT ε m α) >>= next).run P := by
  have lifted : trace.Emits (liftM first : ExceptT ε m α).run fun events result =>
      ∃ value, result = .ok value ∧ Q events value :=
    trace.emits_lift_run (trace.emits_mono emits fun _ value holds => ⟨value, rfl, holds⟩)
  refine trace.emits_bind_run lifted ?_ ?_
  · rintro _ _ ⟨_, impossible, -⟩
    cases impossible
  · rintro events value ⟨_, ⟨rfl⟩, holds⟩
    exact goes_on events value holds

end

theorem emits_beside_lift [LawfulMonad m] {α S : Type} {trace : Trace m Event} {x : m α} {P : List Event → α → Prop}
    (emits : trace.Emits x P) : (trace.beside S).Emits (liftM x) P := by
  intro state
  change trace.Emits ((StateT.lift x).run state) _
  rw [StateT.run_lift]
  refine trace.emits_bind emits fun events value holds => trace.emits_pure ?_
  rwa [List.append_nil]

end Trace

end TokenDesk
