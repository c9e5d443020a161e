import TokenDesk.Proofs.CommandLine.Options

/-! A command line with one option more.

The option may come directly before the name of a command or at the end. The words lead to
the same command then, and what they give is the same with the option among it. The
environment may have any text for the option: what is given on the command line is not
looked up there.
-/

set_option autoImplicit false

namespace TokenDesk.CommandLine

namespace OptionSpec

/-- The other option is not looked up where this one is. -/
def IsApart (option other : OptionSpec) : Prop :=
  other.environment = none ∨ other.environment ≠ option.environment

instance (option other : OptionSpec) : Decidable (option.IsApart other) :=
  inferInstanceAs (Decidable (_ ∨ _))

/-- Environments that differ in the variable of an option at most. A text that only the second one has there is one
that the option may have. -/
structure Varies (kind : ValueKind) (environment environment' : Given) (option : OptionSpec) : Prop where
  elsewhere : ∀ name, option.environment ≠ some name → environment'.lookup name = environment.lookup name
  allowed : ∀ text, Level.standIn? environment' option = some text →
    Level.standIn? environment option = some text ∨ kind.check text = .ok ()

theorem Varies.standIn?_eq {kind : ValueKind} {environment environment' : Given} {option other : OptionSpec}
    (varies : option.Varies kind environment environment') (apart : option.IsApart other) :
    Level.standIn? environment' other = Level.standIn? environment other := by
  rw [Level.standIn?, Level.standIn?]
  cases named : other.environment with
  | none => rfl
  | some name =>
    apply varies.elsewhere
    intro same
    rcases apart with unnamed | differs
    · rw [unnamed] at named
      cases named
    · exact differs (named.trans same.symm)

end OptionSpec

namespace Level

variable {level next closed other : Level} {option : OptionSpec} {kind : ValueKind} {environment environment' : Given}
  {name value : String}

/-- The other level has the arguments of this one, and maybe more. -/
structure Extends (level other : Level) : Prop where
  grammar : other.grammar = level.grammar
  options : other.options = level.options
  given : ∀ name, (level.given.lookup name).isSome → (other.given.lookup name).isSome

theorem Extends.refl (level : Level) : level.Extends level :=
  ⟨rfl, rfl, fun _ given => given⟩

theorem extends_plus (name value : String) (level : Level) : level.Extends (level.plus name value) where
  grammar := rfl
  options := rfl
  given known given := by
    rw [plus, List.lookup_append, Option.isSome_or, given, Bool.true_or]

theorem checkComplete_eq_ok_iff : level.checkComplete environment = .ok () ↔
    level.grammar.isMenu = false ∧ (∀ option ∈ level.options, option.isRequired → level.has environment option) ∧
      ∀ operand ∈ level.grammar.operands, operand.isRequired → (level.given.lookup operand.name).isSome := by
  rw [checkComplete]
  cases level.grammar.isMenu with
  | true =>
    rw [if_pos rfl]
    split <;> simp
  | false =>
    simp only [Bool.false_eq_true, if_false, true_and]
    rw [ite_eq_right_iff]
    simp [imp_false, not_or]

section
variable (takes : option.Takes kind) (varies : option.Varies kind environment environment')
  (apart : ∀ other ∈ level.options, other = option ∨ option.IsApart other) (extended : level.Extends other)
include takes varies apart extended

theorem checkEnvironment_of_extends (checked : level.checkEnvironment environment = .ok ()) :
    other.checkEnvironment environment' = .ok () := by
  rw [checkEnvironment, forM_eq_ok_iff] at checked ⊢
  rw [extended.options]
  intro known listed
  have here := checked known listed
  -- An option that is given never falls back on the environment.
  by_cases given : (other.given.lookup known.name).isSome
  · rw [if_pos given]
  · rw [if_neg fun earlier => given (extended.given _ earlier)] at here
    rw [if_neg given]
    rcases apart known listed with rfl | apart
    · cases held : standIn? environment' known with
      | none => rfl
      | some text =>
        rw [takes.value] at here ⊢
        rcases varies.allowed text held with same | allowed
        · rw [same] at here
          exact here
        · exact allowed
    · rw [varies.standIn?_eq apart]
      exact here

theorem checkComplete_of_extends (complete : level.checkComplete environment = .ok ()) :
    other.checkComplete environment' = .ok () := by
  rw [checkComplete_eq_ok_iff] at complete ⊢
  obtain ⟨innermost, options, operands⟩ := complete
  rw [extended.grammar, extended.options]
  refine ⟨innermost, ?_, fun operand listed required => extended.given _ (operands operand listed required)⟩
  intro known listed required
  have apart : option.IsApart known := by
    refine (apart known listed).resolve_left ?_
    rintro rfl
    rw [takes.isRequired] at required
    cases required
  rw [has, varies.standIn?_eq apart]
  rcases Bool.or_eq_true_iff.mp (options known listed required) with given | held
  · rw [extended.given _ given, Bool.true_or]
  · rw [held, Bool.or_true]

end

theorem close_eq_ok_iff : level.close environment = .ok closed ↔
    level.settle = .ok closed ∧ closed.checkEnvironment environment = .ok () := by
  rw [close, bind_eq_ok_iff]
  constructor
  · rintro ⟨settled, settles, rest⟩
    obtain ⟨_, checked, ⟨rfl⟩⟩ := bind_eq_ok_iff.mp rest
    exact ⟨settles, checked⟩
  · rintro ⟨settles, checked⟩
    exact ⟨closed, settles, bind_eq_ok_iff.mpr ⟨(), checked, rfl⟩⟩

section
variable {settled : Level} (settles : level.settle = .ok settled) (gains : next.settle = .ok (settled.plus name value))
include settles gains

theorem grammar_of_plus : next.grammar = level.grammar :=
  (keeps_of_settle gains).grammar.symm.trans (keeps_of_settle settles).grammar

theorem begins_of_plus {word : String} (begins : level.begins word = true) : next.begins word = true := by
  have opened : next.onlyOperands = level.onlyOperands :=
    (keeps_of_settle gains).onlyOperands.symm.trans (keeps_of_settle settles).onlyOperands
  rw [Level.begins, isAwaiting_of_settle settles, isCommand] at begins
  rw [Level.begins, isAwaiting_of_settle gains, isCommand, grammar_of_plus settles gains, opened]
  exact begins

end

end Level

namespace Reading

variable {option : OptionSpec} {kind : ValueKind} {environment environment' given : Given} {value : String}
  {path target : List String} {level next settled inner inner' : Level} {levels outer outer' below : List Level}

theorem finish_eq_ok_iff : finish environment (.levels path inner outer) = .ok (target, given) ↔
    target = path ∧ ∃ closed rest, (inner :: outer).mapM (Level.close environment) = .ok (closed :: rest) ∧
      closed.checkComplete environment = .ok () ∧ given = (closed :: rest).flatMap Level.given := by
  rw [finish, bind_eq_ok_iff, List.mapM_cons]
  constructor
  · rintro ⟨closed, closes, rest⟩
    obtain ⟨_, complete, rest⟩ := bind_eq_ok_iff.mp rest
    obtain ⟨others, close, ⟨⟩⟩ := bind_eq_ok_iff.mp rest
    refine ⟨rfl, closed, others, ?_, complete, rfl⟩
    exact bind_eq_ok_iff.mpr ⟨closed, closes, bind_eq_ok_iff.mpr ⟨others, close, rfl⟩⟩
  · rintro ⟨rfl, closed, rest, close, complete, rfl⟩
    obtain ⟨_, closes, others⟩ := bind_eq_ok_iff.mp close
    obtain ⟨_, close, ⟨rfl, rfl⟩⟩ := bind_eq_ok_iff.mp others
    exact ⟨closed, closes, bind_eq_ok_iff.mpr ⟨(), complete, bind_eq_ok_iff.mpr ⟨rest, close, rfl⟩⟩⟩

theorem exists_settled (finished : finish environment (.levels path inner outer) = .ok (target, given))
    (listed : level ∈ inner :: outer) :
    ∃ settled, level.settle = .ok settled ∧
      ∀ name, given.lookup name = none → settled.given.lookup name = none := by
  obtain ⟨-, closed, rest, close, -, rfl⟩ := finish_eq_ok_iff.mp finished
  obtain ⟨settled, among, closes⟩ := exists_of_forall₂ (mapM_eq_ok_iff.mp close) listed
  refine ⟨settled, (Level.close_eq_ok_iff.mp closes).1, ?_⟩
  intro name missing
  rw [List.lookup_eq_none_iff] at missing ⊢
  exact fun entry held => missing entry (List.mem_flatMap.mpr ⟨settled, among, held⟩)

section
variable (takes : option.Takes kind) (varies : option.Varies kind environment environment')
include takes varies

theorem close_of_extends {closed other : Level}
    (apart : ∀ other ∈ level.options, other = option ∨ option.IsApart other)
    (closes : level.close environment = .ok closed) (settles : next.settle = .ok other)
    (extended : closed.Extends other) : next.close environment' = .ok other := by
  obtain ⟨settled, checked⟩ := Level.close_eq_ok_iff.mp closes
  rw [← (Level.keeps_of_settle settled).options] at apart
  exact Level.close_eq_ok_iff.mpr ⟨settles, Level.checkEnvironment_of_extends takes varies apart extended checked⟩

theorem mapM_close_of_varies {closed : List Level}
    (apart : ∀ level ∈ levels, ∀ other ∈ level.options, other = option ∨ option.IsApart other)
    (close : levels.mapM (Level.close environment) = .ok closed) :
    levels.mapM (Level.close environment') = .ok closed := by
  rw [mapM_eq_ok_iff] at close ⊢
  apply ((List.forall₂_and_left _ _).mpr ⟨apart, close⟩).imp
  rintro level closed ⟨apart, closes⟩
  exact close_of_extends takes varies apart closes (Level.close_eq_ok_iff.mp closes).1 (.refl closed)

theorem mapM_close_plus {above : List Level} {closed : List Level}
    (apart : ∀ known ∈ above ++ level :: below, ∀ other ∈ known.options, other = option ∨ option.IsApart other)
    (close : (above ++ level :: below).mapM (Level.close environment) = .ok closed)
    (settles : level.settle = .ok settled) (gains : next.settle = .ok (settled.plus option.name value)) :
    ∃ top bottom, closed = top ++ settled :: bottom ∧
      (above ++ next :: below).mapM (Level.close environment') =
        .ok (top ++ settled.plus option.name value :: bottom) := by
  rw [List.mapM_append, List.mapM_cons] at close
  obtain ⟨top, close_top, others⟩ := bind_eq_ok_iff.mp close
  obtain ⟨_, close_rest, ⟨rfl⟩⟩ := bind_eq_ok_iff.mp others
  obtain ⟨held, closes, others⟩ := bind_eq_ok_iff.mp close_rest
  obtain ⟨bottom, close_bottom, ⟨rfl⟩⟩ := bind_eq_ok_iff.mp others
  obtain rfl : settled = held := Except.ok.inj (settles.symm.trans (Level.close_eq_ok_iff.mp closes).1)
  refine ⟨top, bottom, rfl, ?_⟩
  rw [List.mapM_append, List.mapM_cons,
    mapM_close_of_varies takes varies (fun known listed => apart known (by simp [listed])) close_top,
    mapM_close_of_varies takes varies (fun known listed => apart known (by simp [listed])) close_bottom,
    close_of_extends takes varies (apart level (by simp)) closes gains (settled.extends_plus option.name value)]
  rfl

theorem finish_plus (above : List Level) (stack : inner :: outer = above ++ level :: below)
    (stack' : inner' :: outer' = above ++ next :: below)
    (apart : ∀ level ∈ inner :: outer, ∀ other ∈ level.options, other = option ∨ option.IsApart other)
    (finished : finish environment (.levels path inner outer) = .ok (target, given))
    (settles : level.settle = .ok settled) (gains : next.settle = .ok (settled.plus option.name value)) :
    ∃ left right, given = left ++ right ∧
      finish environment' (.levels path inner' outer') = .ok (target, left ++ (option.name, value) :: right) := by
  obtain ⟨same, closed, rest, close, complete, rfl⟩ := finish_eq_ok_iff.mp finished
  have innermost : ∀ other ∈ closed.options, other = option ∨ option.IsApart other := by
    rw [List.mapM_cons] at close
    obtain ⟨_, closes, others⟩ := bind_eq_ok_iff.mp close
    obtain ⟨_, -, ⟨rfl, rfl⟩⟩ := bind_eq_ok_iff.mp others
    rw [(Level.keeps_of_settle (Level.close_eq_ok_iff.mp closes).1).options]
    exact apart inner List.mem_cons_self
  rw [stack] at apart close
  obtain ⟨top, bottom, parts, close'⟩ := mapM_close_plus takes varies apart close settles gains
  rw [← stack'] at close'
  rw [parts]
  refine ⟨top.flatMap Level.given ++ settled.given, bottom.flatMap Level.given, by simp, ?_⟩
  rw [finish_eq_ok_iff]
  refine ⟨same, ?_⟩
  -- The innermost level is the one with the option, or it is as before.
  cases top with
  | nil =>
    cases parts
    exact ⟨_, _, close', Level.checkComplete_of_extends takes varies innermost (settled.extends_plus _ _) complete,
      by simp [Level.plus]⟩
  | cons first top =>
    cases parts
    exact ⟨_, _, close', Level.checkComplete_of_extends takes varies innermost (.refl _) complete, by simp [Level.plus]⟩

end

end Reading

/-! Words that are put into a command line. -/

/-- The words lead to a command, of which they may leave out arguments. -/
def Leads (globals : List OptionSpec) (root : Grammar) (words path : List String) : Prop :=
  ∃ inner outer, Reading.after globals root words = .ok (.levels path inner outer)

def Names (globals : List OptionSpec) (root : Grammar) (before : List String) (name : String) : Prop :=
  ∃ path, Leads globals root before path ∧ Leads globals root (before ++ [name]) (path ++ [name])

/-- More words directly before the name of a command, or at the end if no two hyphens have made operands of them. -/
inductive Inserted (globals : List OptionSpec) (root : Grammar) (words more : List String) : List String → Prop where
  | before {before behind : List String} {name : String} : words = before ++ name :: behind →
      Names globals root before name → Inserted globals root words more (before ++ more ++ name :: behind)
  | last : "--" ∉ words → Inserted globals root words more (words ++ more)

theorem exists_names {globals : List OptionSpec} {root : Grammar} {words path earlier later : List String}
    {name : String} (leads : Leads globals root words path) (passed : path = earlier ++ name :: later) :
    ∃ before behind, words = before ++ name :: behind ∧ Leads globals root before earlier ∧
      Names globals root before name := by
  obtain ⟨inner, outer, reached⟩ := leads
  obtain ⟨before, behind, split, ⟨_, _, here⟩, _, _, next⟩ := (Reading.reached_iff.mpr reached).exists_before passed
  have arrives : Leads globals root before earlier := ⟨_, _, Reading.reached_iff.mp here⟩
  exact ⟨before, behind, split, arrives, earlier, arrives, _, _, Reading.reached_iff.mp next⟩

/-- An option that can be given to each of the commands, unless an argument of its own has the name. -/
structure Grammar.Shares (globals : List OptionSpec) (option : OptionSpec) (kind : ValueKind) (root : Grammar) :
    Prop where
  takes : option.Takes kind
  found : ∀ path grammar, root.Opens path grammar → option.name ∉ grammar.names →
    option.IsFoundIn (grammar.withGlobals globals)
  apart : ∀ path grammar, root.Opens path grammar →
    ∀ other ∈ grammar.withGlobals globals, other = option ∨ option.IsApart other
  commands : ∀ path grammar, root.Opens path grammar →
    ∀ word : String, word.toList.head? = some '-' → grammar.commands.lookup word = none

section
variable {globals : List OptionSpec} {root : Grammar} {option : OptionSpec} {kind : ValueKind}
  {environment environment' given : Given} {words more words' path : List String} {inner level : Level}
  {outer : List Level} {value : String}

theorem Grammar.Shares.admits {settled : Level} (shares : root.Shares globals option kind)
    (ofCommand : Reading.IsLevelOf globals root path level) (own : option.name ∉ level.grammar.names)
    (opened : level.onlyOperands = false) (settles : level.settle = .ok settled)
    (fresh : settled.given.lookup option.name = none) (allowed : kind.check value = .ok ()) :
    level.Admits option kind value settled where
  settles := settles
  opened := opened
  found := ofCommand.options ▸ shares.found path _ ofCommand.grammar own
  fresh := fresh
  takes := shares.takes
  allowed := allowed
  commands := shares.commands path _ ofCommand.grammar

theorem Grammar.Shares.apart_of_reached (shares : root.Shares globals option kind)
    (reached : Reading.Reached globals root words path inner outer) :
    ∀ level ∈ inner :: outer, ∀ other ∈ level.options, other = option ∨ option.IsApart other := by
  obtain ⟨innermost, others⟩ := reached.isLevelOf
  intro level listed
  obtain ⟨path, ofCommand⟩ : ∃ path, Reading.IsLevelOf globals root path level := by
    rcases List.mem_cons.mp listed with rfl | listed
    · exact ⟨path, innermost⟩
    · exact others level listed
  rw [ofCommand.options]
  exact shares.apart path _ ofCommand.grammar

theorem Grammar.names_of_lookup {grammar inner : Grammar} {name : String}
    (found : grammar.commands.lookup name = some inner) : grammar.names = [] := by
  cases grammar with
  | command options operands => cases found
  | menu commands => rfl

theorem Names.exists_command {before : List String} {name : String} (names : Names globals root before name) :
    ∃ path inner outer grammar, Reading.after globals root before = .ok (.levels path inner outer) ∧
      inner.begins name = true ∧ inner.grammar.commands.lookup name = some grammar := by
  obtain ⟨path, ⟨inner, outer, here⟩, _, _, there⟩ := names
  rw [Reading.after_snoc, here] at there
  change Reading.step globals (.levels path inner outer) name = _ at there
  obtain ⟨_, _, _, same, ⟨grammar, begins, found, -⟩ | ⟨-, -, stays, -⟩⟩ := Reading.exists_of_step there
  · cases same
    exact ⟨path, inner, outer, grammar, here, begins, found⟩
  · cases same
    simp at stays

section
variable (shares : root.Shares globals option kind) (varies : option.Varies kind environment environment')
  (allowed : kind.check value = .ok ()) (plain : value.toList.head? ≠ some '-') (spelled : option.Spells value more)
include shares varies allowed plain spelled

theorem read_append (reads : read globals root environment words = .ok (path, given))
    (fresh : given.lookup option.name = none) (own : ∀ grammar, root.Opens path grammar → option.name ∉ grammar.names)
    (harmless : "--" ∉ words) :
    ∃ left right, given = left ++ right ∧
      read globals root environment' (words ++ more) = .ok (path, left ++ (option.name, value) :: right) := by
  obtain ⟨_, inner, outer, arrives, finished⟩ := Reading.read_eq_ok_iff.mp reads
  obtain ⟨rfl, -⟩ := Reading.finish_eq_ok_iff.mp finished
  obtain ⟨settled, settles, missing⟩ := Reading.exists_settled finished List.mem_cons_self
  have reached := Reading.reached_iff.mpr arrives
  have ofCommand := reached.isLevelOf.1
  have admits := shares.admits ofCommand (own _ ofCommand.grammar) (reached.onlyOperands harmless) settles
    (missing _ fresh) allowed
  obtain ⟨next, more_read, gains⟩ := admits.exists_read plain spelled globals path outer
  have arrives' : Reading.after globals root (words ++ more) = .ok (.levels path next outer) := by
    rw [Reading.after_append, arrives]
    exact more_read
  obtain ⟨left, right, same, finished'⟩ := Reading.finish_plus shares.takes varies [] rfl rfl
    (shares.apart_of_reached reached) finished settles gains
  exact ⟨left, right, same, Reading.read_eq_ok_iff.mpr ⟨_, _, _, arrives', finished'⟩⟩

theorem read_before {before behind : List String} {name : String}
    (reads : read globals root environment (before ++ name :: behind) = .ok (path, given))
    (fresh : given.lookup option.name = none) (names : Names globals root before name) :
    ∃ left right, given = left ++ right ∧
      read globals root environment' (before ++ more ++ name :: behind) =
        .ok (path, left ++ (option.name, value) :: right) := by
  obtain ⟨_, inner, outer, arrives, finished⟩ := Reading.read_eq_ok_iff.mp reads
  obtain ⟨start, level, below, grammar, here, begins, found⟩ := names.exists_command
  have arrived := arrives
  rw [Reading.after_command here begins found] at arrived
  -- The words behind the name are read above the level that has the option more.
  obtain ⟨above, rfl, resumes⟩ := Reading.exists_above arrived
  obtain ⟨rfl, -⟩ := Reading.finish_eq_ok_iff.mp finished
  have listed : level ∈ inner :: (above ++ level :: below) := by simp
  obtain ⟨settled, settles, missing⟩ := Reading.exists_settled finished listed
  have ofCommand := (Reading.reached_iff.mpr here).isLevelOf.1
  have opened : level.onlyOperands = false := by
    rw [Level.begins, Bool.and_assoc, Bool.and_eq_true, Bool.not_eq_true'] at begins
    exact begins.1
  have admits := shares.admits ofCommand (by rw [Grammar.names_of_lookup found]; exact List.not_mem_nil) opened settles
    (missing _ fresh) allowed
  obtain ⟨next, more_read, gains⟩ := admits.exists_read plain spelled globals start below
  have here' : Reading.after globals root (before ++ more) = .ok (.levels start next below) := by
    rw [Reading.after_append, here]
    exact more_read
  have known : next.grammar = level.grammar := Level.grammar_of_plus settles gains
  have arrives' : Reading.after globals root (before ++ more ++ name :: behind) =
      .ok (.levels path inner (above ++ next :: below)) := by
    rw [Reading.after_command here' (Level.begins_of_plus settles gains begins) (known ▸ found)]
    exact resumes _
  obtain ⟨left, right, same, finished'⟩ := Reading.finish_plus shares.takes varies (inner :: above) rfl rfl
    (shares.apart_of_reached (Reading.reached_iff.mpr arrives)) finished settles gains
  exact ⟨left, right, same, Reading.read_eq_ok_iff.mpr ⟨_, _, _, arrives', finished'⟩⟩

/-- With an option more, words lead to the same command and the option is the only difference in what they give. -/
theorem read_inserted (reads : read globals root environment words = .ok (path, given))
    (fresh : given.lookup option.name = none) (own : ∀ grammar, root.Opens path grammar → option.name ∉ grammar.names)
    (inserted : Inserted globals root words more words') :
    ∃ left right, given = left ++ right ∧
      read globals root environment' words' = .ok (path, left ++ (option.name, value) :: right) := by
  cases inserted with
  | before split names =>
    subst split
    exact read_before shares varies allowed plain spelled reads fresh names
  | last harmless => exact read_append shares varies allowed plain spelled reads fresh own harmless

end

end

end TokenDesk.CommandLine
