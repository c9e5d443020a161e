import Mathlib.Data.List.Induction
import TokenDesk.CommandLine.Reading
import TokenDesk.Proofs.Results

/-! What one word does to the levels of a command line.

A word that names a command opens a level, and every other word is read at the innermost
one. So the levels below keep what they have until all words are read, and where the words
lead does not depend on it.
-/

set_option autoImplicit false

namespace TokenDesk.CommandLine

theorem Word.of_eq_escape_iff {word : String} : Word.of word = .escape ↔ word = "--" := by
  constructor
  · intro escapes
    apply String.toList_inj.mp
    rw [Word.of] at escapes
    split at escapes
    · assumption
    · split at escapes <;> cases escapes
    · cases escapes
    · cases escapes
  · rintro rfl
    rfl

namespace Level

variable {level next settled : Level} {word name value : String} {check : Except Usage Unit}

/-- The levels know the same arguments, and agree on whether only operands follow. -/
structure Keeps (level next : Level) : Prop where
  grammar : next.grammar = level.grammar
  options : next.options = level.options
  onlyOperands : next.onlyOperands = level.onlyOperands

theorem Keeps.refl (level : Level) : level.Keeps level :=
  ⟨rfl, rfl, rfl⟩

theorem Keeps.trans {later : Level} (first : level.Keeps next) (second : next.Keeps later) : level.Keeps later :=
  ⟨second.grammar.trans first.grammar, second.options.trans first.options,
    second.onlyOperands.trans first.onlyOperands⟩

theorem enterOnce_eq_ok_iff : level.enterOnce name value check = .ok next ↔
    level.given.lookup name = none ∧ check = .ok () ∧
      next = { level with given := level.given ++ [(name, value)], pending := .nothing } := by
  rw [enterOnce]
  cases level.given.lookup name with
  | some earlier => simp [bind, Except.bind, throw, throwThe, MonadExceptOf.throw]
  | none => cases check <;> simp [bind, Except.bind, pure, Except.pure, eq_comm]

theorem settle_eq_ok (settles : level.settle = .ok settled) :
    ∃ more, settled = { level with given := level.given ++ more, pending := .nothing } := by
  rw [settle] at settles
  split at settles
  next begun =>
    cases settles
    exact ⟨[], by rw [List.append_nil, ← begun]⟩
  · cases settles
  · exact ⟨_, (enterOnce_eq_ok_iff.mp settles).2.2⟩
  · obtain ⟨-, -, entered⟩ := bind_eq_ok_iff.mp settles
    cases entered
    exact ⟨_, rfl⟩

theorem keeps_of_settle (settles : level.settle = .ok settled) : level.Keeps settled := by
  obtain ⟨more, rfl⟩ := settle_eq_ok settles
  exact ⟨rfl, rfl, rfl⟩

theorem isAwaiting_of_settle (settles : level.settle = .ok settled) : level.isAwaiting = false := by
  rw [settle] at settles
  rw [isAwaiting]
  cases begun : level.pending with
  | awaiting name kind =>
    rw [begun] at settles
    cases settles
  | nothing => rfl
  | filled name kind value => rfl
  | operand operand value => rfl

theorem stop_ne_ok {usage : Usage} : level.stop usage ≠ .ok next := by
  intro stopped
  obtain ⟨-, -, thrown⟩ := bind_eq_ok_iff.mp stopped
  cases thrown

theorem keeps_of_beginOption {option : OptionSpec} {attached : Option String}
    (begun : level.beginOption option attached = .ok next) : level.Keeps next := by
  rw [beginOption.eq_def] at begun
  split at begun
  · cases begun
  · obtain ⟨settled, settles, entered⟩ := bind_eq_ok_iff.mp begun
    rw [(enterOnce_eq_ok_iff.mp entered).2.2]
    exact (keeps_of_settle settles).trans ⟨rfl, rfl, rfl⟩
  · obtain ⟨settled, settles, entered⟩ := bind_eq_ok_iff.mp begun
    rw [(enterOnce_eq_ok_iff.mp entered).2.2]
    exact (keeps_of_settle settles).trans ⟨rfl, rfl, rfl⟩
  · obtain ⟨settled, settles, waits⟩ := bind_eq_ok_iff.mp begun
    cases waits
    exact (keeps_of_settle settles).trans ⟨rfl, rfl, rfl⟩

theorem keeps_of_readLong {attached : Option String} (read : level.readLong name attached = .ok next) :
    level.Keeps next := by
  rw [readLong] at read
  split at read
  · split at read
    · cases read
    · exact absurd read stop_ne_ok
  · split at read
    · exact keeps_of_beginOption read
    · cases read

theorem keeps_of_readLetters {letters : List Char} (read : level.readLetters letters = .ok next) :
    level.Keeps next := by
  induction letters generalizing level with
  | nil =>
    cases read
    exact .refl _
  | cons letter rest ih =>
    rw [readLetters] at read
    split at read
    · exact absurd read stop_ne_ok
    · split at read
      · exact absurd read stop_ne_ok
      · split at read
        · cases read
        · split at read
          · exact keeps_of_beginOption read
          · obtain ⟨begun, first, others⟩ := bind_eq_ok_iff.mp read
            exact (keeps_of_beginOption first).trans (ih others)

theorem keeps_of_readOperand (read : level.readOperand word = .ok next) : level.Keeps next := by
  rw [readOperand] at read
  split at read
  · obtain ⟨settled, settles, begun⟩ := bind_eq_ok_iff.mp read
    cases begun
    exact (keeps_of_settle settles).trans ⟨rfl, rfl, rfl⟩
  · split at read <;> cases read

theorem keeps_of_readWord (read : level.readWord word = .ok next) (harmless : word ≠ "--") : level.Keeps next := by
  rw [readWord] at read
  split at read
  · exact keeps_of_readOperand read
  · split at read
    next escapes =>
      exact absurd (Word.of_eq_escape_iff.mp escapes) harmless
    · exact keeps_of_readLong read
    · exact keeps_of_readLetters read
    · cases read
      exact ⟨rfl, rfl, rfl⟩
    · exact keeps_of_readOperand read

theorem known_of_readWord (read : level.readWord word = .ok next) :
    next.grammar = level.grammar ∧ next.options = level.options := by
  by_cases escape : word = "--"
  · rw [readWord] at read
    split at read
    · have keeps := keeps_of_readOperand read
      exact ⟨keeps.grammar, keeps.options⟩
    · rw [Word.of_eq_escape_iff.mpr escape] at read
      cases read
      exact ⟨rfl, rfl⟩
  · have keeps := keeps_of_readWord read escape
    exact ⟨keeps.grammar, keeps.options⟩

/-- Whether the next word is read as a command, if it is the name of one. -/
def begins (word : String) (level : Level) : Bool :=
  !level.onlyOperands && !level.isAwaiting && level.isCommand word

end Level

/-- The commands that names lead to. -/
inductive Grammar.Opens (root : Grammar) : List String → Grammar → Prop where
  | root : Opens root [] root
  | command {path : List String} {grammar inner : Grammar} {name : String} : Opens root path grammar →
      grammar.commands.lookup name = some inner → Opens root (path ++ [name]) inner

namespace Reading

variable {globals : List OptionSpec} {root : Grammar} {words path : List String} {inner next : Level}
  {outer below : List Level} {word : String}

def after (globals : List OptionSpec) (root : Grammar) (words : List String) : Except Usage Reading :=
  words.foldlM (step globals) (.levels [] (.ofGrammar globals root) [])

theorem read_eq_ok_iff {environment : Given} {result : List String × Given} :
    read globals root environment words = .ok result ↔
      ∃ path inner outer, after globals root words = .ok (.levels path inner outer) ∧
        finish environment (.levels path inner outer) = .ok result := by
  rw [read, bind_eq_ok_iff]
  constructor
  · rintro ⟨reading, reached, finished⟩
    cases reading with
    | levels path inner outer => exact ⟨path, inner, outer, reached, finished⟩
    | helping commands => cases finished
  · rintro ⟨path, inner, outer, reached, finished⟩
    exact ⟨_, reached, finished⟩

/-- The levels that words lead to, one word after the other. -/
inductive Reached (globals : List OptionSpec) (root : Grammar) :
    (words path : List String) → Level → List Level → Prop where
  | start : Reached globals root [] [] (.ofGrammar globals root) []
  | command {words path : List String} {inner : Level} {outer : List Level} {name : String} {grammar : Grammar} :
      Reached globals root words path inner outer → inner.begins name = true →
      inner.grammar.commands.lookup name = some grammar →
      Reached globals root (words ++ [name]) (path ++ [name]) (.ofGrammar globals grammar) (inner :: outer)
  | word {words path : List String} {inner next : Level} {outer : List Level} {word : String} :
      Reached globals root words path inner outer → inner.begins word = false → inner.readWord word = .ok next →
      Reached globals root (words ++ [word]) path next outer

theorem step_command {grammar : Grammar} (begins : inner.begins word = true)
    (found : inner.grammar.commands.lookup word = some grammar) :
    step globals (.levels path inner outer) word =
      .ok (.levels (path ++ [word]) (.ofGrammar globals grammar) (inner :: outer)) := by
  rw [step, ← Level.begins, if_pos begins, found]

theorem step_word (argument : inner.begins word = false) :
    step globals (.levels path inner outer) word = (inner.readWord word).map fun inner => .levels path inner outer := by
  rw [step, ← Level.begins, argument]
  rfl

theorem exists_of_step {reading : Reading} (stepped : step globals reading word = .ok (.levels path next outer)) :
    ∃ earlier inner below, reading = .levels earlier inner below ∧
      ((∃ grammar, inner.begins word = true ∧ inner.grammar.commands.lookup word = some grammar ∧
        path = earlier ++ [word] ∧ next = .ofGrammar globals grammar ∧ outer = inner :: below) ∨
      (inner.begins word = false ∧ inner.readWord word = .ok next ∧ path = earlier ∧ outer = below)) := by
  -- Once help was asked for, no word leads back to levels.
  cases reading with
  | helping commands =>
    rw [step, help] at stepped
    split at stepped
    · cases stepped
    · split at stepped <;> cases stepped
  | levels earlier inner below =>
    refine ⟨earlier, inner, below, rfl, ?_⟩
    cases begins : inner.begins word with
    | true =>
      rw [step, ← Level.begins, if_pos begins] at stepped
      cases found : inner.grammar.commands.lookup word with
      | some grammar =>
        rw [found] at stepped
        cases stepped
        exact .inl ⟨grammar, rfl, rfl, rfl, rfl, rfl⟩
      | none =>
        rw [found] at stepped
        cases stepped
    | false =>
      rw [step_word begins] at stepped
      obtain ⟨_, read, same⟩ := map_eq_ok_iff.mp stepped
      cases same
      exact .inr ⟨rfl, read, rfl, rfl⟩

theorem after_append (words more : List String) :
    after globals root (words ++ more) =
      after globals root words >>= fun reading => more.foldlM (step globals) reading :=
  List.foldlM_append

theorem after_snoc (words : List String) (word : String) :
    after globals root (words ++ [word]) = after globals root words >>= fun reading => step globals reading word := by
  rw [after_append]
  congr 1
  funext reading
  exact bind_pure _

theorem reached_iff :
    Reached globals root words path inner outer ↔ after globals root words = .ok (.levels path inner outer) := by
  constructor
  · intro reached
    induction reached with
    | start => rfl
    | command _ begins found ih =>
      rw [after_snoc, ih]
      exact step_command begins found
    | word _ argument read ih =>
      rw [after_snoc, ih]
      exact (step_word argument).trans (by rw [read]; rfl)
  · intro read
    -- Each constructor adds the last word, so the induction is on the end of the line.
    induction words using List.reverseRecOn generalizing path inner outer with
    | nil =>
      cases read
      exact .start
    | append_singleton words word ih =>
      rw [after_snoc] at read
      obtain ⟨reading, earlier, stepped⟩ := bind_eq_ok_iff.mp read
      obtain ⟨_, _, _, rfl, ⟨_, begins, found, rfl, rfl, rfl⟩ | ⟨argument, read, rfl, rfl⟩⟩ := exists_of_step stepped
      · exact .command (ih earlier) begins found
      · exact .word (ih earlier) argument read

/-! What all levels have in common. -/

structure IsLevelOf (globals : List OptionSpec) (root : Grammar) (path : List String) (level : Level) : Prop where
  grammar : root.Opens path level.grammar
  options : level.options = level.grammar.withGlobals globals

theorem Reached.isLevelOf (reached : Reached globals root words path inner outer) :
    IsLevelOf globals root path inner ∧ ∀ level ∈ outer, ∃ path, IsLevelOf globals root path level := by
  induction reached with
  | start => exact ⟨⟨.root, rfl⟩, by simp⟩
  | command _ _ found ih =>
    refine ⟨⟨.command ih.1.grammar found, rfl⟩, ?_⟩
    rintro level (_ | ⟨_, listed⟩)
    · exact ⟨_, ih.1⟩
    · exact ih.2 level listed
  | word _ _ read ih =>
    obtain ⟨grammar, options⟩ := Level.known_of_readWord read
    exact ⟨⟨grammar ▸ ih.1.grammar, by rw [options, grammar, ih.1.options]⟩, ih.2⟩

theorem Reached.onlyOperands (reached : Reached globals root words path inner outer) (harmless : "--" ∉ words) :
    inner.onlyOperands = false := by
  induction reached with
  | start => rfl
  | command _ _ _ _ => rfl
  | word _ _ read ih =>
    simp only [List.mem_append, List.mem_singleton, not_or] at harmless
    exact (Level.keeps_of_readWord read (Ne.symm harmless.2)).onlyOperands.trans (ih harmless.1)

theorem Reached.exists_before (reached : Reached globals root words path inner outer) {earlier later : List String}
    {name : String} (passed : path = earlier ++ name :: later) :
    ∃ before behind, words = before ++ name :: behind ∧
      (∃ inner outer, Reached globals root before earlier inner outer) ∧
      ∃ inner outer, Reached globals root (before ++ [name]) (earlier ++ [name]) inner outer := by
  induction reached generalizing later with
  | start => simp at passed
  | @command words path inner outer last _ reached begins found ih =>
    rcases List.eq_nil_or_concat' later with rfl | ⟨later, final, rfl⟩
    · obtain ⟨rfl, ⟨rfl⟩⟩ := List.append_inj' passed rfl
      exact ⟨words, [], rfl, ⟨_, _, reached⟩, _, _, .command reached begins found⟩
    · rw [← List.cons_append, ← List.append_assoc] at passed
      obtain ⟨rfl, -⟩ := List.append_inj' passed rfl
      obtain ⟨before, behind, rfl, leads⟩ := ih rfl
      exact ⟨before, behind ++ [last], by simp, leads⟩
  | @word _ _ _ _ _ last _ _ _ ih =>
    obtain ⟨before, behind, rfl, leads⟩ := ih passed
    exact ⟨before, behind ++ [last], by simp, leads⟩

/-! The levels below. -/

def onTop (below : List Level) : Reading → Reading
  | levels path inner outer => .levels path inner (outer ++ below)
  | helping commands => .helping commands

theorem step_onTop (reading : Reading) :
    step globals (reading.onTop below) word = (step globals reading word).map (onTop below) := by
  cases reading with
  | helping commands =>
    change help word commands = (help word commands).map (onTop below)
    rw [help]
    split
    · rfl
    · split <;> rfl
  | levels path inner outer =>
    change step globals (.levels path inner (outer ++ below)) word = _
    rw [step, step]
    split
    · split <;> rfl
    · cases inner.readWord word <;> rfl

theorem foldlM_onTop (words : List String) (reading : Reading) :
    words.foldlM (step globals) (reading.onTop below) = (words.foldlM (step globals) reading).map (onTop below) := by
  induction words generalizing reading with
  | nil => rfl
  | cons word rest ih =>
    rw [List.foldlM_cons, List.foldlM_cons, step_onTop]
    cases step globals reading word with
    | error usage => rfl
    | ok next => exact ih next

theorem after_command {name : String} {grammar : Grammar}
    (here : after globals root words = .ok (.levels path inner outer)) (begins : inner.begins name = true)
    (found : inner.grammar.commands.lookup name = some grammar) (behind : List String) :
    after globals root (words ++ name :: behind) = behind.foldlM (step globals)
      ((levels (path ++ [name]) (.ofGrammar globals grammar) []).onTop (inner :: outer)) := by
  rw [after_append, here]
  change (name :: behind).foldlM (step globals) (.levels path inner outer) = _
  rw [List.foldlM_cons, step_command begins found]
  rfl

theorem exists_above {reading : Reading}
    (read : words.foldlM (step globals) (reading.onTop below) = .ok (.levels path inner outer)) :
    ∃ above, outer = above ++ below ∧ ∀ others,
      words.foldlM (step globals) (reading.onTop others) = .ok (.levels path inner (above ++ others)) := by
  rw [foldlM_onTop, map_eq_ok_iff] at read
  obtain ⟨top, reached, placed⟩ := read
  cases top with
  | helping commands => cases placed
  | levels path inner above =>
    cases placed
    refine ⟨above, rfl, fun others => ?_⟩
    rw [foldlM_onTop, reached]
    rfl

end Reading

end TokenDesk.CommandLine
