import TokenDesk.Proofs.Rpc.Session

/-! Runs on a node that reports its chain.

The chain is asked for when it is first needed, and kept for the session. A computation
made of several parts therefore meets one chain in all of them, whichever part asks.
-/

set_option autoImplicit false

namespace TokenDesk

/-- Every answer to the question for the network says that it is this chain. -/
def Rpc.Reports (url : String) (chain : ChainId) (log : List HostEvent) : Prop :=
  ∀ id reply, .posted url (request id "net_version" []) reply ∈ log →
    textOf "net_version" parseNetworkVersion reply = .ok chain

/-- What the session remembers of the network, if anything, is this chain. -/
def Rpc.Session.Knows (session : Session) (chain : ChainId) : Prop :=
  ∀ known ∈ session.network, known = chain

theorem Rpc.reports_append_iff {url : String} {chain : ChainId} {log more : List HostEvent} :
    Reports url chain (log ++ more) ↔ Reports url chain log ∧ Reports url chain more := by
  simp only [Reports, List.mem_append, or_imp, forall_and]

/-- The node is asked for its network, and for nothing else. -/
def Rpc.AsksNetwork (url : String) (log : List HostEvent) : Prop :=
  ∀ event ∈ log, ∃ id reply, event = .posted url (request id "net_version" []) reply

theorem Rpc.AsksNetwork.nil {url : String} : AsksNetwork url [] :=
  fun _ listed => by cases listed

theorem Rpc.AsksNetwork.append {url : String} {log more : List HostEvent} (asks : AsksNetwork url log)
    (later : AsksNetwork url more) : AsksNetwork url (log ++ more) :=
  fun event listed => (List.mem_append.mp listed).elim (asks event) (later event)

theorem Rpc.Posts.asksNetwork {url : String} {reply : Except String HttpReply} {log : List HostEvent}
    (posts : Posts url "net_version" [] reply log) : AsksNetwork url log := by
  obtain ⟨id, rfl⟩ := posts
  exact List.forall_mem_singleton.mpr ⟨id, reply, rfl⟩

theorem Rpc.Posts.reports {url : String} {chain : ChainId} {reply : Except String HttpReply} {log : List HostEvent}
    (posts : Posts url "net_version" [] reply log) (reports : Reports url chain log) :
    textOf "net_version" parseNetworkVersion reply = .ok chain := by
  obtain ⟨id, rfl⟩ := posts
  exact reports id reply List.mem_cons_self

variable {m : Type → Type} [Monad m] {trace : Trace m HostEvent} {α β ε ε' : Type}

namespace Trace

/-- The same trace of computations that leave the network of the session alone. -/
def keeping (trace : Trace m HostEvent) : Trace (Rpc.Requests m) HostEvent where
  Emits x P := ∀ session, trace.Emits (x.run session) fun log outcome =>
    outcome.2.network = session.network ∧ P log outcome.1
  emits_pure holds session := trace.emits_pure ⟨rfl, holds⟩
  emits_bind emits others session := by
    rw [StateT.run_bind]
    refine trace.emits_bind (emits session) fun log outcome ⟨kept, holds⟩ => ?_
    exact trace.emits_mono (others log outcome.1 holds outcome.2) fun _ _ later => ⟨later.1.trans kept, later.2⟩
  emits_mono emits weaker session := trace.emits_mono (emits session) fun log outcome =>
    And.imp_right (weaker log outcome.1)

theorem beside_of_keeping {x : Rpc.Requests m α} {P : List HostEvent → α → Prop} (emits : trace.keeping.Emits x P) :
    (trace.beside Rpc.Session).Emits x P :=
  fun session => trace.emits_mono (emits session) fun _ _ => And.right

theorem emits_after_kept {first : ExceptT ε (Rpc.Requests m) α} {next : α → ExceptT ε (Rpc.Requests m) β}
    {First : List HostEvent → Except ε α → Prop} {Next : α → List HostEvent → Except ε β → Prop}
    (emits : trace.keeping.Emits first.run First)
    (others : ∀ value, (trace.beside Rpc.Session).Emits (next value).run (Next value)) :
    (trace.beside Rpc.Session).Emits (first >>= next).run (Chained First Next) :=
  (trace.beside Rpc.Session).emits_chained (beside_of_keeping emits) others

theorem emits_keeping_lift [LawfulMonad m] {x : m α} {P : List HostEvent → α → Prop} (emits : trace.Emits x P) :
    trace.keeping.Emits (liftM x) P := by
  intro session
  rw [Rpc.run_liftM]
  exact trace.emits_map (trace.emits_mono emits fun _ _ holds => ⟨rfl, holds⟩)

end Trace

namespace Rpc

/-- On a node that reports a chain, and where the session remembers no other, each run goes like this. -/
def OnNode (trace : Trace m HostEvent) (url : String) (x : ExceptT ε (Requests m) α)
    (Goes : ChainId → List HostEvent → Except ε α → Prop) : Prop :=
  ∀ session : Session, trace.Emits (x.run.run session) fun log outcome =>
    ∀ chain, session.Knows chain → Reports url chain log → Goes chain log outcome.1

/-- The same, and the session remembers no other chain after the run either. -/
def Learns (trace : Trace m HostEvent) (url : String) (x : ExceptT ε (Requests m) α)
    (Goes : ChainId → List HostEvent → Except ε α → Prop) : Prop :=
  ∀ session : Session, trace.Emits (x.run.run session) fun log outcome =>
    ∀ chain, session.Knows chain → Reports url chain log → outcome.2.Knows chain ∧ Goes chain log outcome.1

variable {url : String} {first : ExceptT ε (Requests m) α} {next : α → ExceptT ε (Requests m) β}
  {First Goes : ChainId → List HostEvent → Except ε α → Prop}

namespace Learns

theorem bind {Ends : ChainId → List HostEvent → Except ε β × Session → Prop} (learns : Learns trace url first First)
    (stops : ∀ chain log cause session, session.Knows chain → First chain log (.error cause) →
      Ends chain log (.error cause, session))
    (goes_on : ∀ value session, trace.Emits ((next value).run.run session) fun more outcome => ∀ chain log,
      session.Knows chain → Reports url chain more → First chain log (.ok value) → Ends chain (log ++ more) outcome)
    (session : Session) : trace.Emits ((first >>= next).run.run session) fun log outcome =>
      ∀ chain, session.Knows chain → Reports url chain log → Ends chain log outcome := by
  rw [ExceptT.run_bind, StateT.run_bind]
  refine trace.emits_bind (learns session) ?_
  rintro log ⟨cause | value, middle⟩ holds
  · refine trace.emits_pure fun chain knows reports => ?_
    rw [List.append_nil] at reports ⊢
    exact stops chain log cause middle (holds chain knows reports).1 (holds chain knows reports).2
  · refine trace.emits_mono (goes_on value middle) fun more outcome later chain knows reports => ?_
    -- Either part of the log reports the chain, so both parts are read for the same one.
    obtain ⟨reports_first, reports_more⟩ := reports_append_iff.mp reports
    obtain ⟨knows_middle, here⟩ := holds chain knows reports_first
    exact later chain log knows_middle reports_more here

theorem chained {Next : α → ChainId → List HostEvent → Except ε β → Prop} (learns : Learns trace url first First)
    (others : ∀ value, Learns trace url (next value) (Next value)) :
    Learns trace url (first >>= next) fun chain => Chained (First chain) fun value => Next value chain := by
  refine learns.bind (fun _ _ _ _ knows failed => ⟨knows, .stopped failed⟩) fun value session => ?_
  refine trace.emits_mono (others value session) fun _ _ later chain log knows reports here => ?_
  exact (later chain knows reports).imp_right (.continued here)

theorem mono (learns : Learns trace url first First)
    (weaker : ∀ chain log result, First chain log result → Goes chain log result) : Learns trace url first Goes :=
  fun session => trace.emits_mono (learns session) fun log outcome holds chain knows reports =>
    (holds chain knows reports).imp_right (weaker chain log outcome.1)

theorem of_kept {P : List HostEvent → Except ε α → Prop} (kept : trace.keeping.Emits first.run P) :
    Learns trace url first fun _ => P := by
  intro session
  refine trace.emits_mono (kept session) ?_
  rintro _ ⟨_, after⟩ ⟨same, holds⟩ chain knows -
  exact ⟨by rwa [Session.Knows, same], holds⟩

theorem yields (known : Except ε α) :
    Learns trace url (liftM known : ExceptT ε (Requests m) α) fun _ => Yields known :=
  .of_kept (trace.keeping.emits_yields known)

theorem optional [LawfulMonad m] (learns : Learns trace url first First) :
    Learns trace url (tryCatch (some <$> first) fun _ => pure none) fun chain log result =>
      ∃ read, First chain log read ∧ result = .ok read.toOption := by
  have mapped : Learns trace url (some <$> first) fun chain log result =>
      ∃ read, First chain log read ∧ result = read.map some := by
    rw [map_eq_pure_bind]
    refine learns.bind (fun _ _ _ _ knows failed => ⟨knows, _, failed, rfl⟩) fun value session => ?_
    refine trace.emits_pure fun chain log knows _ here => ⟨knows, .ok value, ?_, rfl⟩
    rwa [List.append_nil]
  intro session
  refine trace.emits_bind (mapped session) ?_
  rintro log ⟨_ | _, after⟩ holds
  all_goals
    refine trace.emits_pure fun chain knows reports => ?_
    rw [List.append_nil] at reports ⊢
    obtain ⟨knows_after, read, here, same⟩ := holds chain knows reports
    refine ⟨knows_after, read, here, ?_⟩
    cases read <;> cases same
    rfl

theorem mapM [LawfulMonad m] {One : β → ChainId → List HostEvent → Except ε α → Prop}
    {each : β → ExceptT ε (Requests m) α} (learns : ∀ item, Learns trace url (each item) (One item)) (items : List β) :
    Learns trace url (items.mapM each) fun chain => InTurn (fun item => One item chain) items := by
  induction items with
  | nil => exact .yields (.ok [])
  | cons item rest ih =>
    rw [List.mapM_cons]
    exact (learns item).chained fun value => ih.chained fun values => .yields (.ok (value :: values))

end Learns

namespace OnNode

theorem chained {Next : α → ChainId → List HostEvent → Except ε β → Prop} (learns : Learns trace url first First)
    (others : ∀ value, OnNode trace url (next value) (Next value)) :
    OnNode trace url (first >>= next) fun chain => Chained (First chain) fun value => Next value chain := by
  refine learns.bind (fun _ _ _ _ _ failed => .stopped failed) fun value session => ?_
  exact trace.emits_mono (others value session) fun _ _ later chain _ knows reports here =>
    .continued here (later chain knows reports)

theorem mono (runs : OnNode trace url first First)
    (weaker : ∀ chain log result, First chain log result → Goes chain log result) : OnNode trace url first Goes :=
  fun session => trace.emits_mono (runs session) fun log outcome holds chain knows reports =>
    weaker chain log outcome.1 (holds chain knows reports)

theorem of_beside {P : List HostEvent → Except ε α → Prop} (emits : (trace.beside Session).Emits first.run P) :
    OnNode trace url first fun _ => P :=
  fun session => trace.emits_mono (emits session) fun _ _ holds _ _ _ => holds

theorem bindExcept [LawfulMonad m] {known : Except ε α} {Goes : ChainId → List HostEvent → Except ε β → Prop}
    (stops : ∀ chain cause, known = .error cause → Goes chain [] (.error cause))
    (goes_on : ∀ value, known = .ok value → OnNode trace url (next value) Goes) :
    OnNode trace url (liftM known >>= next) Goes := by
  cases known with
  | error cause =>
    rw [bind_liftM_error]
    exact fun session => trace.emits_pure fun chain _ _ => stops chain cause rfl
  | ok value =>
    rw [bind_liftM_ok]
    exact goes_on value rfl

end OnNode

variable [LawfulMonad m] (client : Client m) (seen : client.web.IsSeen trace)
include seen

theorem Client.askText_kept (method : String) (params : List Json) (read : String → Except Fault α) :
    trace.keeping.Emits (client.askText method params read).run fun log answer =>
      ∃ reply, answer = textOf method read reply ∧ Posts client.url method params reply log := by
  intro session
  refine trace.emits_mono (client.askText_from seen method params read session) ?_
  rintro _ _ ⟨reply, rfl, rfl⟩
  exact ⟨rfl, reply, rfl, session.nextId, rfl⟩

/-- The question for the network is asked at most once a session, and the chain is what was answered. -/
theorem Client.networkId_from (session : Session) :
    trace.Emits (client.networkId.run.run session) fun log outcome =>
      (log = [] ∨ session.network = none ∧ ∃ reply, Posts client.url "net_version" [] reply log) ∧
        ∀ chain, session.Knows chain → Reports client.url chain log →
          outcome.2.Knows chain ∧ outcome.1 = .ok chain := by
  obtain ⟨nextId, _ | known⟩ := session
  · refine trace.emits_mono (client.networkId_unknown seen nextId) ?_
    rintro log outcome ⟨reply, rfl, rfl⟩
    have posts : Posts client.url "net_version" [] reply _ := ⟨nextId, rfl⟩
    refine ⟨.inr ⟨rfl, reply, posts⟩, fun chain _ reports => ?_⟩
    rw [posts.reports reports]
    exact ⟨fun _ same => (Option.some.inj same).symm, rfl⟩
  · refine trace.emits_mono (client.networkId_known nextId known) ?_
    rintro log outcome ⟨rfl, rfl⟩
    exact ⟨.inl rfl, fun chain knows _ => ⟨knows, congrArg _ (knows known rfl)⟩⟩

end Rpc

end TokenDesk
