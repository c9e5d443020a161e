import TokenDesk.Command
import TokenDesk.Proofs.Address.Tagged
import TokenDesk.Proofs.Desk.Quiet
import TokenDesk.Proofs.Rpc.Network

/-! Destinations that a person types and destinations in a batch file.

A typed text is tried as hexadecimal text before the node is asked for its chain, and the
chain is kept for the session. In the end the text stands for an address exactly if it
does so in a batch file that is read on the same node. Texts that are typed together are
read one after another, in the same way.
-/

set_option autoImplicit false

namespace TokenDesk

open Rpc (Learns Session)

def Settings.taggedChain (settings : Settings) (chain : ChainId) : Option ChainId :=
  if settings.blockchain.hasTaggedAddresses then some chain else none

/-- The address that a text stands for in a batch file that is read on a node of the chain. -/
def Settings.destination (settings : Settings) (chain : ChainId) (text : String) : Except AddressError Address :=
  Address.parseDestination (settings.taggedChain chain) text

/-- Whether a text cannot be read without the chain. -/
def Settings.NeedsChain (settings : Settings) (text : String) : Prop :=
  settings.blockchain.hasTaggedAddresses ∧ (∀ address, Address.parseHex text ≠ .ok address) ∧
    Address.tag <+: text.toList

/-- No text is both hexadecimal and tagged, and one that is not hexadecimal is the text that is written for its
address and the chain of the node. -/
theorem Address.destination_forms (settings : Settings) (text : String) :
    (∀ chain address other, ¬ (parseHex text = .ok address ∧ parseTagged chain text = .ok other)) ∧
    ∀ chain address, parseDestination (settings.taggedChain chain) text = .ok address →
      (∀ other, parseHex text ≠ .ok other) → settings.blockchain.hasTaggedAddresses ∧ text = address.tagged chain := by
  refine ⟨?_, ?_⟩
  · rintro chain address other ⟨hex, tagged⟩
    rw [parseTagged_eq_ok_iff.mp tagged, parseHex_tagged] at hex
    cases hex
  · intro chain address read no_hex
    rcases parseDestination_eq_ok_iff.mp read with hex | ⟨given, same, written⟩
    · exact absurd hex (no_hex address)
    · rw [Settings.taggedChain] at same
      split_ifs at same with tagged
      cases same
      exact ⟨tagged, written⟩

theorem Settings.NeedsChain.of_read {settings : Settings} {text : String} {chain : ChainId} {address : Address}
    (read : settings.destination chain text = .ok address) (no_hex : ∀ other, Address.parseHex text ≠ .ok other) :
    settings.NeedsChain text := by
  obtain ⟨has_tags, rfl⟩ := (Address.destination_forms settings text).2 chain address read no_hex
  refine ⟨has_tags, no_hex, ?_⟩
  rw [Address.tagged, String.toList_ofList]
  exact ⟨_, rfl⟩

theorem Settings.destination_of_hex {settings : Settings} {text : String} {address : Address}
    (hex : Address.parseHex text = .ok address) (chain : ChainId) (other : Address) :
    settings.destination chain text = .ok other ↔ address = other := by
  rw [destination, Address.parseDestination_eq_ok_iff, hex]
  constructor
  · rintro (same | ⟨chain, -, rfl⟩)
    · exact Except.ok.inj same
    · cases hex.symm.trans (Address.parseHex_tagged chain other)
  · exact fun same => .inl (congrArg _ same)

theorem Settings.needsChain_iff {settings : Settings} {text : String}
    (no_hex : ∀ address, Address.parseHex text ≠ .ok address) :
    settings.NeedsChain text ↔
      (settings.blockchain.hasTaggedAddresses && (Text.stripStart? Address.tag text.toList).isSome) = true := by
  rw [Bool.and_eq_true, Text.isSome_stripStart?_iff]
  exact ⟨fun needs => ⟨needs.1, needs.2.2⟩, fun tagged => ⟨tagged.1, no_hex, tagged.2⟩⟩

/-- The node is asked for its network at most, and only if one of the texts cannot be read without. -/
def AsksChain (settings : Settings) (texts : List String) (log : List HostEvent) : Prop :=
  Rpc.AsksNetwork settings.rpcUrl log ∧ (log ≠ [] → ∃ text ∈ texts, settings.NeedsChain text)

/-- A typed text is read as in a batch file on a node of the chain. -/
structure Resolves (settings : Settings) (chain : ChainId) (text : String) (log : List HostEvent)
    (result : Except Failure Address) : Prop where
  asks : AsksChain settings [text] log
  ok_iff : ∀ address, result = .ok address ↔ settings.destination chain text = .ok address
  failure : ∀ failure, result = .error failure → ∃ cause, failure = .during (.parseAddress text) (.address cause)

def Settings.destinations (settings : Settings) (chain : ChainId) (texts : List String) : List Address :=
  texts.filterMap fun text => (settings.destination chain text).toOption

theorem Settings.destinations_cons (settings : Settings) (chain : ChainId) (text : String) (rest : List String) :
    settings.destinations chain (text :: rest) =
      (settings.destination chain text).toOption.toList ++ settings.destinations chain rest := by
  rw [destinations, List.filterMap_cons]
  cases (settings.destination chain text).toOption <;> rfl

/-- Of the texts that are typed those count that can be read, and one has to. -/
def ResolvesSome (settings : Settings) (chain : ChainId) (texts : List String) (log : List HostEvent)
    (result : Except Failure (List Address)) : Prop :=
  AsksChain settings texts log ∧ result =
    if settings.destinations chain texts = [] then .error (.refused .noValidAddress)
    else .ok (settings.destinations chain texts)

namespace AsksChain

variable {settings : Settings} {texts more : List String} {log later : List HostEvent}

theorem nil : AsksChain settings texts [] :=
  ⟨.nil, fun asked => absurd rfl asked⟩

theorem mono (asks : AsksChain settings texts log) (among : texts ⊆ more) : AsksChain settings more log :=
  asks.imp_right fun needed asked => (needed asked).imp fun _ => And.imp_left (among ·)

theorem append (asks : AsksChain settings texts log) (goes_on : AsksChain settings texts later) :
    AsksChain settings texts (log ++ later) := by
  refine ⟨asks.1.append goes_on.1, fun asked => ?_⟩
  cases log with
  | nil => exact goes_on.2 asked
  | cons event rest => exact asks.2 nofun

end AsksChain

namespace Resolves

variable {settings : Settings} {text : String}

theorem of_hex {address : Address} (hex : Address.parseHex text = .ok address) (chain : ChainId) :
    Resolves settings chain text [] (.ok address) where
  asks := .nil
  ok_iff other := by
    rw [Settings.destination_of_hex hex]
    exact ⟨Except.ok.inj, congrArg _⟩
  failure failure failed := by cases failed

theorem of_not_needsChain (no_hex : ∀ address, Address.parseHex text ≠ .ok address)
    (unneeded : ¬ settings.NeedsChain text) (cause : AddressError) (chain : ChainId) :
    Resolves settings chain text [] (.error (.during (.parseAddress text) (.address cause))) where
  asks := .nil
  ok_iff address := by
    refine iff_of_false ?_ fun read => unneeded (.of_read read no_hex)
    rintro ⟨⟩
  failure := by
    rintro _ ⟨⟩
    exact ⟨cause, rfl⟩

end Resolves

variable {m : Type → Type} [Monad m] [LawfulMonad m] {trace : Trace m HostEvent} {desk : Desk m}

namespace Desk

variable {text : String} {cause : AddressError}

theorem parseAddress_of_needsChain (hex : Address.parseHex text = .error cause)
    (needs : desk.settings.NeedsChain text) :
    desk.parseAddress text = desk.chainId >>= fun chain =>
      liftM ((Address.parseDestination (some chain) text).mapError fun cause =>
        Failure.during (.parseAddress text) (.address cause)) := by
  unfold parseAddress
  rw [hex]
  dsimp only
  rw [if_pos ((Settings.needsChain_iff needs.2.1).mp needs), bind_map_left]

theorem parseAddress_of_not_needsChain (hex : Address.parseHex text = .error cause)
    (no_hex : ∀ address, Address.parseHex text ≠ .ok address) (unneeded : ¬ desk.settings.NeedsChain text) :
    desk.parseAddress text = throw (.during (.parseAddress text) (.address cause)) := by
  have untagged : Address.parseDestination none text = .error cause := by
    unfold Address.parseDestination
    rw [hex]
  unfold parseAddress
  rw [hex]
  dsimp only
  rw [if_neg (mt (Settings.needsChain_iff no_hex).mpr unneeded), pure_bind, untagged]
  rfl

variable (seen : desk.host.IsSeen trace)
include seen

theorem chainId_from (session : Session) :
    trace.Emits (desk.chainId.run.run session) fun log outcome =>
      (log = [] ∨ session.network = none ∧ ∃ reply, Rpc.Posts desk.settings.rpcUrl "net_version" [] reply log) ∧
        ∀ chain, session.Knows chain → Rpc.Reports desk.settings.rpcUrl chain log →
          outcome.2.Knows chain ∧ outcome.1 = .ok chain := by
  rw [chainId, Action.ofNode, ExceptT.run_adapt, StateT.run_map]
  refine trace.emits_map (trace.emits_mono (desk.client.networkId_from seen.web session) ?_)
  rintro log outcome ⟨asks, tells⟩
  refine ⟨asks, fun chain knows reports => ?_⟩
  obtain ⟨knows_after, answer⟩ := tells chain knows reports
  exact ⟨knows_after, by rw [answer]; rfl⟩

theorem parseAddress_asking (hex : Address.parseHex text = .error cause) (needs : desk.settings.NeedsChain text)
    (session : Session) :
    trace.Emits ((desk.parseAddress text).run.run session) fun log outcome =>
      (log = [] ∨ session.network = none ∧ ∃ reply, Rpc.Posts desk.settings.rpcUrl "net_version" [] reply log) ∧
        ∀ chain, session.Knows chain → Rpc.Reports desk.settings.rpcUrl chain log →
          outcome.2.Knows chain ∧ Resolves desk.settings chain text log outcome.1 := by
  rw [parseAddress_of_needsChain hex needs, ExceptT.run_bind, StateT.run_bind]
  refine trace.emits_bind (desk.chainId_from seen session) ?_
  rintro log ⟨result, next⟩ ⟨asks, tells⟩
  -- The one question is the only event, and its answer is all that the reading depends on.
  cases result with
  | error failure =>
    refine trace.emits_pure ?_
    rw [List.append_nil]
    exact ⟨asks, fun chain knows reports => by cases (tells chain knows reports).2⟩
  | ok found =>
    refine trace.emits_pure ?_
    rw [List.append_nil]
    refine ⟨asks, fun chain knows reports => ?_⟩
    obtain ⟨knows_after, same⟩ := tells chain knows reports
    cases same
    refine ⟨knows_after, ⟨?_, fun _ => ⟨text, List.mem_singleton_self text, needs⟩⟩, fun address => ?_,
      fun failure failed => ?_⟩
    · rcases asks with rfl | ⟨-, reply, posts⟩
      · exact .nil
      · exact posts.asksNetwork
    · rw [Settings.destination, Settings.taggedChain, if_pos needs.1]
      exact mapError_eq_ok_iff
    · obtain ⟨cause, -, same⟩ := mapError_eq_error_iff.mp failed
      exact ⟨cause, same.symm⟩

theorem parseAddress_from (text : String) (session : Session) :
    trace.Emits ((desk.parseAddress text).run.run session) fun log outcome =>
      (log = [] ∨ session.network = none ∧ desk.settings.NeedsChain text ∧
        ∃ reply, Rpc.Posts desk.settings.rpcUrl "net_version" [] reply log) ∧
      ∀ chain, session.Knows chain → Rpc.Reports desk.settings.rpcUrl chain log → outcome.2.Knows chain ∧
        Resolves desk.settings chain text log outcome.1 := by
  cases hex : Address.parseHex text with
  | ok address =>
    rw [parseAddress, hex]
    exact trace.emits_pure ⟨.inl rfl, fun chain knows _ => ⟨knows, Resolves.of_hex hex chain⟩⟩
  | error cause =>
    by_cases needs : desk.settings.NeedsChain text
    · refine trace.emits_mono (desk.parseAddress_asking seen hex needs session) ?_
      rintro log outcome ⟨asks, tells⟩
      exact ⟨asks.imp_right fun asked => ⟨asked.1, needs, asked.2⟩, tells⟩
    · have no_hex (address : Address) : Address.parseHex text ≠ .ok address := by
        rw [hex]
        rintro ⟨⟩
      rw [parseAddress_of_not_needsChain hex no_hex needs]
      exact trace.emits_pure ⟨.inl rfl, fun chain knows _ =>
        ⟨knows, Resolves.of_not_needsChain no_hex needs cause chain⟩⟩

theorem parseAddress_resolves (text : String) :
    Learns trace desk.settings.rpcUrl (desk.parseAddress text) fun chain => Resolves desk.settings chain text :=
  fun session => trace.emits_mono (desk.parseAddress_from seen text session) fun _ _ => And.right

theorem accountsToShow_resolves {texts : List String} (given : texts ≠ []) :
    Learns trace desk.settings.rpcUrl (accountsToShow desk texts) fun chain =>
      InTurn (Resolves desk.settings chain) texts := by
  rw [accountsToShow, if_pos (by simpa using given)]
  exact .mapM (fun text => desk.parseAddress_resolves seen text) texts

theorem validAddresses_resolves (texts : List String) :
    Learns trace desk.settings.rpcUrl (validAddresses desk texts) fun chain log result =>
      AsksChain desk.settings texts log ∧ result = .ok (desk.settings.destinations chain texts) := by
  induction texts with
  | nil => exact (Learns.yields (.ok [])).mono fun _ _ _ ⟨nothing, same⟩ => ⟨nothing ▸ .nil, same⟩
  | cons text rest ih =>
    have first := (desk.parseAddress_resolves seen text).optional
    refine (first.chained fun found => ih.chained fun others => .yields (.ok (found.toList ++ others))).mono ?_
    rintro chain _ _ (⟨_, _, ⟨⟩⟩ | ⟨⟨read, here, ⟨rfl⟩⟩, ⟨_, ⟨⟩⟩ | ⟨⟨asks, ⟨rfl⟩⟩, rfl, rfl⟩⟩)
    have same : read.toOption = (desk.settings.destination chain text).toOption :=
      Option.ext fun address => by rw [toOption_eq_some_iff, toOption_eq_some_iff, here.ok_iff]
    rw [List.append_nil, Settings.destinations_cons, ← same]
    exact ⟨(here.asks.mono (by simp)).append (asks.mono (by simp)), rfl⟩

theorem owners_resolves {texts : List String} (given : texts ≠ []) :
    Learns trace desk.settings.rpcUrl (owners desk texts) fun chain => ResolvesSome desk.settings chain texts := by
  have chosen (addresses : List Address) : Learns trace desk.settings.rpcUrl (do
      if addresses.isEmpty then throw (.refused .noValidAddress)
      return addresses : Action m (List Address)) fun _ =>
        Yields (if addresses = [] then .error (.refused .noValidAddress) else .ok addresses) := by
    cases addresses with
    | nil => exact .of_kept (trace.keeping.emits_throw_bind (Failure.refused .noValidAddress) _)
    | cons first rest => exact .yields (.ok (first :: rest))
  rw [owners, if_neg (by simpa using given)]
  refine ((desk.validAddresses_resolves seen texts).chained chosen).mono ?_
  rintro chain _ _ (⟨_, ⟨⟩⟩ | ⟨⟨asks, ⟨rfl⟩⟩, rfl, rfl⟩)
  rw [List.append_nil]
  exact ⟨asks, rfl⟩

theorem batchChain_learns :
    Learns trace desk.settings.rpcUrl (batchChain desk) fun chain log result =>
      Rpc.AsksNetwork desk.settings.rpcUrl log ∧ (log ≠ [] → desk.settings.blockchain.hasTaggedAddresses) ∧
        result = .ok (if desk.settings.blockchain.hasTaggedAddresses then chain else default) := by
  unfold batchChain
  split_ifs with tagged
  · intro session
    refine trace.emits_mono (desk.chainId_from seen session) ?_
    rintro log outcome ⟨asks, tells⟩ chain knows reports
    obtain ⟨knows_after, same⟩ := tells chain knows reports
    refine ⟨knows_after, ?_, fun _ => tagged, same⟩
    rcases asks with rfl | ⟨-, reply, posts⟩
    · exact .nil
    · exact posts.asksNetwork
  · refine (Learns.yields (.ok default)).mono ?_
    rintro chain _ _ ⟨rfl, rfl⟩
    exact ⟨.nil, fun asked => absurd rfl asked, rfl⟩

end Desk

end TokenDesk
