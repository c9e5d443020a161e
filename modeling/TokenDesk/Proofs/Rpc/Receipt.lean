import TokenDesk.Proofs.Results
import TokenDesk.Proofs.Rpc.Calls

/-! Waiting for receipts, and what they say of a transaction.

A receipt is asked for until there is one. If it can be read it says that the
transaction took effect, or that it did not.
-/

set_option autoImplicit false

namespace TokenDesk.Rpc

/-- The status in a receipt, which is an object or a list. -/
def statusOf : Json → Option Json
  | .object members => members.lookup "status"
  | .array items => items[1]?
  | _ => none

/-- The transaction took effect: the receipt has no status, or the status one. -/
def SaysMined (receipt : Json) : Prop :=
  statusOf receipt = none ∨ statusOf receipt = some .null ∨
    ∃ text, statusOf receipt = some (.string text) ∧ parseWord text = .ok 1

/-- The transaction was mined without effect: the status is another number. -/
def SaysFailed (receipt : Json) : Prop :=
  ∃ text word, statusOf receipt = some (.string text) ∧ parseWord text = .ok word ∧ word ≠ 1

theorem SaysMined.not_saysFailed {receipt : Json} (mined : SaysMined receipt) : ¬ SaysFailed receipt := by
  rintro ⟨text, word, status, read, other⟩
  rcases mined with none_given | null | ⟨same, known, one⟩
  · rw [none_given] at status
    cases status
  · rw [null] at status
    cases status
  · rw [known] at status
    cases status
    rw [one] at read
    exact other (Except.ok.inj read).symm

theorem optionalText_statusOf {json : Json} {texts : ReceiptTexts} (read : ReceiptTexts.ofJson json = .ok texts) :
    optionalText (statusOf json) = .ok texts.status := by
  -- A list has the status behind the gas, and an object under its name.
  cases json with
  | object members =>
    obtain ⟨contract, -, others⟩ := bind_eq_ok_iff.mp read
    obtain ⟨gasUsed, -, last⟩ := bind_eq_ok_iff.mp others
    obtain ⟨status, known, given⟩ := bind_eq_ok_iff.mp last
    cases gasUsed with
    | none => cases given
    | some gasUsed =>
      cases given
      exact known
  | array items =>
    cases items with
    | nil => cases read
    | cons gasUsed more =>
      obtain ⟨gas, -, others⟩ := bind_eq_ok_iff.mp read
      obtain ⟨status, known, last⟩ := bind_eq_ok_iff.mp others
      obtain ⟨contract, -, given⟩ := bind_eq_ok_iff.mp last
      dsimp only at given
      split at given
      · cases given
      · cases given
        exact known
  | _ => cases read

theorem optionalText_eq_ok_iff {json : Option Json} {text : Option String} :
    optionalText json = .ok text ↔
      ((json = none ∨ json = some .null) ∧ text = none) ∨ ∃ known, json = some (.string known) ∧ text = some known := by
  rcases json with _ | _ | _ | _ | _ | _ | _ <;>
    simp [optionalText, Json.asString, Except.map, eq_comm]

theorem parseReceipt_says {tx : TxId} {json : Json} {receipt : Receipt} (read : parseReceipt tx json = .ok receipt) :
    (receipt.success = true ∧ SaysMined json) ∨ (receipt.success = false ∧ SaysFailed json) := by
  obtain ⟨texts, has_texts, others⟩ := bind_eq_ok_iff.mp read
  obtain ⟨gasUsed, -, later⟩ := bind_eq_ok_iff.mp others
  obtain ⟨status, has_status, last⟩ := bind_eq_ok_iff.mp later
  obtain ⟨contract, -, given⟩ := bind_eq_ok_iff.mp last
  cases given
  have known := optionalText_eq_ok_iff.mp (optionalText_statusOf (mapError_eq_ok_iff.mp has_texts))
  rcases known with ⟨absent, no_text⟩ | ⟨text, present, some_text⟩
  · rw [no_text] at has_status
    cases has_status
    exact .inl ⟨rfl, absent.elim .inl fun null => .inr (.inl null)⟩
  · rw [some_text] at has_status
    obtain ⟨word, has_word, ⟨⟩⟩ := bind_eq_ok_iff.mp has_status
    by_cases one : word = 1
    · exact .inl ⟨by simp [one], .inr (.inr ⟨text, present, one ▸ has_word⟩)⟩
    · exact .inr ⟨by simpa using one, text, word, present, has_word, one⟩

/-- The last request was answered with this receipt, which can be read. -/
def Obtains (tx : TxId) (polls : List Call) (json : Json) : Prop :=
  (∃ call, polls.getLast? = some call ∧ answerOf call.reply = .ok json) ∧ ∃ receipt, parseReceipt tx json = .ok receipt

inductive Verdict (tx : TxId) (polls : List Call) : Except TransportError Receipt → Prop where
  | mined {json : Json} {receipt : Receipt} : Obtains tx polls json → SaysMined json → receipt.success = true →
      Verdict tx polls (.ok receipt)
  | failed {json : Json} {receipt : Receipt} : Obtains tx polls json → SaysFailed json → receipt.success = false →
      Verdict tx polls (.ok receipt)
  | missing (cause : TransportError) : (∀ json, ¬ Obtains tx polls json) → Verdict tx polls (.error cause)

/-- A receipt was asked for until there was one or no more was asked, with this answer in the end. -/
structure Awaits (tx : TxId) (polls : List Call) (answer : Except TransportError Receipt) : Prop where
  nonempty : polls ≠ []
  asks : ∀ call ∈ polls, call.method = receiptMethod ∧ call.params = [.string tx.hex]
  pending : ∀ call ∈ polls.dropLast, answerOf call.reply = .ok .null
  verdict : Verdict tx polls answer

section
variable {tx : TxId} {polls : List Call} {answer : Except TransportError Receipt} {json other : Json}

theorem Obtains.unique (obtains : Obtains tx polls json) (again : Obtains tx polls other) : json = other := by
  obtain ⟨⟨call, last, answered⟩, -⟩ := obtains
  obtain ⟨⟨same_call, same_last, same_answer⟩, -⟩ := again
  cases last.symm.trans same_last
  exact Except.ok.inj (answered.symm.trans same_answer)

theorem Verdict.obtained_iff (verdict : Verdict tx polls answer) :
    (∃ receipt, answer = .ok receipt) ↔ ∃ json, Obtains tx polls json := by
  cases verdict with
  | mined obtains _ _ => exact ⟨fun _ => ⟨_, obtains⟩, fun _ => ⟨_, rfl⟩⟩
  | failed obtains _ _ => exact ⟨fun _ => ⟨_, obtains⟩, fun _ => ⟨_, rfl⟩⟩
  | missing cause none_obtained =>
    constructor
    · rintro ⟨_, ⟨⟩⟩
    · rintro ⟨json, obtains⟩
      exact absurd obtains (none_obtained json)

theorem Verdict.success_iff (verdict : Verdict tx polls answer) :
    (∃ receipt, answer = .ok receipt ∧ receipt.success = true) ↔ ∃ json, Obtains tx polls json ∧ SaysMined json := by
  cases verdict with
  | mined obtains mined success => exact ⟨fun _ => ⟨_, obtains, mined⟩, fun _ => ⟨_, rfl, success⟩⟩
  | failed obtains failed failure =>
    constructor
    · rintro ⟨_, ⟨rfl⟩, success⟩
      cases failure.symm.trans success
    · rintro ⟨json, again, mined⟩
      rw [again.unique obtains] at mined
      exact absurd failed mined.not_saysFailed
  | missing cause none_obtained =>
    constructor
    · rintro ⟨_, ⟨⟩, _⟩
    · rintro ⟨json, obtains, _⟩
      exact absurd obtains (none_obtained json)

theorem Verdict.failure_iff (verdict : Verdict tx polls answer) :
    (∃ receipt, answer = .ok receipt ∧ receipt.success = false) ↔ ∃ json, Obtains tx polls json ∧ SaysFailed json := by
  cases verdict with
  | failed obtains failed failure => exact ⟨fun _ => ⟨_, obtains, failed⟩, fun _ => ⟨_, rfl, failure⟩⟩
  | mined obtains mined success =>
    constructor
    · rintro ⟨_, ⟨rfl⟩, failure⟩
      cases failure.symm.trans success
    · rintro ⟨json, again, failed⟩
      rw [again.unique obtains] at failed
      exact absurd failed mined.not_saysFailed
  | missing cause none_obtained =>
    constructor
    · rintro ⟨_, ⟨⟩, _⟩
    · rintro ⟨json, obtains, _⟩
      exact absurd obtains (none_obtained json)

end

theorem Verdict.append {tx : TxId} {polls : List Call} {answer : Except TransportError Receipt} (earlier : List Call)
    (nonempty : polls ≠ []) (verdict : Verdict tx polls answer) : Verdict tx (earlier ++ polls) answer := by
  have same (json : Json) : Obtains tx (earlier ++ polls) json ↔ Obtains tx polls json := by
    simp only [Obtains, List.getLast?_append_of_ne_nil earlier nonempty]
  cases verdict with
  | mined obtains mined success => exact .mined ((same _).mpr obtains) mined success
  | failed obtains failed failure => exact .failed ((same _).mpr obtains) failed failure
  | missing cause none_obtained => exact .missing cause fun json obtains => none_obtained json ((same json).mp obtains)

theorem obtains_singleton_iff {tx : TxId} {call : Call} {json : Json} :
    Obtains tx [call] json ↔ answerOf call.reply = .ok json ∧ ∃ receipt, parseReceipt tx json = .ok receipt := by
  simp [Obtains]

theorem verdict_singleton {tx : TxId} {call : Call} {json : Json} (answered : answerOf call.reply = .ok json) :
    Verdict tx [call] ((parseReceipt tx json).mapError invalid) := by
  cases read : parseReceipt tx json with
  | ok receipt =>
    have obtains : Obtains tx [call] json := obtains_singleton_iff.mpr ⟨answered, receipt, read⟩
    rcases parseReceipt_says read with ⟨success, mined⟩ | ⟨failure, failed⟩
    · exact .mined obtains mined success
    · exact .failed obtains failed failure
  | error fault =>
    refine .missing _ fun other obtains => ?_
    obtain ⟨same, receipt, known⟩ := obtains_singleton_iff.mp obtains
    cases answered.symm.trans same
    cases read.symm.trans known

theorem Polls.awaits {url : String} {tx : TxId} {part : List HostEvent} {answer : Except TransportError Receipt}
    (polls : Polls url tx part answer) : Awaits tx (calls part) answer := by
  -- The last request stands alone; those before it found no receipt yet.
  have single {reply : Except String HttpReply} {last : List HostEvent} {verdict : Except TransportError Receipt}
      (posts : Posts url receiptMethod [.string tx.hex] reply last)
      (decided : Verdict tx [{ method := receiptMethod, params := [.string tx.hex], reply }] verdict) :
      Awaits tx (calls last) verdict := by
    rw [posts.calls_eq]
    refine ⟨List.cons_ne_nil _ _, fun call listed => ?_, fun call listed => ?_, decided⟩
    · rw [List.mem_singleton.mp listed]
      exact ⟨rfl, rfl⟩
    · cases listed
  induction polls with
  | failed posts failed =>
    refine single posts (.missing _ fun json obtains => ?_)
    cases failed.symm.trans (obtains_singleton_iff.mp obtains).1
  | ended waited posts none_yet =>
    refine single posts (.missing _ fun json obtains => ?_)
    obtain ⟨same, receipt, read⟩ := obtains_singleton_iff.mp obtains
    cases none_yet.symm.trans same
    cases read
  | given posts answered _ => exact single posts (verdict_singleton answered)
  | @paused part rest reply _ pause posts none_yet _ ih =>
    have calls_eq : calls (part ++ .slept pause :: rest) =
        [{ method := receiptMethod, params := [.string tx.hex], reply }] ++ calls rest := by
      rw [calls_append, posts.calls_eq]
      rfl
    rw [calls_eq]
    refine ⟨List.cons_ne_nil _ _, fun call listed => ?_, fun call listed => ?_, ih.verdict.append _ ih.nonempty⟩
    · rcases List.mem_cons.mp listed with rfl | later
      · exact ⟨rfl, rfl⟩
      · exact ih.asks call later
    · rw [List.singleton_append, List.dropLast_cons_of_ne_nil ih.nonempty] at listed
      rcases List.mem_cons.mp listed with rfl | later
      · exact none_yet
      · exact ih.pending call later

end TokenDesk.Rpc
