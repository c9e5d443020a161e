import Mathlib.Logic.Function.Basic
import TokenDesk.Ledger

/-! Ledgers that keep token accounts.

Such a ledger takes a transfer exactly if its nonce is the payer's count of
transactions, its destination does not refuse tokens, and the payer's balance
covers it. A transfer that it takes moves the amount and gets a receipt;
everything else that it is asked leaves the accounts as they are.
-/

set_option autoImplicit false

namespace TokenDesk

/-- What a ledger of tokens keeps: the balance of every account, and how many transactions it made. -/
structure Holdings where
  balance : Address → Amount
  count : Address → Nat

namespace Holdings

def after (holdings : Holdings) (request : Transfer) : Holdings where
  balance :=
    -- The credit comes after the debit, since the payer may pay itself.
    let debited := Function.update holdings.balance request.payer
      (holdings.balance request.payer - request.amount)
    Function.update debited request.destination (debited request.destination + request.amount)
  count := Function.update holdings.count request.payer (holdings.count request.payer + 1)

structure Accepts (refuses : Address → Prop) (holdings : Holdings) (request : Transfer) : Prop where
  numbered : request.nonce.toNat = holdings.count request.payer
  welcome : ¬ refuses request.destination
  covered : request.amount ≤ holdings.balance request.payer

theorem balance_after {holdings : Holdings} {request : Transfer}
    (covered : request.amount ≤ holdings.balance request.payer) (account : Address) :
    (holdings.after request).balance account + (if account = request.payer then request.amount else 0) =
      holdings.balance account + (if account = request.destination then request.amount else 0) := by
  by_cases paying : account = request.payer
  · subst paying
    by_cases paid : request.payer = request.destination
    · simp [after, ← paid, Nat.sub_add_cancel covered]
    · simp [after, paid, Nat.sub_add_cancel covered]
  · by_cases paid : account = request.destination
    · subst paid
      simp [after, paying]
    · simp [after, paying, paid]

@[simp] theorem count_after_payer (holdings : Holdings) (request : Transfer) :
    (holdings.after request).count request.payer = holdings.count request.payer + 1 := by
  simp [after]

theorem count_after_of_ne (holdings : Holdings) (request : Transfer) {account : Address}
    (other : account ≠ request.payer) : (holdings.after request).count account = holdings.count account := by
  simp [after, other]

end Holdings

/-- A ledger of tokens, and what can be relied on. Nonces are answered as long as 64 bits hold them. -/
structure TokenLedger (σ : Type) where
  ledger : Ledger (StateM σ)
  holdings : σ → Holdings
  refuses : Address → Prop
  balanceOf_run : ∀ owner state, ∃ next,
    (ledger.balanceOf owner).run.run state = (.ok ((holdings state).balance owner), next) ∧
      holdings next = holdings state
  pendingNonce_run : ∀ account state (nonce : UInt64), nonce.toNat = (holdings state).count account →
    ∃ next, (ledger.pendingNonce account).run.run state = (.ok nonce, next) ∧ holdings next = holdings state
  suggestGasPrice_run : ∀ state, ∃ price next,
    ledger.suggestGasPrice.run.run state = (.ok price, next) ∧ holdings next = holdings state
  transfer_run : ∀ request state, (holdings state).Accepts refuses request → ∃ sent next,
    (ledger.transfer request).run.run state = (.ok sent, next) ∧
      holdings next = (holdings state).after request ∧
      ∃ confirmation last, (ledger.waitConfirmed sent.tx).run.run next = (.ok confirmation, last) ∧
        confirmation.success ∧ holdings last = holdings next
  transfer_run_refused : ∀ request state, ¬ (holdings state).Accepts refuses request → ∃ cause next,
    (ledger.transfer request).run.run state = (.error cause, next) ∧ holdings next = holdings state

structure Memory where
  holdings : Holdings
  mined : List TxId

namespace Memory

def endowed (owner : Address) (amount : Amount) (count : Nat) : Memory :=
  ⟨⟨fun account => if account = owner then amount else 0, fun _ => count⟩, []⟩

def txId (request : Transfer) : TxId :=
  ⟨request.payer.bytes ++ Bytes.ofNatFixed 12 request.nonce.toNat, by
    simp [request.payer.length_bytes]⟩

def gas : UInt64 := 52000

def objection? (blocked : List Address) (memory : Memory) (request : Transfer) : Option LedgerError :=
  if request.nonce.toNat ≠ memory.holdings.count request.payer then
    some (.rejected ("nonce " ++ toString request.nonce.toNat ++ " does not match expected "
      ++ toString (memory.holdings.count request.payer)))
  else if request.destination ∈ blocked then
    some (.ofSubmission "gas required exceeds allowance (8000000) or always failing transaction")
  else if memory.holdings.balance request.payer < request.amount then
    some (.rejected "transfer amount exceeds balance")
  else none

theorem objection?_eq_none_iff (blocked : List Address) (memory : Memory) (request : Transfer) :
    memory.objection? blocked request = none ↔ memory.holdings.Accepts (· ∈ blocked) request := by
  unfold objection?
  constructor
  · intro unobjected
    by_cases numbered : request.nonce.toNat = memory.holdings.count request.payer
    · by_cases blocking : request.destination ∈ blocked
      · simp [numbered, blocking] at unobjected
      · exact ⟨numbered, blocking, by simpa [numbered, blocking] using unobjected⟩
    · simp [numbered] at unobjected
  · rintro ⟨numbered, welcome, covered⟩
    simp [numbered, welcome, Nat.not_lt.mpr covered]

def transfer (blocked : List Address) (request : Transfer) : ExceptT LedgerError (StateM Memory) Submitted :=
  ExceptT.mk fun memory =>
    match memory.objection? blocked request with
    | some cause => (.error cause, memory)
    | none =>
      (.ok { tx := txId request, gasLimit := gas * 2 },
        { holdings := memory.holdings.after request, mined := txId request :: memory.mined })

def ledger (blocked : List Address) : Ledger (StateM Memory) where
  balanceOf owner := do return (← get).holdings.balance owner
  pendingNonce account := do return UInt64.ofNat ((← get).holdings.count account)
  chainId := pure default
  suggestGasPrice := pure 1000000000
  transfer := transfer blocked
  waitConfirmed tx := ExceptT.mk fun memory =>
    (if tx ∈ memory.mined then .ok { gasUsed := gas, success := true } else .error (.confirmationTimeout tx),
      memory)

def tokens (blocked : List Address) : TokenLedger Memory where
  ledger := ledger blocked
  holdings := Memory.holdings
  refuses := (· ∈ blocked)
  balanceOf_run _ memory := ⟨memory, rfl, rfl⟩
  pendingNonce_run account memory nonce same := by
    refine ⟨memory, ?_, rfl⟩
    rw [← UInt64.ofNat_toNat (x := nonce), same]
    rfl
  suggestGasPrice_run memory := ⟨_, memory, rfl, rfl⟩
  transfer_run request memory accepts := by
    have unobjected := (memory.objection?_eq_none_iff blocked request).mpr accepts
    refine ⟨⟨txId request, gas * 2⟩, ⟨memory.holdings.after request, txId request :: memory.mined⟩,
      ?_, rfl, ⟨gas, true⟩, _, ?_, rfl, rfl⟩
    · change (match memory.objection? blocked request with | some _ => _ | none => _) = _
      rw [unobjected]
    · change (if txId request ∈ txId request :: memory.mined then _ else _, _) = _
      rw [if_pos List.mem_cons_self]
  transfer_run_refused request memory refused := by
    cases objected : memory.objection? blocked request with
    | none => exact absurd ((memory.objection?_eq_none_iff blocked request).mp objected) refused
    | some cause =>
      refine ⟨cause, memory, ?_, rfl⟩
      change (match memory.objection? blocked request with | some _ => _ | none => _) = _
      rw [objected]

end Memory

end TokenDesk
