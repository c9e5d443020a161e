import TokenDesk.Address.Tagged
import TokenDesk.Amount
import TokenDesk.Blockchain

/-! Batches of payments and the text files that list them.

Each line of a batch file is `<address>,<amount>`; a carriage return at the
end of a line and empty lines are skipped. The first bad line decides the
error. A batch must move something: a total of zero is refused.
-/

set_option autoImplicit false

namespace TokenDesk

structure Payment where
  destination : Address
  amount : Amount
  line : Nat
  deriving DecidableEq, Repr

/-- A payment to the zero address, which is allowed but hardly meant. -/
structure ZeroAddressWarning where
  line : Nat
  deriving DecidableEq, Repr

def ZeroAddressWarning.message (warning : ZeroAddressWarning) : String :=
  "Warning: zero address (line " ++ toString warning.line ++ ")"

structure Plan where
  payments : List Payment
  warnings : List ZeroAddressWarning
  deriving DecidableEq, Repr

def Payment.total (payments : List Payment) : Amount :=
  payments.foldr (fun payment rest => payment.amount + rest) 0

@[simp] theorem Payment.total_nil : Payment.total [] = 0 := rfl

@[simp] theorem Payment.total_cons (payment : Payment) (rest : List Payment) :
    Payment.total (payment :: rest) = payment.amount + Payment.total rest := rfl

@[simp] theorem Payment.total_append (payments more : List Payment) :
    Payment.total (payments ++ more) = Payment.total payments + Payment.total more := by
  induction payments with
  | nil => exact (Nat.zero_add _).symm
  | cons payment rest ih => rw [List.cons_append, total_cons, total_cons, ih, Nat.add_assoc]

def Plan.total (plan : Plan) : Amount :=
  Payment.total plan.payments

inductive PlanError where
  | malformedLine (line : Nat) (text : String)
  | invalidAddress (line : Nat) (text : String) (cause : AddressError)
  | invalidAmount (line : Nat) (text : String) (cause : AmountError)
  | emptyOrZero
  deriving DecidableEq, Repr

namespace PlanError

private def at' (line : Nat) (rest : String) : String :=
  "line " ++ toString line ++ ": " ++ rest

def message : PlanError → String
  | malformedLine line text =>
    at' line ("malformed batch line '" ++ text ++ "', expected <address>,<amount>")
  | invalidAddress line text cause =>
    at' line ("invalid address in '" ++ text ++ "': " ++ cause.message)
  | invalidAmount line text cause =>
    at' line ("invalid amount in '" ++ text ++ "': " ++ cause.message)
  | emptyOrZero => "batch is empty or its total amount is zero"

end PlanError

structure PlanRules where
  decimals : Decimals
  taggedChain : Option ChainId
  deriving DecidableEq, Repr

def PlanRules.on (blockchain : Blockchain) (decimals : Decimals) (chain : ChainId) : PlanRules where
  decimals := decimals
  taggedChain := if blockchain.hasTaggedAddresses then some chain else none

namespace Plan

def warningsOf (payments : List Payment) : List ZeroAddressWarning :=
  (payments.filter fun payment => payment.destination.isZero).map fun payment => ⟨payment.line⟩

def ofPayments (payments : List Payment) : Plan :=
  ⟨payments, []⟩

def withoutReturn (line : List Char) : List Char :=
  if line.getLast? = some '\r' then line.dropLast else line

def parseLine (rules : PlanRules) (line : Nat) (text : List Char) : Except PlanError Payment :=
  let shown := String.ofList text
  match Text.pieces ',' text with
  | [addressField, amountField] => do
    let destination ← (Address.parseDestination rules.taggedChain (String.ofList addressField)).mapError
      (.invalidAddress line shown)
    let amount ← (Amount.parse rules.decimals (String.ofList amountField)).mapError
      (.invalidAmount line shown)
    return { destination, amount, line }
  | _ => .error (.malformedLine line shown)

def parseLines (rules : PlanRules) (number : Nat) : List (List Char) → Except PlanError (List Payment)
  | [] => .ok []
  | line :: rest =>
    match withoutReturn line with
    | [] => parseLines rules (number + 1) rest
    | text => do
      let payment ← parseLine rules number text
      let payments ← parseLines rules (number + 1) rest
      return payment :: payments

def ofLines (rules : PlanRules) (lines : List (List Char)) : Except PlanError Plan := do
  let payments ← parseLines rules 1 lines
  let plan : Plan := ⟨payments, warningsOf payments⟩
  if plan.total = 0 then throw .emptyOrZero
  return plan

def ofSource (rules : PlanRules) (source : String) : Except PlanError Plan :=
  ofLines rules (Text.pieces '\n' source.toList)

end Plan

end TokenDesk
