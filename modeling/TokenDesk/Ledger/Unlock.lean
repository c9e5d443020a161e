import TokenDesk.Ledger

/-! Unlocking an account with a limited number of passphrases.

The first attempt uses the configured passphrase if there is one. Every other
attempt asks for a passphrase directly before it is tried.
-/

set_option autoImplicit false

namespace TokenDesk

structure PromptError where
  reason : String
  deriving DecidableEq, Repr

def PromptError.message (e : PromptError) : String :=
  "passphrase prompt failed: " ++ e.reason

structure Unlocker (m : Type → Type) where
  unlock : (account : Address) → (passphrase : String) → ExceptT LedgerError m Unit

structure Prompt (m : Type → Type) where
  ask : (account : Address) → (attempt : Nat) → ExceptT PromptError m String

inductive UnlockOutcome where
  | unlocked (attempts : Nat)
  | exhausted (attempts : Nat) (lastError : LedgerError)
  | promptFailed (cause : PromptError)
  deriving DecidableEq, Repr

def UnlockOutcome.isUnlocked : UnlockOutcome → Bool
  | unlocked _ => true
  | _ => false

namespace Unlocker

variable {m : Type → Type} [Monad m]

def passphrase (prompt : Prompt m) (account : Address) (attempt : Nat) :
    (configured : Option String) → ExceptT PromptError m String
  | some known => pure known
  | none => prompt.ask account attempt

def attempt (unlocker : Unlocker m) (prompt : Prompt m) (account : Address) (number : Nat)
    (configured : Option String) : m (Except LedgerError UnlockOutcome) := do
  match ← (passphrase prompt account number configured).run with
  | .error cause => return .ok (.promptFailed cause)
  | .ok tried =>
    match ← (unlocker.unlock account tried).run with
    | .ok () => return .ok (.unlocked number)
    | .error e => return .error e

def untried (account : Address) : LedgerError :=
  .locked account "no unlock attempt was made"

/-- Make up to `left` attempts after those already made, of which the last one failed with `lastError`. -/
def attemptsAfter (unlocker : Unlocker m) (prompt : Prompt m) (account : Address)
    (made : Nat) (configured : Option String) (lastError : Option LedgerError) : (left : Nat) → m UnlockOutcome
  | 0 => return .exhausted made (lastError.getD (untried account))
  | left + 1 => do
    match ← unlocker.attempt prompt account (made + 1) configured with
    | .ok outcome => return outcome
    | .error e => attemptsAfter unlocker prompt account (made + 1) none (some e) left

/-- Make at most `maxAttempts` attempts, and at least one. -/
def unlockWithRetries (unlocker : Unlocker m) (prompt : Prompt m) (account : Address)
    (configured : Option String) (maxAttempts : Nat) : m UnlockOutcome :=
  unlocker.attemptsAfter prompt account 0 configured none (max maxAttempts 1)

end Unlocker

end TokenDesk
