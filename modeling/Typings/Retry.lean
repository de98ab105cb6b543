import Typings.Text.Basic

/-!
# Bounded retries

An operation that fails may be called again: at once if something was missing, after a delay if
something was in the way, and not at all after any other error. The number of calls is bounded.
-/

namespace Typings

open Text

namespace Retry

/-- How a failed call is treated. -/
inductive Category where
  /-- The error ends the attempts. -/
  | fatal
  /-- The operation is called again after a delay. -/
  | contention
  /-- The operation is called again at once. -/
  | missing
  deriving DecidableEq, Repr

/-- What kind of error a call failed with. -/
inductive Kind where
  | notFound
  | denied
  /-- Any other error of the file system. -/
  | system
  /-- An error that the file system has no part in. -/
  | foreign
  deriving DecidableEq, Repr

/-- The numbers of errors that pass: not permitted, permission denied, busy, not empty. -/
def contended : List Nat := [1, 13, 16, 39]

/-- The category of an error, by its kind and its number if it has one. -/
def categorise (kind : Kind) (number : Option Nat) : Category :=
  match kind with
  | .notFound => .missing
  | .denied => .contention
  | .system => if (number.map contended.contains).getD false then .contention else .fatal
  | .foreign => .fatal

/-- The largest number of calls unless told otherwise. -/
def defaultAttempts : Int := 10

/-- The rules of the attempts. -/
structure Policy (ε δ : Type) where
  maxAttempts : Int := defaultAttempts
  /-- The delay after a call, by its number from zero on, unless it is too large. -/
  backoff : Nat → Option δ
  classify : ε → Category

/-- How the attempts ended. -/
inductive Ending (ε α : Type) where
  | done (value : α)
  /-- A call failed with an error that is not retried. -/
  | failed (error : ε)
  /-- The last call that was allowed failed. -/
  | exhausted (lastError : ε)
  /-- The next call would come after a delay that is too large. -/
  | delayTooLarge
  deriving DecidableEq

/-- How the attempts ended, how many calls there were, and the delays between them. -/
structure Report (ε δ α : Type) where
  ending : Ending ε α
  calls : Nat
  sleeps : List δ
  deriving DecidableEq

variable {ε δ α σ : Type}

/-- Calls an operation that may change a state, at most `spare + 1` times from the call with the
given number on. -/
def attempt (policy : Policy ε δ) (operation : σ → Except ε α × σ) (spare number : Nat) (s : σ) :
    Report ε δ α × σ :=
  match operation s with
  | (.ok value, s) => (⟨.done value, 1, []⟩, s)
  | (.error e, s) =>
    match policy.classify e, spare with
    | .fatal, _ => (⟨.failed e, 1, []⟩, s)
    | _, 0 => (⟨.exhausted e, 1, []⟩, s)
    | category, spare + 1 =>
      let sleep := if category = .contention then (policy.backoff number).map some else some none
      match sleep with
      | none => (⟨.delayTooLarge, 1, []⟩, s)
      | some delay =>
        let (rest, s) := attempt policy operation spare (number + 1) s
        (⟨rest.ending, rest.calls + 1, delay.toList ++ rest.sleeps⟩, s)

/-- Calls an operation as the policy says; nothing is called if the policy allows no call. -/
def run (policy : Policy ε δ) (operation : σ → Except ε α × σ) (s : σ) :
    Option (Report ε δ α) × σ :=
  if policy.maxAttempts < 1 then (none, s)
  else
    let (report, s) := attempt policy operation (policy.maxAttempts.toNat - 1) 0 s
    (some report, s)

/-- Why attempts came to no value. -/
inductive Failure (ε : Type) where
  /-- The policy allows no call. -/
  | noAttempts
  /-- A call failed with an error that is not retried. -/
  | failed (error : ε)
  /-- All calls that were allowed failed. -/
  | exhausted (description : Text) (attempts : Int) (lastError : ε)
  /-- The next call would come after a delay that is too large. -/
  | delayTooLarge
  deriving DecidableEq

/-- What attempts at something come to, if they were made at all. -/
def result (policy : Policy ε δ) (description : Text) :
    Option (Report ε δ α) → Except (Failure ε) α
  | none => .error .noAttempts
  | some report =>
    match report.ending with
    | .done value => .ok value
    | .failed e => .error (.failed e)
    | .exhausted e => .error (.exhausted description policy.maxAttempts e)
    | .delayTooLarge => .error .delayTooLarge

/-- The sentence that reports a policy without calls. -/
def noAttemptsMessage : Text := "max_attempts must be at least 1".toList

/-- The sentence that reports attempts that came to nothing. -/
def exhaustedMessage (description : Text) (attempts : Int) (lastError : Text) : Text :=
  description ++ " failed after ".toList ++ ofInt attempts ++ " attempts: ".toList ++ lastError

/-- What an operation is called if nothing else is known about it. -/
def defaultDescription : Text := "filesystem operation".toList

end Retry

end Typings
