import TwinCatalogue.Activity
import TwinCatalogue.Retry.Policy

/-!
Running a call under a retry policy. The attempts end with the first success, with an error that
the policy aborts on or does not retry on, or with the last attempt allowed.
-/

namespace TwinCatalogue

/-- How the attempts ended. Both failures carry the last error and the number of attempts. -/
inductive RetryOutcome (α : Type) where
  | success (value : α)
  | exhausted (error : StoreError) (attempts : Nat)
  | aborted (error : StoreError) (attempts : Nat)

namespace RetryOutcome

variable {α : Type}

def toExcept : RetryOutcome α → Except StoreError α
  | success value => .ok value
  | exhausted error _ => .error error
  | aborted error _ => .error error

def isSuccess : RetryOutcome α → Bool
  | success _ => true
  | _ => false

end RetryOutcome

namespace RetryPolicy

variable {σ α : Type}

def delay (p : RetryPolicy) (retry : Nat) : Activity σ Nat :=
  if p.jitters retry then do
    let bits ← Activity.draw
    return p.backoffWith retry bits
  else
    return p.backoff retry

def pauseFor (p : RetryPolicy) (counted : Bool) (attempt : Nat) (error : StoreError)
    (milliseconds : Nat) : Activity σ Unit := do
  Activity.log (.retrying attempt p.attemptLimit milliseconds error)
  if counted then Activity.count .retries
  Activity.wait milliseconds

/-- Attempt number `attempt`, with `left` more allowed, and those that follow from it. -/
def attempts (p : RetryPolicy) (counted : Bool) (operation : Activity σ (Except StoreError α)) :
    (left attempt : Nat) → Activity σ (RetryOutcome α)
  | left, attempt => do
    match ← operation with
    | .ok value => return .success value
    | .error error =>
      if p.abortOn error then
        Activity.log (.notRetrying attempt error)
        return .aborted error attempt
      else
        match left with
        | 0 => return .exhausted error attempt
        | left + 1 =>
          if p.retryOn error then
            let milliseconds ← p.delay (attempt - 1)
            p.pauseFor counted attempt error milliseconds
            p.attempts counted operation left (attempt + 1)
          else
            return .exhausted error attempt

def execute (p : RetryPolicy) (counted : Bool) (operation : Activity σ (Except StoreError α)) :
    Activity σ (RetryOutcome α) :=
  p.attempts counted operation (p.attemptLimit - 1) 1

def retrying (p : RetryPolicy) (operation : Activity σ (Except StoreError α)) :
    Activity σ (RetryOutcome α) :=
  p.execute true operation

end RetryPolicy

end TwinCatalogue
