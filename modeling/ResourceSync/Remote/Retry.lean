import ResourceSync.Duration.Basic
import ResourceSync.Halt
import ResourceSync.Remote.Error

/-! Retries: a call that failed in a way that may pass is made again, up to a number of attempts. -/
namespace ResourceSync

structure RetryPolicy where
  /-- The number of attempts; zero counts as one. -/
  maxAttempts : UInt32
  interval : Duration
deriving DecidableEq, Repr

namespace RetryPolicy

def standard : RetryPolicy := ⟨3, .ofMillis 500⟩

/-- How many attempts may follow the first. -/
def furtherAttempts (p : RetryPolicy) : Nat := p.maxAttempts.toNat - 1

/-- How many attempts there may be. -/
def budget (p : RetryPolicy) : UInt32 := max p.maxAttempts 1

def debugText (p : RetryPolicy) : String :=
  "RetryPolicy \x7b max_attempts: " ++ toString p.maxAttempts ++ ", interval: " ++
    p.interval.text ++ " \x7d"

end RetryPolicy

/-- Makes a call until it succeeds, fails for good or `further` attempts have followed the first. -/
def retrying {m : Type → Type} [Monad m] {α : Type} (pause : m Unit)
    (call : m (Except RemoteError α)) : Nat → m (Except RemoteError α)
  | 0 => call
  | further + 1 => do
    match ← call with
    | .ok a => return .ok a
    | .error e =>
      if e.isRetryable then
        pause
        retrying pause call further
      else return .error e

theorem toNat_add_one {n : UInt32} (h : n.toNat + 1 < UInt32.size) :
    (n + 1).toNat = n.toNat + 1 := by
  rw [UInt32.toNat_add]
  exact Nat.mod_eq_of_lt h

/-- The same with a word that counts the attempts: `made` of them came before, and none follows once
they are as many as the budget. Counting beyond the word breaks off. -/
def retryingFrom {m : Type → Type} [Monad m] {α : Type} (budget : UInt32) (pause : m Unit)
    (call : m (Except RemoteError α)) (made : UInt32) : m (Checked RemoteError α) :=
  if _ : UInt32.size ≤ made.toNat + 1 then
    return .error (.brokeOff "attempt to add with overflow")
  else do
    match ← call with
    | .ok a => return .ok a
    | .error e =>
      if !e.isRetryable then return .error (.refused e)
      else if hspent : budget ≤ made + 1 then return .error (.refused e)
      else
        pause
        retryingFrom budget pause call (made + 1)
termination_by budget.toNat - made.toNat
decreasing_by
  have hword : made.toNat + 1 < UInt32.size := by omega
  rw [UInt32.le_iff_toNat_le, toNat_add_one hword] at hspent
  rw [toNat_add_one hword]
  omega

/-- Makes a call as often as a policy allows, which is at least once. -/
def RetryPolicy.retry {m : Type → Type} [Monad m] {α : Type} (p : RetryPolicy) (pause : m Unit)
    (call : m (Except RemoteError α)) : m (Checked RemoteError α) :=
  retryingFrom p.budget pause call 0

end ResourceSync
