import Mathlib.Data.ENat.Lattice
import ResourceSync.Proofs.Requests

/-! How many attempts a call is given: as many as the budget allows, or up to the first whose outcome
decides. The word that counts them never overflows. -/
namespace ResourceSync

variable {α : Type}

section counting
variable {m : Type → Type} [Monad m] {budget made : UInt32} (pause : m Unit)
  (call : m (Except RemoteError α))

theorem retryingFrom_step (hmade : made.toNat < budget.toNat) :
    retryingFrom budget pause call made = (do
      match ← call with
      | .ok a => return .ok a
      | .error e =>
        if !e.isRetryable then return .error (.refused e)
        else if made.toNat + 1 = budget.toNat then return .error (.refused e)
        else
          pause
          retryingFrom budget pause call (made + 1)) := by
  have hword : made.toNat + 1 < UInt32.size := Nat.lt_of_le_of_lt hmade budget.toNat_lt_size
  have hspent : budget ≤ made + 1 ↔ made.toNat + 1 = budget.toNat := by
    rw [UInt32.le_iff_toNat_le, toNat_add_one hword]
    omega
  rw [retryingFrom, dif_neg (Nat.not_le.2 hword)]
  refine bind_congr fun outcome => ?_
  cases outcome with
  | ok a => rfl
  | error e => simp only [hspent, dite_eq_ite]

variable [LawfulMonad m]

/-- Counting up to the budget in a word is counting down from it: the word is never left. -/
theorem retryingFrom_eq (further : Nat) (hmade : made.toNat + further + 1 = budget.toNat) :
    retryingFrom budget pause call made = Except.mapError .refused <$> retrying pause call further := by
  induction further generalizing made with
  | zero =>
    rw [retryingFrom_step pause call (by omega), retrying, map_eq_pure_bind]
    refine bind_congr fun outcome => ?_
    cases outcome with
    | ok a => rfl
    | error e =>
      simp only [hmade, if_true, ite_self]
      rfl
  | succ further ih =>
    have hnext : (made + 1).toNat = made.toNat + 1 :=
      toNat_add_one (Nat.lt_of_le_of_lt (by omega) budget.toNat_lt_size)
    have hleft : ¬ made.toNat + 1 = budget.toNat := by omega
    have hrest : retryingFrom budget pause call (made + 1) =
        Except.mapError .refused <$> retrying pause call further := ih (by omega)
    rw [retryingFrom_step pause call (by omega), retrying, map_bind]
    refine bind_congr fun outcome => ?_
    cases outcome with
    | ok a => simp [Except.mapError]
    | error e =>
      cases he : e.isRetryable with
      | false => simp [Except.mapError, he]
      | true => simp [he, hleft, hrest]

theorem RetryPolicy.toNat_budget (p : RetryPolicy) : p.budget.toNat = max p.maxAttempts.toNat 1 := by
  change (if p.maxAttempts ≤ 1 then 1 else p.maxAttempts : UInt32).toNat = _
  by_cases h : p.maxAttempts ≤ 1
  · rw [if_pos h]
    exact (Nat.max_eq_right (UInt32.le_iff_toNat_le.1 h)).symm
  · rw [if_neg h]
    exact (Nat.max_eq_left (Nat.le_of_not_le (mt UInt32.le_iff_toNat_le.2 h))).symm

theorem RetryPolicy.retry_eq (p : RetryPolicy) :
    p.retry pause call = Except.mapError .refused <$> retrying pause call p.furtherAttempts := by
  refine retryingFrom_eq pause call p.furtherAttempts ?_
  rw [p.toNat_budget, furtherAttempts]
  change 0 + (p.maxAttempts.toNat - 1) + 1 = max p.maxAttempts.toNat 1
  omega

end counting

section outcomes
variable (outcomes : Nat → Except RemoteError α)

/-- An attempt whose outcome is the next of a sequence. The outcomes so far are kept. -/
def attempted : StateM (List (Except RemoteError α)) (Except RemoteError α) :=
  modifyGet fun seen => (outcomes seen.length, seen ++ [outcomes seen.length])

/-- How many outcomes there are up to the first that does not fail in passing; infinitely many, where
all do. -/
noncomputable def deciding : ℕ∞ :=
  ⨅ (i : ℕ) (_ : mayPass (outcomes i) = false), ((i + 1 : ℕ) : ℕ∞)

variable {outcomes}

theorem deciding_eq {i : Nat} (hpassed : ∀ j < i, mayPass (outcomes j) = true)
    (hdecides : mayPass (outcomes i) = false) : deciding outcomes = ((i + 1 : ℕ) : ℕ∞) := by
  refine le_antisymm (iInf₂_le i hdecides) (le_iInf₂ fun j hj => ?_)
  have hij : i ≤ j := Nat.le_of_not_lt fun hlt => by
    rw [hpassed j hlt] at hj
    cases hj
  exact Nat.cast_le.2 (Nat.succ_le_succ hij)

theorem le_deciding {n : Nat} (hpassed : ∀ j < n, mayPass (outcomes j) = true) :
    ((n + 1 : ℕ) : ℕ∞) ≤ deciding outcomes := by
  refine le_iInf₂ fun j hj => ?_
  have hnj : n ≤ j := Nat.le_of_not_lt fun hlt => by
    rw [hpassed j hlt] at hj
    cases hj
  exact Nat.cast_le.2 (Nat.succ_le_succ hnj)

variable (outcomes)

theorem beforeAttempt_attempted (made n : Nat) :
    beforeAttempt (pure ()) (attempted outcomes) ((List.range made).map outcomes) n =
      (List.range (made + n)).map outcomes := by
  induction n generalizing made with
  | zero => rfl
  | succ n ih =>
    have hnext : (List.range made).map outcomes ++ [outcomes ((List.range made).map outcomes).length] =
        (List.range (made + 1)).map outcomes := by
      rw [List.length_map, List.length_range, List.range_succ, List.map_append]
      rfl
    change beforeAttempt _ _ (_ ++ [outcomes _]) n = _
    rw [hnext, ih, Nat.add_right_comm, Nat.add_assoc]

theorem attempted_run (n : Nat) : (attempted outcomes).run ((List.range n).map outcomes) =
    (outcomes n, (List.range (n + 1)).map outcomes) := by
  change (outcomes _, _ ++ [outcomes _]) = _
  rw [List.length_map, List.length_range, List.range_succ, List.map_append]
  rfl

end outcomes

/-- A call is attempted until an outcome decides or the attempts are used up, whichever is first, and
the last outcome is the result. Whatever the budget, the count of the attempts fits the word. -/
theorem RetryPolicy.retry_attempts (p : RetryPolicy) (outcomes : Nat → Except RemoteError α) :
    ∃ last, ((last + 1 : ℕ) : ℕ∞) = min ((max 1 p.maxAttempts.toNat : ℕ) : ℕ∞) (deciding outcomes) ∧
      (p.retry (pure ()) (attempted outcomes)).run [] =
        ((outcomes last).mapError .refused, (List.range (last + 1)).map outcomes) ∧
      (∀ i < last, mayPass (outcomes i) = true) ∧ last + 1 < UInt32.size := by
  have hbefore (n : Nat) : beforeAttempt (pure ()) (attempted outcomes) [] n =
      (List.range n).map outcomes := by
    have h := beforeAttempt_attempted outcomes 0 n
    rwa [Nat.zero_add] at h
  obtain ⟨last, hlast, hpassed, hdecided, hrun⟩ :=
    retrying_run (pure ()) (attempted outcomes) p.furtherAttempts []
  simp only [hbefore, attempted_run] at hpassed hdecided hrun
  have hfurther : p.furtherAttempts + 1 = max 1 p.maxAttempts.toNat := by
    unfold furtherAttempts
    omega
  refine ⟨last, ?_, ?_, hpassed, ?_⟩
  · rcases Nat.lt_or_eq_of_le hlast with hlt | rfl
    · rw [deciding_eq hpassed (hdecided hlt), ← hfurther]
      exact (min_eq_right (Nat.cast_le.2 (by omega))).symm
    · rw [← hfurther]
      exact (min_eq_left (le_deciding hpassed)).symm
  · rw [p.retry_eq, StateT.run_map, hrun]
    rfl
  · have hsize := p.maxAttempts.toNat_lt_size
    have hone : 1 < UInt32.size := by decide
    omega

end ResourceSync
