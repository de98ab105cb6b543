import Mathlib.Logic.Function.Iterate
import Typings.Delay
import Typings.Retry

/-!
# What attempts come to

The outcomes of the calls decide how attempts end. They go on until a call settles them, with a
value or with an error that is not retried, and if no call does, until no more calls are allowed.
Between two calls there is a delay exactly after contention. If that delay is too large, the
attempts end there.
-/

namespace Typings.Retry

open Text

variable {ε δ α σ : Type}

/-! ## Outcomes -/

/-- The state after a number of calls. -/
def after (operation : σ → Except ε α × σ) (s : σ) (calls : Nat) : σ :=
  (fun s => (operation s).2)^[calls] s

/-- The outcome of a call, by its number from zero on. -/
def outcome (operation : σ → Except ε α × σ) (s : σ) (number : Nat) : Except ε α :=
  (operation (after operation s number)).1

/-- A call leads from its outcome to the state after it. -/
theorem operation_after (operation : σ → Except ε α × σ) (s : σ) (number : Nat) :
    operation (after operation s number)
      = (outcome operation s number, after operation s (number + 1)) := by
  rw [after, after, Function.iterate_succ_apply']
  rfl

/-- The operation whose successive calls have the given outcomes. Its state counts the calls. -/
def scripted (outcomes : Nat → Except ε α) (calls : Nat) : Except ε α × Nat :=
  (outcomes calls, calls + 1)

theorem after_scripted (outcomes : Nat → Except ε α) (calls : Nat) :
    after (scripted outcomes) 0 calls = calls := by
  induction calls with
  | zero => rfl
  | succ calls ih =>
    rw [after, Function.iterate_succ_apply', ← after, ih]
    rfl

/-- Any outcomes are those of some operation. -/
@[simp] theorem outcome_scripted (outcomes : Nat → Except ε α) :
    outcome (scripted outcomes) 0 = outcomes := by
  funext number
  rw [outcome, after_scripted]
  rfl

namespace Policy

/-- Whether the outcome of a call ends attempts: it is a value, or an error that is not retried. -/
def Settles (policy : Policy ε δ) : Except ε α → Prop
  | .ok _ => True
  | .error e => policy.classify e = .fatal

instance (policy : Policy ε δ) (o : Except ε α) : Decidable (policy.Settles o) :=
  match o with
  | .ok _ => isTrue trivial
  | .error e => inferInstanceAs (Decidable (policy.classify e = .fatal))

/-- Whether the outcome of a call asks for a delay before the next one. -/
def asksDelay (policy : Policy ε δ) : Except ε α → Bool
  | .ok _ => false
  | .error e => policy.classify e = .contention

/-- Whether there is a delay after a call if its outcome asks for one. -/
def HasDelay (policy : Policy ε δ) (outcomes : Nat → Except ε α) (number : Nat) : Prop :=
  policy.asksDelay (outcomes number) = true → policy.backoff number ≠ none

/-- The delays after the first calls: one after each call that asks for it. -/
def delays (policy : Policy ε δ) (outcomes : Nat → Except ε α) (calls : Nat) : List (Option δ) :=
  ((List.range calls).filter fun number => policy.asksDelay (outcomes number)).map policy.backoff

variable {policy : Policy ε δ} {outcomes : Nat → Except ε α}

/-- A call that does not settle attempts failed with an error that is retried. -/
theorem exists_error_of_not_settles {o : Except ε α} (h : ¬policy.Settles o) :
    ∃ e, o = .error e ∧ policy.classify e ≠ .fatal := by
  cases o with
  | ok value => exact absurd trivial h
  | error e => exact ⟨e, rfl, h⟩

theorem delays_succ (calls : Nat) :
    policy.delays outcomes (calls + 1) = policy.delays outcomes calls
      ++ if policy.asksDelay (outcomes calls) then [policy.backoff calls] else [] := by
  rw [delays, delays, List.range_succ, List.filter_append, List.map_append]
  congr 1
  cases h : policy.asksDelay (outcomes calls) <;> simp [h]

end Policy

/-! ## Single calls -/

variable {policy : Policy ε δ} {operation : σ → Except ε α × σ} {s : σ}

/-- A call that settles the attempts ends them. -/
theorem attempt_of_settles {number : Nat} (h : policy.Settles (outcome operation s number))
    (spare : Nat) :
    ∃ ending, attempt policy operation spare number (after operation s number)
        = (⟨ending, 1, []⟩, after operation s (number + 1))
      ∧ ∀ description calls sleeps, result policy description (some ⟨ending, calls, sleeps⟩)
        = (outcome operation s number).mapError .failed := by
  have hcall := operation_after operation s number
  rw [attempt.eq_def, hcall]
  cases ho : outcome operation s number with
  | ok value => exact ⟨.done value, rfl, fun _ _ _ => rfl⟩
  | error e =>
    rw [ho] at h
    have hfatal : policy.classify e = .fatal := h
    refine ⟨.failed e, ?_, fun _ _ _ => rfl⟩
    simp only [hfatal]

/-- The last call that is allowed ends the attempts if it does not settle them. -/
theorem attempt_zero {number : Nat} (h : ¬policy.Settles (outcome operation s number)) :
    ∃ e, outcome operation s number = .error e
      ∧ attempt policy operation 0 number (after operation s number)
        = (⟨.exhausted e, 1, []⟩, after operation s (number + 1)) := by
  obtain ⟨e, ho, hretried⟩ := Policy.exists_error_of_not_settles h
  refine ⟨e, ho, ?_⟩
  rw [attempt.eq_def, operation_after operation s number, ho]
  cases hc : policy.classify e with
  | fatal => exact absurd hc hretried
  | contention => simp only [hc]
  | missing => simp only [hc]

/-- A delay that is too large ends the attempts before the next call. -/
theorem attempt_of_not_hasDelay {number : Nat} (h : ¬policy.Settles (outcome operation s number))
    (hdelay : ¬policy.HasDelay (outcome operation s) number) (spare : Nat) :
    attempt policy operation (spare + 1) number (after operation s number)
      = (⟨.delayTooLarge, 1, []⟩, after operation s (number + 1)) := by
  obtain ⟨e, ho, -⟩ := Policy.exists_error_of_not_settles h
  obtain ⟨hasks, hnone⟩ : policy.classify e = .contention ∧ policy.backoff number = none := by
    simpa [Policy.HasDelay, Policy.asksDelay, ho] using hdelay
  rw [attempt.eq_def, operation_after operation s number, ho]
  simp [hasks, hnone]

/-- After a call that is not the last one allowed, does not settle the attempts and has its delay,
the attempts go on. -/
theorem attempt_of_hasDelay {number : Nat} (h : ¬policy.Settles (outcome operation s number))
    (hdelay : policy.HasDelay (outcome operation s) number) (spare : Nat) :
    ∃ delay : List δ,
      delay.map some = (if policy.asksDelay (outcome operation s number)
        then [policy.backoff number] else [])
      ∧ ∀ {rest s'}, attempt policy operation spare (number + 1) (after operation s (number + 1))
          = (rest, s') →
        attempt policy operation (spare + 1) number (after operation s number)
          = (⟨rest.ending, rest.calls + 1, delay ++ rest.sleeps⟩, s') := by
  obtain ⟨e, ho, hretried⟩ := Policy.exists_error_of_not_settles h
  rw [attempt.eq_def policy operation (spare + 1), operation_after operation s number, ho]
  cases hc : policy.classify e with
  | fatal => exact absurd hc hretried
  | contention =>
    have hsome : policy.backoff number ≠ none := hdelay (by simp [Policy.asksDelay, ho, hc])
    obtain ⟨delay, hbackoff⟩ := Option.ne_none_iff_exists'.mp hsome
    refine ⟨[delay], by simp [Policy.asksDelay, hc, hbackoff], fun hrest => ?_⟩
    simp [hc, hbackoff, hrest]
  | missing =>
    refine ⟨[], by simp [Policy.asksDelay, hc], fun hrest => ?_⟩
    simp [hc, hrest]

/-! ## Runs -/

/-- After calls that do not settle the attempts, which go on, what follows is attempts with as many
calls less to spare. -/
theorem attempt_after (spare : Nat) {calls : Nat} (hspare : calls ≤ spare)
    (h : ∀ j < calls, ¬policy.Settles (outcome operation s j))
    (hdelay : ∀ j < calls, policy.HasDelay (outcome operation s) j) :
    ∃ sleeps : List δ, sleeps.map some = policy.delays (outcome operation s) calls
      ∧ ∀ {rest s'}, attempt policy operation (spare - calls) calls (after operation s calls)
          = (rest, s') →
        attempt policy operation spare 0 s
          = (⟨rest.ending, rest.calls + calls, sleeps ++ rest.sleeps⟩, s') := by
  -- on the calls, one more at their end
  induction calls with
  | zero => exact ⟨[], rfl, fun hrest => hrest⟩
  | succ calls ih =>
    obtain ⟨sleeps, hsleeps, hbefore⟩ := ih (by omega) (fun j hj => h j (by omega))
      fun j hj => hdelay j (by omega)
    obtain ⟨delay, hlast, hgo⟩ := attempt_of_hasDelay (h calls (by omega))
      (hdelay calls (by omega)) (spare - (calls + 1))
    refine ⟨sleeps ++ delay, by rw [List.map_append, hsleeps, hlast, Policy.delays_succ], ?_⟩
    intro rest s' hrest
    have hstep := hgo hrest
    rw [show spare - (calls + 1) + 1 = spare - calls by omega] at hstep
    rw [hbefore hstep]
    simp [Nat.add_right_comm, Nat.add_assoc]

/-- Whether attempts at an operation make a number of calls, with all delays that are asked for in
between, and come to a result. -/
def Policy.ComesTo (policy : Policy ε δ) (description : Text) (operation : σ → Except ε α × σ)
    (s : σ) (calls : Nat) (value : Except (Failure ε) α) : Prop :=
  ∃ report, run policy operation s = (some report, after operation s calls)
    ∧ report.calls = calls
    ∧ report.sleeps.map some = policy.delays (outcome operation s) (calls - 1)
    ∧ result policy description (some report) = value

/-- What a run comes to is known from its last call. -/
theorem comesTo_of_attempt (description : Text) {calls : Nat} {ending : Ending ε α}
    (hallowed : (calls : Int) < policy.maxAttempts)
    (h : ∀ j < calls, ¬policy.Settles (outcome operation s j))
    (hdelay : ∀ j < calls, policy.HasDelay (outcome operation s) j)
    (hlast : attempt policy operation (policy.maxAttempts.toNat - 1 - calls) calls
      (after operation s calls) = (⟨ending, 1, []⟩, after operation s (calls + 1))) :
    policy.ComesTo description operation s (calls + 1)
      (result policy description (some ⟨ending, 1, []⟩)) := by
  obtain ⟨sleeps, hsleeps, hrun⟩ := attempt_after (policy.maxAttempts.toNat - 1) (by omega) h hdelay
  refine ⟨⟨ending, 1 + calls, sleeps⟩, ?_, Nat.add_comm _ _, hsleeps, rfl⟩
  rw [run, if_neg (by omega), hrun hlast, List.append_nil]

/-- The first delay that is too large ends the attempts. -/
theorem comesTo_delayTooLarge (description : Text) {number : Nat}
    (hallowed : number + 1 < policy.maxAttempts)
    (h : ∀ k ≤ number, ¬policy.Settles (outcome operation s k))
    (hdelay : ∀ k < number, policy.HasDelay (outcome operation s) k)
    (hlarge : ¬policy.HasDelay (outcome operation s) number) :
    policy.ComesTo description operation s (number + 1) (.error .delayTooLarge) := by
  have hspare : policy.maxAttempts.toNat - 2 - number + 1
      = policy.maxAttempts.toNat - 1 - number := by omega
  have hlast := attempt_of_not_hasDelay (h number (Nat.le_refl number)) hlarge
    (policy.maxAttempts.toNat - 2 - number)
  rw [hspare] at hlast
  exact comesTo_of_attempt description (by omega) (fun k hk => h k (by omega)) hdelay hlast

/-- A policy without calls makes none. Otherwise the attempts make as many calls as are needed for
the first that settles them, and give its value or its error; or, if no call does, all that are
allowed, and give the last error. Between the calls come the delays that are asked for. Only one
that is too large ends the attempts before the next call. -/
theorem run_comesTo (policy : Policy ε δ) (description : Text) (operation : σ → Except ε α × σ)
    (s : σ) :
    (policy.maxAttempts < 1 → run policy operation s = (none, s)
      ∧ result policy description (run policy operation s).1 = .error .noAttempts)
    ∧ (∀ i : Nat, i < policy.maxAttempts → policy.Settles (outcome operation s i) →
        (∀ j < i, ¬policy.Settles (outcome operation s j)) →
        (∀ j < i, policy.HasDelay (outcome operation s) j) →
      policy.ComesTo description operation s (i + 1)
        ((outcome operation s i).mapError .failed))
    ∧ (∀ n : Nat, policy.maxAttempts = n + 1 →
        (∀ j ≤ n, ¬policy.Settles (outcome operation s j)) →
        (∀ j < n, policy.HasDelay (outcome operation s) j) →
      ∃ e, outcome operation s n = .error e
        ∧ policy.ComesTo description operation s (n + 1)
          (.error (.exhausted description policy.maxAttempts e)))
    ∧ (∀ j : Nat, j + 1 < policy.maxAttempts →
        (∀ k ≤ j, ¬policy.Settles (outcome operation s k)) →
        (∀ k < j, policy.HasDelay (outcome operation s) k) →
        ¬policy.HasDelay (outcome operation s) j →
      policy.ComesTo description operation s (j + 1) (.error .delayTooLarge)) := by
  refine ⟨fun hnone => ?_, fun i hi hsettles hopen hdelay => ?_, fun n hn hopen hdelay => ?_,
    fun j hj hopen hdelay hlarge => ?_⟩
  · rw [run, if_pos hnone]
    exact ⟨rfl, rfl⟩
  · obtain ⟨ending, hlast, hresult⟩ := attempt_of_settles hsettles
      (policy.maxAttempts.toNat - 1 - i)
    rw [← hresult description 1 []]
    exact comesTo_of_attempt description hi hopen hdelay hlast
  · obtain ⟨e, ho, hlast⟩ := attempt_zero (hopen n (Nat.le_refl n))
    refine ⟨e, ho, ?_⟩
    have hspare : policy.maxAttempts.toNat - 1 - n = 0 := by omega
    rw [← hspare] at hlast
    exact comesTo_of_attempt description (by omega) (fun j hj => hopen j (by omega)) hdelay hlast
  · exact comesTo_delayTooLarge description hj hopen hdelay hlarge

/-! ## Delays that double -/

/-- The delays that double from the base on become too large at the first power of two that does. -/
theorem exponential_base_eq_none_iff {number : Nat} :
    Delay.exponential Delay.base number = none ↔ 1024 ≤ number := by
  have hnonneg : ¬(number : Int) < 0 := by omega
  rw [Delay.exponential.eq_def, if_neg hnonneg, Delay.base]
  dsimp only
  rw [Binary64.maxExponent]
  split <;> simp <;> omega

/-- At most so many calls, with delays that double, for errors that have no number. -/
def doubling (maxAttempts : Int) : Policy Kind Delay where
  maxAttempts := maxAttempts
  backoff number := Delay.exponential Delay.base number
  classify kind := categorise kind none

theorem hasDelay_doubling (maxAttempts : Int) (outcomes : Nat → Except Kind α) {number : Nat}
    (h : number < 1024) : (doubling maxAttempts).HasDelay outcomes number :=
  fun _ hnone => absurd (exponential_base_eq_none_iff.mp hnone) (by omega)

/-- Twice contention with something missing in between, and then a value. -/
def flaky : Nat → Except Kind Nat
  | 0 => .error .denied
  | 1 => .error .notFound
  | 2 => .error .denied
  | _ => .ok 7

/-- Something missing for long, contention once, and then a value. -/
def lateContention (number : Nat) : Except Kind Nat :=
  if number < 1024 then .error .notFound else if number = 1024 then .error .denied else .ok 7

theorem not_settles_lateContention (maxAttempts : Int) {number : Nat} (h : number ≤ 1024) :
    ¬(doubling maxAttempts).Settles (lateContention number) := by
  rw [lateContention]
  split
  · simp [Policy.Settles, doubling, categorise]
  · rw [if_pos (by omega)]
    simp [Policy.Settles, doubling, categorise]

theorem not_hasDelay_lateContention (maxAttempts : Int) :
    ¬(doubling maxAttempts).HasDelay lateContention 1024 := by
  have hnone : Delay.exponential Delay.base (1024 : Nat) = none :=
    exponential_base_eq_none_iff.mpr (Nat.le_refl 1024)
  exact fun h => h rfl hnone

/-- All four courses that attempts can take. -/
theorem run_comesTo_flaky :
    ((doubling 0).maxAttempts < 1 ∧ run (doubling 0) (scripted flaky) 0 = (none, 0))
    ∧ ((doubling 4).Settles (flaky 3) ∧ (∀ j < 3, ¬(doubling 4).Settles (flaky j))
      ∧ (∀ j < 3, (doubling 4).HasDelay flaky j)
      ∧ (doubling 4).ComesTo defaultDescription (scripted flaky) 0 4 (.ok 7))
    ∧ ((∀ j ≤ 1, ¬(doubling 2).Settles (flaky j)) ∧ (∀ j < 1, (doubling 2).HasDelay flaky j)
      ∧ (doubling 2).ComesTo defaultDescription (scripted flaky) 0 2
        (.error (.exhausted defaultDescription 2 .notFound)))
    ∧ ((∀ k ≤ 1024, ¬(doubling 1026).Settles (lateContention k))
      ∧ (∀ k < 1024, (doubling 1026).HasDelay lateContention k)
      ∧ ¬(doubling 1026).HasDelay lateContention 1024
      ∧ (doubling 1026).ComesTo defaultDescription (scripted lateContention) 0 1025
        (.error .delayTooLarge)) := by
  have hflaky : ∀ n k, k ≤ 1024 → ∀ j < k, (doubling n).HasDelay flaky j :=
    fun n k hk j hj => hasDelay_doubling n flaky (by omega)
  have hlate : ∀ k < 1024, (doubling 1026).HasDelay lateContention k :=
    fun k hk => hasDelay_doubling 1026 lateContention hk
  have hopen : ∀ k ≤ 1024, ¬(doubling 1026).Settles (lateContention k) :=
    fun k hk => not_settles_lateContention 1026 hk
  refine ⟨⟨by decide, ?_⟩, ⟨by decide, by decide, hflaky 4 3 (by decide), ?_⟩,
    ⟨by decide, hflaky 2 1 (by decide), ?_⟩,
    ⟨hopen, hlate, not_hasDelay_lateContention 1026, ?_⟩⟩
  · exact ((run_comesTo (doubling 0) defaultDescription (scripted flaky) 0).1 (by decide)).1
  · have h := (run_comesTo (doubling 4) defaultDescription (scripted flaky) 0).2.1 3 (by decide)
    rw [outcome_scripted] at h
    exact h (by decide) (by decide) (hflaky 4 3 (by decide))
  · have h := (run_comesTo (doubling 2) defaultDescription (scripted flaky) 0).2.2.1 1 rfl
    rw [outcome_scripted] at h
    obtain ⟨e, he, hcomes⟩ := h (by decide) (hflaky 2 1 (by decide))
    cases he
    exact hcomes
  · have h := (run_comesTo (doubling 1026) defaultDescription (scripted lateContention) 0).2.2.2
      1024 (by decide)
    rw [outcome_scripted] at h
    exact h hopen hlate (not_hasDelay_lateContention 1026)

/-- The call after the one that meets contention late would give a value, and it is allowed. Yet it
is not made, for the delay before it is too large. -/
theorem value_not_reached :
    (1025 : Int) < (doubling 1026).maxAttempts
    ∧ (∀ j < 1025, ¬(doubling 1026).Settles (lateContention j))
    ∧ (doubling 1026).Settles (lateContention 1025)
    ∧ ¬(doubling 1026).ComesTo defaultDescription (scripted lateContention) 0 1026 (.ok 7)
    ∧ (doubling 1026).ComesTo defaultDescription (scripted lateContention) 0 1025
      (.error .delayTooLarge) := by
  have hopen : ∀ j < 1025, ¬(doubling 1026).Settles (lateContention j) :=
    fun j hj => not_settles_lateContention 1026 (by omega)
  have hcomes : (doubling 1026).ComesTo defaultDescription (scripted lateContention) 0 1025
      (.error .delayTooLarge) := by
    refine comesTo_delayTooLarge defaultDescription (by decide) ?_ ?_ ?_
    all_goals rw [outcome_scripted]
    · exact fun j hj => hopen j (by omega)
    · exact fun j hj => hasDelay_doubling 1026 lateContention hj
    · exact not_hasDelay_lateContention 1026
  have hvalue : lateContention 1025 = .ok 7 := by simp [lateContention]
  refine ⟨by decide, hopen, hvalue ▸ trivial, ?_, hcomes⟩
  rintro ⟨report, hrun, hcalls, -, -⟩
  obtain ⟨report', hrun', hcalls', -, -⟩ := hcomes
  obtain rfl : report = report' := by
    simpa using (congrArg Prod.fst hrun).symm.trans (congrArg Prod.fst hrun')
  omega

end Typings.Retry
