import Mathlib
import RpcRace.Library.Run

/-!
# A periodic timer in a loop

A loop waits until something is ready, then runs a batch of handlers one after
the other, and waits again.  A periodic timer is one of the things it waits
for: if the timer has expired since it was last read, its handler is part of
the batch, and reads it.  The times at which this handler ran are recorded,
newest first, with the start of the timer as the oldest.

`gaps_of_brisk` bounds the time from one run of the handler to the next if no
batch takes long.  `exists_gap` says that a long stretch inside a batch is a
gap between two of them.
-/

namespace RpcRace.Library.PeriodicTimer

open RpcRace.Library.Run

/-! ## Timers -/

/-- A timer that expires every `period` after its start. -/
structure Timer where
  start : Nat
  period : Nat
  positive : 0 < period

/-- How often the timer has expired. -/
def Timer.expirations (timer : Timer) (time : Nat) : Nat :=
  (time - timer.start) / timer.period

/-- The time of the expiration that comes after `count` others. -/
def Timer.expiry (timer : Timer) (count : Nat) : Nat :=
  timer.start + (count + 1) * timer.period

theorem Timer.lt_expirations_iff (timer : Timer) {time : Nat} (started : timer.start ≤ time)
    (count : Nat) :
    count < timer.expirations time ↔ timer.expiry count ≤ time := by
  rw [Timer.expirations, Timer.expiry, ← Nat.succ_le_iff, Nat.le_div_iff_mul_le timer.positive,
    Nat.succ_eq_add_one]
  omega

/-- The next expiration is ahead, by a period at most. -/
theorem Timer.expiry_expirations (timer : Timer) {time : Nat} (started : timer.start ≤ time) :
    time < timer.expiry (timer.expirations time) ∧
      timer.expiry (timer.expirations time) ≤ time + timer.period := by
  constructor
  · by_contra passed
    have more := (timer.lt_expirations_iff started _).mpr (Nat.not_lt.mp passed)
    exact Nat.lt_irrefl _ more
  · have whole := Nat.div_mul_le_self (time - timer.start) timer.period
    rw [Timer.expiry, Timer.expirations, Nat.succ_mul]
    omega

/-! ## The loop -/

/-- The loop before a wait: how many expirations were read, and when the handler ran. -/
structure Loop where
  now : Nat
  read : Nat
  fired : List Nat

/-- How long a wait takes, and the handlers before and after the timer's place in the batch. -/
structure Iteration where
  idle : Nat
  before : Nat
  after : Nat

variable (timer : Timer)

/-- The loop is entered some time after the timer was started. -/
def enter (startup : Nat) : Loop :=
  ⟨timer.start + startup, 0, [timer.start]⟩

def iterate (loop : Loop) (iteration : Iteration) : Loop :=
  let woken := loop.now + iteration.idle
  if loop.read < timer.expirations woken then
    let time := woken + iteration.before
    ⟨time + iteration.after, timer.expirations time, time :: loop.fired⟩
  else { loop with now := woken + iteration.before + iteration.after }

/-- The wait ends when the timer expires, and at once if it has expired. -/
def Wakes (loop : Loop) (iteration : Iteration) : Prop :=
  loop.now + iteration.idle ≤ max loop.now (timer.expiry loop.read)

/-- The batch takes no longer than this. -/
def Brisk (bound : Nat) (_ : Loop) (iteration : Iteration) : Prop :=
  iteration.before + iteration.after ≤ bound

instance decidableWakes (loop : Loop) (iteration : Iteration) :
    Decidable (Wakes timer loop iteration) :=
  inferInstanceAs (Decidable (_ ≤ _))

instance decidableBrisk (bound : Nat) (loop : Loop) (iteration : Iteration) :
    Decidable (Brisk bound loop iteration) :=
  inferInstanceAs (Decidable (_ ≤ _))

/-- The last run of the handler, and the expiration that is read next. -/
structure Orderly (loop : Loop) : Prop where
  begun : ∀ time ∈ loop.fired, timer.start ≤ time
  last : ∃ last past, loop.fired = last :: past ∧ timer.start ≤ last ∧ last ≤ loop.now ∧
    timer.expiry loop.read ≤ last + timer.period

variable {timer}

theorem enter_orderly (startup : Nat) : Orderly timer (enter timer startup) := by
  refine ⟨by simp [enter], timer.start, [], rfl, le_rfl, Nat.le_add_right _ _, ?_⟩
  simp [enter, Timer.expiry]

theorem Orderly.started {loop : Loop} (orderly : Orderly timer loop) :
    timer.start ≤ loop.now := by
  rcases orderly.last with ⟨last, past, -, started, passed, -⟩
  omega

theorem iterate_orderly (loop : Loop) (iteration : Iteration) (orderly : Orderly timer loop) :
    Orderly timer (iterate timer loop iteration) := by
  have started := orderly.started
  rcases orderly.last with ⟨last, past, fired, began, passed, next⟩
  unfold iterate
  dsimp only
  split_ifs
  · refine ⟨List.forall_mem_cons.mpr ⟨by omega, orderly.begun⟩,
      loop.now + iteration.idle + iteration.before, loop.fired, rfl, by omega, ?_, ?_⟩
    · exact Nat.le_add_right _ _
    · exact (timer.expiry_expirations (by omega)).2
  · refine ⟨orderly.begun, last, past, fired, began, ?_, next⟩
    dsimp only
    omega

/-! ## Brisk batches -/

/-- Two consecutive times are no further apart than this. -/
def Gaps (bound : Nat) (times : List Nat) : Prop :=
  times.IsChain fun later earlier => later ≤ earlier + bound

/-- No expiration is overdue for longer than a batch takes. -/
structure Timely (timer : Timer) (bound : Nat) (loop : Loop) : Prop where
  orderly : Orderly timer loop
  due : loop.now ≤ timer.expiry loop.read + bound
  gaps : Gaps (timer.period + 2 * bound) loop.fired

theorem Gaps.cons {bound last time : Nat} {past : List Nat} (gaps : Gaps bound (last :: past))
    (near : time ≤ last + bound) :
    Gaps bound (time :: last :: past) :=
  List.isChain_cons_cons.mpr ⟨near, gaps⟩

theorem enter_timely {bound startup : Nat} (short : startup ≤ bound) :
    Timely timer bound (enter timer startup) := by
  refine ⟨enter_orderly startup, ?_, List.isChain_singleton _⟩
  simp only [enter, Timer.expiry]
  omega

theorem iterate_timely {bound : Nat} (loop : Loop) (iteration : Iteration)
    (timely : Timely timer bound loop)
    (well : Wakes timer loop iteration ∧ Brisk bound loop iteration) :
    Timely timer bound (iterate timer loop iteration) := by
  rcases well with ⟨wakes, brisk⟩
  have started := timely.orderly.started
  have due := timely.due
  have kept := iterate_orderly loop iteration timely.orderly
  rcases timely.orderly.last with ⟨last, past, fired, began, passed, next⟩
  unfold Wakes at wakes
  unfold Brisk at brisk
  have awake : timer.start ≤ loop.now + iteration.idle := by omega
  unfold iterate at kept ⊢
  dsimp only at kept ⊢
  split_ifs at kept ⊢ with ready
  · -- The handler runs at most two batches after the expiration.
    refine ⟨kept, ?_, ?_⟩
    · have ahead : loop.now + iteration.idle + iteration.before <
          timer.expiry (timer.expirations (loop.now + iteration.idle + iteration.before)) :=
        (timer.expiry_expirations (by omega)).1
      dsimp only
      omega
    · rw [fired]
      have gaps := timely.gaps
      rw [fired] at gaps
      exact gaps.cons (by omega)
  · rw [timer.lt_expirations_iff awake] at ready
    refine ⟨kept, ?_, timely.gaps⟩
    dsimp only
    omega

/-- If no batch takes long, the handler runs in time, and is not overdue either. -/
theorem gaps_of_brisk {bound startup : Nat} (short : startup ≤ bound)
    {iterations : List Iteration}
    (wakes : Along (iterate timer) (Wakes timer) (enter timer startup) iterations)
    (brisk : Along (iterate timer) (Brisk bound) (enter timer startup) iterations) :
    Timely timer bound (run (iterate timer) (enter timer startup) iterations) :=
  throughout_end (throughout_of_along iterate_timely (enter_timely short) (wakes.and brisk))

/-! ## Long stretches -/

/-- Two consecutive times are at least this far apart. -/
def HasGap (size : Nat) (times : List Nat) : Prop :=
  ∃ newer later earlier past, times = newer ++ later :: earlier :: past ∧ earlier + size ≤ later

theorem hasGap_iterate {size : Nat} {loop : Loop} (gap : HasGap size loop.fired)
    (iteration : Iteration) :
    HasGap size (iterate timer loop iteration).fired := by
  unfold iterate
  dsimp only
  split_ifs
  · rcases gap with ⟨newer, later, earlier, past, fired, apart⟩
    exact ⟨_ :: newer, later, earlier, past, by rw [fired]; rfl, apart⟩
  · exact gap

theorem hasGap_run {size : Nat} {loop : Loop} (gap : HasGap size loop.fired)
    (iterations : List Iteration) :
    HasGap size (run (iterate timer) loop iterations).fired := by
  induction iterations generalizing loop with
  | nil => exact gap
  | cons iteration rest induction => exact induction (hasGap_iterate gap iteration)

/-- The handler runs in the next batch if an expiration is due. -/
theorem hasGap_of_due {size : Nat} {loop : Loop} (orderly : Orderly timer loop)
    (long : ∃ last past, loop.fired = last :: past ∧ last + size ≤ loop.now)
    (due : timer.expiry loop.read ≤ loop.now) (iteration : Iteration) :
    HasGap size (iterate timer loop iteration).fired := by
  rcases long with ⟨last, past, fired, apart⟩
  have started := orderly.started
  have ready : loop.read < timer.expirations (loop.now + iteration.idle) :=
    (timer.lt_expirations_iff (by omega) _).mpr (by omega)
  unfold iterate
  dsimp only
  rw [if_pos ready]
  exact ⟨[], _, last, past, by rw [fired]; rfl, by omega⟩

/-- A stretch of a batch that takes longer than a period is a gap after the next batch. -/
theorem hasGap_of_stretch {size : Nat} {loop : Loop} (orderly : Orderly timer loop)
    (long : timer.period ≤ size) {stalled : Iteration}
    (stretch : size ≤ stalled.before ∨ size ≤ stalled.after) (next : Iteration) :
    HasGap size (iterate timer (iterate timer loop stalled) next).fired := by
  have started := orderly.started
  rcases orderly.last with ⟨last, past, fired, began, passed, upcoming⟩
  have kept := iterate_orderly loop stalled orderly
  by_cases ready : loop.read < timer.expirations (loop.now + stalled.idle)
  · have step_eq : iterate timer loop stalled =
        ⟨loop.now + stalled.idle + stalled.before + stalled.after,
          timer.expirations (loop.now + stalled.idle + stalled.before),
          (loop.now + stalled.idle + stalled.before) :: loop.fired⟩ := if_pos ready
    rcases stretch with before | after
    · apply hasGap_iterate
      rw [step_eq]
      exact ⟨[], _, last, past, by rw [fired]; rfl, by omega⟩
    · apply hasGap_of_due kept
      · rw [step_eq]
        exact ⟨_, _, rfl, by dsimp only; omega⟩
      · have ahead : timer.expiry (timer.expirations (loop.now + stalled.idle + stalled.before)) ≤
            loop.now + stalled.idle + stalled.before + timer.period :=
          (timer.expiry_expirations (by omega)).2
        rw [step_eq]
        dsimp only
        omega
  · have step_eq : iterate timer loop stalled =
        { loop with now := loop.now + stalled.idle + stalled.before + stalled.after } :=
      if_neg ready
    apply hasGap_of_due kept
    · rw [step_eq]
      exact ⟨last, past, fired, by dsimp only; omega⟩
    · rw [step_eq]
      dsimp only
      omega

theorem run_orderly (startup : Nat) (iterations : List Iteration) :
    Orderly timer (run (iterate timer) (enter timer startup) iterations) :=
  run_invariant iterate_orderly (enter_orderly startup) iterations

/-- Once a batch has had such a stretch and another batch has run, there is a gap for good. -/
theorem exists_gap {size : Nat} (startup : Nat) (long : timer.period ≤ size)
    (earlier : List Iteration) {stalled : Iteration}
    (stretch : size ≤ stalled.before ∨ size ≤ stalled.after) (next : Iteration)
    (later : List Iteration) :
    HasGap size (run (iterate timer) (enter timer startup)
      (earlier ++ stalled :: next :: later)).fired := by
  have orderly : Orderly timer (run (iterate timer) (enter timer startup) earlier) :=
    run_orderly startup earlier
  rw [run_append, run_cons, run_cons]
  exact hasGap_run (hasGap_of_stretch orderly long stretch next) later

end RpcRace.Library.PeriodicTimer
