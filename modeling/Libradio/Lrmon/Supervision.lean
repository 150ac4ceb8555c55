import Libradio.Lrmon.ParseData
import Libradio.Lrmon.Timer

/-!
# How lrmond watches the controller

`src/lrmon/state.c`, `src/lrmon/timer.c` and the main loop of `src/lrmon/main.c:111-130` as one
program: `state_machine` is called by its own timer and by the lines that come in, and sets its
timer again each time. Until the controller is ready the timer is always pending, and the retries
are counted up to the reset.
-/

namespace Libradio
open Libradio.Base

namespace Lrmon

/-- The functions that lrmond puts into the timer queue. -/
inductive TimerFunc
  | stateMachine
  | dynamicStatusTimer
  deriving DecidableEq, Repr

/-- One call of `state_machine`: the variables before and after, and the messages sent. -/
structure Call where
  before : Monitor
  after : Monitor
  sent : List (List UInt8)

/-- lrmond with its timer queue. The calls of `state_machine` so far, newest first, and the messages
so far for `sio_send`, oldest first, are not stored by the program. -/
structure Daemon where
  mon : Monitor
  timers : Timers TimerFunc
  calls : List Call
  sent : List (List UInt8)

namespace Daemon

/-- `timer_init` and `state_init`, `src/lrmon/state.c:69-75`. -/
def init : Daemon := ⟨.init, timerInsert .stateMachine 3 timerInit, [], []⟩

/-- `dynamic_status_timer`, `src/lrmon/state.c:230-236`. -/
def dynamicStatusTimer (d : Daemon) : Daemon :=
  let r := Lrmon.dynamicStatusTimer d.mon
  { d with
    mon := r.1
    timers := timerInsert .dynamicStatusTimer 300 d.timers
    sent := d.sent ++ r.2 }

/-- `state_machine`, `src/lrmon/state.c:80-216`: the timer is removed first and set last. The
message of the `dynamic_status_timer` on the way into `STATE_READY` is one of the turn's, its timer
is set here. -/
def stateMachine (clock : HostClock) (d : Daemon) : Daemon :=
  let d := { d with timers := timerRemove .stateMachine d.timers }
  if d.mon.state = .ready then { d with calls := ⟨d.mon, d.mon, []⟩ :: d.calls }
  else
    let m := d.mon
    let t := onState clock (if m.retries > 10 then { m with state := .sendReset } else m)
    let timers := if t.mon.state = .ready then timerInsert .dynamicStatusTimer 300 d.timers
      else d.timers
    { mon := t.mon
      timers := timerInsert .stateMachine t.nextTimeout timers
      calls := ⟨d.mon, t.mon, t.sent⟩ :: d.calls
      sent := d.sent ++ t.sent }

/-- `parse_data`, `src/lrmon/main.c:135-199`. -/
def parseData (clock : HostClock) (data : List UInt8) (d : Daemon) : Daemon :=
  match readLine data with
  | .ignored => d
  | .good => { d with mon := { d.mon with failureStatus := 0 } }.stateMachine clock
  | .failed code => { d with mon := { d.mon with failureStatus := code } }.stateMachine clock
  | .status _ node _ args =>
    { d with mon := response node args { d.mon with failureStatus := 0 } }.stateMachine clock

/-- The function of a cell. -/
def call (clock : HostClock) (d : Daemon) : TimerFunc → Daemon
  | .stateMachine => d.stateMachine clock
  | .dynamicStatusTimer => d.dynamicStatusTimer

/-- The run loop of `timer_expiry`, `src/lrmon/timer.c:172-180`. -/
def runCells (clock : HostClock) : List (Timerq TimerFunc) → Daemon → Daemon
  | [], d => d
  | cell :: rest, d =>
    let d := d.call clock cell.func
    runCells clock rest { d with timers := timerRan d.timers }

/-- `timer_expiry`, `src/lrmon/timer.c:144-182`. -/
def expire (clock : HostClock) (d : Daemon) : Daemon :=
  let d := { d with timers := timerExpiry d.timers }
  runCells clock d.timers.running d

/-- One round of the main loop: `select` waits for some microseconds, no longer than `tval`, and
some lines are complete then. The clock of the host is read anew for each of them. -/
structure Round where
  elapsed : Nat
  clock : HostClock
  lines : List (HostClock × List UInt8)

/-- The loop of `main_loop`, `src/lrmon/main.c:117-129`. -/
def round (d : Daemon) (r : Round) : Daemon :=
  let d := { d with timers := d.timers.elapse r.elapsed }
  let d := if d.timers.tvSec = 0 ∧ d.timers.tvUsec = 0 then d.expire r.clock else d
  r.lines.foldl (fun d line ↦ d.parseData line.1 line.2) d

end Daemon

/-- The variables of lrmond apart from the record of its timers. -/
def Monitor.untimed (m : Monitor) : Monitor := { m with timer := none, statusTimer := none }

/-- With its queue lrmond is in the states that it is in without, and sends the same messages. -/
theorem Daemon.stateMachine_untimed (clock : HostClock) (d : Daemon) :
    (d.stateMachine clock).mon.untimed = (Lrmon.stateMachine clock d.mon).1.untimed ∧
      (d.stateMachine clock).sent = d.sent ++ (Lrmon.stateMachine clock d.mon).2 ∧
      ∃ after, (d.stateMachine clock).calls =
        ⟨d.mon, after, (Lrmon.stateMachine clock d.mon).2⟩ :: d.calls := by
  unfold Daemon.stateMachine Lrmon.stateMachine
  dsimp only
  by_cases hready : d.mon.state = .ready
  · rw [if_pos hready, if_pos hready]
    exact ⟨rfl, (List.append_nil _).symm, d.mon, rfl⟩
  · rw [if_neg hready, if_neg hready]
    exact ⟨rfl, rfl, _, rfl⟩

/-! ### What one call does -/

/-- How far a state is from the start. -/
def MonState.stage : MonState → Nat
  | .unknown => 0
  | .sendReset => 0
  | .srequest => 1
  | .drequest => 2
  | .activate => 3
  | .setTime => 4
  | .setDate => 5
  | .activateCh i => 6 + i.val
  | .ready => 10

/-- From the state `s` and a number of retries: another retry in the same state, or a state
further on with one retry at most. -/
inductive Progress (s : MonState) (retries : Nat) (t : Turn) : Prop
  | stays (state : t.mon.state = s) (counted : t.mon.retries = retries + 1)
      (timeout : t.nextTimeout ≤ 5)
  | forward (further : s.stage < t.mon.state.stage) (few : t.mon.retries ≤ 1)
      (timeout : t.nextTimeout ≤ 5)

/-- The next state is further on, whatever happens there. -/
theorem Progress.of_next {s s' : MonState} {retries : Nat} {t : Turn} (h : Progress s' 0 t)
    (hstage : s.stage < s'.stage) : Progress s retries t := by
  cases h with
  | stays state counted timeout =>
    refine .forward ?_ (Nat.le_of_eq counted) timeout
    rw [state]
    exact hstage
  | forward further few timeout => exact .forward (Nat.lt_trans hstage further) few timeout

section Progress

variable {m : Monitor} {n : Nat} (clock : HostClock)

private theorem progress_onActivateCh {i : Fin 4} (h : m.state = .activateCh i)
    (hn : m.retries = n) :
    Progress (.activateCh i) n (onActivateCh i m) := by
  unfold onActivateCh
  split
  · exact .stays h (congrArg (· + 1) hn) (Nat.le_refl 5)
  · dsimp only
    split
    · apply Progress.forward
      · show 6 + i.val < 10
        omega
      · exact Nat.zero_le 1
      · exact Nat.le_refl 5
    · next hlast =>
      apply Progress.forward
      · have hne : i.val ≠ 3 := fun heq ↦ hlast (Fin.ext heq)
        have hlt := i.isLt
        show 6 + i.val < 6 + (i.val + 1) % 4
        omega
      · exact Nat.zero_le 1
      · exact Nat.le_refl 5

private theorem progress_onSetDate (h : m.state = .setDate) (hn : m.retries = n) :
    Progress .setDate n (onSetDate clock m) := by
  unfold onSetDate
  split
  · exact .stays h (congrArg (· + 1) hn) (Nat.le_refl 5)
  · apply Progress.of_next
    · exact progress_onActivateCh rfl rfl
    · decide

private theorem progress_onSetTime (h : m.state = .setTime) (hn : m.retries = n) :
    Progress .setTime n (onSetTime clock m) := by
  unfold onSetTime
  split
  · exact .stays h (congrArg (· + 1) hn) (Nat.le_refl 5)
  · apply Progress.of_next
    · exact progress_onSetDate clock rfl rfl
    · decide

private theorem progress_onActivate (h : m.state = .activate) (hn : m.retries = n) :
    Progress .activate n (onActivate clock m) := by
  unfold onActivate
  split
  · exact .stays h (congrArg (· + 1) hn) (Nat.le_refl 5)
  · apply Progress.of_next
    · exact progress_onSetTime clock rfl rfl
    · decide

private theorem progress_onDrequest (h : m.state = .drequest) (hn : m.retries = n) :
    Progress .drequest n (onDrequest clock m) := by
  unfold onDrequest
  split
  · exact .stays h (congrArg (· + 1) hn) (Nat.le_refl 5)
  · dsimp only
    split
    · apply Progress.forward
      · show 2 < 4
        decide
      · exact Nat.zero_le 1
      · exact Nat.le_refl 5
    · apply Progress.of_next
      · exact progress_onActivate clock rfl rfl
      · decide

private theorem progress_onSrequest (h : m.state = .srequest) (hn : m.retries = n) :
    Progress .srequest n (onSrequest clock m) := by
  unfold onSrequest
  split
  · exact .stays h (congrArg (· + 1) hn) (by decide : 3 ≤ 5)
  · apply Progress.of_next
    · exact progress_onDrequest clock rfl rfl
    · decide

/-- Every state but the first and the last makes some progress. -/
theorem progress_onState (hready : m.state ≠ .ready) (hreset : m.state ≠ .sendReset) :
    Progress m.state m.retries (onState clock m) := by
  unfold onState
  cases hstate : m.state with
  | sendReset => exact absurd hstate hreset
  | unknown =>
    apply Progress.of_next
    · exact progress_onSrequest clock rfl rfl
    · decide
  | srequest => exact progress_onSrequest clock hstate rfl
  | drequest => exact progress_onDrequest clock hstate rfl
  | activate => exact progress_onActivate clock hstate rfl
  | setTime => exact progress_onSetTime clock hstate rfl
  | setDate => exact progress_onSetDate clock hstate rfl
  | activateCh i => exact progress_onActivateCh hstate rfl
  | ready => exact absurd hstate hready

end Progress

/-- A call with more than ten retries is a reset, any other one makes progress. -/
theorem reset_or_progress (clock : HostClock) {m : Monitor} (hready : m.state ≠ .ready)
    (hreset : m.state ≠ .sendReset) {t : Turn}
    (ht : t = onState clock (if m.retries > 10 then { m with state := .sendReset } else m)) :
    t = onSendReset { m with state := .sendReset } ∨
      m.retries ≤ 10 ∧ Progress m.state m.retries t := by
  by_cases hlimit : m.retries > 10
  · rw [if_pos hlimit] at ht
    exact .inl ht
  · rw [if_neg hlimit] at ht
    rw [ht]
    exact .inr ⟨Nat.le_of_not_lt hlimit, progress_onState clock hready hreset⟩

/-! ### The calls so far -/

/-- A call before the controller is ready that neither comes to a state further on nor resets
the controller. -/
def Call.Stalled (c : Call) : Prop :=
  c.before.state ≠ .ready ∧ ¬ c.before.state.stage < c.after.state.stage ∧
    resetController ∉ c.sent

/-- What a call from `m` on leaves: eleven retries at most, one more if it was stalled, and a
timeout of at most five seconds. -/
structure Counted (m : Monitor) (t : Turn) : Prop where
  few : t.mon.retries ≤ 11
  settled : t.mon.state ≠ .sendReset
  counted : Call.Stalled ⟨m, t.mon, t.sent⟩ → t.mon.retries = m.retries + 1
  timeout : t.nextTimeout ≤ 5

/-- A call of `state_machine` counts a retry, or gets on. -/
theorem counted_onState (clock : HostClock) {m : Monitor} (hready : m.state ≠ .ready)
    (hreset : m.state ≠ .sendReset) :
    Counted m
      (onState clock (if m.retries > 10 then { m with state := .sendReset } else m)) := by
  have hturn := reset_or_progress clock hready hreset rfl
  generalize onState clock _ = t at hturn
  rcases hturn with rfl | ⟨hlimit, hprogress⟩
  · constructor
    · exact Nat.zero_le 11
    · intro h
      exact MonState.noConfusion h
    · intro hstalled
      exact absurd List.mem_cons_self hstalled.2.2
    · exact Nat.le_refl 5
  · cases hprogress with
    | stays state counted timeout =>
      constructor
      · omega
      · rw [state]
        exact hreset
      · intro _
        exact counted
      · exact timeout
    | forward further few timeout =>
      constructor
      · omega
      · intro h
        rw [h] at further
        exact absurd further (Nat.not_lt_zero _)
      · intro hstalled
        exact absurd further hstalled.2.1
      · exact timeout

/-- The calls led to `n` retries: each starts from the number the one before left, a stalled one
adds one to it, and the number is eleven at most. -/
def Counts (n : Nat) : List Call → Prop
  | [] => n ≤ 11
  | c :: cs => n ≤ 11 ∧ c.after.retries = n ∧ (c.Stalled → n = c.before.retries + 1) ∧
      Counts c.before.retries cs

private theorem Counts.le {n : Nat} {cs : List Call} (h : Counts n cs) : n ≤ 11 := by
  cases cs with
  | nil => exact h
  | cons c cs => exact h.1

/-- What holds of all calls holds of the first ones. -/
theorem Counts.of_append {n : Nat} {pre cs : List Call} (h : Counts n (pre ++ cs)) :
    ∃ k, Counts k cs := by
  induction pre generalizing n with
  | nil => exact ⟨n, h⟩
  | cons c pre ih => exact ih h.2.2.2

/-- Each stalled call is counted. -/
theorem Counts.length_le {n : Nat} {block cs : List Call} (h : Counts n (block ++ cs))
    (hstalled : ∀ c ∈ block, c.Stalled) : block.length ≤ n := by
  induction block generalizing n with
  | nil => exact Nat.zero_le n
  | cons c block ih =>
    have hcount := h.2.2.1 (hstalled c List.mem_cons_self)
    have hrest := ih h.2.2.2 fun c' hc' ↦ hstalled c' (List.mem_cons_of_mem c hc')
    rw [hcount, List.length_cons]
    exact Nat.succ_le_succ hrest

/-- No twelve calls in a row are stalled. -/
theorem Counts.length_stalled_le {n : Nat} {block cs : List Call} (h : Counts n cs)
    (hblock : block <:+: cs) (hstalled : ∀ c ∈ block, c.Stalled) : block.length ≤ 11 := by
  obtain ⟨pre, post, rfl⟩ := hblock
  rw [List.append_assoc] at h
  obtain ⟨k, hk⟩ := h.of_append
  exact Nat.le_trans (hk.length_le hstalled) hk.le

/-! ### The timer is pending -/

/-- The queue has one timer, which calls `state_machine` and is due within five seconds. -/
structure Awaits (t : Timers TimerFunc) : Prop where
  queue : ∃ i, t.timerq = [⟨i, 0, .stateMachine⟩]
  due : 0 ≤ t.tval ∧ t.tval ≤ 5000000

/-- An insertion of `state_machine` into an empty queue. -/
theorem awaits_timerInsert {t : Timers TimerFunc} (h : t.timerq = []) {n : Nat}
    (hn : n ≤ 5) : Awaits (timerInsert .stateMachine n t) := by
  unfold timerInsert
  dsimp only
  rw [h]
  constructor
  · exact ⟨t.inserted, rfl⟩
  · show 0 ≤ (n : Int) * 1000000 + 0 ∧ (n : Int) * 1000000 + 0 ≤ 5000000
    omega

/-- When the timer of `state_machine` is removed the queue is empty. -/
theorem Awaits.timerRemove {t : Timers TimerFunc} (h : Awaits t) :
    (timerRemove .stateMachine t).timerq = [] := by
  obtain ⟨i, hq⟩ := h.queue
  show t.timerq.eraseP _ = []
  rw [hq]
  rfl

/-- The time that is left gets less, and no less than nothing. -/
theorem Awaits.elapse {t : Timers TimerFunc} (h : Awaits t) (d : Nat) : Awaits (t.elapse d) := by
  have hdue := h.due
  unfold Timers.elapse
  split
  · constructor
    · exact h.queue
    · show 0 ≤ (t.tval - d) / 1000000 * 1000000 + (t.tval - d) % 1000000 ∧
        (t.tval - d) / 1000000 * 1000000 + (t.tval - d) % 1000000 ≤ 5000000
      omega
  · exact h

namespace Daemon

/-- What holds whenever lrmond is back in its main loop. -/
structure Supervised (d : Daemon) : Prop where
  counts : Counts d.mon.retries d.calls
  settled : d.mon.state ≠ .sendReset
  awaits : d.mon.state ≠ .ready → Awaits d.timers

/-- A new process is supervised. -/
theorem supervised_init : Supervised .init where
  counts := Nat.zero_le 11
  settled := by decide
  awaits _ := awaits_timerInsert (t := timerInit) (n := 3) rfl (by decide)

variable {d : Daemon} (clock : HostClock)

/-- Once the controller is ready, a call only takes its own timer out of the queue. -/
theorem stateMachine_ready (h : d.mon.state = .ready) :
    d.stateMachine clock =
      { d with
        timers := timerRemove .stateMachine d.timers
        calls := ⟨d.mon, d.mon, []⟩ :: d.calls } := by
  unfold Daemon.stateMachine
  exact if_pos h

/-- A call that finds no other timer in the queue. -/
theorem supervised_stateMachine (hcounts : Counts d.mon.retries d.calls)
    (hsettled : d.mon.state ≠ .sendReset)
    (hqueue : d.mon.state ≠ .ready → (timerRemove .stateMachine d.timers).timerq = []) :
    Supervised (d.stateMachine clock) := by
  by_cases hready : d.mon.state = .ready
  · rw [stateMachine_ready clock hready]
    constructor
    · refine ⟨hcounts.le, rfl, ?_, hcounts⟩
      intro hstalled
      exact absurd hready hstalled.1
    · exact hsettled
    · intro hne
      exact absurd hready hne
  · have hcounted := counted_onState clock hready hsettled
    unfold Daemon.stateMachine
    dsimp only
    rw [if_neg hready]
    generalize onState clock _ = t at hcounted
    by_cases hlast : t.mon.state = .ready
    · rw [if_pos hlast]
      constructor
      · exact ⟨hcounted.few, rfl, hcounted.counted, hcounts⟩
      · exact hcounted.settled
      · intro hne
        exact absurd hlast hne
    · rw [if_neg hlast]
      constructor
      · exact ⟨hcounted.few, rfl, hcounted.counted, hcounts⟩
      · exact hcounted.settled
      · intro _
        exact awaits_timerInsert (hqueue hready) hcounted.timeout

private theorem Supervised.stateMachine (h : Supervised d) : Supervised (d.stateMachine clock) :=
  supervised_stateMachine clock h.counts h.settled fun hne ↦ (h.awaits hne).timerRemove

/-- The variables that a line changes before `state_machine` is called. -/
theorem supervised_heard {m : Monitor} (h : Supervised d) (hstate : m.state = d.mon.state)
    (hretries : m.retries = d.mon.retries) :
    Supervised ({ d with mon := m }.stateMachine clock) := by
  apply Supervised.stateMachine
  constructor
  · show Counts m.retries d.calls
    rw [hretries]
    exact h.counts
  · show m.state ≠ .sendReset
    rw [hstate]
    exact h.settled
  · show m.state ≠ .ready → Awaits d.timers
    rw [hstate]
    exact h.awaits

/-- The arguments of a response are only stored. -/
theorem localResponse_state (argp : List UInt8) (m : Monitor) :
    (localResponse argp m).state = m.state ∧ (localResponse argp m).retries = m.retries := by
  unfold localResponse
  split
  · split
    · exact ⟨rfl, rfl⟩
    · exact ⟨rfl, rfl⟩
  · split
    · exact ⟨rfl, rfl⟩
    · exact ⟨rfl, rfl⟩
  · exact ⟨rfl, rfl⟩

/-- A response changes neither the state nor the retries. -/
theorem response_state (node : Int) (argp : List UInt8) (m : Monitor) :
    (response node argp m).state = m.state ∧ (response node argp m).retries = m.retries := by
  unfold response
  dsimp only
  split
  · exact localResponse_state argp _
  · exact ⟨rfl, rfl⟩

private theorem Supervised.parseData (data : List UInt8) (h : Supervised d) :
    Supervised (d.parseData clock data) := by
  unfold Daemon.parseData
  split
  · exact h
  · exact supervised_heard clock h rfl rfl
  · exact supervised_heard clock h rfl rfl
  · next node _ args _ =>
    have hresponse := response_state node args { d.mon with failureStatus := 0 }
    exact supervised_heard clock h hresponse.1 hresponse.2

/-- The functions of the cells leave a ready controller ready. -/
theorem counts_call_ready (hcounts : Counts d.mon.retries d.calls) (hready : d.mon.state = .ready)
    (func : TimerFunc) :
    Counts (d.call clock func).mon.retries (d.call clock func).calls ∧
      (d.call clock func).mon.state = .ready := by
  cases func with
  | dynamicStatusTimer => exact ⟨hcounts, hready⟩
  | stateMachine =>
    unfold call
    dsimp only
    rw [stateMachine_ready clock hready]
    refine ⟨⟨hcounts.le, rfl, ?_, hcounts⟩, hready⟩
    intro hstalled
    exact absurd hready hstalled.1

private theorem supervised_runCells_ready (cells : List (Timerq TimerFunc))
    (hcounts : Counts d.mon.retries d.calls) (hready : d.mon.state = .ready) :
    Supervised (runCells clock cells d) := by
  induction cells generalizing d with
  | nil =>
    constructor
    · exact hcounts
    · show d.mon.state ≠ .sendReset
      rw [hready]
      decide
    · intro hne
      exact absurd hready hne
  | cons cell rest ih =>
    have hcall := counts_call_ready clock hcounts hready cell.func
    exact ih hcall.1 hcall.2

/-- Before that the one cell of the queue is run, and `state_machine` finds the queue empty. -/
theorem Supervised.expire (h : Supervised d) : Supervised (d.expire clock) := by
  unfold Daemon.expire
  by_cases hready : d.mon.state = .ready
  · exact supervised_runCells_ready clock _ h.counts hready
  · obtain ⟨i, hq⟩ := (h.awaits hready).queue
    have hexpiry : timerExpiry d.timers =
        { d.timers with timerq := [], running := [⟨i, 0, .stateMachine⟩], tvSec := 60 } := by
      unfold timerExpiry
      rw [hq]
      rfl
    rw [hexpiry]
    have hcall := supervised_stateMachine clock
      (d := { d with timers := { d.timers with
        timerq := [], running := [⟨i, 0, .stateMachine⟩], tvSec := 60 } })
      h.counts h.settled fun _ ↦ rfl
    constructor
    · exact hcall.counts
    · exact hcall.settled
    · intro hne
      have hawaits := hcall.awaits hne
      exact ⟨hawaits.queue, hawaits.due⟩

/-- One round of the main loop. -/
theorem Supervised.round (h : Supervised d) (r : Round) : Supervised (d.round r) := by
  have helapse : Supervised { d with timers := d.timers.elapse r.elapsed } := by
    constructor
    · exact h.counts
    · exact h.settled
    · intro hne
      exact (h.awaits hne).elapse r.elapsed
  have hlines (lines : List (HostClock × List UInt8)) (d : Daemon) (hd : Supervised d) :
      Supervised (lines.foldl (fun d line ↦ d.parseData line.1 line.2) d) := by
    induction lines generalizing d with
    | nil => exact hd
    | cons line lines ih => exact ih _ (hd.parseData line.1 line.2)
  unfold Daemon.round
  apply hlines
  split
  · exact helapse.expire r.clock
  · exact helapse

end Daemon

/-- In every run of the main loop, as long as the controller is not ready, the queue has one
timer when a round is over, which calls `state_machine` and is due within five seconds, and no
more than eleven retries are counted; and of any thirteen calls in a row one comes to a state
further on or resets the controller. -/
theorem supervision_never_stalls (rounds : List Daemon.Round) :
    let d := run Daemon.round .init rounds
    (d.mon.state ≠ .ready →
      (∃ i due, d.timers.deadlines = [((i, TimerFunc.stateMachine), due)] ∧
        d.timers.now ≤ due ∧ due ≤ d.timers.now + 5000000) ∧
      d.mon.retries ≤ 11) ∧
    ∀ block, block <:+: d.calls → (∀ c ∈ block, c.Stalled) → block.length ≤ 12 := by
  have h : Daemon.Supervised (run Daemon.round .init rounds) :=
    run_inv_of_step Daemon.round (fun _ r hd ↦ hd.round r) rounds Daemon.supervised_init
  generalize run Daemon.round .init rounds = d at h
  constructor
  · intro hready
    have hawaits := h.awaits hready
    obtain ⟨i, hq⟩ := hawaits.queue
    constructor
    · refine ⟨i, d.timers.now + d.timers.tval, ?_, ?_, ?_⟩
      · unfold Timers.deadlines
        rw [hq]
        rfl
      · have := hawaits.due.1
        omega
      · have := hawaits.due.2
        omega
    · exact h.counts.le
  · intro block hblock hstalled
    exact Nat.le_succ_of_le (h.counts.length_stalled_le hblock hstalled)

end Lrmon
end Libradio
