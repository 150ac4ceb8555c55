import Libradio.Control.Input
import Libradio.Lrmon.Supervision

/-!
# The controller's status is asked for again and again

Once the controller is ready, `state_machine` sets its timer no more, and the only timer that is
set again is that of `dynamic_status_timer`. The queue has one of three shapes then, and in each
of them the next request is at most 305 seconds away, although the seconds in the queue are not
what `timer_insert` was asked for.
-/

namespace Libradio
open Libradio.Base

namespace Lrmon

/-- A queue of a ready controller and the time in microseconds up to the next request:
`dynamic_status_timer` is alone, before the last timer of `state_machine`, or behind it. -/
inductive Polls (t : Timers TimerFunc) : Int → Prop
  | alone (i : Nat) (s : Int) (queue : t.timerq = [⟨i, s, .dynamicStatusTimer⟩])
      (due : 0 ≤ t.tval ∧ t.tval ≤ 300000000) : Polls t t.tval
  | first (i j : Nat) (s k : Int) (later : 0 < k ∧ k ≤ 5)
      (queue : t.timerq = [⟨i, s, .dynamicStatusTimer⟩, ⟨j, k, .stateMachine⟩])
      (due : 0 ≤ t.tval ∧ t.tval ≤ 300000000) : Polls t t.tval
  | second (i j : Nat) (s : Int)
      (queue : t.timerq = [⟨j, s, .stateMachine⟩, ⟨i, 300, .dynamicStatusTimer⟩])
      (due : 0 ≤ t.tval ∧ t.tval ≤ 5000000) : Polls t (t.tval + 300000000)

namespace Polls

variable {t : Timers TimerFunc} {left : Int}

/-- There is one timer of `dynamic_status_timer`, and one of `state_machine` at most. -/
theorem pending (h : Polls t left) :
    t.timerq.countP (·.func = .dynamicStatusTimer) = 1 ∧
      t.timerq.countP (·.func = .stateMachine) ≤ 1 := by
  cases h with
  | alone i s queue due =>
    rw [queue]
    exact ⟨rfl, Nat.le_of_ble_eq_true rfl⟩
  | first i j s k later queue due =>
    rw [queue]
    exact ⟨rfl, Nat.le_of_ble_eq_true rfl⟩
  | second i j s queue due =>
    rw [queue]
    exact ⟨rfl, Nat.le_of_ble_eq_true rfl⟩

/-- What time passes is taken off. -/
theorem elapse (h : Polls t left) (d : Nat) :
    Polls (t.elapse d) (left - ((t.elapse d).now - t.now)) ∧ t.now ≤ (t.elapse d).now := by
  by_cases hd : (d : Int) ≤ t.tval
  · have helapse : t.elapse d = { t with
        now := t.now + d
        tvSec := (t.tval - d) / 1000000
        tvUsec := (t.tval - d) % 1000000 } := by
      unfold Timers.elapse
      exact if_pos hd
    have htval : (t.elapse d).tval = t.tval - d := by
      rw [helapse]
      show (t.tval - d) / 1000000 * 1000000 + (t.tval - d) % 1000000 = t.tval - d
      omega
    have hnow : (t.elapse d).now = t.now + d := by rw [helapse]
    have hqueue : (t.elapse d).timerq = t.timerq := by rw [helapse]
    constructor
    · cases h with
      | alone i s queue due =>
        have h := Polls.alone (t := t.elapse d) i s (hqueue.trans queue) (by omega)
        rwa [show t.tval - ((t.elapse d).now - t.now) = (t.elapse d).tval by omega]
      | first i j s k later queue due =>
        have h := Polls.first (t := t.elapse d) i j s k later (hqueue.trans queue) (by omega)
        rwa [show t.tval - ((t.elapse d).now - t.now) = (t.elapse d).tval by omega]
      | second i j s queue due =>
        have h := Polls.second (t := t.elapse d) i j s (hqueue.trans queue) (by omega)
        rwa [show t.tval + 300000000 - ((t.elapse d).now - t.now) =
          (t.elapse d).tval + 300000000 by omega]
    · omega
  · have helapse : t.elapse d = t := by
      unfold Timers.elapse
      exact if_neg hd
    rw [helapse]
    refine ⟨?_, Int.le_refl _⟩
    rwa [show left - (t.now - t.now) = left by omega]

/-- Without the timer of `state_machine` the next request is no later. -/
theorem remove (h : Polls t left) :
    ∃ left', left' ≤ left ∧ Polls (timerRemove .stateMachine t) left' := by
  have htval : (timerRemove .stateMachine t).tval = t.tval := rfl
  have hqueue : (timerRemove .stateMachine t).timerq =
      t.timerq.eraseP (·.func = .stateMachine) := rfl
  cases h with
  | alone i s queue due =>
    rw [queue] at hqueue
    exact ⟨_, Int.le_refl _, .alone i s hqueue due⟩
  | first i j s k later queue due =>
    rw [queue] at hqueue
    exact ⟨_, Int.le_refl _, .alone i s hqueue due⟩
  | second i j s queue due =>
    rw [queue] at hqueue
    exact ⟨_, by omega, .alone i 300 hqueue (by omega)⟩

end Polls

namespace Daemon

/-- From `d` to `d'` nothing has been sent but requests for the dynamic status, and the time that
has passed is taken off what was left up to the next one, with 305 seconds for each request. -/
def Requested (d d' : Daemon) (left left' : Int) : Prop :=
  ∃ n : Nat, d'.sent = d.sent ++ List.replicate n (requestLocalStatus RADIO_STATUS_DYNAMIC) ∧
    left' + (d'.timers.now - d.timers.now) ≤ left + n * 305000000

/-- Nothing was sent. -/
theorem Requested.of_silent {d d' : Daemon} {left left' : Int} (hsent : d'.sent = d.sent)
    (hleft : left' + (d'.timers.now - d.timers.now) ≤ left) : Requested d d' left left' := by
  refine ⟨0, ?_, by omega⟩
  rw [hsent, List.replicate_zero, List.append_nil]

private theorem Requested.trans {d₁ d₂ d₃ : Daemon} {left₁ left₂ left₃ : Int}
    (h₁ : Requested d₁ d₂ left₁ left₂) (h₂ : Requested d₂ d₃ left₂ left₃) :
    Requested d₁ d₃ left₁ left₃ := by
  obtain ⟨n₁, hsent₁, hleft₁⟩ := h₁
  obtain ⟨n₂, hsent₂, hleft₂⟩ := h₂
  refine ⟨n₁ + n₂, ?_, by omega⟩
  rw [hsent₂, hsent₁, List.append_assoc, List.replicate_append_replicate]

/-- What holds of a ready controller whenever lrmond is back in its main loop, with the time up to
the next request. -/
structure Ready (d : Daemon) (left : Int) : Prop where
  state : d.mon.state = .ready
  polls : Polls d.timers left
  idle : d.timers.running = []

variable {d : Daemon} {left : Int} (clock : HostClock)

/-- A call of `state_machine` sends nothing and makes the next request no later. -/
theorem Ready.stateMachine (h : Ready d left) :
    ∃ left', Ready (d.stateMachine clock) left' ∧
      Requested d (d.stateMachine clock) left left' := by
  obtain ⟨left', hle, hpolls⟩ := h.polls.remove
  rw [stateMachine_ready clock h.state]
  refine ⟨left', ⟨h.state, hpolls, h.idle⟩, .of_silent rfl ?_⟩
  show left' + (d.timers.now - d.timers.now) ≤ left
  omega

/-- A line makes the next request no later. -/
theorem Ready.parseData (h : Ready d left) (data : List UInt8) :
    ∃ left', Ready (d.parseData clock data) left' ∧
      Requested d (d.parseData clock data) left left' := by
  have hcall (m : Monitor) (hm : m.state = d.mon.state) :
      ∃ left', Ready ({ d with mon := m }.stateMachine clock) left' ∧
        Requested d ({ d with mon := m }.stateMachine clock) left left' := by
    have hready : Ready { d with mon := m } left := ⟨hm.trans h.state, h.polls, h.idle⟩
    exact hready.stateMachine clock
  unfold Daemon.parseData
  split
  · exact ⟨left, h, .of_silent rfl (by omega)⟩
  · exact hcall _ rfl
  · exact hcall _ rfl
  · next node _ args _ => exact hcall _ (response_state node args _).1

/-- Neither do any number of lines. -/
theorem Ready.lines (lines : List (HostClock × List UInt8)) (h : Ready d left) :
    let d' := lines.foldl (fun d line ↦ d.parseData line.1 line.2) d
    ∃ left', Ready d' left' ∧ Requested d d' left left' := by
  induction lines generalizing d left with
  | nil => exact ⟨left, h, .of_silent rfl (by rw [List.foldl_nil]; omega)⟩
  | cons line lines ih =>
    obtain ⟨left₁, h₁, hrequested₁⟩ := h.parseData line.1 line.2
    obtain ⟨left₂, h₂, hrequested₂⟩ := ih h₁
    exact ⟨left₂, h₂, hrequested₁.trans hrequested₂⟩

/-- One cell is run. -/
theorem expire_of_running {cell : Timerq TimerFunc}
    (hrunning : (timerExpiry d.timers).running = [cell]) :
    d.expire clock =
      let d' := { d with timers := timerExpiry d.timers }.call clock cell.func
      { d' with timers := timerRan d'.timers } := by
  unfold Daemon.expire
  dsimp only
  rw [hrunning]
  rfl

/-- The time is up: the request is made, or the timer of `state_machine` is gone. -/
theorem Ready.expire (h : Ready d left) (husec : d.timers.tvUsec = 0) :
    ∃ left', Ready (d.expire clock) left' ∧ Requested d (d.expire clock) left left' := by
  have hpolls := h.polls
  cases hpolls with
  | alone i s queue due =>
    have hexpiry : timerExpiry d.timers =
        { d.timers with timerq := [], running := [⟨i, s, .dynamicStatusTimer⟩], tvSec := 60 } := by
      unfold timerExpiry
      rw [queue]
      rfl
    have hrunning := congrArg Timers.running hexpiry
    rw [expire_of_running clock hrunning, hexpiry]
    refine ⟨_, ⟨h.state, .alone d.timers.inserted 0 rfl ?_, rfl⟩, 1, rfl, ?_⟩
    · show (0 : Int) ≤ 300 * 1000000 + 0 ∧ (300 : Int) * 1000000 + 0 ≤ 300000000
      omega
    · show (300 : Int) * 1000000 + 0 + (d.timers.now - d.timers.now) ≤
        d.timers.tval + (1 : Nat) * 305000000
      omega
  | first i j s k later queue due =>
    have hexpiry : timerExpiry d.timers =
        { d.timers with
          timerq := [⟨j, 0, .stateMachine⟩], running := [⟨i, s, .dynamicStatusTimer⟩]
          tvSec := k } := by
      unfold timerExpiry
      rw [queue]
      have hk : k ≠ 0 := by omega
      simp only [lastDue, if_neg hk]
    have hrunning := congrArg Timers.running hexpiry
    rw [expire_of_running clock hrunning, hexpiry]
    refine ⟨_, ⟨h.state, .second d.timers.inserted j 0 rfl ?_, rfl⟩, 1, rfl, ?_⟩
    · show 0 ≤ k * 1000000 + d.timers.tvUsec ∧ k * 1000000 + d.timers.tvUsec ≤ 5000000
      omega
    · show k * 1000000 + d.timers.tvUsec + 300000000 + (d.timers.now - d.timers.now) ≤
        d.timers.tval + (1 : Nat) * 305000000
      omega
  | second i j s queue due =>
    have hexpiry : timerExpiry d.timers =
        { d.timers with
          timerq := [⟨i, 0, .dynamicStatusTimer⟩], running := [⟨j, s, .stateMachine⟩]
          tvSec := 300 } := by
      unfold timerExpiry
      rw [queue]
      rfl
    have hrunning := congrArg Timers.running hexpiry
    rw [expire_of_running clock hrunning]
    unfold call
    dsimp only
    rw [stateMachine_ready (d := { d with timers := timerExpiry d.timers }) clock h.state, hexpiry]
    refine ⟨_, ⟨h.state, .alone i 0 rfl ?_, rfl⟩, .of_silent rfl ?_⟩
    · show 0 ≤ (300 : Int) * 1000000 + d.timers.tvUsec ∧
        (300 : Int) * 1000000 + d.timers.tvUsec ≤ 300000000
      omega
    · show (300 : Int) * 1000000 + d.timers.tvUsec + (d.timers.now - d.timers.now) ≤
        d.timers.tval + 300000000
      omega

/-- One round. -/
theorem Ready.round (h : Ready d left) (r : Round) :
    ∃ left', Ready (d.round r) left' ∧ Requested d (d.round r) left left' := by
  obtain ⟨hpolls, -⟩ := h.polls.elapse r.elapsed
  have helapse : Ready { d with timers := d.timers.elapse r.elapsed }
      (left - ((d.timers.elapse r.elapsed).now - d.timers.now)) := by
    refine ⟨h.state, hpolls, ?_⟩
    show (d.timers.elapse r.elapsed).running = []
    unfold Timers.elapse
    split <;> exact h.idle
  have hpassed : Requested d { d with timers := d.timers.elapse r.elapsed } left
      (left - ((d.timers.elapse r.elapsed).now - d.timers.now)) :=
    .of_silent rfl (by dsimp only; omega)
  unfold Daemon.round
  dsimp only
  split
  · next hup =>
    obtain ⟨left₁, h₁, hrequested₁⟩ := helapse.expire r.clock hup.2
    obtain ⟨left₂, h₂, hrequested₂⟩ := h₁.lines r.lines
    exact ⟨left₂, h₂, (hpassed.trans hrequested₁).trans hrequested₂⟩
  · obtain ⟨left₂, h₂, hrequested₂⟩ := helapse.lines r.lines
    exact ⟨left₂, h₂, hpassed.trans hrequested₂⟩

/-- Any number of rounds. -/
theorem Ready.rounds (h : Ready d left) (block : List Round) :
    ∃ left', Ready (run Daemon.round d block) left' ∧
      Requested d (run Daemon.round d block) left left' := by
  induction block generalizing d left with
  | nil => exact ⟨left, h, .of_silent rfl (by rw [run_nil]; omega)⟩
  | cons r block ih =>
    obtain ⟨left₁, h₁, hrequested₁⟩ := h.round r
    obtain ⟨left₂, h₂, hrequested₂⟩ := ih h₁
    exact ⟨left₂, h₂, hrequested₁.trans hrequested₂⟩

/-! ### The way there -/

/-- The two timers that are set on the way into READY. -/
theorem polls_of_entered {t : Timers TimerFunc} (h : t.timerq = []) {n : Nat} (hpos : 0 < n)
    (hn : n ≤ 5) :
    Polls (timerInsert .stateMachine n (timerInsert .dynamicStatusTimer 300 t)) 300000000 := by
  have hfirst : timerInsert .dynamicStatusTimer 300 t = { t with
      timerq := [⟨t.inserted, 0, .dynamicStatusTimer⟩], tqFree := t.tqFree.tail
      tvSec := 300, tvUsec := 0, inserted := t.inserted + 1 } := by
    unfold timerInsert
    dsimp only
    rw [h]
  have hbehind : ¬ (0 : Int) > n := by omega
  rw [hfirst]
  unfold timerInsert
  dsimp only
  rw [if_neg hbehind]
  refine .first t.inserted (t.inserted + 1) 0 n (by omega) rfl ?_
  show (0 : Int) ≤ 300 * 1000000 + 0 ∧ (300 : Int) * 1000000 + 0 ≤ 300000000
  omega

/-- Each state sets the timer to three or five seconds. -/
theorem timeout_onState (m : Monitor) : 0 < (onState clock m).nextTimeout := by
  have hchannel (i : Fin 4) (m : Monitor) : 0 < (onActivateCh i m).nextTimeout := by
    unfold onActivateCh
    dsimp only
    split
    · exact Nat.zero_lt_succ 4
    · split <;> exact Nat.zero_lt_succ 4
  have hdate (m : Monitor) : 0 < (onSetDate clock m).nextTimeout := by
    unfold onSetDate
    split
    · exact Nat.zero_lt_succ 4
    · exact hchannel _ _
  have htime (m : Monitor) : 0 < (onSetTime clock m).nextTimeout := by
    unfold onSetTime
    split
    · exact Nat.zero_lt_succ 4
    · exact hdate _
  have hactivate (m : Monitor) : 0 < (onActivate clock m).nextTimeout := by
    unfold onActivate
    split
    · exact Nat.zero_lt_succ 4
    · exact htime _
  have hdrequest (m : Monitor) : 0 < (onDrequest clock m).nextTimeout := by
    unfold onDrequest
    dsimp only
    split
    · exact Nat.zero_lt_succ 4
    · split
      · exact Nat.zero_lt_succ 4
      · exact hactivate _
  have hsrequest (m : Monitor) : 0 < (onSrequest clock m).nextTimeout := by
    unfold onSrequest
    split
    · exact Nat.zero_lt_succ 2
    · exact hdrequest _
  unfold onState
  split
  · exact Nat.zero_lt_succ 4
  · exact hsrequest _
  · exact hsrequest _
  · exact hdrequest _
  · exact hactivate _
  · exact htime _
  · exact hdate _
  · exact hchannel _ _
  · exact Nat.zero_lt_succ 599

private theorem running_timerInsert (func : TimerFunc) (secs : Int) (t : Timers TimerFunc) :
    (timerInsert func secs t).running = t.running := by
  unfold timerInsert
  dsimp only
  split
  · rfl
  · split <;> rfl

private theorem running_stateMachine :
    (d.stateMachine clock).timers.running = d.timers.running := by
  unfold Daemon.stateMachine
  dsimp only
  generalize onState clock _ = t
  split
  · rfl
  · split
    · exact (running_timerInsert _ _ _).trans (running_timerInsert _ _ _)
    · exact running_timerInsert _ _ _

/-- A call that finds no other timer in the queue and comes to READY. -/
theorem polls_stateMachine (hready : d.mon.state ≠ .ready) (hsettled : d.mon.state ≠ .sendReset)
    (hqueue : (timerRemove .stateMachine d.timers).timerq = [])
    (hlast : (d.stateMachine clock).mon.state = .ready) :
    ∃ left, Polls (d.stateMachine clock).timers left := by
  have hcounted := counted_onState clock hready hsettled
  have hpos := timeout_onState clock
    (if d.mon.retries > 10 then { d.mon with state := .sendReset } else d.mon)
  unfold Daemon.stateMachine at hlast ⊢
  dsimp only at hlast ⊢
  rw [if_neg hready] at hlast ⊢
  generalize onState clock _ = t at hcounted hpos hlast ⊢
  by_cases ht : t.mon.state = .ready
  · rw [if_pos ht]
    exact ⟨_, polls_of_entered hqueue hpos hcounted.timeout⟩
  · rw [if_neg ht] at hlast
    exact absurd hlast ht

/-- What holds in the whole run: a supervised controller, and a ready one once it is ready. -/
structure Watching (d : Daemon) : Prop where
  supervised : Supervised d
  polls : d.mon.state = .ready → ∃ left, Polls d.timers left
  idle : d.timers.running = []

/-- A call of `state_machine` behind a line. -/
theorem Watching.stateMachine {m : Monitor} (h : Watching d) (hstate : m.state = d.mon.state)
    (hretries : m.retries = d.mon.retries) :
    Watching ({ d with mon := m }.stateMachine clock) := by
  refine ⟨supervised_heard clock h.supervised hstate hretries, fun hlast ↦ ?_, ?_⟩
  · by_cases hready : d.mon.state = .ready
    · obtain ⟨left, hpolls⟩ := h.polls hready
      have hr : Ready { d with mon := m } left := ⟨hstate.trans hready, hpolls, h.idle⟩
      obtain ⟨left', hr', -⟩ := hr.stateMachine clock
      exact ⟨left', hr'.polls⟩
    · apply polls_stateMachine clock (d := { d with mon := m }) _ _ _ hlast
      · show m.state ≠ .ready
        rw [hstate]
        exact hready
      · show m.state ≠ .sendReset
        rw [hstate]
        exact h.supervised.settled
      · exact (h.supervised.awaits hready).timerRemove
  · rw [running_stateMachine]
    exact h.idle

/-- One line. -/
theorem Watching.parseData (h : Watching d) (data : List UInt8) :
    Watching (d.parseData clock data) := by
  unfold Daemon.parseData
  split
  · exact h
  · exact h.stateMachine clock rfl rfl
  · exact h.stateMachine clock rfl rfl
  · next node _ args _ =>
    have hresponse := response_state node args { d.mon with failureStatus := 0 }
    exact h.stateMachine clock hresponse.1 hresponse.2

/-- The expiry of a timer. -/
theorem Watching.expire (h : Watching d) (husec : d.timers.tvUsec = 0) :
    Watching (d.expire clock) := by
  by_cases hready : d.mon.state = .ready
  · obtain ⟨left, hpolls⟩ := h.polls hready
    obtain ⟨left', hr, -⟩ := (⟨hready, hpolls, h.idle⟩ : Ready d left).expire clock husec
    exact ⟨h.supervised.expire clock, fun _ ↦ ⟨left', hr.polls⟩, hr.idle⟩
  · obtain ⟨i, hq⟩ := (h.supervised.awaits hready).queue
    have hexpiry : timerExpiry d.timers =
        { d.timers with timerq := [], running := [⟨i, 0, .stateMachine⟩], tvSec := 60 } := by
      unfold timerExpiry
      rw [hq]
      rfl
    have hrunning := congrArg Timers.running hexpiry
    have hrun := running_stateMachine clock (d := { d with timers := timerExpiry d.timers })
    refine ⟨h.supervised.expire clock, fun hlast ↦ ?_, ?_⟩
    · rw [expire_of_running clock hrunning] at hlast ⊢
      obtain ⟨left, hpolls⟩ := polls_stateMachine clock
        (d := { d with timers := timerExpiry d.timers }) hready h.supervised.settled
        (by rw [hexpiry]; rfl) hlast
      refine ⟨left, ?_⟩
      cases hpolls with
      | alone i s queue due => exact .alone (t := timerRan _) i s queue due
      | first i j s k later queue due => exact .first (t := timerRan _) i j s k later queue due
      | second i j s queue due => exact .second (t := timerRan _) i j s queue due
    · rw [expire_of_running clock hrunning]
      show (Daemon.stateMachine clock
        { d with timers := timerExpiry d.timers }).timers.running.tail = []
      rw [hrun, hrunning]
      rfl

/-- One round. -/
theorem Watching.round (h : Watching d) (r : Round) : Watching (d.round r) := by
  have helapse : Watching { d with timers := d.timers.elapse r.elapsed } := by
    refine ⟨⟨h.supervised.counts, h.supervised.settled, fun hne ↦
      (h.supervised.awaits hne).elapse r.elapsed⟩, fun hready ↦ ?_, ?_⟩
    · obtain ⟨left, hpolls⟩ := h.polls hready
      exact ⟨_, (hpolls.elapse r.elapsed).1⟩
    · show (d.timers.elapse r.elapsed).running = []
      unfold Timers.elapse
      split <;> exact h.idle
  have hlines (lines : List (HostClock × List UInt8)) (d : Daemon) (hd : Watching d) :
      Watching (lines.foldl (fun d line ↦ d.parseData line.1 line.2) d) := by
    induction lines generalizing d with
    | nil => exact hd
    | cons line lines ih => exact ih _ (hd.parseData line.1 line.2)
  unfold Daemon.round
  apply hlines
  split
  · next hup => exact helapse.expire r.clock hup.2
  · exact helapse

end Daemon

private def midnight : HostClock := ⟨some (0, 0), 0⟩

-- After three seconds the controller answers that it is node 1, and then that all went well.
private def answered : List Daemon.Round :=
  [⟨3000000, midnight, ["<A0:0:9:0", "<A1:0:9:1", "<+0/6", "<+0/6", "<+0/6", "<+0/6", "<+0/6",
    "<+0/6"].map fun line ↦ (midnight, characters line)⟩]

end Lrmon
end Libradio
