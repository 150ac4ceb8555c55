import Libradio.Startup.Requests

/-!
# What lrmond does in a turn

Every way one call of `state_machine` can change lrmond: it asks for a status, starts over,
repeats the request it waits for, or goes on with the next one. A line that lrmond reads
leads to such a call, with the failure status and the response that the line has left.
-/

namespace Libradio
open Lrmon

/-- The place of a task in the order of the start-up. -/
def Startup.Task.rank : Startup.Task → Nat
  | .activate => 0
  | .time => 1
  | .date => 2
  | .channel i => 3 + i.val

namespace Lrmon

/-- The task whose answer lrmond waits for. -/
def MonState.task : MonState → Option Startup.Task
  | .activate => some .activate
  | .setTime => some .time
  | .setDate => some .date
  | .activateCh i => some (.channel i)
  | .unknown | .srequest | .sendReset | .drequest | .ready => none

/-- The number of tasks that lrmond takes to be done. -/
def MonState.rank : MonState → Nat
  | .unknown | .srequest | .sendReset | .drequest | .activate => 0
  | .setTime => 1
  | .setDate => 2
  | .activateCh i => 3 + i.val
  | .ready => 7

/-- A line that sets the failure status to 0: `<+` or a status. -/
def Heard.Succeeds : Heard → Prop
  | .good => True
  | .status .. => True
  | .ignored | .failed _ => False

instance (h : Heard) : Decidable h.Succeeds := by
  cases h <;> unfold Heard.Succeeds <;> infer_instance

/-- The node that a status names. -/
def Heard.node : Heard → Option Int
  | .status _ node _ _ => some node
  | .ignored | .good | .failed _ => none

end Lrmon

namespace Startup

/-- A task is known by its rank. -/
theorem Task.rank_inj {t u : Task} (h : t.rank = u.rank) : t = u := by
  cases t <;> cases u <;> simp only [Task.rank] at h <;>
    first | rfl | omega | exact congrArg Task.channel (Fin.ext (by omega))

/-- A state that waits for a task has the tasks before it behind it. -/
theorem rank_of_task {st : MonState} {t : Task} (h : st.task = some t) : st.rank = t.rank := by
  cases st <;> cases h <;> rfl

/-- The effects of one call of `state_machine`, with the lines that it writes. -/
inductive Turned (m m' : Monitor) (rs : List Request) : Prop
  | ready (before : m.state = .ready) (after : m'.state = .ready) (sent : rs = [])
  | gaveUp (after : m'.state = .unknown) (sent : rs = [.reset])
  | asked (after : m'.state = .srequest ∨ m'.state = .drequest)
      (received : m'.responseReceived = 0) (dynamic : Bool) (sent : rs = [.status dynamic])
  | begun (before : m.state = .drequest) (received : m.responseReceived ≠ 0)
      (after : m'.state = .activate) (waits : m'.failureStatus ≠ 0) (sent : rs = [.activate])
  | skipped (before : m.state = .drequest) (received : m.responseReceived ≠ 0)
      (node : m.responseNode = 1) (after : m'.state = .setTime) (waits : m'.failureStatus ≠ 0)
      (few : rs.length ≤ 1) (sent : ∀ r ∈ rs, r.task = some .time)
  | repeated (t : Task) (before : m.state.task = some t) (after : m'.state = m.state)
      (waits : m'.failureStatus ≠ 0) (sent : ∀ r ∈ rs, r.task = some t ∧ r ≠ .early)
  | advanced (t : Task) (before : m.state.task = some t) (success : m.failureStatus = 0)
      (after : m'.state.rank = t.rank + 1) (task : m'.state.task = none → m'.state = .ready)
      (waits : m'.state ≠ .ready → m'.failureStatus ≠ 0) (few : rs.length ≤ 1)
      (sent : ∀ r ∈ rs, r ≠ .reset ∧ (r.task = none ∨ r.task = m'.state.task))

/-- The lines that set the time. -/
theorem exists_setTime (clock : HostClock) : ∃ rs : List Request,
    setTime clock = rs.map Request.text ∧ rs.length ≤ 1 ∧
      ∀ r ∈ rs, r.task = some .time ∧ r ≠ .early := by
  unfold setTime
  split
  · exact ⟨[], rfl, Nat.zero_le _, nofun⟩
  · next sec usec _ =>
    refine ⟨[.time _ _ _], rfl, Nat.le_refl _, fun r hr ↦ ?_⟩
    rw [List.mem_singleton.mp hr]
    exact ⟨rfl, nofun⟩

/-- The line that sets the date. -/
theorem exists_setDate (clock : HostClock) : ∃ r : Request,
    setDate clock = r.text ∧ r.task = some .date ∧ r ≠ .early :=
  ⟨.date _ _, rfl, rfl, nofun⟩

private theorem val_next {i : Fin 4} (hi : i ≠ 3) : (i + 1).val = i.val + 1 := by
  revert i
  decide

/-- The line for the next channel: only the one for channel 3 is early. -/
theorem exists_setChannel {i : Fin 4} (hi : i ≠ 3) : ∃ r : Request,
    setChannel (i + 1).val (chstate i) = r.text ∧ r.task = some (.channel (i + 1)) := by
  rcases (by revert i; decide : i = 0 ∨ i = 1 ∨ i = 2) with rfl | rfl | rfl
  · exact ⟨.channel 1, rfl, rfl⟩
  · exact ⟨.channel 2, rfl, rfl⟩
  · exact ⟨.early, rfl, rfl⟩

private theorem waiting : (-1 : Int) ≠ 0 := by decide

-- A state that is entered sends its request.
private theorem onSetTime_entered (clock : HostClock) {m : Monitor} (h : m.failureStatus ≠ 0) :
    onSetTime clock m = ⟨{ m with retries := m.retries + 1 }, setTime clock, 5⟩ := if_pos h

private theorem onSetDate_entered (clock : HostClock) {m : Monitor} (h : m.failureStatus ≠ 0) :
    onSetDate clock m = ⟨{ m with retries := m.retries + 1 }, [setDate clock], 5⟩ := if_pos h

private theorem onActivate_entered (clock : HostClock) {m : Monitor} (h : m.failureStatus ≠ 0) :
    onActivate clock m = ⟨{ m with retries := m.retries + 1 }, [localActivate], 5⟩ := if_pos h

private theorem onActivateCh_entered (i : Fin 4) {m : Monitor} (h : m.failureStatus ≠ 0) :
    onActivateCh i m =
      ⟨{ m with retries := m.retries + 1 }, [setChannel i.val (chstate i)], 5⟩ := if_pos h

/-- The `switch` of `state_machine`. -/
theorem turned_onState (clock : HostClock) {m : Monitor} (hready : m.state ≠ .ready) :
    ∃ rs : List Request, (onState clock m).sent = rs.map Request.text ∧
      Turned m (onState clock m).mon rs := by
  unfold onState
  cases hst : m.state with
  | ready => exact absurd hst hready
  | sendReset => exact ⟨[.reset], rfl, .gaveUp rfl rfl⟩
  | unknown => exact ⟨[.status false], rfl, .asked (.inl rfl) rfl false rfl⟩
  | srequest =>
    dsimp only
    unfold onSrequest
    by_cases h : m.responseReceived = 0
    · rw [if_pos h]
      exact ⟨[.status false], rfl, .asked (.inl hst) h false rfl⟩
    · rw [if_neg h]
      exact ⟨[.status true], rfl, .asked (.inr rfl) rfl true rfl⟩
  | drequest =>
    dsimp only
    unfold onDrequest
    by_cases h : m.responseReceived = 0
    · rw [if_pos h]
      exact ⟨[.status true], rfl, .asked (.inr hst) h true rfl⟩
    · rw [if_neg h]
      dsimp only
      by_cases hnode : m.responseNode = 1
      · rw [if_pos hnode]
        obtain ⟨rs, htext, hfew, hrs⟩ := exists_setTime clock
        exact ⟨rs, htext, .skipped hst h hnode rfl waiting hfew fun r hr ↦ (hrs r hr).1⟩
      · rw [if_neg hnode, onActivate_entered clock waiting]
        exact ⟨[.activate], rfl, .begun hst h rfl waiting rfl⟩
  | activate =>
    dsimp only
    by_cases h : m.failureStatus = 0
    · obtain ⟨rs, htext, hfew, hrs⟩ := exists_setTime clock
      rw [onActivate, if_neg (not_not_intro h), onSetTime_entered clock waiting]
      refine ⟨rs, htext, .advanced .activate (by rw [hst]; rfl) h rfl nofun (fun _ ↦ waiting) hfew
        fun r hr ↦ ⟨?_, .inr (hrs r hr).1⟩⟩
      rintro rfl
      cases (hrs _ hr).1
    · rw [onActivate_entered clock h]
      refine ⟨[.activate], rfl, .repeated .activate (by rw [hst]; rfl) rfl h fun r hr ↦ ?_⟩
      rw [List.mem_singleton.mp hr]
      exact ⟨rfl, nofun⟩
  | setTime =>
    dsimp only
    by_cases h : m.failureStatus = 0
    · obtain ⟨r, htext, htask, -⟩ := exists_setDate clock
      rw [onSetTime, if_neg (not_not_intro h), onSetDate_entered clock waiting]
      refine ⟨[r], congrArg (fun x ↦ [x]) htext, .advanced .time (by rw [hst]; rfl) h rfl nofun
        (fun _ ↦ waiting) (Nat.le_refl _) fun x hx ↦ ?_⟩
      rw [List.mem_singleton.mp hx]
      refine ⟨?_, .inr htask⟩
      rintro rfl
      cases htask
    · rw [onSetTime_entered clock h]
      obtain ⟨rs, htext, -, hrs⟩ := exists_setTime clock
      exact ⟨rs, htext, .repeated .time (by rw [hst]; rfl) rfl h hrs⟩
  | setDate =>
    dsimp only
    by_cases h : m.failureStatus = 0
    · rw [onSetDate, if_neg (not_not_intro h), onActivateCh_entered 0 waiting]
      refine ⟨[.channel 0], rfl, .advanced .date (by rw [hst]; rfl) h rfl nofun
        (fun _ ↦ waiting) (Nat.le_refl _) fun x hx ↦ ?_⟩
      rw [List.mem_singleton.mp hx]
      exact ⟨nofun, .inr rfl⟩
    · rw [onSetDate_entered clock h]
      obtain ⟨r, htext, hr⟩ := exists_setDate clock
      refine ⟨[r], congrArg (fun x ↦ [x]) htext, .repeated .date (by rw [hst]; rfl) rfl h
        fun x hx ↦ ?_⟩
      rw [List.mem_singleton.mp hx]
      exact hr
  | activateCh i =>
    dsimp only
    by_cases h : m.failureStatus = 0
    · rw [onActivateCh, if_neg (not_not_intro h)]
      dsimp only
      by_cases hi : i = 3
      · rw [if_pos hi]
        refine ⟨[.status true], rfl, .advanced (.channel i) (by rw [hst]; rfl) h ?_ (fun _ ↦ rfl)
          (fun hne ↦ absurd rfl hne) (Nat.le_refl _) fun x hx ↦ ?_⟩
        · rw [hi]
          rfl
        · rw [List.mem_singleton.mp hx]
          exact ⟨nofun, .inl rfl⟩
      · rw [if_neg hi]
        obtain ⟨r, htext, htask⟩ := exists_setChannel hi
        refine ⟨[r], congrArg (fun x ↦ [x]) htext, .advanced (.channel i) (by rw [hst]; rfl) h ?_
          nofun (fun _ ↦ waiting) (Nat.le_refl _) fun x hx ↦ ?_⟩
        · exact (congrArg (3 + ·) (val_next hi)).trans (Nat.add_assoc 3 i.val 1).symm
        · rw [List.mem_singleton.mp hx]
          refine ⟨?_, .inr htask⟩
          rintro rfl
          cases htask
    · rw [onActivateCh_entered i h]
      refine ⟨[.channel i], rfl, .repeated (.channel i) (by rw [hst]; rfl) rfl h fun x hx ↦ ?_⟩
      rw [List.mem_singleton.mp hx]
      exact ⟨rfl, nofun⟩

/-- Setting the timer anew changes nothing that counts. -/
theorem Turned.with_timer {m m' : Monitor} {rs : List Request} (h : Turned m m' rs)
    (timer : Option Nat) : Turned m { m' with timer := timer } rs := by
  cases h with
  | ready before after sent => exact .ready before after sent
  | gaveUp after sent => exact .gaveUp after sent
  | asked after received dynamic sent => exact .asked after received dynamic sent
  | begun before received after waits sent => exact .begun before received after waits sent
  | skipped before received node after waits few sent =>
    exact .skipped before received node after waits few sent
  | repeated t before after waits sent => exact .repeated t before after waits sent
  | advanced t before success after task waits few sent =>
    exact .advanced t before success after task waits few sent

/-- Every call of `state_machine`. -/
theorem turned_stateMachine (clock : HostClock) (m : Monitor) :
    ∃ rs : List Request, (stateMachine clock m).2 = rs.map Request.text ∧
      Turned m (stateMachine clock m).1 rs := by
  unfold stateMachine
  by_cases hready : m.state = .ready
  · rw [if_pos hready]
    exact ⟨[], rfl, .ready hready hready rfl⟩
  · rw [if_neg hready]
    dsimp only
    by_cases hretries : m.retries > 10
    · rw [if_pos hretries]
      exact ⟨[.reset], rfl, .gaveUp rfl rfl⟩
    · rw [if_neg hretries]
      obtain ⟨rs, htext, hturned⟩ := turned_onState clock hready
      exact ⟨rs, htext, hturned.with_timer _⟩

/-- A failure never has the code 0. -/
theorem readLine_failed {data : List UInt8} {code : Int} (h : readLine data = .failed code) :
    code ≠ 0 := by
  have hcode {rest : List UInt8} (h : readFailure rest = .failed code) : code ≠ 0 := by
    unfold readFailure at h
    dsimp only at h
    have hc := Heard.failed.inj h
    split at hc <;> omega
  have hresponse {data : List UInt8} (h : readResponse data = .failed code) : code ≠ 0 := by
    unfold readResponse at h
    split at h
    · dsimp only at h
      split at h
      · cases h
      · split at h
        · cases h
        · split at h
          · cases h
          · split at h <;> cases h
    · cases h
  unfold readLine at h
  split at h
  · cases h
  · split at h
    · cases h
    · split at h
      · exact hresponse h
      · split at h
        · cases h
        · split at h
          · exact hcode h
          · exact hresponse h

/-- A line that lrmond reads is ignored, or it calls `state_machine`: with failure status 0 only
after a success, with a response only after a status. -/
theorem parseData_cases (clock : HostClock) (data : List UInt8) (m : Monitor) :
    parseData clock data m = (m, []) ∨
      ∃ m₀, parseData clock data m = stateMachine clock m₀ ∧ m₀.state = m.state ∧
        (m₀.failureStatus = 0 → (readLine data).Succeeds) ∧
        (m₀.responseReceived = m.responseReceived ∨
          (readLine data).node = some m₀.responseNode) := by
  have hlocal (args : List UInt8) (m : Monitor) :
      (localResponse args m).state = m.state ∧
        (localResponse args m).responseNode = m.responseNode := by
    unfold localResponse
    split
    · split <;> exact ⟨rfl, rfl⟩
    · split <;> exact ⟨rfl, rfl⟩
    · exact ⟨rfl, rfl⟩
  have hresponse (node : Int) (args : List UInt8) (m : Monitor) :
      (response node args m).state = m.state ∧ (response node args m).responseNode = node := by
    unfold response
    dsimp only
    split
    · exact hlocal args _
    · exact ⟨rfl, rfl⟩
  unfold parseData
  rcases hline : readLine data with _ | _ | code | ⟨chan, node, ticks, args⟩
  · exact .inl rfl
  · exact .inr ⟨_, rfl, rfl, fun _ ↦ trivial, .inl rfl⟩
  · exact .inr ⟨_, rfl, rfl, fun h ↦ absurd h (readLine_failed hline), .inl rfl⟩
  · obtain ⟨hstate, hnode⟩ := hresponse node args { m with failureStatus := 0 }
    exact .inr ⟨_, rfl, hstate, fun _ ↦ trivial, .inr (congrArg some hnode.symm)⟩

end Startup
end Libradio
