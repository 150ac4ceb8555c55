import Libradio.Network.Exchange
import Libradio.Network.Host

/-!
# lrmond brings up no client

lrmond has functions that activate a client and ask for its status (`src/lrmon/command.c:66-101`),
but nothing calls them: its own commands are all for the controller. A client that gets no six-byte
ACTIVATE stays below ACTIVE, and there it never transmits.
-/

namespace Libradio
open Libradio.Base

namespace Lrmon
open Startup

/-- What can happen to lrmond: it is started anew, one of its timers expires, or it reads a line. -/
inductive Stimulus
  | restart
  | timer (clock : HostClock)
  | statusTimer
  | line (clock : HostClock) (data : List UInt8)

/-- lrmond and all lines that it has written. -/
structure Writer where
  mon : Monitor
  lines : List (List UInt8)

namespace Writer

/-- lrmond has started. -/
def start : Writer := ⟨.init, [bootstrap]⟩

/-- lrmond has new variables and sends messages. -/
def turn (w : Writer) (r : Monitor × List (List UInt8)) : Writer :=
  ⟨r.1, w.lines ++ r.2.map sioSend⟩

/-- One stimulus. -/
def step (w : Writer) : Stimulus → Writer
  | .restart => ⟨.init, w.lines ++ [bootstrap]⟩
  | .timer clock => if w.mon.timer = none then w else w.turn (stateMachine clock w.mon)
  | .statusTimer => if w.mon.statusTimer = none then w else w.turn (dynamicStatusTimer w.mon)
  | .line clock data => w.turn (parseData clock data w.mon)

/-- All lines are requests for the controller. -/
def Asks (w : Writer) : Prop := ∃ rs : List Request, w.lines = rs.map Request.line

private theorem Asks.turn {w : Writer} (h : w.Asks) {r : Monitor × List (List UInt8)}
    (hr : ∃ rs : List Request, r.2 = rs.map Request.text) : (w.turn r).Asks := by
  obtain ⟨rs, hrs⟩ := h
  obtain ⟨more, hmore⟩ := hr
  refine ⟨rs ++ more, ?_⟩
  rw [List.map_append, Writer.turn, hrs, hmore, List.map_map]
  rfl

/-- Whatever lrmond does, it writes requests. -/
theorem asks_step {w : Writer} (e : Stimulus) (h : w.Asks) : (w.step e).Asks := by
  have hmachine (clock : HostClock) (m : Monitor) :
      ∃ rs : List Request, (stateMachine clock m).2 = rs.map Request.text := by
    obtain ⟨rs, hrs, -⟩ := turned_stateMachine clock m
    exact ⟨rs, hrs⟩
  cases e with
  | restart =>
    obtain ⟨rs, hrs⟩ := h
    refine ⟨rs ++ [.bootstrap], ?_⟩
    rw [List.map_append, step, hrs]
    rfl
  | timer clock =>
    unfold step
    dsimp only
    split
    · exact h
    · exact h.turn (hmachine clock w.mon)
  | statusTimer =>
    unfold step
    dsimp only
    split
    · exact h
    · exact h.turn ⟨[.status true], rfl⟩
  | line clock data =>
    apply h.turn
    rcases parseData_cases clock data w.mon with heq | ⟨m₀, heq, -⟩
    · rw [heq]
      exact ⟨[], rfl⟩
    · rw [heq]
      exact hmachine clock m₀

/-- Whatever lrmond reads, and whenever its timers expire: all it writes are requests. -/
theorem asks_run (es : List Stimulus) : (run step start es).Asks := by
  have hstart : start.Asks := ⟨[.bootstrap], rfl⟩
  generalize start = w at hstart
  induction es generalizing w with
  | nil => exact hstart
  | cons e es ih => exact ih (w.step e) (asks_step e hstart)

end Writer

/-- A command of lrmond is no six-byte ACTIVATE. -/
theorem not_activates_command {r : Request} {l : CommandLine} (h : r.command = some l) :
    ¬ (number l.cmd = RADIO_CMD_ACTIVATE ∧ l.data.length = 6) := by
  rintro ⟨hcmd, hlen⟩
  cases r with
  | bootstrap | reset | status dynamic => cases h
  | activate =>
    cases h
    exact absurd hlen (by decide)
  | time high low tens | date high low | channel i | early =>
    cases h
    simp only [Request.onChannelA, commandLine, number, decimal_digits] at hcmd
    exact absurd hcmd (by decide)

/-- A request as a line of the host. -/
theorem exists_hostLine (r : Request) : ∃ l : HostLine, l.text = r.text ∧
    ∀ k, l = .command k → ¬ (number k.cmd = RADIO_CMD_ACTIVATE ∧ k.data.length = 6) := by
  cases hcmd : r.command with
  | none =>
    rcases Request.text_of_no_command hcmd with h | h | h | ⟨-, h⟩
    · exact ⟨.bootstrap, h.symm, fun k hk ↦ by cases hk⟩
    · exact ⟨.request chS (.inl rfl), h.symm, fun k hk ↦ by cases hk⟩
    · exact ⟨.request chT (.inr (.inl rfl)), h.symm, fun k hk ↦ by cases hk⟩
    · exact ⟨.request chR (.inr (.inr rfl)), h.symm, fun k hk ↦ by cases hk⟩
  | some l =>
    refine ⟨.command l, (Request.text_of_command hcmd).1.symm, fun k hk ↦ ?_⟩
    cases hk
    exact not_activates_command hcmd

/-- What lrmond writes are lines of the host, and none of them activates a client. -/
theorem exists_hostLines (rs : List Request) : ∃ ls : List HostLine,
    ls.flatMap HostLine.line = (rs.map Request.line).flatten ∧
      ∀ k, .command k ∈ ls → ¬ (number k.cmd = RADIO_CMD_ACTIVATE ∧ k.data.length = 6) := by
  induction rs with
  | nil => exact ⟨[], rfl, fun k hk ↦ absurd hk List.not_mem_nil⟩
  | cons r rs ih =>
    obtain ⟨l, htext, hl⟩ := exists_hostLine r
    obtain ⟨ls, hls, hno⟩ := ih
    refine ⟨l :: ls, ?_, fun k hk ↦ ?_⟩
    · rw [List.flatMap_cons, List.map_cons, List.flatten_cons, hls, HostLine.line, htext]
      rfl
    · rcases List.mem_cons.mp hk with hk | hk
      · exact hl k hk.symm
      · exact hno k hk

end Lrmon

/-! ### A client below ACTIVE -/

section Below

variable {oracle : Nat → Outcome} {app : App Si4463}

/-- Below ACTIVE every command but an activation is ignored. -/
theorem libradioCommand_below {σ : Type} (b : Board σ) (app : App σ) (fuel : Nat) {p : Packet}
    {d : Dev σ} (hbelow : d.radio.state < LIBRADIO_STATE_ACTIVE) (hact : ¬ IsActivation d.radio p) :
    libradioCommand b app fuel p d = d := by
  have hno : ¬ LIBRADIO_STATE_ACTIVE ≤ d.radio.state := UInt8.not_le.mpr hbelow
  cases executed_libradioCommand b app fuel p d with
  | nothing act deact request eq => exact eq
  | activated act eq => exact absurd act hact
  | deactivated deact eq => exact absurd deact.2.2 hno
  | setTime active cmd len eq => exact absurd active hno
  | setDate active cmd len eq => exact absurd active hno
  | silent active cmd len none eq => exact absurd active hno
  | status active cmd len some eq => exact absurd active hno
  | readEeprom buffer addr active cmd len eq => exact absurd active hno
  | writeEeprom eeprom active cmd eq => exact absurd active hno
  | operate active cmd eq => exact absurd active hno

/-- The `switch` of a pass activates nothing. -/
theorem state_rxloopSwitch_lt {r : Radio} (hbelow : r.state < LIBRADIO_STATE_ACTIVE) :
    (rxloopSwitch r).state < LIBRADIO_STATE_ACTIVE := by
  have hstate {c : UInt8} (h : (rxloopSwitch r).station.state = c)
      (hc : c < LIBRADIO_STATE_ACTIVE) : (rxloopSwitch r).state < LIBRADIO_STATE_ACTIVE := by
    rw [← h] at hc
    exact hc
  have hwarm : LIBRADIO_STATE_WARM < LIBRADIO_STATE_ACTIVE := by decide
  have hlisten : LIBRADIO_STATE_LISTEN < LIBRADIO_STATE_ACTIVE := by decide
  cases switched_rxloopSwitch r with
  | recovered error period station => exact hstate (congrArg Station.state station) hwarm
  | woken asleep timeout period station => exact hstate (congrArg Station.state station) hlisten
  | listening listen eq =>
    rw [eq]
    exact hbelow
  | waiting error asleep seen timeout station =>
    exact hstate (congrArg Station.state station) hbelow
  | silent error asleep listen unseen expired timeout period station =>
    exact hstate (congrArg Station.state station) hwarm

open Si4463

/-- The part of a pass before its `switch` leaves a client below ACTIVE where it is. -/
theorem below_rxloopHandle (fuel ticks : Nat) {d : Dev Si4463}
    (hbelow : d.radio.state < LIBRADIO_STATE_ACTIVE)
    (hno : ∀ p, Client.accepted (board oracle) d = some p → ¬ IsActivation d.radio p) :
    (rxloopHandle (board oracle) app fuel ticks d).radio.state = d.radio.state ∧
      Still d.chip (rxloopHandle (board oracle) app fuel ticks d).chip := by
  have hk : (board oracle).Keeps Still := keeps_still
  by_cases hirq : d.radio.irqFired ≠ 0
  · obtain ⟨hstation, -, hchip⟩ :=
      handed_spec hk ticks hirq fun w ↦ still_startRx d.radio.myChannel w
    have hstate : (Client.handed (board oracle) ticks d).radio.state = d.radio.state :=
      congrArg Station.state hstation
    have hsame : ((Client.accepted (board oracle) d).elim (Client.handed (board oracle) ticks d)
        fun p ↦ libradioCommand (board oracle) app fuel p (Client.handed (board oracle) ticks d)) =
          Client.handed (board oracle) ticks d := by
      cases haccepted : Client.accepted (board oracle) d with
      | none => rfl
      | some p =>
        apply libradioCommand_below
        · rw [hstate]
          exact hbelow
        · rw [isActivation_station hstation]
          exact hno p haccepted
    rw [rxloopHandle_of_irq (board oracle) app fuel ticks hirq, hsame]
    exact ⟨hstate, hchip.trans (asked_libradioGetIntStatus hk _).chip⟩
  · unfold rxloopHandle
    rw [if_neg hirq]
    exact ⟨rfl, .refl d.chip⟩

/-- As long as it accepts no activation, a client below ACTIVE stays there, and transmits
nothing. -/
theorem below_clientStep (fuel : Nat) {d : Dev Si4463} (e : Client.Event)
    (hbelow : d.radio.state < LIBRADIO_STATE_ACTIVE)
    (hno : ∀ p, Client.accepted (board oracle) d = some p → ¬ IsActivation d.radio p) :
    (Client.step (board oracle) app fuel d e).radio.state < LIBRADIO_STATE_ACTIVE ∧
      (Client.step (board oracle) app fuel d e).chip.air = d.chip.air := by
  cases e with
  | tick =>
    have hstate : (clocktick d.radio).state = d.radio.state :=
      congrArg Station.state (station_clocktick d.radio)
    show (clocktick d.radio).state < LIBRADIO_STATE_ACTIVE ∧ d.chip.air = d.chip.air
    rw [hstate]
    exact ⟨hbelow, rfl⟩
  | interrupt =>
    unfold Client.step
    dsimp only
    split <;> exact ⟨hbelow, rfl⟩
  | pass ticks serial =>
    obtain ⟨hstate, hstill⟩ := @below_rxloopHandle _ app fuel ticks _ hbelow hno
    show (libradioRxloop (board oracle) app fuel ticks serial d).radio.state < _ ∧
      (libradioRxloop (board oracle) app fuel ticks serial d).chip.air = _
    by_cases hwakes : Wakes serial d.radio
    · rw [libradioRxloop_of_wakes (board oracle) app fuel ticks hwakes]
      refine ⟨state_rxloopSwitch_lt ?_, hstill.air⟩
      rw [hstate]
      exact hbelow
    · rw [libradioRxloop, if_neg hwakes]
      exact ⟨hbelow, rfl⟩

end Below

open Lrmon Si4463

/-- A client starts below ACTIVE, and has transmitted nothing. -/
theorem below_memberStart (m : Member) :
    (m.start Si4463.fresh).dev.radio.state < LIBRADIO_STATE_ACTIVE ∧
      (m.start Si4463.fresh).dev.chip.air = [] := by
  have hk : m.board.Keeps Still := keeps_still
  have hstate {st : Station} {r : Radio} (h : r.station = st)
      (hst : st.state < LIBRADIO_STATE_ACTIVE) : r.state < LIBRADIO_STATE_ACTIVE := by
    rw [← h] at hst
    exact hst
  have hstill : Still (Client.powerOn Si4463.fresh).chip (m.start Si4463.fresh).dev.chip :=
    (Client.chip_prepared hk m.id m.fast m.slow (Client.powerOn Si4463.fresh)).trans
      (chip_libradioRecvStart hk (fun w c ↦ still_startRx c w)
        (Client.prepared m.board m.id m.fast m.slow (Client.powerOn Si4463.fresh)))
  refine ⟨?_, hstill.air⟩
  have hstartup : LIBRADIO_STATE_STARTUP < LIBRADIO_STATE_ACTIVE := by decide
  have herror : LIBRADIO_STATE_ERROR < LIBRADIO_STATE_ACTIVE := by decide
  rcases Client.start_spec m.board.keeps_true m.id m.fast m.slow (Client.powerOn Si4463.fresh) with
    ⟨-, h⟩ | ⟨-, h⟩
  · exact hstate h.station hstartup
  · exact hstate h.station herror

namespace Net

variable {ι : Type} [DecidableEq ι] (oracle : Nat → Outcome) {m : ι → Member}

/-- No client is active, and none has ever transmitted. -/
def Idle (s : Net ι) : Prop :=
  ∀ i, (s.cli i).dev.radio.state < LIBRADIO_STATE_ACTIVE ∧ (s.cli i).dev.chip.air = []

/-- No command of the lines is a six-byte ACTIVATE. -/
def ActivatesNone (ls : List HostLine) : Prop :=
  ∀ k, .command k ∈ ls → ¬ (number k.cmd = RADIO_CMD_ACTIVATE ∧ k.data.length = 6)

omit [DecidableEq ι] in
/-- What a client accepts then is no activation. -/
theorem AcceptsCommands.not_isActivation {ls : List HostLine} {s : Net ι}
    (h : AcceptsCommands ls m s) (hno : ActivatesNone ls) {i : ι} {p : Packet}
    (hp : Client.accepted (m i).board (s.cli i).dev = some p) (r : Radio) : ¬ IsActivation r p := by
  rintro ⟨hcmd, hlen, -⟩
  rcases h i p hp with ⟨j, -, -, hreply⟩ | ⟨-, ⟨l, hl, hw⟩ | htime⟩
  · unfold Packet.IsReply at hreply
    rw [hcmd] at hreply
    exact absurd hreply (by decide)
  · refine hno l hl ⟨hw.cmd.symm.trans hcmd, ?_⟩
    rw [← hw.len]
    show p.len.toNat = 6
    rw [hlen]
    rfl
  · have hset : p.cmd = RADIO_CMD_SET_TIME := htime.2.1
    rw [hcmd] at hset
    exact absurd hset (by decide)

/-- One event. -/
theorem Idle.step {ls : List HostLine} {s : Net ι} (h : s.Idle) (hno : ActivatesNone ls)
    (haccepts : AcceptsCommands ls m s) (e : Event ι) : (step oracle m s e).Idle := by
  have harrive (bytes : List UInt8) (reaches : Option ι → Bool) :
      (s.arrive bytes reaches).Idle := by
    intro i
    unfold Net.arrive
    dsimp only
    split <;> exact h i
  cases e with
  | control a => exact h
  | client i ev =>
    intro j
    show (Function.update s.cli i ((m i).step (s.cli i) ev) j).dev.radio.state < _ ∧
      (Function.update s.cli i ((m i).step (s.cli i) ev) j).dev.chip.air = []
    by_cases hj : j = i
    · subst hj
      rw [Function.update_self]
      obtain ⟨hstate, hair⟩ := @below_clientStep _ (m j).app (m j).fuel _ ev (h j).1
        fun p hp ↦ haccepts.not_isActivation hno hp _
      exact ⟨hstate, hair.trans (h j).2⟩
    · rw [Function.update_of_ne hj]
      exact h j
  | carry sender k reaches =>
    unfold Net.step
    dsimp only
    split
    · exact h
    · exact harrive _ _
  | noise n reaches => exact harrive _ _

/-- As long as the host activates no client, the clients are idle. -/
theorem idle_run (happ : ∀ i, (m i).app.LeavesRadio SameQueues) {ls : List HostLine}
    (hno : ActivatesNone ls) {events : List (Event ι)} (hnoise : ∀ e ∈ events, e.Detected)
    {s : Net ι} {text : List UInt8} (h : Traced m s) (hidle : s.Idle)
    (hg : Along (step oracle m) (Spares oracle) s events) (hhosted : s.ctl.Hosted ls text)
    (htext : text ++ events.flatMap typedBy <+: ls.flatMap HostLine.line) :
    (run (step oracle m) s events).Idle := by
  induction events generalizing s text with
  | nil => exact hidle
  | cons e events ih =>
    obtain ⟨hg, hgs⟩ := hg
    obtain ⟨he, hes⟩ := List.forall_mem_cons.mp hnoise
    rw [List.flatMap_cons, ← List.append_assoc] at htext
    have hhead := (List.prefix_append (text ++ typedBy e) (events.flatMap typedBy)).trans htext
    exact ih hes (traced_step oracle happ h hg he)
      (hidle.step oracle hno (h.acceptsCommands hhosted) e) hgs
      (hosted_netStep oracle h hg hhosted hhead) htext

/-- In every run of the network whose console reads what a run of lrmond writes, whatever lrmond
reads itself and whenever its timers expire, and whose noise the checksum detects: no client is ever
active, and none ever transmits. -/
theorem idle_under_lrmond (happ : ∀ i, (m i).app.LeavesRadio SameQueues) (eeprom : UInt16 → UInt8)
    (beyondData : UInt8) (es : List Stimulus) (events : List (Event ι))
    (hnoise : ∀ e ∈ events, e.Detected)
    (hspares : Along (step oracle m) (Spares oracle) (start oracle m eeprom beyondData) events)
    (htyped : events.flatMap typedBy <+: (run Writer.step Writer.start es).lines.flatten) :
    (run (step oracle m) (start oracle m eeprom beyondData) events).Idle := by
  obtain ⟨rs, hrs⟩ := Writer.asks_run es
  obtain ⟨ls, hls, hno⟩ := exists_hostLines rs
  rw [hrs, ← hls] at htyped
  exact idle_run oracle happ hno hnoise (traced_start oracle eeprom beyondData)
    (fun i ↦ below_memberStart (m i)) hspares
    (Ctl.hosted_start (board oracle) Si4463.fresh eeprom beyondData ls) htyped

/-- The clock of a host. -/
def hostClock : HostClock := ⟨some (1700000000, 0), 1700000000⟩

/-- lrmond brings the controller up. -/
def bringUp : List Stimulus :=
  .timer hostClock :: .line hostClock (characters "<A0:1:9:0") ::
    .line hostClock (characters "<A0:1:9:1") ::
      List.replicate 4 (.line hostClock (characters "<+0"))

/-- There is noise, and the controller reads all of it. -/
def broughtUp : List (Event Unit) :=
  disturbance ++ ((run Writer.step Writer.start bringUp).lines.flatten.map fun ch ↦
    .control (.input ch)) ++ [.control (.check 0 0), .client () (.pass 0 false)]

/-- The controller is active then. -/
theorem idle_under_lrmond_sensor :
    (sensorNet broughtUp).ctl.dev.radio.state = LIBRADIO_STATE_ACTIVE ∧
      (sensorNet broughtUp).Idle :=
  ⟨by decide +kernel, idle_under_lrmond readyChip (fun _ ↦ leavesRadio_statusSensor) (fun _ ↦ 0) 0
    bringUp broughtUp (by decide +kernel) (by decide +kernel) (by decide +kernel)⟩

end Net
end Libradio
