import Libradio.Client.Response
import Libradio.Control.Execution

/-!
# Activations that fail

`mycommand` stores the channel and the node number of an ACTIVATE before it powers up the radio
(`src/control/command.c:89-99`), and does not take them back when that fails. `enqueue` and
`local_status` read them afterwards.
-/

namespace Libradio
open Libradio.Base

variable {σ : Type}

/-- The channel and the node number of a station. -/
def Radio.identity (r : Radio) : UInt8 × UInt8 := (r.myChannel, r.myNodeId)

/-- The channel and the node number that an ACTIVATE gives, `src/control/command.c:89-90`. -/
def Packet.Content.identity (p : Packet.Content) : UInt8 × UInt8 :=
  (dataByte p.data 0, dataByte p.data 1)

/-! ### The library leaves the identity alone -/

private theorem identity_of_station {r r' : Radio} (h : r'.station = r.station) :
    r'.identity = r.identity :=
  congrArg (fun st ↦ (st.myChannel, st.myNodeId)) h

private theorem Asked.identity {R : σ → σ → Prop} {d d' : Dev σ} (h : Asked R d d') :
    d'.radio.identity = d.radio.identity := by
  have hidentity := congrArg Radio.identity h.radio
  exact hidentity

private theorem identity_libradioPowerUp (b : Board σ) (d : Dev σ) :
    (libradioPowerUp b d).1.radio.identity = d.radio.identity := by
  obtain ⟨hchannel, hnode, -⟩ := Ctl.setup_libradioPowerUp b d
  exact Prod.ext hchannel hnode

private theorem identity_transmitFrame (b : Board σ) (ticks : Nat) (d : Dev σ) (chp : Channel)
    (channo : UInt8) :
    (transmitFrame b ticks d chp channo).dev.radio.identity = d.radio.identity := by
  have hticks := identity_of_station (station_clockticks ticks d.radio)
  unfold transmitFrame libradioTxpacket
  by_cases hlen : chp.packet.len > 10
  · rw [if_pos hlen]
    rfl
  · rw [if_neg hlen]
    dsimp only
    rw [if_pos rfl]
    split <;> exact hticks

private theorem identity_libradioSend (b : Board σ) (ticks : Nat) (d : Dev σ) (chp : Channel)
    (channo : UInt8) :
    (libradioSend b ticks d chp channo).dev.radio.identity = d.radio.identity := by
  have hup := identity_libradioPowerUp b d
  have hstatus :=
    (asked_libradioRequestDeviceStatus b.keeps_true (libradioPowerUp b d).1).identity.trans hup
  have hspace := (asked_libradioGetFifoInfo b.keeps_true 0
    (libradioRequestDeviceStatus b (libradioPowerUp b d).1).1).identity.trans hstatus
  unfold libradioSend
  dsimp only
  split
  · split
    · exact hstatus
    · split
      · exact (identity_transmitFrame b ticks _ chp channo).trans hspace
      · exact hspace
  · exact hup

private theorem identity_libradioRecv (b : Board σ) (d : Dev σ) (p : Packet) (channo : UInt8) :
    (libradioRecv b d p channo).dev.radio.identity = d.radio.identity := by
  have hrearm (r : Radio) := identity_of_station (station_rearm r)
  have haccept (p : Packet) (r : Radio) := identity_of_station (station_accept p r)
  have hrecv : Reception (fun _ _ ↦ True) b d p (libradioRecv b d p channo) :=
    reception_libradioRecv b.keeps_true (fun _ ↦ trivial) d p
  cases hrecv with
  | nothing ok packet few asked => exact asked.identity
  | damaged ok many packet sum asked => exact asked.identity.trans (hrearm d.radio)
  | good ok many packet sum asked =>
    exact asked.identity.trans ((hrearm _).trans (haccept _ d.radio))

namespace Ctl

/-! ### The main loop leaves the identity alone -/

private theorem identity_sendOn (b : Board σ) (ticks : Nat) (c : Fin 6) (s : Ctl σ) :
    (sendOn b ticks c s).dev.radio.identity = s.dev.radio.identity := by
  have hsend := identity_libradioSend b ticks s.dev (s.chan c) (UInt8.ofNat c.val)
  unfold sendOn
  dsimp only
  split
  · unfold sentOn
    split <;> exact hsend
  · exact hsend

private theorem identity_transmitOn (b : Board σ) (ticks : Nat) (c : Fin 6) (s : Ctl σ) :
    (transmitOn b ticks c s).dev.radio.identity = s.dev.radio.identity := by
  unfold transmitOn
  split
  · rfl
  · exact identity_sendOn b ticks c s

private theorem identity_check (b : Board σ) (between inSend : Nat) (s : Ctl σ) :
    (check b between inSend s).dev.radio.identity = s.dev.radio.identity := by
  have hclock : (readClock between s).dev.radio.identity = s.dev.radio.identity :=
    identity_of_station (station_clockticks between s.dev.radio)
  have hfill (c : Fin 6) (s : Ctl σ) : (fillSlot c s).dev = s.dev := by
    unfold fillSlot
    split <;> rfl
  cases checked_check b between inSend s with
  | awaiting awaited eq => rw [eq]
  | deaf free deaf eq => rw [eq]
  | slot c free listens due eq => rw [eq, identity_transmitOn, hfill, hclock]
  | idle free listens due none eq => rw [eq, hclock]
  | picked c free listens due some eq => rw [eq, identity_transmitOn, hclock]

private theorem identity_poll (b : Board σ) (s : Ctl σ) :
    (poll b s).dev.radio.identity = s.dev.radio.identity := by
  have havail : (libradioCheckRx b s.dev).1.radio.identity = s.dev.radio.identity :=
    (asked_libradioGetFifoInfo b.keeps_true 0 s.dev).identity
  have hresponse (c : Fin 6) (t : Ctl σ) :
      (txresponse b c t).dev.radio.identity = t.dev.radio.identity := by
    have hrecv := identity_libradioRecv b t.dev (t.chan c).packet t.dev.radio.currChannel
    unfold txresponse
    dsimp only
    split <;> exact hrecv
  unfold poll
  split
  · rfl
  · dsimp only
    split
    · exact (hresponse _ _).trans havail
    · split <;> exact havail

/-! ### What an ACTIVATE that fails leaves behind -/

/-- The character completes the ACTIVATE `p`, the controller executes it, and the radio cannot be
powered up: it is not in use and one of the entries of its configuration fails. -/
structure FailsToActivate (b : Board σ) (s : Ctl σ) (ch : UInt8) (p : Packet.Content) : Prop where
  completed : ∃ c, completed ch s = some (c, p)
  own : IsLocal s.dev.radio p
  cmd : p.cmd = RADIO_CMD_ACTIVATE
  len : p.len = 3
  fails : PowerFails b s.dev

/-- An ACTIVATE that fails is answered with POWER_FAIL and leaves the controller what it was. -/
structure Undone (s s' : Ctl σ) : Prop where
  reply : printed s s' = [.reply RADIO_CTLERR_POWER_FAIL s'.dev.radio.state]
  identity : s'.dev.radio.identity = s.dev.radio.identity
  radioActive : s'.dev.radio.radioActive = s.dev.radio.radioActive

/-- The controller has had the identity since its last start: it is that of a station without
number, or that of an ACTIVATE that succeeded. -/
def Owned (s : Ctl σ) (i : UInt8 × UInt8) : Prop :=
  i = (0, 0) ∨ ∃ p, .exec p 0 ∈ s.hist.takeWhile (· ≠ .reset) ∧
    p.cmd = RADIO_CMD_ACTIVATE ∧ p.len = 3 ∧ p.identity = i

/-- Activations that fail are undone, and the reports that are printed in answer to a character show
the identity of a station without number or one that the controller was activated with. -/
def Atomic (b : Board σ) (s : Ctl σ) : Act → Prop
  | .input ch =>
    (∀ p, FailsToActivate b s ch p → Undone s (processInput b ch s)) ∧
      ∀ chan node ticks cmd data,
        .report chan node ticks cmd data ∈ printed s (processInput b ch s) →
          Owned s (chan, node)
  | _ => True

/-- The ACTIVATE asks for the identity that the controller has. -/
def AsksForOwn (b : Board σ) (s : Ctl σ) : Act → Prop
  | .input ch => ∀ p, FailsToActivate b s ch p → p.identity = s.dev.radio.identity
  | _ => True

/-- A power-up that fails leaves the radio out of use. -/
theorem radioActive_libradioPowerUp {b : Board σ} {d : Dev σ} (h : PowerFails b d) :
    (libradioPowerUp b d).1.radio.radioActive = false := by
  have hset : (libradioSetState LIBRADIO_STATE_ERROR d.radio).radioActive =
      d.radio.radioActive :=
    congrArg Station.radioActive (station_libradioSetState_error d.radio)
  have hok := (ok_libradioPowerUp b d).mpr h
  cases poweredUp_libradioPowerUp b.keeps_true d with
  | already active eq => exact absurd (active.symm.trans h.1) (by decide)
  | done asleep ok asked => exact absurd (ok.symm.trans hok) (by decide)
  | failed asleep ok asked =>
    have hactive := congrArg Radio.radioActive asked.radio
    exact hactive.trans (hset.trans asleep)

/-- The identity is stored whether the radio powers up or not. -/
theorem identity_activate (b : Board σ) (p : Packet) (s : Ctl σ) :
    (activate b p s).1.dev.radio.identity = p.content.identity := by
  have hactive (r : Radio) : (libradioPowerMode true
      (libradioSetDelay 1 (libradioSetState LIBRADIO_STATE_ACTIVE r))).identity = r.identity := by
    have h := activates_libradioSetState r
    exact Prod.ext h.myChannel h.myNodeId
  have hup := identity_libradioPowerUp b { s.dev with radio := { s.dev.radio with
    myChannel := dataByte p.data 0, myNodeId := dataByte p.data 1 } }
  unfold activate
  dsimp only
  split
  · exact (hactive _).trans hup
  · exact hup

/-- An ACTIVATE whose power-up fails. -/
theorem mycommand_of_powerFails {b : Board σ} {p : Packet} {s : Ctl σ}
    (hcmd : p.cmd = RADIO_CMD_ACTIVATE) (hlen : p.len = 3) (hfails : PowerFails b s.dev) :
    (mycommand b p s).2 = RADIO_CTLERR_POWER_FAIL ∧ (mycommand b p s).1.out = s.out ∧
      (mycommand b p s).1.dev.radio.identity = p.content.identity ∧
      (mycommand b p s).1.dev.radio.radioActive = false := by
  have heq : mycommand b p s = activate b p s := by
    cases reacts_mycommand b p s with
    | activated cmd len eq => exact eq
    | passed cmd eq => exact absurd (hcmd ▸ cmd) (by decide)
    | misfit n cmd len eq =>
      rw [hcmd] at cmd
      cases cmd
      exact absurd hlen len
    | outside cmd | setTime cmd | status cmd | readEeprom cmd | configured cmd =>
      exact absurd (hcmd.symm.trans cmd) (by decide)
    | unknown library own => exact absurd (hcmd ▸ own) (by decide)
  have hidentity := identity_activate b p s
  have hfails' : PowerFails b { s.dev with radio := { s.dev.radio with
      myChannel := dataByte p.data 0, myNodeId := dataByte p.data 1 } } := hfails
  have hactive := radioActive_libradioPowerUp hfails'
  have hok := (ok_libradioPowerUp b _).mpr hfails'
  rw [heq]
  unfold activate at hidentity ⊢
  dsimp only at hidentity ⊢
  rw [if_neg (by rw [hok]; exact Bool.false_ne_true)] at hidentity ⊢
  exact ⟨rfl, rfl, hidentity, hactive⟩

/-- An ACTIVATE that fails is undone exactly if it asks for what the controller has. -/
theorem FailsToActivate.undone_iff {b : Board σ} {s : Ctl σ} {ch : UInt8} {p : Packet.Content}
    (h : FailsToActivate b s ch p) :
    Undone s (processInput b ch s) ↔ p.identity = s.dev.radio.identity := by
  obtain ⟨c, hcompleted⟩ := h.completed
  obtain ⟨P, t, st, hcontent, hstarted, heq⟩ := local_of_completed b hcompleted h.own
  subst hcontent
  have hfails := h.fails
  rw [← hstarted.dev] at hfails
  obtain ⟨hcode, hout, hidentity, hactive⟩ := mycommand_of_powerFails h.cmd h.len hfails
  have hdev : (processInput b ch s).dev = (mycommand b P t).1.dev := by
    rw [heq, dev_executed]
  constructor
  · intro hundone
    rw [← hundone.identity, hdev, hidentity]
  · intro hsame
    constructor
    · apply printed_of_append
      rw [hdev, heq, out_executed, hcode, hout, hstarted.out]
    · rw [hdev, hidentity, hsame]
    · rw [hdev, hactive, h.fails.1]

/-! ### What the controller was activated with -/

/-- What the controller has been activated with is not forgotten before it is started again. -/
theorem Owned.mono {s s' : Ctl σ} {i : UInt8 × UInt8} {pre : List Obs} (h : Owned s i)
    (hist : s'.hist = pre ++ s.hist) (hpre : ∀ o ∈ pre, o ≠ .reset) : Owned s' i := by
  rcases h with h | ⟨p, hmem, hp⟩
  · exact .inl h
  · refine .inr ⟨p, ?_, hp⟩
    rw [hist, List.takeWhile_append_of_pos (by simpa using hpre)]
    exact List.mem_append_right pre hmem

/-- The controller has the identity of a station without number, or one it was activated with. -/
def KeepsOwn (s : Ctl σ) : Prop := Owned s s.dev.radio.identity

private theorem KeepsOwn.of_same {s s' : Ctl σ} (pre : List Obs) (h : KeepsOwn s)
    (identity : s'.dev.radio.identity = s.dev.radio.identity) (hist : s'.hist = pre ++ s.hist)
    (hpre : ∀ o ∈ pre, o.IsIdle) : KeepsOwn s' := by
  have hreset : ∀ o ∈ pre, o ≠ .reset := by
    rintro o ho rfl
    exact hpre _ ho
  unfold KeepsOwn
  rw [identity]
  exact h.mono hist hreset

/-- A start leaves the controller without number. -/
theorem identity_boot (b : Board σ) (s : Ctl σ) : (boot b s).dev.radio.identity = (0, 0) := by
  have hwarm (r : Radio) : (libradioSetState LIBRADIO_STATE_WARM r).identity = r.identity := by
    obtain ⟨period, hset⟩ := station_libradioSetState_warm r
    exact congrArg (fun st ↦ (st.myChannel, st.myNodeId)) hset
  have hinit (d : Dev σ) : (libradioInit b 1 1 1 1 d).radio.identity = (0, 0) :=
    (asked_libradioGetFifoInfo b.keeps_true 3 _).identity
  unfold boot
  dsimp only
  rw [hwarm, hinit]

private theorem keepsOwn_boot (b : Board σ) (s : Ctl σ) : KeepsOwn (boot b s) :=
  .inl (identity_boot b s)

/-- A DEACTIVATE takes the number away. -/
theorem identity_deactivated (r : Radio) : r.deactivated.identity = (0, 0) := by
  obtain ⟨period, hset⟩ :=
    station_libradioSetState_warm { r with myChannel := 0, myNodeId := 0 }
  exact congrArg (fun st ↦ (st.myChannel, st.myNodeId)) hset

/-- What executing a command does to the identity: nothing, or it is that of an ACTIVATE, or it is
taken away. -/
theorem identity_mycommand (b : Board σ) (p : Packet) (s : Ctl σ) :
    (mycommand b p s).1.dev.radio.identity = s.dev.radio.identity ∨
      (mycommand b p s).1.dev.radio.identity = (0, 0) ∨
      (p.cmd = RADIO_CMD_ACTIVATE ∧ p.len = 3 ∧ mycommand b p s = activate b p s) := by
  cases obeyed_mycommand b p s with
  | passed cmd eq =>
    rw [eq]
    cases passed_libradioCommand b s.dev cmd with
    | nothing deact eq => exact .inl (by rw [eq])
    | deactivated deact eq => exact .inr (.inl (by rw [eq]; exact identity_deactivated _))
    | setDate cmd eq => exact .inl (by rw [eq]; rfl)
    | writeEeprom cmd eeprom eq => exact .inl (by rw [eq])
  | ignored config code eq => exact .inl (by rw [eq])
  | activated cmd len eq => exact .inr (.inr ⟨cmd, len, eq⟩)
  | setTime cmd len eq => exact .inl (by rw [eq]; rfl)
  | status cmd len eq => exact .inl (by rw [eq]; rfl)
  | readEeprom cmd len eq => exact .inl (by rw [eq]; rfl)
  | configured c config of eq => exact .inl (by rw [eq]; rfl)

/-- An ACTIVATE that fails is one whose power-up fails. -/
theorem code_activate (b : Board σ) (p : Packet) (s : Ctl σ) :
    (activate b p s).2 = 0 ∨ PowerFails b s.dev := by
  have hok := ok_libradioPowerUp b { s.dev with radio := { s.dev.radio with
    myChannel := dataByte p.data 0, myNodeId := dataByte p.data 1 } }
  unfold activate
  dsimp only
  split
  · exact .inl rfl
  · next hup => exact .inr (hok.mp (by simpa using hup))

/-- A command of the controller's own, unless it is an ACTIVATE that fails and asks for another
identity. -/
theorem keepsOwn_local (b : Board σ) {s : Ctl σ} {ch : UInt8} {c : Fin 6} {p : Packet.Content}
    (h : KeepsOwn s) (hcompleted : completed ch s = some (c, p)) (hown : IsLocal s.dev.radio p)
    (hasks : AsksForOwn b s (.input ch)) : KeepsOwn (processInput b ch s) := by
  obtain ⟨P, t, st, hcontent, hstarted, heq⟩ := local_of_completed b hcompleted hown
  subst hcontent
  have hdev : (processInput b ch s).dev = (mycommand b P t).1.dev := by
    rw [heq, dev_executed]
  have hconfig : ∀ o ∈ configObs P.content, o ≠ .reset := by
    unfold configObs
    split <;> simp
  have hhist : (processInput b ch s).hist =
      ([.finish c, .exec P.content (mycommand b P t).2] ++ configObs P.content ++
        [.handed c P.content, .input ch]) ++ s.hist := by
    have hcommand := (alike_mycommand b P t).hist
    rw [hist_applyConfig, hstarted.hist] at hcommand
    rw [heq, hist_executed, hcommand]
    simp
  have hno : ∀ o ∈ [.finish c, .exec P.content (mycommand b P t).2] ++ configObs P.content ++
      [.handed c P.content, .input ch], o ≠ .reset := by
    intro o ho
    simp only [List.mem_append, List.mem_cons, List.not_mem_nil, or_false] at ho
    rcases ho with ((rfl | rfl) | ho) | rfl | rfl
    · exact nofun
    · exact nofun
    · exact hconfig o ho
    · exact nofun
    · exact nofun
  have hsame (hid : (mycommand b P t).1.dev.radio.identity = s.dev.radio.identity) :
      KeepsOwn (processInput b ch s) := by
    unfold KeepsOwn
    rw [hdev, hid]
    exact h.mono hhist hno
  rcases identity_mycommand b P t with hid | hid | ⟨hcmd, hlen, hact⟩
  · exact hsame (hid.trans (by rw [hstarted.dev]))
  · exact .inl (by rw [hdev, hid])
  · have hidentity := identity_activate b P t
    rw [← hact] at hidentity
    rcases code_activate b P t with hcode | hfails
    · refine .inr ⟨P.content, ?_, hcmd, hlen, ?_⟩
      · rw [← hact] at hcode
        rw [hhist, List.takeWhile_append_of_pos (by simpa using hno), hcode]
        simp
      · rw [hdev, hidentity]
    · rw [hstarted.dev] at hfails
      exact hsame (hidentity.trans (hasks P.content ⟨⟨c, hcompleted⟩, hown, hcmd, hlen, hfails⟩))

/-- Every action, unless it is an ACTIVATE that fails and asks for another identity. -/
theorem keepsOwn_step (b : Board σ) {s : Ctl σ} {a : Act} (h : KeepsOwn s)
    (hasks : AsksForOwn b s a) : KeepsOwn (step b s a) := by
  cases a with
  | tick =>
    have hidentity : (step b s .tick).dev.radio.identity = s.dev.radio.identity := by
      dsimp only [step]
      exact identity_of_station (station_clocktick s.dev.radio)
    exact h.of_same [] hidentity (alike_tick b s).hist nofun
  | poll =>
    have hidentity := identity_poll b s
    cases effect_poll b s with
    | idle none eq => exact h.of_same [] hidentity (by rw [step, eq]; rfl) nofun
    | waiting c some going own others respChp parser hist =>
      exact h.of_same [_] hidentity hist (idle_cons trivial idle_nil)
    | ended c some ends own others respChp parser hist =>
      exact h.of_same [_] hidentity hist (idle_cons trivial idle_nil)
  | check between inSend =>
    obtain ⟨pre, hhist, hpre⟩ := hist_check b between inSend s
    exact h.of_same pre (identity_check b between inSend s) hhist hpre
  | input ch =>
    have hkept {s' : Ctl σ} (hradio : s'.dev.radio = s.dev.radio)
        (hhist : ∃ pre, s'.hist = pre ++ s.hist ∧ ∀ o ∈ pre, o.IsIdle) : KeepsOwn s' := by
      obtain ⟨pre, hhist, hpre⟩ := hhist
      exact h.of_same pre (by rw [hradio]) hhist hpre
    by_cases hcomp : Completes s ch
    · have hcompleted : completed ch s = some (s.currChp, _) := if_pos hcomp
      by_cases hown : IsLocal s.dev.radio ((filled ch s).chan s.currChp).packet.content
      · exact keepsOwn_local b h hcompleted hown hasks
      · have hforeign := foreign_of_completed b hcompleted hown
        exact hkept (by rw [step, hforeign.dev]) hforeign.hist
    · rcases kept_processInput b hcomp with ⟨-, -, hboot⟩ | hkeeps
      · rw [step, hboot]
        exact keepsOwn_boot b _
      · exact hkept hkeeps.radio hkeeps.hist

/-! ### What the reports show -/

/-- A report that a command prints shows the identity the controller has. -/
theorem reports_mycommand (b : Board σ) (p : Packet) (s : Ctl σ) :
    ∃ news, (mycommand b p s).1.out = s.out ++ news ∧ ∀ chan node ticks cmd data,
      .report chan node ticks cmd data ∈ news → (chan, node) = s.dev.radio.identity := by
  have hnone {s' : Ctl σ} (h : s'.out = s.out) :
      ∃ news, s'.out = s.out ++ news ∧ ∀ chan node ticks cmd data,
        Line.report chan node ticks cmd data ∈ news → (chan, node) = s.dev.radio.identity :=
    ⟨[], by rw [h, List.append_nil], nofun⟩
  cases obeyed_mycommand b p s with
  | passed cmd eq => exact hnone (by rw [eq])
  | ignored config code eq => exact hnone (by rw [eq])
  | activated cmd len eq =>
    rw [eq]
    unfold activate
    dsimp only
    split <;> exact hnone rfl
  | setTime cmd len eq => exact hnone (by rw [eq])
  | status cmd len eq =>
    refine ⟨[_], by rw [eq]; rfl, fun chan node ticks cmd data hmem ↦ ?_⟩
    obtain ⟨rfl, rfl, -⟩ := Line.report.inj (List.mem_singleton.mp hmem)
    rfl
  | readEeprom cmd len eq =>
    refine ⟨[_], by rw [eq]; rfl, fun chan node ticks cmd data hmem ↦ ?_⟩
    cases List.mem_singleton.mp hmem
  | configured c config of eq => exact hnone (by rw [eq]; rfl)

/-- A start reports a station without number, twice. -/
theorem out_boot (b : Board σ) (s : Ctl σ) : ∃ first second, (boot b s).out =
    s.out ++ [.report 0 0 0 RADIO_STATUS_RESPONSE first,
      .report 0 0 0 RADIO_STATUS_RESPONSE second] := by
  unfold boot
  dsimp only
  generalize hblank : Ctl.note Obs.reset _ = blank
  have hradio : blank.dev.radio = .zero := by rw [← hblank]; rfl
  have hout : blank.out = s.out := by rw [← hblank]; rfl
  obtain ⟨bv, hdynamic⟩ := out_localStatus b RADIO_STATUS_DYNAMIC blank
  obtain ⟨bv', hstatic⟩ := out_localStatus b RADIO_STATUS_STATIC
    (localStatus b RADIO_STATUS_DYNAMIC blank)
  have hsame : (localStatus b RADIO_STATUS_DYNAMIC blank).dev.radio = blank.dev.radio := rfl
  rw [hout, hradio] at hdynamic
  rw [hsame, hradio, hdynamic, List.append_assoc] at hstatic
  exact ⟨_, _, hstatic⟩

/-- A report in answer to a character shows the identity the controller has, or that of a station
without number. -/
theorem reports_processInput (b : Board σ) {ch : UInt8} {s : Ctl σ} {chan node cmd : UInt8}
    {ticks : UInt16} {data : List UInt8}
    (h : .report chan node ticks cmd data ∈ printed s (processInput b ch s)) :
    (chan, node) = s.dev.radio.identity ∨ (chan, node) = (0, 0) := by
  by_cases hcomp : Completes s ch
  · have hcompleted : completed ch s = some (s.currChp, _) := if_pos hcomp
    by_cases hown : IsLocal s.dev.radio ((filled ch s).chan s.currChp).packet.content
    · obtain ⟨P, t, st, hcontent, hstarted, heq⟩ := local_of_completed b hcompleted hown
      obtain ⟨news, hout, hnews⟩ := reports_mycommand b P t
      have hprinted : (processInput b ch s).out =
          s.out ++ (news ++ [.reply (mycommand b P t).2 (mycommand b P t).1.dev.radio.state]) := by
        rw [← List.append_assoc, ← hstarted.out, ← hout, heq]
        rfl
      rw [printed_of_append hprinted, List.mem_append, List.mem_singleton] at h
      rcases h with h | h
      · left
        rw [← hstarted.dev]
        exact hnews _ _ _ _ _ h
      · cases h
    · obtain ⟨code, hout⟩ := (foreign_of_completed b hcompleted hown).out
      rw [printed_of_append hout] at h
      cases List.mem_singleton.mp h
  · cases aside_processInput b hcomp with
    | booted before reset eq =>
      right
      obtain ⟨first, second, hout⟩ := out_boot b (s.note (.input ch))
      rw [out_note] at hout
      rw [eq, printed_of_append hout, List.mem_cons, List.mem_singleton] at h
      rcases h with h | h <;>
        · obtain ⟨rfl, rfl, -⟩ := Line.report.inj h
          rfl
    | reported stype radio lastModulo hist out =>
      left
      obtain ⟨bv, hout⟩ := out_localStatus b stype s
      rw [printed_of_append (out.trans hout), List.mem_singleton] at h
      obtain ⟨rfl, rfl, -⟩ := Line.report.inj h
      rfl
    | refused code error radio lastModulo hist out =>
      rw [printed_of_append out] at h
      cases List.mem_singleton.mp h
    | quiet radio lastModulo hist out =>
      have hnone : (processInput b ch s).out = s.out ++ [] := by rw [out, List.append_nil]
      rw [printed_of_append hnone] at h
      cases h

/-! ### Runs -/

/-- As long as the controller has only what it was activated with, one more action is as it should
be exactly if it is no failing ACTIVATE of another identity. -/
theorem atomic_iff (b : Board σ) {s : Ctl σ} (a : Act) (h : KeepsOwn s) :
    Atomic b s a ↔ AsksForOwn b s a := by
  cases a with
  | tick | poll | check => exact Iff.rfl
  | input ch =>
    constructor
    · intro hatomic p hp
      exact hp.undone_iff.mp (hatomic.1 p hp)
    · intro hasks
      refine ⟨fun p hp ↦ hp.undone_iff.mpr (hasks p hp), fun chan node ticks cmd data hmem ↦ ?_⟩
      rcases reports_processInput b hmem with hid | hid
      · rw [hid]
        exact h
      · exact .inl hid

/-- In a run, every ACTIVATE whose power-up fails is undone, and every report shows what the
controller was activated with, exactly if no ACTIVATE that fails asks for an identity that the
controller does not have already. -/
theorem atomic_iff_asksForOwn (b : Board σ) (chip : σ) (eeprom : UInt16 → UInt8)
    (beyondData : UInt8) (as : List Act) :
    Along (step b) (Atomic b) (start b chip eeprom beyondData) as ↔
      Along (step b) (AsksForOwn b) (start b chip eeprom beyondData) as :=
  along_iff_of_inv (step b) (I := KeepsOwn) (fun _ _ h hasks ↦ keepsOwn_step b h hasks)
    (fun _ a h ↦ atomic_iff b a h) (keepsOwn_boot b _)

-- A radio that answers nothing.
private def brokenRadio : Board Nat :=
  { Board.scripted (fun _ _ ↦ 0) with exchange := fun n _ _ ↦ (n, .error .timeout) }

-- The controller is started and reads an ACTIVATE as node 7 up to the dot.
private def activationTyped : Ctl Nat :=
  run (step brokenRadio) (start brokenRadio 0 (fun _ ↦ 0) 0) ((characters ">A0:3:1,7,0").map .input)

/-- A controller whose radio is broken keeps the number 7 it could not be activated with. -/
theorem not_atomic_brokenRadio :
    ¬ Along (step brokenRadio) (Atomic brokenRadio) (start brokenRadio 0 (fun _ ↦ 0) 0)
      ((characters ">A0:3:1,7,0" ++ [chDot]).map .input) := by
  intro h
  rw [List.map_append, along_append] at h
  obtain ⟨-, ⟨hundone, -⟩, -⟩ := h
  have hfails : FailsToActivate brokenRadio activationTyped chDot
      ⟨0, RADIO_CMD_ACTIVATE, 3, #v[1, 7, 0, 0, 0, 0, 0, 0, 0, 0]⟩ := by
    constructor
    · exact ⟨0, by decide +kernel⟩
    · decide +kernel
    · rfl
    · rfl
    · decide +kernel
  have hidentity := (hundone _ hfails).identity
  revert hidentity
  show ¬ (processInput brokenRadio chDot activationTyped).dev.radio.identity =
    activationTyped.dev.radio.identity
  decide +kernel

end Ctl
end Libradio
