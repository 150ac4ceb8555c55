import Libradio.Client.Commands
import Libradio.Client.Reception
import Libradio.Clock.Time
import Libradio.Control.Execution
import Libradio.Control.History

/-!
# What the controller does to its clock

The transmissions of a pass take the clock interrupts they are given, and what they send is
stamped with the clock as it is then (`src/lib/packet.c:187-190`). Otherwise only a clock
interrupt, a SET_TIME or a DEACTIVATE of the controller's own and a restart change the tens of
minutes.
-/

namespace Libradio

variable {σ : Type}

/-! ### The library -/

/-- A send takes some of the clock interrupts it is given, and what it has sent carries the
clock's ticks as they are afterwards. -/
structure Stamped (ticks : Nat) (d : Dev σ) (p : Packet) (r : Transfer σ) : Prop where
  dial : ∃ n, n ≤ ticks ∧ r.dev.radio.dial = d.radio.dial.after n
  packet : r.ok = true → r.packet = p.stamp r.dev.radio.msTicks

-- Nothing is sent.
private theorem Stamped.of_kept {ticks : Nat} {d e : Dev σ} {p q : Packet}
    (h : e.radio.dial = d.radio.dial) : Stamped ticks d p ⟨e, q, false⟩ :=
  ⟨⟨0, Nat.zero_le _, h⟩, nofun⟩

private theorem stamped_transmitFrame (b : Board σ) (ticks : Nat) (d : Dev σ) (chp : Channel)
    (channo : UInt8) : Stamped ticks d chp.packet (transmitFrame b ticks d chp channo) := by
  unfold transmitFrame libradioTxpacket
  by_cases hlen : chp.packet.len > 10
  · rw [if_pos hlen]
    exact .of_kept rfl
  · rw [if_neg hlen]
    dsimp only
    rw [if_pos rfl]
    have hdial := dial_clockticks ticks d.radio
    generalize clockticks ticks d.radio = r at hdial ⊢
    split <;> exact ⟨⟨ticks, Nat.le_refl _, hdial⟩, fun _ ↦ rfl⟩

private theorem stamped_libradioSend (b : Board σ) (ticks : Nat) (d : Dev σ) (chp : Channel)
    (channo : UInt8) : Stamped ticks d chp.packet (libradioSend b ticks d chp channo) := by
  have hup := dial_libradioPowerUp b d
  have hstatus := (asked_libradioRequestDeviceStatus b.keeps_true (libradioPowerUp b d).1).dial
  have hspace := (asked_libradioGetFifoInfo b.keeps_true 0
    (libradioRequestDeviceStatus b (libradioPowerUp b d).1).1).dial
  have hall := hspace.trans (hstatus.trans hup)
  unfold libradioSend
  dsimp only
  split
  · split
    · exact .of_kept (hstatus.trans hup)
    · split
      · have h := stamped_transmitFrame b ticks
          (libradioCheckTx b (libradioRequestDeviceStatus b (libradioPowerUp b d).1).1).1 chp channo
        obtain ⟨n, hn, hdial⟩ := h.dial
        exact ⟨⟨n, hn, hdial.trans (congrArg (Dial.after n) hall)⟩, h.packet⟩
      · exact .of_kept hall
  · exact .of_kept hup

/-- A reception does not touch the tens of minutes. -/
theorem Reception.tensOfMinutes {R : σ → σ → Prop} {b : Board σ} {d : Dev σ} {p : Packet}
    {r : Transfer σ} (h : Reception R b d p r) :
    r.dev.radio.tensOfMinutes = d.radio.tensOfMinutes := by
  have hrearm (r : Radio) : r.rearm.tensOfMinutes = r.tensOfMinutes := by
    unfold Radio.rearm
    split <;> rfl
  have haccept (p : Packet) (r : Radio) : (r.accept p).tensOfMinutes = r.tensOfMinutes := by
    unfold Radio.accept Radio.hear
    split <;> rfl
  cases h with
  | nothing ok packet few asked => exact asked.tensOfMinutes
  | damaged ok many packet sum asked =>
    exact asked.tensOfMinutes.trans (hrearm d.radio)
  | good ok many packet sum asked =>
    exact asked.tensOfMinutes.trans ((hrearm _).trans (haccept r.packet d.radio))

namespace Ctl

/-! ### The transmissions of a pass -/

/-- What the transmissions of a pass do to the clock: nothing is sent, or the frame is stamped
and no clock interrupt follows. A time packet carries the tens as they are when the slot is
filled. -/
inductive Timed (between inSend : Nat) (s s' : Ctl σ) : Prop
  | quiet (n : Nat) (le : n ≤ between) (dial : s'.dev.radio.dial = s.dev.radio.dial.after n)
      (hist : s'.hist = s.hist)
  | sent (c : Fin 6) (st : ChState) (p : Packet.Content) (ok : Bool) (before : List Obs)
      (hist : s'.hist = .send c st p ok :: before) (n : Nat) (le : n ≤ inSend)
      (dial : s'.dev.radio.dial = (s.dev.radio.dial.after between).after n)
      (stamped : ok = true → (s'.chan c).packet.ticks = s'.dev.radio.msTicks)
      (built : ∀ q, before = .slot c q :: s.hist →
        q.len = 1 ∧ dataByte q.data 0 = (s.dev.radio.dial.after between).time.tens)

/-- The clock and the packet after a call of `libradio_send`. -/
theorem timed_sendOn (b : Board σ) (ticks : Nat) (c : Fin 6) (s : Ctl σ) :
    ∃ ok : Bool, (sendOn b ticks c s).hist =
        .send c (s.chan c).state (s.chan c).packet.content ok :: s.hist ∧
      (∃ n, n ≤ ticks ∧ (sendOn b ticks c s).dev.radio.dial = s.dev.radio.dial.after n) ∧
      (ok = true → ((sendOn b ticks c s).chan c).packet.ticks =
        (sendOn b ticks c s).dev.radio.msTicks) := by
  have hsend := stamped_libradioSend b ticks s.dev (s.chan c) (UInt8.ofNat c.val)
  unfold sendOn
  dsimp only
  generalize libradioSend b ticks s.dev (s.chan c) (UInt8.ofNat c.val) = r at hsend ⊢
  obtain ⟨n, hn, hdial⟩ := hsend.dial
  -- the controller right after the call
  obtain ⟨s₁, hs₁⟩ : ∃ s₁ : Ctl σ, s₁ = Ctl.note
      (.send c (s.chan c).state (s.chan c).packet.content r.ok)
      { s.modify c fun chp ↦ { chp with packet := r.packet } with dev := r.dev } := ⟨_, rfl⟩
  have hhist : s₁.hist = .send c (s.chan c).state (s.chan c).packet.content r.ok :: s.hist := by
    rw [hs₁]
    rfl
  have hdev : s₁.dev = r.dev := by rw [hs₁]; rfl
  have hpacket : (s₁.chan c).packet = r.packet := by
    rw [hs₁]
    exact congrArg Channel.packet
      (chan_modify_self c (fun chp ↦ { chp with packet := r.packet }) s)
  rw [← hdev] at hdial
  refine ⟨r.ok, ?_⟩
  rw [← hs₁]
  split
  · next hok =>
    have hticks : (s₁.chan c).packet.ticks = s₁.dev.radio.msTicks := by
      rw [hpacket, hdev, hsend.packet hok, Packet.ticks_stamp]
    have hself (st : ChState) := congrArg (fun chp ↦ chp.packet.ticks)
      (chan_modify_self c (fun chp ↦ { chp with state := st, priority := 0 }) s₁)
    unfold sentOn
    split
    · exact ⟨hhist, ⟨n, hn, hdial⟩, fun _ ↦ (hself .rxresponse1).trans hticks⟩
    · exact ⟨hhist, ⟨n, hn, hdial⟩, fun _ ↦ (hself .empty).trans hticks⟩
  · next hok => exact ⟨hhist, ⟨n, hn, hdial⟩, fun h ↦ absurd h hok⟩

/-- The transmission of a chosen channel `c`. The clock of `s₁` is that of `s` after the clock
interrupts between the two readings, and its record is that of `s`, or the slot has just built
a packet with that clock's tens. -/
theorem timed_transmitOn (b : Board σ) {between : Nat} (ticks : Nat) {c : Fin 6} {s s₁ : Ctl σ}
    (dial : s₁.dev.radio.dial = s.dev.radio.dial.after between)
    (hist : (s₁.chan c).state.toNat < ChState.empty.toNat → s₁.hist = s.hist)
    (built : ∀ q, s₁.hist = .slot c q :: s.hist →
      q.len = 1 ∧ dataByte q.data 0 = s₁.dev.radio.tensOfMinutes) :
    Timed between ticks s (transmitOn b ticks c s₁) := by
  unfold transmitOn
  split
  · next hclosed => exact .quiet between (Nat.le_refl _) dial (hist hclosed)
  · obtain ⟨ok, hsend, ⟨n, hn, hdial⟩, hticks⟩ := timed_sendOn b ticks c s₁
    have hage (chp : Channel) : (age chp).packet = chp.packet := (age_spec chp).2
    dsimp only
    generalize sendOn b ticks c s₁ = s' at hsend hdial hticks ⊢
    have hchan : ({ s' with channels := s'.channels.map age } : Ctl σ).chan c =
        age (s'.chan c) := by
      simp only [chan, Fin.getElem_fin, Vector.getElem_map]
    refine .sent c _ _ ok _ hsend n hn (hdial.trans (by rw [dial])) (fun hok ↦ ?_) fun q hq ↦ ?_
    · rw [hchan, hage]
      exact hticks hok
    · have htens : s₁.dev.radio.tensOfMinutes = s₁.dev.radio.dial.time.tens := rfl
      rw [← dial, ← htens]
      exact built q hq

/-- A time packet carries the tens it was built with. -/
theorem dataByte_timePacket (tens : UInt8) (p : Packet) :
    dataByte (timePacket tens p).content.data 0 = tens := by
  simp [dataByte, timePacket, Packet.content]

/-- Every pass. -/
theorem timed_check (b : Board σ) (between inSend : Nat) (s : Ctl σ) :
    Timed between inSend s (check b between inSend s) := by
  have hstill : Timed between inSend s s := .quiet 0 (Nat.zero_le _) rfl rfl
  have hself (o : Obs) : s.hist ≠ o :: s.hist := fun h ↦ by
    have := congrArg List.length h
    simp at this
  have hradio : (readClock between s).dev.radio = clockticks between s.dev.radio := rfl
  have hdial := dial_clockticks between s.dev.radio
  rw [← hradio] at hdial
  have hhist : (readClock between s).hist = s.hist := rfl
  have hfound (c : Fin 6) : Timed between inSend s (transmitOn b inSend c (readClock between s)) :=
    timed_transmitOn b inSend hdial (fun _ ↦ hhist) fun q hq ↦
      absurd (hhist.symm.trans hq) (hself _)
  cases checked_check b between inSend s with
  | awaiting awaited eq =>
    rw [eq]
    exact hstill
  | deaf free deaf eq =>
    rw [eq]
    exact hstill
  | slot c free listens due eq =>
    rw [eq]
    unfold fillSlot
    split
    · refine timed_transmitOn b inSend hdial (fun hc ↦ ?_) fun q hq ↦ ?_
      · rw [chan_note, chan_modify_self] at hc
        have hopen : ¬ ChState.transmit.toNat < ChState.empty.toNat := by decide
        exact absurd hc hopen
      · rw [hist_note, hist_modify, hhist] at hq
        cases hq
        exact ⟨rfl, dataByte_timePacket _ _⟩
    · exact hfound c
  | idle free listens due none eq =>
    rw [eq]
    exact .quiet between (Nat.le_refl _) hdial hhist
  | picked c free listens due some eq =>
    rw [eq]
    exact hfound c

/-! ### The response wait -/

/-- A response may set the ticks, but not the tens of minutes. -/
theorem tens_txresponse (b : Board σ) (c : Fin 6) (s : Ctl σ) :
    (txresponse b c s).dev.radio.tensOfMinutes = s.dev.radio.tensOfMinutes := by
  have hrecv (channo : UInt8) : Reception (fun _ _ ↦ True) b s.dev (s.chan c).packet
      (libradioRecv b s.dev (s.chan c).packet channo) :=
    reception_libradioRecv b.keeps_true (fun _ ↦ trivial) s.dev (s.chan c).packet
  unfold txresponse
  dsimp only
  split <;> exact (hrecv _).tensOfMinutes

/-- The response wait leaves the tens of minutes alone. -/
theorem tens_poll (b : Board σ) (s : Ctl σ) :
    (poll b s).dev.radio.tensOfMinutes = s.dev.radio.tensOfMinutes := by
  have havail := (asked_libradioGetFifoInfo b.keeps_true 0 s.dev).tensOfMinutes
  unfold poll
  split
  · rfl
  · next c _ =>
    dsimp only
    split
    · exact (tens_txresponse b c { s with dev := (libradioCheckRx b s.dev).1 }).trans havail
    · split <;> exact havail

/-! ### Commands -/

/-- The character completes a command of the controller's own that changes the tens of minutes:
SET_TIME, or DEACTIVATE, after which the time is not known. -/
def SetsClock (s : Ctl σ) (ch : UInt8) : Prop :=
  ∃ p ∈ (completed ch s).map Prod.snd, IsLocal s.dev.radio p ∧
    (p.cmd = RADIO_CMD_SET_TIME ∨ p.cmd = RADIO_CMD_DEACTIVATE)

instance (s : Ctl σ) (ch : UInt8) : Decidable (SetsClock s ch) :=
  inferInstanceAs (Decidable (∃ p ∈ _, _))

-- Of the commands that the controller passes on to the library, only DEACTIVATE changes the tens.
private theorem tens_libradioCommand (b : Board σ) {p : Packet} (d : Dev σ)
    (hlib : IsLibraryCommand p.cmd) (hdeact : p.cmd ≠ RADIO_CMD_DEACTIVATE) :
    (libradioCommand b app 0 p d).radio.tensOfMinutes = d.radio.tensOfMinutes := by
  cases passed_libradioCommand b d hlib with
  | nothing deact eq => rw [eq]
  | deactivated deact eq => exact absurd deact.1 hdeact
  | setDate cmd eq => rw [eq]
  | writeEeprom cmd eeprom eq => rw [eq]

/-- Executing any command but SET_TIME and DEACTIVATE leaves the tens alone. -/
theorem tens_mycommand (b : Board σ) {p : Packet} (s : Ctl σ) (htime : p.cmd ≠ RADIO_CMD_SET_TIME)
    (hdeact : p.cmd ≠ RADIO_CMD_DEACTIVATE) :
    (mycommand b p s).1.dev.radio.tensOfMinutes = s.dev.radio.tensOfMinutes := by
  have hactive (r : Radio) :
      (libradioSetState LIBRADIO_STATE_ACTIVE r).tensOfMinutes = r.tensOfMinutes := by
    unfold libradioSetState
    split <;> rfl
  have hpower (r : Radio) :
      (libradioPowerMode true (libradioSetDelay 1 r)).tensOfMinutes = r.tensOfMinutes := rfl
  cases obeyed_mycommand b p s with
  | passed cmd eq =>
    rw [eq]
    exact tens_libradioCommand b s.dev cmd hdeact
  | ignored config code eq => rw [eq]
  | activated cmd len eq =>
    have hup := congrArg (fun t ↦ t.time.tens) (dial_libradioPowerUp b
      { s.dev with radio := { s.dev.radio with
        myChannel := dataByte p.data 0, myNodeId := dataByte p.data 1 } })
    rw [eq]
    unfold activate
    dsimp only
    generalize libradioPowerUp b _ = up at hup ⊢
    split
    · exact (hpower _).trans ((hactive up.1.radio).trans hup)
    · exact hup
  | setTime cmd len eq => exact absurd cmd htime
  | status cmd len eq =>
    rw [eq]
    rfl
  | readEeprom cmd len eq =>
    rw [eq]
    rfl
  | configured c config of eq =>
    rw [eq]
    rfl

/-- A packet that is handed over changes the tens only as a command of the controller's own. -/
theorem tens_enqueue (b : Board σ) (c : Fin 6) (s : Ctl σ)
    (h : IsLocal s.dev.radio (s.chan c).packet.content →
      (s.chan c).packet.cmd ≠ RADIO_CMD_SET_TIME ∧ (s.chan c).packet.cmd ≠ RADIO_CMD_DEACTIVATE) :
    (enqueue b c s).dev.radio.tensOfMinutes = s.dev.radio.tensOfMinutes := by
  have hp : (((s.note (.handed c (s.chan c).packet.content)).setState c .transmit).chan c).packet =
      (s.chan c).packet := by simp
  unfold enqueue
  dsimp only
  split
  · next hlocal =>
    unfold executeLocal
    dsimp only
    rw [hp]
    have hcmd := tens_mycommand b
      ((s.note (.handed c (s.chan c).packet.content)).setState c .transmit) (h hlocal).1
      (h hlocal).2
    generalize mycommand b (s.chan c).packet _ = r at hcmd ⊢
    exact hcmd
  · split <;> rfl

-- The hand-over of a completed packet.
private theorem tens_completed (b : Board σ) {ch : UInt8} {s : Ctl σ} (hcomp : Completes s ch)
    (h : ¬ SetsClock s ch) :
    (enqueue b s.currChp (filled ch s)).dev.radio.tensOfMinutes = s.dev.radio.tensOfMinutes := by
  have hdev : (filled ch s).dev = s.dev := (filled_spec ch s).2.2.2.2.1
  refine (tens_enqueue b s.currChp (filled ch s) fun hlocal ↦ ?_).trans (by rw [hdev])
  rw [hdev] at hlocal
  have hno (hcmd : _) : False := h ⟨((filled ch s).chan s.currChp).packet.content,
    by rw [completed, if_pos hcomp]; rfl, hlocal, hcmd⟩
  exact ⟨fun hc ↦ hno (.inl hc), fun hc ↦ hno (.inr hc)⟩

/-- A character that does not complete such a command leaves the tens alone or restarts the
program. -/
theorem tens_processInput (b : Board σ) (ch : UInt8) (s : Ctl σ) (h : ¬ SetsClock s ch) :
    (processInput b ch s).dev.radio.tensOfMinutes = s.dev.radio.tensOfMinutes ∨
      processInput b ch s = boot b (s.note (.input ch)) := by
  rcases radio_processInput b ch s with ⟨hcomp, hradio⟩ | hreset | hradio
  · rw [hradio]
    exact .inl (tens_completed b hcomp h)
  · exact .inr hreset
  · rw [hradio]
    exact .inl rfl

end Ctl
end Libradio
