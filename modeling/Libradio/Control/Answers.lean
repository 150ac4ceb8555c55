import Libradio.Control.ChannelEffects

/-!
# What the controller answers

Every action as seen from the host: the lines it prints, and what becomes of the variables
that the host sets up: the operational state, the power of the radio, the node number and the
date.
-/

namespace Libradio

variable {σ : Type}

/-- The variables of the radio that the host sets up. -/
structure Setup where
  state : UInt8
  radioActive : Bool
  myNodeId : UInt8
  date : UInt16

/-- What a radio is set up for. -/
def Radio.setup (r : Radio) : Setup := ⟨r.state, r.radioActive, r.myNodeId, r.date⟩

/-! ### Transmissions leave the set-up alone -/

private theorem setup_untimed (r : Radio) : r.untimed.setup = r.setup := rfl

private theorem setup_clocktick (r : Radio) : (clocktick r).setup = r.setup := by
  rw [← setup_untimed, untimed_clocktick, setup_untimed]

private theorem setup_clockticks (n : Nat) (r : Radio) : (clockticks n r).setup = r.setup := by
  rw [← setup_untimed, untimed_clockticks, setup_untimed]

private theorem setup_libradioRequestDeviceStatus (b : Board σ) (d : Dev σ) :
    (libradioRequestDeviceStatus b d).1.radio.setup = d.radio.setup := by
  unfold libradioRequestDeviceStatus
  split <;> rfl

private theorem setup_libradioGetFifoInfo (b : Board σ) (clrf : UInt8) (d : Dev σ) :
    (libradioGetFifoInfo b clrf d).1.radio.setup = d.radio.setup := by
  unfold libradioGetFifoInfo
  split <;> rfl

private theorem setup_transmitFrame (b : Board σ) (ticks : Nat) (d : Dev σ) (chp : Channel)
    (channo : UInt8) : (transmitFrame b ticks d chp channo).dev.radio.setup = d.radio.setup := by
  have htx : (libradioTxpacket b ticks d chp.packet).dev.radio.setup = d.radio.setup := by
    unfold libradioTxpacket
    split
    · rfl
    · exact setup_clockticks ticks d.radio
  unfold transmitFrame
  dsimp only
  split
  · split <;> exact htx
  · exact htx

/-- A send with the radio powered up. -/
theorem setup_libradioSend (b : Board σ) (ticks : Nat) {d : Dev σ} (chp : Channel)
    (channo : UInt8) (h : d.radio.radioActive = true) :
    (libradioSend b ticks d chp channo).dev.radio.setup = d.radio.setup := by
  have hstatus := setup_libradioRequestDeviceStatus b d
  have hinfo := setup_libradioGetFifoInfo b 0 (libradioRequestDeviceStatus b d).1
  unfold libradioSend
  rw [libradioPowerUp, if_pos h]
  dsimp only
  rw [if_pos rfl]
  split
  · exact hstatus
  · split
    · exact (setup_transmitFrame b ticks _ chp channo).trans (hinfo.trans hstatus)
    · exact hinfo.trans hstatus

namespace Ctl

/-- The set-up and the printed lines are as before. -/
structure Unheard (s s' : Ctl σ) : Prop where
  setup : s'.dev.radio.setup = s.dev.radio.setup
  out : s'.out = s.out

/-- Nothing is heard without an action. -/
theorem Unheard.refl (s : Ctl σ) : Unheard s s := ⟨rfl, rfl⟩

private theorem Unheard.trans {s t u : Ctl σ} (h₁ : Unheard s t) (h₂ : Unheard t u) : Unheard s u :=
  ⟨h₂.setup.trans h₁.setup, h₂.out.trans h₁.out⟩

/-- A clock interrupt is not heard. -/
theorem unheard_tick (b : Board σ) (s : Ctl σ) : Unheard s (step b s .tick) := by
  have hstep : step b s .tick = { s with dev := { s.dev with radio := clocktick s.dev.radio } } :=
    rfl
  have hsetup := setup_clocktick s.dev.radio
  rw [hstep]
  generalize clocktick s.dev.radio = r at hsetup ⊢
  exact ⟨hsetup, rfl⟩

private theorem unheard_sendOn (b : Board σ) (ticks : Nat) (c : Fin 6) {s : Ctl σ}
    (h : s.dev.radio.radioActive = true) : Unheard s (sendOn b ticks c s) := by
  have hsend := setup_libradioSend b ticks (s.chan c) (UInt8.ofNat c.val) h
  unfold sendOn
  dsimp only
  split
  · unfold sentOn
    split <;> exact ⟨hsend, rfl⟩
  · exact ⟨hsend, rfl⟩

private theorem unheard_transmitOn (b : Board σ) (ticks : Nat) (c : Fin 6) {s : Ctl σ}
    (h : s.dev.radio.radioActive = true) : Unheard s (transmitOn b ticks c s) := by
  unfold transmitOn
  split
  · exact .refl s
  · exact ⟨(unheard_sendOn b ticks c h).setup, (unheard_sendOn b ticks c h).out⟩

/-- The transmissions of a pass, before the controller listens or with the radio powered up. -/
theorem unheard_check (b : Board σ) (between inSend : Nat) {s : Ctl σ}
    (h : s.dev.radio.state < LIBRADIO_STATE_LISTEN ∨ s.dev.radio.radioActive = true) :
    Unheard s (check b between inSend s) := by
  have hradio : (readClock between s).dev.radio = clockticks between s.dev.radio := rfl
  have hsetup := setup_clockticks between s.dev.radio
  rw [← hradio] at hsetup
  have hclock : Unheard s (readClock between s) := ⟨hsetup, rfl⟩
  have hactive (hlisten : ¬ s.dev.radio.state < LIBRADIO_STATE_LISTEN) :
      (readClock between s).dev.radio.radioActive = true :=
    (congrArg Setup.radioActive hclock.setup).trans (h.resolve_left hlisten)
  cases checked_check b between inSend s with
  | awaiting awaited eq =>
    rw [eq]
    exact .refl s
  | deaf free deaf eq =>
    rw [eq]
    exact .refl s
  | slot c free listens due eq =>
    have hfill : Unheard (readClock between s) (fillSlot c (readClock between s)) := by
      unfold fillSlot
      split <;> exact ⟨rfl, rfl⟩
    rw [eq]
    exact (hclock.trans hfill).trans (unheard_transmitOn b inSend c
      ((congrArg Setup.radioActive hfill.setup).trans (hactive listens)))
  | idle free listens due none eq =>
    rw [eq]
    exact hclock
  | picked c free listens due some eq =>
    rw [eq]
    exact hclock.trans (unheard_transmitOn b inSend c (hactive listens))

end Ctl
end Libradio
