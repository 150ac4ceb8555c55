import Libradio.Client.Reception
import Libradio.Client.Traffic

/-!
# The channel the radio is on

What the Si4463 does with its channel: START_TX and START_RX take it to the channel they name,
nothing else moves it, and REQUEST_DEVICE_STATE reports it. The library keeps a copy in
`radio.curr_channel`, which a send takes before its START_TX (`src/lib/rxtx.c:156`) and a
reception after everything else (`src/lib/rxtx.c:108-110`).
-/

namespace Libradio

variable {σ : Type}

/-- A radio that is on the channel `channel` of its state and listens there if `listens`. -/
structure Board.Tunes (b : Board σ) (channel : σ → UInt8) (listens : σ → Prop) : Prop where
  keeps : b.Keeps fun w w' ↦ channel w' = channel w
  writeTxFifo : ∀ w bytes, channel (b.writeTxFifo w bytes) = channel w
  analogRead : ∀ w i, channel (b.analogRead w i).1 = channel w
  startTx : ∀ {w w' state channo v}, b.exchange w (startTx state channo) 0 = (w', .ok v) →
    channel w' = channo
  startRx : ∀ w channo, channel (b.exchange w (startRx channo) 0).1 = channo ∧
    listens (b.exchange w (startRx channo) 0).1
  reports : ∀ w, ∃ w' v, b.exchange w [SI4463_REQUEST_DEVICE_STATE] 2 = (w', .ok v) ∧
    getElem v 1 (by decide) = channel w ∧
      (getElem v 0 (by decide) = SI4463_STATE_RX → listens w')

/-- The radio is powered up and on the channel `channo`, and the library takes it to be on
`saved`. -/
structure Dev.OnAir (channel : σ → UInt8) (saved channo : UInt8) (d : Dev σ) : Prop where
  active : d.radio.radioActive = true
  saved : d.radio.currChannel = saved
  tuned : channel d.chip = channo

/-- Questions leave the radio powered up. -/
theorem Asked.radioActive {R : σ → σ → Prop} {d d' : Dev σ} (h : Asked R d d') :
    d'.radio.radioActive = d.radio.radioActive := by
  have hactive := congrArg Radio.radioActive h.radio
  exact hactive

private theorem radioActive_hear (p : Packet) (r : Radio) :
    (r.hear p).radioActive = r.radioActive := by
  unfold Radio.hear
  split <;> rfl

section Tuner

variable {b : Board σ} {channel : σ → UInt8} {listens : σ → Prop} {k c : UInt8} {d : Dev σ}

/-- Changes that neither reach the radio nor the library's copy. -/
theorem Dev.OnAir.of_eq {d' : Dev σ} (h : d.OnAir channel k c)
    (active : d'.radio.radioActive = d.radio.radioActive)
    (saved : d'.radio.currChannel = d.radio.currChannel)
    (tuned : channel d'.chip = channel d.chip) : d'.OnAir channel k c :=
  ⟨active.trans h.active, saved.trans h.saved, tuned.trans h.tuned⟩

/-- The clock interrupts do not touch the library's copy. -/
theorem currChannel_clockticks (n : Nat) (r : Radio) :
    (clockticks n r).currChannel = r.currChannel := by
  have huntimed (r : Radio) : r.untimed.currChannel = r.currChannel := rfl
  rw [← huntimed, untimed_clockticks, huntimed]

/-- Clock interrupts leave the tuner alone. -/
theorem onAir_clockticks (n : Nat) (h : d.OnAir channel k c) :
    ({ d with radio := clockticks n d.radio } : Dev σ).OnAir channel k c := by
  have hactive := congrArg Station.radioActive (station_clockticks n d.radio)
  exact h.of_eq hactive (currChannel_clockticks n d.radio) rfl

/-- A change of the operational state. -/
theorem libradioSetState_keeps (newState : UInt8) (r : Radio) :
    (libradioSetState newState r).radioActive = r.radioActive ∧
      (libradioSetState newState r).currChannel = r.currChannel := by
  unfold libradioSetState
  dsimp only
  split
  · exact ⟨rfl, rfl⟩
  · split
    · exact ⟨rfl, rfl⟩
    · split
      · unfold enterListen
        dsimp only
        split <;> split <;> exact ⟨rfl, rfl⟩
      · split <;> exact ⟨rfl, rfl⟩

variable (hb : b.Tunes channel listens)

include hb

/-- The question for the FIFOs leaves the tuner alone. -/
theorem onAir_libradioGetFifoInfo (clrf : UInt8) (h : d.OnAir channel k c) :
    (libradioGetFifoInfo b clrf d).1.OnAir channel k c := by
  have hasked := asked_libradioGetFifoInfo hb.keeps clrf d
  refine h.of_eq hasked.radioActive ?_ hasked.chip
  unfold libradioGetFifoInfo
  split <;> rfl

/-- The radio is asked for its channel, and the copy is right. -/
theorem onAir_libradioRequestDeviceStatus (hactive : d.radio.radioActive = true) :
    (libradioRequestDeviceStatus b d).1.OnAir channel (channel d.chip) (channel d.chip) ∧
      ((libradioRequestDeviceStatus b d).2 = some SI4463_STATE_RX →
        listens (libradioRequestDeviceStatus b d).1.chip) := by
  have hasked := asked_libradioRequestDeviceStatus hb.keeps d
  obtain ⟨w, v, heq, hchannel, hlistens⟩ := hb.reports d.chip
  have hactive' := hasked.radioActive
  have hchip := hasked.chip
  unfold libradioRequestDeviceStatus at hactive' hchip ⊢
  rw [heq] at hactive' hchip ⊢
  exact ⟨⟨hactive'.trans hactive, hchannel, hchip⟩, fun hst ↦ hlistens (Option.some.inj hst)⟩

/-- After a send that succeeds the radio is on the channel of the packet, but the copy is the
channel it was on before. -/
theorem onAir_libradioSend (ticks : Nat) (chp : Channel)
    (hok : (libradioSend b ticks d chp c).ok = true) :
    (libradioSend b ticks d chp c).dev.OnAir channel (channel d.chip) c := by
  have hup : (libradioPowerUp b d).2 = true →
      (libradioPowerUp b d).1.radio.radioActive = true ∧
        channel (libradioPowerUp b d).1.chip = channel d.chip := by
    intro hok
    cases poweredUp_libradioPowerUp hb.keeps d with
    | already active eq =>
      rw [eq]
      exact ⟨active, rfl⟩
    | done asleep ok asked => exact ⟨asked.radioActive, asked.chip⟩
    | failed asleep ok asked =>
      rw [ok] at hok
      cases hok
  unfold libradioSend at hok ⊢
  dsimp only at hok ⊢
  generalize libradioPowerUp b d = up at hup hok ⊢
  split at hok
  · next hpower =>
    rw [if_pos hpower]
    obtain ⟨hactive, hchip⟩ := hup hpower
    obtain ⟨hstatus, -⟩ := onAir_libradioRequestDeviceStatus hb hactive
    rw [hchip] at hstatus
    generalize (libradioRequestDeviceStatus b up.1).1 = e at hstatus hok ⊢
    split at hok
    · cases hok
    · next hfree =>
      rw [if_neg hfree]
      have hspace : (libradioCheckTx b e).1.OnAir channel (channel d.chip) (channel d.chip) :=
        onAir_libradioGetFifoInfo hb 0 hstatus
      generalize libradioCheckTx b e = space at hspace hok ⊢
      split at hok
      · next hroom =>
        rw [if_pos hroom]
        have hticked := onAir_clockticks ticks hspace
        unfold transmitFrame libradioTxpacket at hok ⊢
        by_cases hlen : chp.packet.len > 10
        · rw [if_pos hlen] at hok
          cases hok
        · rw [if_neg hlen] at hok ⊢
          dsimp only at hok ⊢
          rw [if_pos rfl] at hok ⊢
          split at hok
          · next w v heq =>
            exact ⟨hticked.active, hticked.saved, hb.startTx heq⟩
          · cases hok
      · cases hok
  · cases hok

/-- The end of a reception leaves the radio in RX on the channel that is asked for. -/
theorem listens_listenAgain (hactive : d.radio.radioActive = true) :
    channel (listenAgain b c d).chip = c ∧ listens (listenAgain b c d).chip := by
  obtain ⟨hstatus, hlistens⟩ := onAir_libradioRequestDeviceStatus hb hactive
  unfold listenAgain
  dsimp only
  generalize libradioRequestDeviceStatus b d = st at hstatus hlistens ⊢
  split
  · exact hb.startRx st.1.chip c
  · next hstays =>
    obtain ⟨hrx, hchannel⟩ := not_or.mp hstays
    have hsame : st.1.radio.currChannel = c := Decidable.not_not.mp hchannel
    exact ⟨hstatus.tuned.trans (hstatus.saved.symm.trans hsame),
      hlistens (Decidable.not_not.mp hrx)⟩

/-- A reception leaves the radio in RX on the channel that is asked for. -/
theorem listens_libradioRecv (hactive : d.radio.radioActive = true) (p : Packet) :
    channel (libradioRecv b d p c).dev.chip = c ∧ listens (libradioRecv b d p c).dev.chip := by
  have hcheck : (libradioCheckRx b d).1.radio.radioActive = true :=
    (asked_libradioGetFifoInfo hb.keeps 0 d).radioActive.trans hactive
  have hread (e : Dev σ) : (libradioRxpacket b e p).dev.radio.radioActive =
      e.radio.radioActive := by
    obtain ⟨-, hcase⟩ := libradioRxpacket_spec hb.keeps e p
    generalize libradioRxpacket b e p = r at hcase ⊢
    generalize rxRead b e p = q at hcase
    rcases hcase with ⟨-, -, hasked⟩ | ⟨-, -, hasked⟩
    · exact hasked.radioActive.trans (radioActive_hear q e.radio)
    · exact hasked.radioActive
  have hcount (ok : Bool) (e : Dev σ) : (countReceived b ok e).radio.radioActive =
      e.radio.radioActive := by
    have hflush := (asked_libradioGetFifoInfo hb.keeps 2 e).radioActive
    have hrearm (e : Dev σ) : (if e.radio.catchIrq ≠ 0 then
        { e with radio := libradioIrqEnable 1 e.radio } else e).radio.radioActive =
        e.radio.radioActive := by
      split <;> rfl
    unfold countReceived
    dsimp only
    refine (hrearm _).trans ?_
    split
    · rfl
    · exact hflush
  unfold libradioRecv
  dsimp only
  split
  · apply listens_listenAgain hb
    exact (hcount _ _).trans ((hread _).trans hcheck)
  · exact listens_listenAgain hb hcheck

end Tuner

end Libradio
