import Libradio.Base.Run
import Libradio.Lib.Si4463

/-!
# What a send puts on the air

`libradio_send` loads the transmit FIFO before the step that can fail, and nothing on its
failure path clears the FIFO (`libradio_recv` flushes its own FIFO on a bad packet,
`src/lib/rxtx.c:82-96`). Over any sequence of calls and any pattern of exchange results,
every call sends its own frame or nothing and a failed call leaves nothing behind exactly
as long as no START_TX is reported failed without having been executed.
-/

namespace Libradio
open Libradio.Base Si4463

/-- One call of `libradio_send` and the clock interrupts before its time stamp. -/
structure SendCall where
  chp : Channel
  channo : UInt8
  ticks : Nat

namespace SendCall

/-- The call made on a device. -/
def result (oracle : Nat → Outcome) (d : Dev Si4463) (call : SendCall) : Transfer Si4463 :=
  libradioSend (board oracle) call.ticks d call.chp call.channo

/-- The device after the call. -/
def step (oracle : Nat → Outcome) (d : Dev Si4463) (call : SendCall) : Dev Si4463 :=
  (call.result oracle d).dev

/-- Whatever the call puts on the air is the encoding of its own packet on its own
channel, and if it fails the transmit FIFO is empty afterwards. -/
def SendsOwnFrame (oracle : Nat → Outcome) (d : Dev Si4463) (call : SendCall) : Prop :=
  (∃ frames, (call.step oracle d).chip.air = d.chip.air ++ frames ∧
    ∀ f ∈ frames, f.1 = call.channo ∧ ∃ t, f.2 = (call.chp.packet.stamp t).frame) ∧
  ((call.result oracle d).ok = false → (call.step oracle d).chip.txFifo = [])

/-- The call does not issue a START_TX that is reported failed and not executed. -/
def StartNotDropped (oracle : Nat → Outcome) (d : Dev Si4463) (call : SendCall) : Prop :=
  (call.step oracle d).chip.dropped = d.chip.dropped

end SendCall

namespace Si4463

/-- A chip that has not been talked to. -/
def fresh : Si4463 := ⟨[], [], [], 0, 0⟩

/-- The device state request is quiet. -/
theorem quiet_requestDeviceStatus (oracle : Nat → Outcome) (d : Dev Si4463) :
    Quiet d.chip (libradioRequestDeviceStatus (board oracle) d).1.chip := by
  have h := quiet_of_plain oracle d.chip 2 (by decide : Plain [SI4463_REQUEST_DEVICE_STATE])
  unfold libradioRequestDeviceStatus
  split <;> simp_all [board]

/-- The FIFO query is quiet. -/
theorem quiet_getFifoInfo (oracle : Nat → Outcome) (clrf : UInt8) (d : Dev Si4463) :
    Quiet d.chip (libradioGetFifoInfo (board oracle) clrf d).1.chip := by
  have h := quiet_fifoInfo oracle d.chip clrf 2
  unfold libradioGetFifoInfo
  split <;> simp_all [board]

/-- A plain query is quiet. -/
theorem quiet_storeOnly (oracle : Nat → Outcome) (cmd : List UInt8) (n : Nat) (d : Dev Si4463)
    (h : Plain cmd) : Quiet d.chip (storeOnly (board oracle) cmd n d).chip :=
  quiet_of_plain oracle d.chip n h

/-- Sending plain table entries is quiet. -/
theorem quiet_sendConfiguration (oracle : Nat → Outcome) (entries : List (List UInt8))
    (d : Dev Si4463) (h : ∀ e ∈ entries, Plain e) :
    Quiet d.chip (sendConfiguration (board oracle) entries d).1.chip := by
  induction entries generalizing d with
  | nil => exact Quiet.refl _
  | cons entry rest ih =>
    have hq := quiet_of_plain oracle d.chip 0 (h entry (by simp))
    unfold sendConfiguration
    split
    · next w _ he =>
      have hw : (exchange oracle d.chip entry 0).1 = w := by
        simpa [board] using congrArg Prod.fst he
      rw [hw] at hq
      exact hq.trans (ih { d with chip := w } fun e he ↦ h e (by simp [he]))
    · next w _ he =>
      have hw : (exchange oracle d.chip entry 0).1 = w := by
        simpa [board] using congrArg Prod.fst he
      rw [hw] at hq
      exact hq

/-- No entry of the configuration table starts a transmission or touches the FIFOs. -/
theorem plain_radioConfiguration : ∀ e ∈ radioConfiguration, Plain e := by decide

/-- A power-up is quiet, whether it succeeds or not. -/
theorem quiet_powerUp (oracle : Nat → Outcome) (d : Dev Si4463) :
    Quiet d.chip (libradioPowerUp (board oracle) d).1.chip := by
  unfold libradioPowerUp
  split
  · exact Quiet.refl _
  · have hc := quiet_sendConfiguration oracle radioConfiguration d plain_radioConfiguration
    dsimp only
    split
    · refine hc.trans ((quiet_storeOnly oracle
        [SI4463_GET_CHIP_STATUS, 0x7f] 3 _ (by decide)).trans ?_)
      refine (quiet_storeOnly oracle [SI4463_PART_INFO] 8 _ (by decide)).trans ?_
      refine (quiet_storeOnly oracle [SI4463_FUNC_INFO] 6 _ (by decide)).trans ?_
      refine (quiet_storeOnly oracle [SI4463_GET_INT_STATUS, 0, 0, 0] 8 _ (by decide)).trans ?_
      exact (quiet_requestDeviceStatus oracle _).trans (quiet_getFifoInfo oracle 3 _)
    · exact hc

end Si4463

namespace SendCall

/-- How a call can end on an empty transmit FIFO: it has sent its own frame or nothing and
the FIFO is empty again, or its START_TX was dropped and the frame is left behind. -/
inductive Ending (call : SendCall) (c : Si4463) (r : Transfer Si4463) : Prop
  | clean (frames : List (UInt8 × List UInt8)) (air : r.dev.chip.air = c.air ++ frames)
      (own : ∀ f ∈ frames, f.1 = call.channo ∧ ∃ t, f.2 = (call.chp.packet.stamp t).frame)
      (txFifo : r.dev.chip.txFifo = []) (dropped : r.dev.chip.dropped = c.dropped)
  | leftBehind (ok : r.ok = false) (txFifo : r.dev.chip.txFifo ≠ [])
      (dropped : r.dev.chip.dropped = c.dropped + 1)

/-- A call that has only asked the chip ends cleanly. -/
theorem Ending.of_quiet {call : SendCall} {c : Si4463} {r : Transfer Si4463}
    (h : Quiet c r.dev.chip) (he : c.txFifo = []) : Ending call c r :=
  .clean [] (by rw [h.air, List.append_nil]) (by simp) (h.txFifo he) h.dropped

/-- An ending seen from before some questions to the chip. -/
theorem Ending.after_quiet {call : SendCall} {c c' : Si4463} {r : Transfer Si4463}
    (h : Quiet c c') (he : Ending call c' r) : Ending call c r := by
  cases he with
  | clean frames air own txFifo dropped =>
    exact .clean frames (by rw [air, h.air]) own txFifo (dropped.trans h.dropped)
  | leftBehind ok txFifo dropped =>
    exact .leftBehind ok txFifo (by rw [dropped, h.dropped])

/-- The START_TX command takes exactly one frame out of the FIFO. -/
theorem execute_startTx (c : Si4463) (st : ChState) (channo : UInt8) (frame : List UInt8)
    (h : c.txFifo = frame) (hlen : frame.length = 16) :
    c.execute (startTx st channo) =
      { c with air := c.air ++ [(channo, frame)], txFifo := [] } := by
  have hn : 256 * (0 : UInt8).toNat + (16 : UInt8).toNat = 16 := by decide
  simp only [startTx, execute, hn, h]
  rw [List.take_of_length_le (by omega), List.drop_of_length_le (by omega)]

/-- Loading and starting one frame on an empty FIFO. -/
theorem ending_transmitFrame (oracle : Nat → Outcome) (d : Dev Si4463) (call : SendCall)
    (he : d.chip.txFifo = []) :
    Ending call d.chip (transmitFrame (board oracle) call.ticks d call.chp call.channo) := by
  unfold transmitFrame libradioTxpacket
  by_cases hlen : call.chp.packet.len > 10
  · simp only [hlen, if_true, Bool.false_eq_true, if_false]
    exact Ending.of_quiet (Quiet.refl _) he
  · simp only [hlen, if_false, if_true]
    -- the frame that is now the whole content of the FIFO
    generalize ht : (clockticks call.ticks d.radio).msTicks = t
    have hframe : (call.chp.packet.stamp t).frame.length = 16 :=
      Packet.length_frame _ (UInt8.not_lt.mp hlen)
    have hexec := execute_startTx { d.chip with
      txFifo := d.chip.txFifo ++ (call.chp.packet.stamp t).frame, index := d.chip.index + 1 }
      call.chp.state call.channo (call.chp.packet.stamp t).frame (by simp [he]) hframe
    simp only [board, exchange]
    cases oracle d.chip.index with
    | done reply =>
      simp only [hexec]
      exact .clean [(call.channo, _)] rfl (by simpa using ⟨t, rfl⟩) rfl rfl
    | failed e executed =>
      cases executed with
      | true =>
        simp only [hexec]
        exact .clean [(call.channo, _)] rfl (by simpa using ⟨t, rfl⟩) rfl rfl
      | false =>
        refine .leftBehind rfl ?_ ?_
        · simp only [he, List.nil_append]
          intro hnil
          rw [hnil] at hframe
          cases hframe
        · simp only [startTx, List.head?_cons, if_true]

/-- Every call on an empty FIFO ends in one of the two ways. -/
theorem ending_result (oracle : Nat → Outcome) (d : Dev Si4463) (call : SendCall)
    (he : d.chip.txFifo = []) : Ending call d.chip (call.result oracle d) := by
  have hup := quiet_powerUp oracle d
  unfold result libradioSend
  dsimp only
  split
  · have hst := hup.trans (quiet_requestDeviceStatus oracle _)
    split
    · exact Ending.of_quiet hst he
    · have hsp := hst.trans (quiet_getFifoInfo oracle 0 _)
      split
      · exact Ending.after_quiet hsp (ending_transmitFrame oracle _ call (hsp.txFifo he))
      · exact Ending.of_quiet hsp he
  · exact Ending.of_quiet hup he

/-- On an empty FIFO the call does what is asked of it exactly when its START_TX is not
dropped. -/
theorem sendsOwnFrame_iff (oracle : Nat → Outcome) (d : Dev Si4463) (call : SendCall)
    (he : d.chip.txFifo = []) :
    SendsOwnFrame oracle d call ↔ StartNotDropped oracle d call := by
  unfold SendsOwnFrame StartNotDropped step
  cases ending_result oracle d call he with
  | clean frames air own txFifo dropped =>
    exact ⟨fun _ ↦ dropped, fun _ ↦ ⟨⟨frames, air, own⟩, fun _ ↦ txFifo⟩⟩
  | leftBehind ok txFifo dropped =>
    refine ⟨fun h ↦ absurd (h.2 ok) txFifo, fun h ↦ ?_⟩
    rw [dropped] at h
    omega

/-- A call whose START_TX is not dropped leaves the FIFO empty. -/
theorem txFifo_step (oracle : Nat → Outcome) (d : Dev Si4463) (call : SendCall)
    (he : d.chip.txFifo = []) (hs : StartNotDropped oracle d call) :
    (call.step oracle d).chip.txFifo = [] := by
  unfold StartNotDropped at hs
  cases ending_result oracle d call he with
  | clean frames air own txFifo dropped => exact txFifo
  | leftBehind ok txFifo dropped =>
    rw [step, dropped] at hs
    omega

/-- Over every sequence of calls, from a chip whose FIFOs are empty and under every pattern
of exchange results: each call puts at most its own packet's encoding on the air, on its
own channel, and leaves no bytes behind when it fails, exactly when no call of the run
issues a START_TX that is reported failed and was not executed. -/
theorem sends_own_frames_iff (oracle : Nat → Outcome) (d : Dev Si4463) (calls : List SendCall) :
    Along (fun d call ↦ step oracle d call) (SendsOwnFrame oracle)
        { d with chip := Si4463.fresh } calls ↔
      Along (fun d call ↦ step oracle d call) (StartNotDropped oracle)
        { d with chip := Si4463.fresh } calls :=
  along_iff_of_inv _ (I := fun d ↦ d.chip.txFifo = [])
    (fun d call he hg ↦ txFifo_step oracle d call he hg)
    (fun d call he ↦ sendsOwnFrame_iff oracle d call he) rfl

-- A powered-up radio that answers every question with READY and a free FIFO.
private def readyDev : Dev Si4463 :=
  { radio := { Radio.zero with radioActive := true }
    chip := Si4463.fresh
    eeprom := fun _ ↦ 0
    rxchan := .zero
    txchan := .zero
    statusbuffer := fun _ ↦ 0
    beyondData := 0 }

private def dropFirstStart (n : Nat) : Outcome :=
  if n = 2 then .failed .timeout false else .done fun i ↦ if i = 0 then 3 else 64

private def toNode (node cmd : UInt8) (channo : UInt8) : SendCall :=
  ⟨⟨.transmit, 48, { Packet.zero with node := node, cmd := cmd }⟩, channo, 0⟩

/-- A START_TX for node 7 on channel 0 is reported failed and not executed. The call leaves
its sixteen bytes behind, and the next call, for node 9 on channel 1, sends them there. -/
theorem dropped_start_sends_other_frame :
    ¬ Along (fun d call ↦ step dropFirstStart d call) (SendsOwnFrame dropFirstStart)
        readyDev [toNode 7 20 0, toNode 9 21 1] ∧
      (run (fun d call ↦ step dropFirstStart d call) readyDev
        [toNode 7 20 0, toNode 9 21 1]).chip.air =
          [(1, (((toNode 7 20 0).chp.packet).stamp 0).frame)] := by
  constructor
  · intro h
    exact absurd (h.1.2 (by decide)) (by decide)
  · decide

end SendCall

end Libradio
