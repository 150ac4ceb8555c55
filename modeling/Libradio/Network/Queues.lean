import Libradio.Base.Blocks
import Libradio.Lib.TransmitFifo
import Libradio.Network.Passing

/-!
# The radio's queues as rows of frames

Whatever a station does, its receive FIFO loses whole frames, and its transmit FIFO and the air
get whole frames of packets that the station has decided to send. This holds under every pattern
of failed exchanges, also if a frame is left behind in the transmit FIFO and sent later.
-/

namespace Libradio
open Libradio.Base

/-- The bytes are the frame of a packet of the kind `P`. -/
def FrameOf (P : Packet → Prop) (bytes : List UInt8) : Prop :=
  ∃ p t, P p ∧ p.len ≤ 10 ∧ bytes = (Packet.stamp t p).frame

/-- A frame of a kind is one of every wider kind. -/
theorem FrameOf.mono {P Q : Packet → Prop} {bytes : List UInt8} (h : FrameOf P bytes)
    (hPQ : ∀ p, P p → Q p) : FrameOf Q bytes := by
  obtain ⟨p, t, hp, hlen, rfl⟩ := h
  exact ⟨p, t, hPQ p hp, hlen, rfl⟩

/-- A frame has sixteen bytes. -/
theorem FrameOf.length {P : Packet → Prop} {bytes : List UInt8} (h : FrameOf P bytes) :
    bytes.length = 16 := by
  obtain ⟨p, t, -, hlen, rfl⟩ := h
  exact Packet.length_frame (p.stamp t) hlen

namespace Si4463

/-- Between two states of the chip whole frames were taken out of the receive FIFO, and if the
transmit FIFO holds frames of the kind `P`, then it still does and nothing else was sent. -/
structure Moves (P : Packet → Prop) (c c' : Si4463) : Prop where
  rxFifo : Shifted 16 c.rxFifo c'.rxFifo
  txFifo : Blocks 16 (FrameOf P) c.txFifo → Blocks 16 (FrameOf P) c'.txFifo
  air : Blocks 16 (FrameOf P) c.txFifo →
    ∃ sent, c'.air = c.air ++ sent ∧ ∀ f ∈ sent, FrameOf P f.2

/-- The queues are the same. -/
structure SameQueues (c c' : Si4463) : Prop where
  rxFifo : c'.rxFifo = c.rxFifo
  txFifo : c'.txFifo = c.txFifo
  air : c'.air = c.air

namespace Moves

variable {P : Packet → Prop} {c c' c'' : Si4463}

/-- Nothing has moved. -/
theorem refl (P : Packet → Prop) (c : Si4463) : Moves P c c :=
  ⟨.refl 16 _, id, fun _ ↦ ⟨[], (List.append_nil _).symm, by simp⟩⟩

/-- One move after another. -/
theorem trans (h₁ : Moves P c c') (h₂ : Moves P c' c'') : Moves P c c'' := by
  refine ⟨h₁.rxFifo.trans h₂.rxFifo, fun h ↦ h₂.txFifo (h₁.txFifo h), fun h ↦ ?_⟩
  obtain ⟨sent, hair, hsent⟩ := h₁.air h
  obtain ⟨sent', hair', hsent'⟩ := h₂.air (h₁.txFifo h)
  refine ⟨sent ++ sent', by rw [hair', hair, List.append_assoc], fun f hf ↦ ?_⟩
  rcases List.mem_append.mp hf with hf | hf
  · exact hsent f hf
  · exact hsent' f hf

/-- Nothing was sent, and the transmit FIFO is as it was or empty. -/
theorem of_air (rxFifo : Shifted 16 c.rxFifo c'.rxFifo) (air : c'.air = c.air)
    (txFifo : c'.txFifo = c.txFifo ∨ c'.txFifo = []) : Moves P c c' := by
  refine ⟨rxFifo, fun h ↦ ?_, fun _ ↦ ⟨[], by rw [air, List.append_nil], by simp⟩⟩
  rcases txFifo with htx | htx
  · rw [htx]
    exact h
  · rw [htx]
    exact .nil

/-- The same queues have not moved. -/
theorem of_same (h : SameQueues c c') : Moves P c c' :=
  .of_air (by rw [h.rxFifo]; exact .refl 16 _) h.air (.inl h.txFifo)

end Moves

variable {P : Packet → Prop}

/-- An executed command other than START_TX sends nothing. -/
theorem moves_execute (c : Si4463) {cmd : List UInt8} (h : cmd.head? ≠ some SI4463_START_TX) :
    Moves P c (c.execute cmd) := by
  unfold execute
  split
  · exact absurd rfl h
  · apply Moves.of_air
    · dsimp only
      split
      · exact .refl 16 _
      · exact .clear (by decide) _
    · rfl
    · dsimp only
      split
      · exact .inl rfl
      · exact .inr rfl
  · exact .refl P c

/-- Nor does any exchange with another command, whatever becomes of it. -/
theorem moves_exchange (oracle : Nat → Outcome) (c : Si4463) {cmd : List UInt8} (n : Nat)
    (h : cmd.head? ≠ some SI4463_START_TX) : Moves P c (exchange oracle c cmd n).1 := by
  have hcount : Moves P c { c with index := c.index + 1 } := .of_same ⟨rfl, rfl, rfl⟩
  unfold exchange
  dsimp only
  split
  · exact hcount.trans (moves_execute _ h)
  · exact hcount.trans (moves_execute _ h)
  · rw [if_neg h]
    exact hcount

/-- An executed START_TX sends the oldest frame. -/
theorem moves_startTx (c : Si4463) (st : ChState) (channo : UInt8) (hne : c.txFifo ≠ []) :
    Moves P c (c.execute (startTx st channo)) := by
  have hn : 256 * (0 : UInt8).toNat + (16 : UInt8).toNat = 16 := by decide
  simp only [startTx, execute, hn]
  refine ⟨.refl 16 _, fun h ↦ h.drop, fun h ↦ ⟨[(channo, c.txFifo.take 16)], rfl, ?_⟩⟩
  intro f hf
  rw [List.mem_singleton.mp hf]
  exact (h.take hne).2

/-- The transmission of a packet: its frame is put behind what the FIFO holds, and the START_TX
sends the oldest frame or, if it fails without being executed, nothing. -/
theorem moves_transmit (oracle : Nat → Outcome) (c : Si4463) {p : Packet} (t : UInt16)
    (state : ChState) (channo : UInt8) (hP : P p) (hlen : p.len ≤ 10) :
    Moves P c (exchange oracle { c with txFifo := c.txFifo ++ (p.stamp t).frame }
      (startTx state channo) 0).1 := by
  have hframe : FrameOf P (p.stamp t).frame := ⟨p, t, hP, hlen, rfl⟩
  have hne : c.txFifo ++ (p.stamp t).frame ≠ [] := by
    intro hnil
    have hlength := hframe.length
    rw [(List.append_eq_nil_iff.mp hnil).2] at hlength
    cases hlength
  -- the FIFO with the frame in it, whether or not the START_TX failed
  have hfill (i n : Nat) : Moves P c
      { c with txFifo := c.txFifo ++ (p.stamp t).frame, index := i, dropped := n } :=
    ⟨.refl 16 _, fun h ↦ h.snoc hframe.length hframe,
      fun _ ↦ ⟨[], (List.append_nil _).symm, by simp⟩⟩
  unfold exchange
  dsimp only
  split
  · exact (hfill _ _).trans (moves_startTx _ state channo hne)
  · exact (hfill _ _).trans (moves_startTx _ state channo hne)
  · exact hfill _ _

/-- A station that transmits packets of the kind `P` moves its queues so. -/
theorem passes_deaf (oracle : Nat → Outcome) (P : Packet → Prop) :
    (board oracle).deaf.Passes (Moves P) P where
  refl := .refl P
  trans := .trans
  exchange w _ n htx _ := moves_exchange oracle w n htx
  readRxFifo w _ := .refl P w
  transmit w _ t state channo hP hlen := moves_transmit oracle w t state channo hP hlen
  startRx w c := moves_exchange oracle w 0 (by
    simp only [startRx, List.head?_cons]
    decide)

/-! ### Receptions -/

/-- A reception takes one frame out of the FIFO, or all of them, or none. -/
theorem moves_libradioRecv (oracle : Nat → Outcome) (d : Dev Si4463) (p : Packet)
    (channo : UInt8) :
    Moves P d.chip (libradioRecv (board oracle) d p channo).dev.chip := by
  have hb := passes_deaf oracle P
  have hcheck : Moves P d.chip (libradioCheckRx (board oracle) d).1.chip :=
    (asked_libradioGetFifoInfo hb.toKeeps 0 d).chip
  have hagain (e : Dev Si4463) : Moves P e.chip (listenAgain (board oracle) channo e).chip := by
    have hst : Moves P e.chip (libradioRequestDeviceStatus (board oracle) e).1.chip :=
      (asked_libradioRequestDeviceStatus hb.toKeeps e).chip
    unfold listenAgain
    dsimp only
    split
    · exact hst.trans (hb.startRx _ channo)
    · exact hst
  have hcount (ok : Bool) (e : Dev Si4463) :
      Moves P e.chip (countReceived (board oracle) ok e).chip := by
    have hflush : Moves P e.chip (libradioGetFifoInfo (board oracle) 2 e).1.chip :=
      (asked_libradioGetFifoInfo hb.toKeeps 2 e).chip
    unfold countReceived
    cases ok with
    | true =>
      simp only [if_true]
      split <;> exact .refl P _
    | false =>
      simp only [Bool.false_eq_true, if_false]
      split <;> exact hflush
  -- the read itself takes sixteen bytes, since the check has counted as many
  have hread (e : Dev Si4463) (h : 16 ≤ e.radio.rxFifo) :
      Moves P e.chip (libradioRxpacket (board oracle) e p).dev.chip := by
    have hn : min e.radio.rxFifo.toNat SI4463_PACKET_LEN = 16 := by
      have : (16 : UInt8).toNat ≤ e.radio.rxFifo.toNat := UInt8.le_iff_toNat_le.mp h
      simp only [SI4463_PACKET_LEN, UInt8.reduceToNat] at this ⊢
      omega
    have hchip : (libradioRxpacket (board oracle) e p).dev.chip =
        { e.chip with rxFifo := e.chip.rxFifo.drop 16 } := by
      rw [← hn]
      unfold libradioRxpacket checkReceived
      dsimp only
      split
      · rfl
      · split <;> rfl
    rw [hchip]
    exact .of_air (.block 16 _) rfl (.inl rfl)
  unfold libradioRecv
  dsimp only
  split
  · next hmany =>
    have hfull : 16 ≤ (libradioCheckRx (board oracle) d).1.radio.rxFifo := by
      unfold libradioCheckRx libradioGetFifoInfo at hmany ⊢
      dsimp only at hmany ⊢
      split at hmany
      · exact of_decide_eq_true hmany
      · cases hmany
    exact hcheck.trans ((hread _ hfull).trans ((hcount _ _).trans (hagain _)))
  · exact hcheck.trans (hagain _)

end Si4463
end Libradio
