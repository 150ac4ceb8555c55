import Libradio.Client.Loop
import Libradio.Lib.Questions

/-!
# What a reception can do

A reception asks the radio, takes at most one packet out of the FIFO and counts it. Every
result about a client goes through the three cases of this module.
-/

namespace Libradio

variable {σ : Type}

/-- The clock is set by a packet from a controller, `src/lib/packet.c:154-161`. -/
def Radio.hear (p : Packet) (r : Radio) : Radio :=
  if p.cmd < RADIO_STATUS_RESPONSE then { r with msTicks := p.ticks } else r

/-- What a good packet changes in the radio's variables, `src/lib/rxtx.c:97-98`. -/
def Radio.accept (p : Packet) (r : Radio) : Radio :=
  { r.hear p with npacketRx := r.npacketRx + 1, sawRx := true }

private theorem own_hear (p : Packet) (r : Radio) : (r.hear p).own = r.own.hear p := by
  unfold Radio.hear
  split <;> rfl

/-- The interrupt is enabled again after a packet, `src/lib/rxtx.c:104-105`. -/
def Radio.rearm (r : Radio) : Radio := if r.catchIrq ≠ 0 then libradioIrqEnable 1 r else r

/-- Enabling the interrupt leaves all but the interrupt's variables alone. -/
theorem own_rearm (r : Radio) : r.rearm.own = r.own.rearm := by
  unfold Radio.rearm
  have howncatch : r.own.catchIrq = r.catchIrq := rfl
  rw [howncatch]
  split <;> rfl

/-- The station is made of variables that do not mirror the chip. -/
@[simp] theorem station_own (r : Radio) : r.own.station = r.station := rfl

/-- Listening again leaves the station alone. -/
@[simp] theorem station_rearm (r : Radio) : r.rearm.station = r.station := by
  unfold Radio.rearm
  split <;> rfl

/-- A packet that is taken leaves the station alone. -/
@[simp] theorem station_accept (p : Packet) (r : Radio) : (r.accept p).station = r.station := by
  unfold Radio.accept Radio.hear
  split <;> rfl

/-- The packet that `libradio_rxpacket` reads: the buffer with the bytes from the FIFO over it
and a length that cannot be right cut, `src/lib/packet.c:129-143`. -/
def rxRead (b : Board σ) (d : Dev σ) (p : Packet) : Packet :=
  (p.overwrite (b.readRxFifo d.chip (min d.radio.rxFifo.toNat SI4463_PACKET_LEN)).2).clampLen

/-- The packet that the next sixteen bytes of the FIFO make. -/
def received (b : Board σ) (d : Dev σ) : Packet :=
  (Packet.ofBytes (b.readRxFifo (libradioCheckRx b d).1.chip 16).2).clampLen

/-- With a whole packet in the FIFO the buffer is overwritten completely. -/
theorem rxRead_eq_received {b : Board σ} {d : Dev σ} (h : (libradioCheckRx b d).2 = true)
    (p : Packet) : rxRead b (libradioCheckRx b d).1 p = received b d := by
  have hcount : 16 ≤ (libradioCheckRx b d).1.radio.rxFifo := by
    unfold libradioCheckRx libradioGetFifoInfo at h ⊢
    dsimp only at h ⊢
    split at h
    · exact of_decide_eq_true h
    · cases h
  have hn : min (libradioCheckRx b d).1.radio.rxFifo.toNat SI4463_PACKET_LEN = 16 := by
    have := UInt8.le_iff_toNat_le.mp hcount
    simp only [UInt8.reduceToNat, SI4463_PACKET_LEN] at this ⊢
    omega
  have hover (n : Nat) (hn : n = 16) :
      (p.overwrite (b.readRxFifo (libradioCheckRx b d).1.chip n).2).clampLen = received b d := by
    subst hn
    rw [Packet.overwrite_full, received]
  exact hover _ hn

/-- What `libradio_rxpacket` returns and does. -/
theorem libradioRxpacket_spec {b : Board σ} {R : σ → σ → Prop} (hb : b.Keeps R) (d : Dev σ)
    (p : Packet) :
    (libradioRxpacket b d p).packet = rxRead b d p ∧
      (((libradioRxpacket b d p).ok = true ∧ (rxRead b d p).checksum = 0 ∧
          Asked R { d with radio := d.radio.hear (rxRead b d p) } (libradioRxpacket b d p).dev) ∨
        ((libradioRxpacket b d p).ok = false ∧ (rxRead b d p).checksum ≠ 0 ∧
          Asked R d (libradioRxpacket b d p).dev)) := by
  have hchip := hb.readRxFifo d.chip (min d.radio.rxFifo.toNat SI4463_PACKET_LEN)
  unfold libradioRxpacket rxRead checkReceived Radio.hear
  dsimp only
  generalize b.readRxFifo d.chip (min d.radio.rxFifo.toNat SI4463_PACKET_LEN) = block at hchip ⊢
  generalize (p.overwrite block.2).clampLen = q
  by_cases hsum : q.checksum = 0
  · rw [if_neg (not_not_intro hsum)]
    split <;> exact ⟨rfl, .inl ⟨rfl, hsum, hchip, rfl, rfl, rfl, rfl, rfl, rfl⟩⟩
  · rw [if_pos hsum]
    exact ⟨rfl, .inr ⟨rfl, hsum, hchip, rfl, rfl, rfl, rfl, rfl, rfl⟩⟩

/-- The START_RX command of `libradio_set_rx`, `src/lib/rxtx.c:122-129`. -/
def startRx (channo : UInt8) : List UInt8 :=
  [SI4463_START_RX, channo, 0, 0, 16, SI4463_STATE_NOCHANGE, SI4463_STATE_READY,
    SI4463_STATE_READY]

/-- The cases of a reception: nothing is taken out of the FIFO, or a packet with a bad
checksum, or a good one, which is counted and may set the clock. -/
inductive Reception (R : σ → σ → Prop) (b : Board σ) (d : Dev σ) (p : Packet)
    (r : Transfer σ) : Prop
  | nothing (ok : r.ok = false) (packet : r.packet = p) (few : (libradioCheckRx b d).2 = false)
      (asked : Asked R d r.dev)
  | damaged (ok : r.ok = false) (many : (libradioCheckRx b d).2 = true)
      (packet : r.packet = received b d) (sum : r.packet.checksum ≠ 0)
      (asked : Asked R { d with radio := d.radio.rearm } r.dev)
  | good (ok : r.ok = true) (many : (libradioCheckRx b d).2 = true)
      (packet : r.packet = received b d) (sum : r.packet.checksum = 0)
      (asked : Asked R { d with radio := (d.radio.accept r.packet).rearm } r.dev)

private theorem countReceived_rearm (b : Board σ) (ok : Bool) (d : Dev σ) :
    countReceived b ok d =
      let e := if ok then
        { d with radio := { d.radio with npacketRx := d.radio.npacketRx + 1, sawRx := true } }
        else (libradioGetFifoInfo b 2 d).1
      { e with radio := e.radio.rearm } := by
  have hrearm (e : Dev σ) : (if e.radio.catchIrq ≠ 0 then
      { e with radio := libradioIrqEnable 1 e.radio } else e) =
        { e with radio := e.radio.rearm } := by
    unfold Radio.rearm
    split <;> rfl
  exact hrearm _

section Reception

variable {b : Board σ} {R : σ → σ → Prop} (hb : b.Keeps R)

include hb

/-- Going back to RX is a question, too, if the relation holds across its START_RX. -/
theorem asked_listenAgain {channo : UInt8} (hrx : ∀ w, R w (b.exchange w (startRx channo) 0).1)
    (d : Dev σ) : Asked R d (listenAgain b channo d) := by
  have hst := asked_libradioRequestDeviceStatus hb d
  unfold listenAgain
  dsimp only
  split
  · exact hst.trans hb ⟨hrx _, rfl, rfl, rfl, rfl, rfl, rfl⟩
  · exact hst

/-- Every reception is one of the three cases. -/
theorem reception_libradioRecv {channo : UInt8}
    (hrx : ∀ w, R w (b.exchange w (startRx channo) 0).1) (d : Dev σ) (p : Packet) :
    Reception R b d p (libradioRecv b d p channo) := by
  have hcheck : Asked R d (libradioCheckRx b d).1 := asked_libradioGetFifoInfo hb 0 d
  unfold libradioRecv
  dsimp only
  split
  · next hmany =>
    obtain ⟨hpacket, hcase⟩ := libradioRxpacket_spec hb (libradioCheckRx b d).1 p
    rw [rxRead_eq_received hmany] at hpacket hcase
    have hend := asked_listenAgain hb hrx
    generalize libradioRxpacket b (libradioCheckRx b d).1 p = r at hpacket hcase ⊢
    rw [← hpacket] at hcase
    rcases hcase with ⟨hok, hsum, hask⟩ | ⟨hok, hsum, hask⟩
    · have hread := (hcheck.map (own_hear r.packet)).trans hb hask
      refine .good hok hmany hpacket hsum ?_
      rw [hok, countReceived_rearm]
      have hcount := hread.map (f := fun s ↦ Radio.rearm
        { s with npacketRx := s.npacketRx + 1, sawRx := true }) fun s ↦ by rw [own_rearm]; rfl
      have hacc : d.radio.accept r.packet = { d.radio.hear r.packet with
          npacketRx := (d.radio.hear r.packet).npacketRx + 1, sawRx := true } := by
        unfold Radio.accept Radio.hear
        split <;> rfl
      rw [hacc]
      exact hcount.trans hb (hend _)
    · have hflush := (hcheck.trans hb hask).trans hb (asked_libradioGetFifoInfo hb 2 r.dev)
      refine .damaged hok hmany hpacket hsum ?_
      rw [hok, countReceived_rearm]
      exact (hflush.map own_rearm).trans hb (hend _)
  · next hfew =>
    exact .nothing rfl rfl (by simpa using hfew) (hcheck.trans hb (asked_listenAgain hb hrx _))

end Reception

end Libradio
