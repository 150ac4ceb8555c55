import Libradio.Base.Run
import Libradio.Lib.Si4463

/-!
# Frames through a receive FIFO

The frames of `libradio_txpacket` arrive in a receive FIFO in chunks of any size, between
calls of `libradio_recv` and clock interrupts. Every call either leaves the FIFO alone or
takes exactly the oldest frame out of it and returns that frame's packet, so the stream
stays aligned and the packets come out one for one and in order.
-/

namespace Libradio
open Libradio.Base

/-- One transmission as the receiver sees it: the packet, the sender's clock and whatever
bytes fill the frame behind the payload. -/
structure Sent where
  packet : Packet
  ticks : UInt16
  padding : Nat → UInt8

namespace Sent

/-- The sixteen bytes of the transmission. -/
def frame (s : Sent) : List UInt8 :=
  (s.packet.stamp s.ticks).sent ++
    (List.range (MAX_PAYLOAD_SIZE - s.packet.len.toNat)).map s.padding

/-- What the receiver is to get from it. -/
def received (s : Sent) : Packet.Received := (s.packet.stamp s.ticks).received

/-- Every frame fills the fixed packet length. -/
theorem length_frame (s : Sent) (h : s.packet.len ≤ 10) :
    s.frame.length = SI4463_PACKET_LEN := by
  have hl : s.packet.len.toNat ≤ 10 := by simpa [UInt8.le_iff_toNat_le] using h
  have hs := Packet.length_sent (s.packet.stamp s.ticks) h
  rw [frame, List.length_append, hs, List.length_map, List.length_range]
  change PACKET_HEADER_LEN + s.packet.len.toNat + _ = _
  simp only [PACKET_HEADER_LEN, SI4463_PACKET_LEN, MAX_PAYLOAD_SIZE]
  omega

/-- `libradio_txpacket` puts this frame, padded with 0xff, behind what the transmit FIFO
already holds. -/
theorem txFifo_libradioTxpacket (oracle : Nat → Outcome) (d : Dev Si4463) (ticks : Nat)
    (p : Packet) (h : p.len ≤ 10) :
    (libradioTxpacket (Si4463.board oracle) ticks d p).dev.chip.txFifo =
      d.chip.txFifo ++ frame ⟨p, (clockticks ticks d.radio).msTicks, fun _ ↦ 0xff⟩ := by
  have hpad (n : Nat) :
      (List.range n).map (fun _ ↦ (0xff : UInt8)) = List.replicate n 0xff := by
    rw [List.map_const', List.length_range]
  unfold libradioTxpacket
  rw [if_neg (UInt8.not_lt.mpr h), frame, hpad]
  rfl

/-- The frame's packet part can be read off its front. -/
theorem take_frame (s : Sent) (h : s.packet.len ≤ 10) :
    s.frame.take (PACKET_HEADER_LEN + s.packet.len.toNat) = (s.packet.stamp s.ticks).sent := by
  have hs : (s.packet.stamp s.ticks).sent.length = PACKET_HEADER_LEN + s.packet.len.toNat :=
    Packet.length_sent (s.packet.stamp s.ticks) h
  rw [frame, ← hs, List.take_left]

end Sent

/-- The bytes of a list of transmissions in order. -/
def stream (sends : List Sent) : List UInt8 := sends.flatMap Sent.frame

/-- A stream of whole frames has sixteen bytes for each. -/
theorem length_stream (sends : List Sent) (h : ∀ s ∈ sends, s.packet.len ≤ 10) :
    (stream sends).length = SI4463_PACKET_LEN * sends.length := by
  induction sends with
  | nil => rfl
  | cons s rest ih =>
    have hs := s.length_frame (h s (by simp))
    have hrest := ih fun t ht ↦ h t (by simp [ht])
    rw [stream, List.flatMap_cons, List.length_append, hs, ← stream, hrest, List.length_cons,
      Nat.mul_succ, Nat.add_comm]

namespace Si4463

/-- The exchange that the chip answers next. -/
def Answers (oracle : Nat → Outcome) (c : Si4463) : Prop := ∃ reply, oracle c.index = .done reply

/-- Reading the byte counts leaves the chip's queues and the clock alone; the count is that
of the receive FIFO if the chip answers and zero otherwise. -/
theorem fifoInfo_count (oracle : Nat → Outcome) (d : Dev Si4463) :
    let r := libradioGetFifoInfo (board oracle) 0 d
    r.1.chip = { d.chip with index := d.chip.index + 1 } ∧
      r.1.radio.msTicks = d.radio.msTicks ∧
      ((Answers oracle d.chip ∧ r.2 = UInt8.ofNat (min d.chip.rxFifo.length 255) ∧
          r.1.radio.rxFifo = r.2) ∨
        (¬ Answers oracle d.chip ∧ r.2 = 0)) := by
  unfold libradioGetFifoInfo Answers
  simp only [board, exchange]
  cases h : oracle d.chip.index with
  | done reply =>
    refine ⟨rfl, rfl, .inl ⟨⟨reply, rfl⟩, ?_, rfl⟩⟩
    simp [replyByte, execute]
  | failed e executed =>
    have hne : ¬ [SI4463_FIFO_INFO, 0].head? = some SI4463_START_TX := by decide
    cases executed with
    | true => simp [execute]
    | false => simp only [if_neg hne]; simp

/-- The chip's receive FIFO and the clock are the same in both devices. -/
structure SameRx (d d' : Dev Si4463) : Prop where
  rxFifo : d'.chip.rxFifo = d.chip.rxFifo
  msTicks : d'.radio.msTicks = d.radio.msTicks

/-- Asking for the device state touches neither. -/
theorem sameRx_requestDeviceStatus (oracle : Nat → Outcome) (d : Dev Si4463) :
    SameRx d (libradioRequestDeviceStatus (board oracle) d).1 := by
  have h := exchange_of_plain oracle d.chip 2 (by decide : Plain [SI4463_REQUEST_DEVICE_STATE])
  unfold libradioRequestDeviceStatus
  split
  · next w v he =>
    have hw : (exchange oracle d.chip [SI4463_REQUEST_DEVICE_STATE] 2).1 = w := by
      simpa [board] using congrArg Prod.fst he
    exact ⟨by rw [← hw, h], rfl⟩
  · next w e he =>
    have hw : (exchange oracle d.chip [SI4463_REQUEST_DEVICE_STATE] 2).1 = w := by
      simpa [board] using congrArg Prod.fst he
    exact ⟨by rw [← hw, h], rfl⟩

/-- Going back to RX touches neither. -/
theorem sameRx_listenAgain (oracle : Nat → Outcome) (channo : UInt8) (d : Dev Si4463) :
    SameRx d (listenAgain (board oracle) channo d) := by
  have hst := sameRx_requestDeviceStatus oracle d
  unfold listenAgain
  dsimp only
  split
  · generalize (libradioRequestDeviceStatus (board oracle) d).1 = d' at hst
    have hplain : Plain [SI4463_START_RX, channo, 0, 0, 16, SI4463_STATE_NOCHANGE,
        SI4463_STATE_READY, SI4463_STATE_READY] :=
      ⟨by simp only [List.head?_cons]; decide, by simp only [List.head?_cons]; decide⟩
    have hx := exchange_of_plain oracle d'.chip 0 hplain
    refine ⟨?_, hst.msTicks⟩
    simp only [libradioSetRx, board, hx]
    exact hst.rxFifo
  · exact hst

/-- Counting a received packet touches neither. -/
theorem sameRx_countReceived (oracle : Nat → Outcome) (d : Dev Si4463) :
    SameRx d (countReceived (board oracle) true d) := by
  unfold countReceived
  simp only [if_true]
  split <;> exact ⟨rfl, rfl⟩

/-- Without a whole packet in the FIFO, or without the chip's answer, a reception returns
nothing and takes nothing. -/
theorem libradioRecv_none (oracle : Nat → Outcome) (d : Dev Si4463) (p : Packet)
    (channo : UInt8) (h : ¬ (Answers oracle d.chip ∧ 16 ≤ d.chip.rxFifo.length)) :
    let r := libradioRecv (board oracle) d p channo
    r.ok = false ∧ SameRx d r.dev := by
  obtain ⟨hchip, hms, hcount⟩ := fifoInfo_count oracle d
  have hfew : ¬ ((libradioCheckRx (board oracle) d).2 = true) := by
    simp only [libradioCheckRx, decide_eq_true_eq, UInt8.not_le]
    rcases hcount with ⟨hans, hn, -⟩ | ⟨-, hn⟩
    · rw [hn, UInt8.lt_iff_toNat_lt]
      have : ¬ 16 ≤ d.chip.rxFifo.length := fun hl ↦ h ⟨hans, hl⟩
      simp
      omega
    · rw [hn]
      decide
  have hl := sameRx_listenAgain oracle channo (libradioCheckRx (board oracle) d).1
  dsimp only
  unfold libradioRecv
  dsimp only
  rw [if_neg hfew]
  refine ⟨rfl, ?_, ?_⟩
  · rw [hl.rxFifo, libradioCheckRx, hchip]
  · rw [hl.msTicks, libradioCheckRx, hms]

/-- The reception has returned the packet of this transmission, and has set the clock to the
sender's if the command is below the responses. -/
structure Returns (r : Transfer Si4463) (s : Sent) : Prop where
  ok : r.ok = true
  received : r.packet.received = s.received
  msTicks : s.packet.cmd < RADIO_STATUS_RESPONSE → r.dev.radio.msTicks = s.ticks

/-- Bytes that are a frame pass the checks as that frame's packet. -/
theorem checkReceived_frame (d : Dev Si4463) (p : Packet) (s : Sent)
    (h : p.clampLen.received = s.received) (hsum : p.clampLen.checksum = 0) :
    Returns (checkReceived d p) s ∧ (checkReceived d p).dev.chip = d.chip := by
  have hcmd : p.clampLen.cmd = s.packet.cmd := congrArg Packet.Received.cmd h
  have hticks : p.clampLen.ticks = s.ticks := congrArg Packet.Received.ticks h
  unfold checkReceived
  simp only [hsum, ne_eq, not_true_eq_false, if_false, hcmd]
  split
  · exact ⟨⟨rfl, h, fun _ ↦ hticks⟩, rfl⟩
  · next hc => exact ⟨⟨rfl, h, fun hlt ↦ absurd hlt hc⟩, rfl⟩

/-- Sixteen bytes at the front of the FIFO are taken out of it and checked, whatever the buffer
held before. -/
theorem libradioRxpacket_block (oracle : Nat → Outcome) (d : Dev Si4463) (p : Packet)
    (block rest : List UInt8) (hlen : block.length = 16) (hrx : d.chip.rxFifo = block ++ rest)
    (hcount : 16 ≤ d.radio.rxFifo) :
    ∃ v : Vector UInt8 16, v.toList = block ∧ libradioRxpacket (board oracle) d p =
      checkReceived { d with chip := { d.chip with rxFifo := rest } } (p.overwrite v) := by
  have hn : min d.radio.rxFifo.toNat SI4463_PACKET_LEN = 16 := by
    have : (16 : UInt8).toNat ≤ d.radio.rxFifo.toNat := UInt8.le_iff_toNat_le.mp hcount
    simp only [SI4463_PACKET_LEN, UInt8.reduceToNat] at this ⊢
    omega
  -- the block of memory that the read fills
  obtain ⟨v, hblock⟩ : ∃ v : Vector UInt8 16,
      v = Vector.ofFn fun i ↦ d.chip.rxFifo.getD i.val 0 := ⟨_, rfl⟩
  have hover (n : Nat) (hn : n = 16) :
      p.overwrite (Vector.ofFn fun i : Fin n ↦ d.chip.rxFifo.getD i.val 0) = p.overwrite v := by
    subst hn
    rw [hblock]
  refine ⟨v, ?_, ?_⟩
  · apply List.ext_getElem
    · simp [hlen]
    · intro i hi hj
      simp only [hblock, Vector.getElem_toList, Vector.getElem_ofFn, hrx]
      rw [List.getD_eq_getElem?_getD, List.getElem?_append_left hj, List.getElem?_eq_getElem hj]
      rfl
  · have hrest : d.chip.rxFifo.drop (min d.radio.rxFifo.toNat SI4463_PACKET_LEN) = rest := by
      rw [hn, hrx]
      exact List.drop_left' hlen
    unfold libradioRxpacket
    simp only [board]
    rw [hover _ hn, hrest]

/-- Reading sixteen bytes whose front is a frame takes that frame out of the FIFO. -/
theorem libradioRxpacket_frame (oracle : Nat → Outcome) (d : Dev Si4463) (p : Packet)
    (s : Sent) (rest : List UInt8) (hlen : s.packet.len ≤ 10)
    (hrx : d.chip.rxFifo = s.frame ++ rest) (hcount : 16 ≤ d.radio.rxFifo) :
    Returns (libradioRxpacket (board oracle) d p) s ∧
      (libradioRxpacket (board oracle) d p).dev.chip.rxFifo = rest := by
  obtain ⟨v, hv, heq⟩ := libradioRxpacket_block oracle d p s.frame rest (s.length_frame hlen) hrx
    hcount
  have hdec := Packet.received_of_sent p s.packet s.ticks v hlen (by rw [hv, s.take_frame hlen])
  obtain ⟨hret, hchip⟩ := checkReceived_frame { d with
    chip := { d.chip with rxFifo := rest } } (p.overwrite v) s hdec.1 hdec.2
  rw [heq]
  exact ⟨hret, by rw [hchip]⟩

/-- With an answering chip and a whole frame at the front of the FIFO, a reception returns
that frame's packet and takes exactly its bytes. -/
theorem libradioRecv_frame (oracle : Nat → Outcome) (d : Dev Si4463) (p : Packet)
    (channo : UInt8) (s : Sent) (rest : List UInt8) (hlen : s.packet.len ≤ 10)
    (hans : Answers oracle d.chip) (hrx : d.chip.rxFifo = s.frame ++ rest) :
    Returns (libradioRecv (board oracle) d p channo) s ∧
      (libradioRecv (board oracle) d p channo).dev.chip.rxFifo = rest := by
  obtain ⟨hchip, -, hcount⟩ := fifoInfo_count oracle d
  have hl : 16 ≤ d.chip.rxFifo.length := by
    rw [hrx, List.length_append, s.length_frame hlen]
    simp only [SI4463_PACKET_LEN]
    omega
  obtain ⟨-, hn, hstore⟩ := hcount.resolve_right fun h ↦ h.1 hans
  have hge : 16 ≤ (libradioGetFifoInfo (board oracle) 0 d).2 := by
    rw [hn, UInt8.le_iff_toNat_le]
    simp
    omega
  have hmany : (libradioCheckRx (board oracle) d).2 = true := by
    simpa only [libradioCheckRx, decide_eq_true_eq] using hge
  obtain ⟨hret, hrest⟩ := libradioRxpacket_frame oracle (libradioCheckRx (board oracle) d).1 p s
    rest hlen (by rw [libradioCheckRx, hchip]; exact hrx)
    (by rw [libradioCheckRx, hstore]; exact hge)
  unfold libradioRecv
  dsimp only
  rw [if_pos hmany]
  generalize libradioRxpacket (board oracle) (libradioCheckRx (board oracle) d).1 p = r
    at hret hrest
  rw [hret.ok]
  have hc := sameRx_countReceived oracle r.dev
  have hla := sameRx_listenAgain oracle channo (countReceived (board oracle) true r.dev)
  refine ⟨⟨rfl, hret.received, fun hcmd ↦ ?_⟩, ?_⟩
  · rw [hla.msTicks, hc.msTicks, hret.msTicks hcmd]
  · rw [hla.rxFifo, hc.rxFifo, hrest]

end Si4463

/-- What can happen to the receiver: bytes come in, the clock runs, `libradio_recv` is called
with any packet buffer. -/
inductive RxEvent
  | arrive (bytes : List UInt8)
  | clock (ticks : Nat)
  | recv (buffer : Packet) (channo : UInt8)

/-- The receiver, every byte that has come in, and for each successful call the packet it
returned and the clock it left. -/
structure Receiver where
  dev : Dev Si4463
  arrived : List UInt8
  got : List (Packet.Received × UInt16)

namespace Receiver
open Si4463

/-- A device whose receive FIFO is empty. -/
def start (d : Dev Si4463) : Receiver :=
  ⟨{ d with chip := { d.chip with rxFifo := [] } }, [], []⟩

/-- One event. -/
def step (oracle : Nat → Outcome) (s : Receiver) : RxEvent → Receiver
  | .arrive bytes =>
    { s with
      dev := { s.dev with chip := { s.dev.chip with rxFifo := s.dev.chip.rxFifo ++ bytes } }
      arrived := s.arrived ++ bytes }
  | .clock ticks => { s with dev := { s.dev with radio := clockticks ticks s.dev.radio } }
  | .recv buffer channo =>
    let r := libradioRecv (board oracle) s.dev buffer channo
    { s with
      dev := r.dev
      got := if r.ok then s.got ++ [(r.packet.received, r.dev.radio.msTicks)] else s.got }

/-- The bytes that an event brings in. -/
def arrivals : RxEvent → List UInt8
  | .arrive bytes => bytes
  | _ => []

/-- A receiver in the middle of a stream: it has returned the packets of a first part, and
what has come in is that part's frames and the content of the FIFO. -/
def Aligned (sends : List Sent) (s : Receiver) : Prop :=
  ∃ done todo, sends = done ++ todo ∧ s.got.map Prod.fst = done.map Sent.received ∧
    s.arrived = stream done ++ s.dev.chip.rxFifo

/-- Every packet returned so far whose command is below the responses has set the clock. -/
def ClockFollows (s : Receiver) : Prop :=
  ∀ g ∈ s.got, g.1.cmd < RADIO_STATUS_RESPONSE → g.2 = g.1.ticks

/-- Each event adds its own bytes to what has come in. -/
theorem arrived_step (oracle : Nat → Outcome) (s : Receiver) (e : RxEvent) :
    (step oracle s e).arrived = s.arrived ++ arrivals e := by
  cases e <;> simp [step, arrivals]

/-- A run adds the bytes of all its events. -/
theorem arrived_run (oracle : Nat → Outcome) (s : Receiver) (events : List RxEvent) :
    (run (step oracle) s events).arrived = s.arrived ++ events.flatMap arrivals := by
  induction events generalizing s with
  | nil => simp
  | cons e rest ih => rw [run_cons, ih, arrived_step, List.flatMap_cons, List.append_assoc]

/-- Sixteen bytes at the front of a stream are its first frame. -/
theorem front_of_stream {sends : List Sent} (hlen : ∀ s ∈ sends, s.packet.len ≤ 10)
    {bytes : List UInt8} (hpre : bytes <+: stream sends) (h : 16 ≤ bytes.length) :
    ∃ s todo rest, sends = s :: todo ∧ bytes = s.frame ++ rest := by
  obtain ⟨more, hmore⟩ := hpre
  cases sends with
  | nil =>
    rw [stream, List.flatMap_nil, List.append_eq_nil_iff] at hmore
    rw [hmore.1, List.length_nil] at h
    omega
  | cons s todo =>
    have hf := s.length_frame (hlen s (by simp))
    refine ⟨s, todo, bytes.drop 16, rfl, ?_⟩
    have htake : bytes.take 16 = s.frame := by
      have hprefix : (bytes ++ more).take 16 = bytes.take 16 := List.take_append_of_le_length h
      rw [← hprefix, hmore, stream, List.flatMap_cons]
      exact List.take_left' hf
    rw [← htake, List.take_append_drop]

/-- The bytes waiting in the FIFO of an aligned receiver start the rest of the stream. -/
theorem Aligned.split {sends : List Sent} {s : Receiver} (h : Aligned sends s)
    (hpre : s.arrived <+: stream sends) :
    ∃ done todo, sends = done ++ todo ∧ s.got.map Prod.fst = done.map Sent.received ∧
      s.arrived = stream done ++ s.dev.chip.rxFifo ∧ s.dev.chip.rxFifo <+: stream todo := by
  obtain ⟨done, todo, hsends, hgot, harr⟩ := h
  refine ⟨done, todo, hsends, hgot, harr, ?_⟩
  rw [harr, hsends, stream, stream, List.flatMap_append] at hpre
  exact (List.prefix_append_right_inj _).mp hpre

/-- One event keeps the receiver aligned, as long as what comes in is the stream. -/
theorem aligned_step (oracle : Nat → Outcome) {sends : List Sent}
    (hlen : ∀ s ∈ sends, s.packet.len ≤ 10) {s : Receiver} {e : RxEvent}
    (h : Aligned sends s) (hpre : s.arrived <+: stream sends) :
    Aligned sends (step oracle s e) := by
  obtain ⟨done, todo, hsends, hgot, harr, hfront⟩ := h.split hpre
  cases e with
  | arrive bytes =>
    refine ⟨done, todo, hsends, hgot, ?_⟩
    simp only [step, harr, List.append_assoc]
  | clock ticks => exact ⟨done, todo, hsends, hgot, harr⟩
  | recv buffer channo =>
    by_cases hr : Answers oracle s.dev.chip ∧ 16 ≤ s.dev.chip.rxFifo.length
    · have htodo : ∀ t ∈ todo, t.packet.len ≤ 10 := fun t ht ↦ hlen t (by simp [hsends, ht])
      obtain ⟨t, todo', rest, rfl, hrx⟩ := front_of_stream htodo hfront hr.2
      obtain ⟨hret, hrest⟩ := libradioRecv_frame oracle s.dev buffer channo t rest
        (htodo t (by simp)) hr.1 hrx
      refine ⟨done ++ [t], todo', by simp [hsends], ?_, ?_⟩
      · simp only [step, hret.ok, if_true, List.map_append, hgot, List.map_cons, List.map_nil,
          hret.received]
      · simp only [step, hrest, harr, hrx, stream, List.flatMap_append, List.flatMap_cons,
          List.flatMap_nil, List.append_nil, List.append_assoc]
    · obtain ⟨hok, hsame⟩ := libradioRecv_none oracle s.dev buffer channo hr
      refine ⟨done, todo, hsends, ?_, ?_⟩
      · simp only [step, hok, Bool.false_eq_true, if_false, hgot]
      · simp only [step, hsame.rxFifo, harr]

/-- One event keeps the record of the clock right. -/
theorem clockFollows_step (oracle : Nat → Outcome) {sends : List Sent}
    (hlen : ∀ s ∈ sends, s.packet.len ≤ 10) {s : Receiver} {e : RxEvent}
    (h : Aligned sends s) (hpre : s.arrived <+: stream sends) (hclock : ClockFollows s) :
    ClockFollows (step oracle s e) := by
  cases e with
  | arrive bytes => exact hclock
  | clock ticks => exact hclock
  | recv buffer channo =>
    obtain ⟨done, todo, hsends, -, -, hfront⟩ := h.split hpre
    by_cases hr : Answers oracle s.dev.chip ∧ 16 ≤ s.dev.chip.rxFifo.length
    · have htodo : ∀ t ∈ todo, t.packet.len ≤ 10 := fun t ht ↦ hlen t (by simp [hsends, ht])
      obtain ⟨t, todo', rest, rfl, hrx⟩ := front_of_stream htodo hfront hr.2
      obtain ⟨hret, -⟩ := libradioRecv_frame oracle s.dev buffer channo t rest
        (htodo t (by simp)) hr.1 hrx
      intro g hg hcmd
      simp only [step, hret.ok, if_true, List.mem_append, List.mem_singleton] at hg
      rcases hg with hg | rfl
      · exact hclock g hg hcmd
      · rw [hret.received] at hcmd ⊢
        exact hret.msTicks hcmd
    · obtain ⟨hok, -⟩ := libradioRecv_none oracle s.dev buffer channo hr
      simpa only [ClockFollows, step, hok, Bool.false_eq_true, if_false] using hclock

/-- A run keeps both, as long as what comes in is the stream. -/
theorem aligned_run (oracle : Nat → Outcome) {sends : List Sent}
    (hlen : ∀ s ∈ sends, s.packet.len ≤ 10) (s : Receiver) (events : List RxEvent)
    (h : Aligned sends s ∧ ClockFollows s)
    (hpre : s.arrived ++ events.flatMap arrivals <+: stream sends) :
    Aligned sends (run (step oracle) s events) ∧
      ClockFollows (run (step oracle) s events) := by
  induction events generalizing s with
  | nil => exact h
  | cons e rest ih =>
    have hs : s.arrived <+: stream sends := (List.prefix_append _ _).trans hpre
    rw [run_cons]
    refine ih (step oracle s e) ⟨aligned_step oracle hlen h.1 hs,
      clockFollows_step oracle hlen h.1 hs h.2⟩ ?_
    rw [arrived_step, List.append_assoc, ← List.flatMap_cons]
    exact hpre

/-- A stream of frames, as `libradio_txpacket` writes them and with any padding, arrives in
any chunks between the calls. The successful calls of `libradio_recv` return its packets one
for one and in order, each call that finds a whole frame and an answering chip succeeds,
commands below the responses set the clock to the sender's, and once everything has arrived
and less than a frame is left every packet has been returned. -/
theorem stream_round_trip (oracle : Nat → Outcome) (d : Dev Si4463) (sends : List Sent)
    (events : List RxEvent) (hlen : ∀ s ∈ sends, s.packet.len ≤ 10)
    (harr : events.flatMap arrivals <+: stream sends) :
    let r := run (step oracle) (start d) events
    (∀ s ∈ sends, ∀ (sender : Dev Si4463) (n : Nat),
      (clockticks n sender.radio).msTicks = s.ticks →
        (libradioTxpacket (board oracle) n sender s.packet).dev.chip.txFifo =
          sender.chip.txFifo ++ { s with padding := fun _ ↦ 0xff }.frame) ∧
      (∃ done todo, sends = done ++ todo ∧ r.got.map Prod.fst = done.map Sent.received ∧
        events.flatMap arrivals = stream done ++ r.dev.chip.rxFifo) ∧
      (∀ g ∈ r.got, g.1.cmd < RADIO_STATUS_RESPONSE → g.2 = g.1.ticks) ∧
      (∀ buffer channo, Answers oracle r.dev.chip → 16 ≤ r.dev.chip.rxFifo.length →
        (libradioRecv (board oracle) r.dev buffer channo).ok = true) ∧
      (events.flatMap arrivals = stream sends → r.dev.chip.rxFifo.length < 16 →
        r.got.map Prod.fst = sends.map Sent.received) := by
  have harrived : (run (step oracle) (start d) events).arrived = events.flatMap arrivals := by
    rw [arrived_run, start, List.nil_append]
  obtain ⟨hal, hclock⟩ := aligned_run oracle hlen (start d) events
    ⟨⟨[], sends, rfl, rfl, rfl⟩, fun g hg ↦ absurd hg (by simp [start])⟩
    (by rw [start, List.nil_append]; exact harr)
  obtain ⟨done, todo, hsends, hgot, hall, hfront⟩ := hal.split (harrived ▸ harr)
  have htodo : ∀ t ∈ todo, t.packet.len ≤ 10 := fun t ht ↦ hlen t (by simp [hsends, ht])
  refine ⟨?_, ⟨done, todo, hsends, hgot, harrived ▸ hall⟩, hclock, ?_, ?_⟩
  · intro s hs sender n hticks
    rw [Sent.txFifo_libradioTxpacket oracle sender n s.packet (hlen s hs), hticks]
  · intro buffer channo hans h16
    obtain ⟨t, todo', rest, rfl, hrx⟩ := front_of_stream htodo hfront h16
    exact (libradioRecv_frame oracle _ buffer channo t rest (htodo t (by simp)) hans hrx).1.ok
  · intro hcomplete hless
    rw [← harrived, hall, hsends, stream, stream, List.flatMap_append,
      List.append_cancel_left_eq] at hcomplete
    have hcount := length_stream todo htodo
    rw [stream, ← hcomplete] at hcount
    have hnil : todo = [] := by
      cases todo with
      | nil => rfl
      | cons t todo' =>
        simp only [List.length_cons, SI4463_PACKET_LEN] at hcount
        omega
    rw [hgot, hsends, hnil, List.append_nil]

private def blankDev : Dev Si4463 :=
  { radio := .zero, chip := ⟨[], [], [], 0, 0⟩, eeprom := fun _ ↦ 0, rxchan := .zero
    txchan := .zero, statusbuffer := fun _ ↦ 0, beyondData := 0 }

private def alwaysAnswer : Nat → Outcome := fun _ ↦ .done fun _ ↦ 8

private def setTime : Sent :=
  ⟨{ Packet.zero with cmd := RADIO_CMD_SET_TIME, len := 1 }, 1234, fun _ ↦ 0xff⟩

private def statusResponse : Sent :=
  ⟨{ Packet.zero with node := 7, cmd := RADIO_STATUS_RESPONSE, len := 10 }, 1300, fun _ ↦ 0⟩

private def chunks : List RxEvent :=
  [.arrive ((stream [setTime, statusResponse]).take 21), .recv statusResponse.packet 0,
    .recv .zero 0, .clock 3, .arrive ((stream [setTime, statusResponse]).drop 21), .recv .zero 0]

/-- Two frames arrive in chunks of 21 and 11 bytes and are both returned. -/
theorem stream_round_trip_two :
    (run (step alwaysAnswer) (start blankDev) chunks).got.map Prod.fst =
      [setTime.received, statusResponse.received] := by
  have h := stream_round_trip alwaysAnswer blankDev [setTime, statusResponse] chunks
    (by decide) (by decide)
  exact h.2.2.2.2 (by decide) (by decide)

end Receiver

end Libradio
