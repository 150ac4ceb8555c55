import Libradio.Client.Delivery
import Libradio.Network.Authentic

/-!
# A request and its answer

What the network does for one packet if its radios are willing: the controller sends it, the client
it is for takes it, and if it is a STATUS request, the client's answer is printed. Between two
stations with empty FIFOs a frame is all there is, so it is read as the packet it was made of.
-/

namespace Libradio
open Libradio.Base

namespace Si4463

variable {oracle : Nat → Outcome}

/-- No frame was sent, and an empty FIFO is still empty. -/
structure Still (c c' : Si4463) : Prop where
  air : c'.air = c.air
  txFifo : c.txFifo = [] → c'.txFifo = []
  rxFifo : c.rxFifo = [] → c'.rxFifo = []

/-- Nothing was sent. -/
theorem Still.refl (c : Si4463) : Still c c := ⟨rfl, id, id⟩

/-- Nothing was sent by one part, nor by the next. -/
theorem Still.trans {c c' c'' : Si4463} (h₁ : Still c c') (h₂ : Still c' c'') : Still c c'' :=
  ⟨h₂.air.trans h₁.air, fun h ↦ h₂.txFifo (h₁.txFifo h), fun h ↦ h₂.rxFifo (h₁.rxFifo h)⟩

private theorem Still.of_sameQueues {c c' : Si4463} (h : SameQueues c c') : Still c c' :=
  ⟨h.air, fun htx ↦ h.txFifo.trans htx, fun hrx ↦ h.rxFifo.trans hrx⟩

private theorem still_execute (c : Si4463) {cmd : List UInt8}
    (h : cmd.head? ≠ some SI4463_START_TX) :
    Still c (c.execute cmd) := by
  unfold execute
  split
  · exact absurd rfl h
  · refine ⟨rfl, fun htx ↦ ?_, fun hrx ↦ ?_⟩
    · simp [htx]
    · simp [hrx]
  · exact .refl c

private theorem still_exchange (c : Si4463) {cmd : List UInt8} (n : Nat)
    (h : cmd.head? ≠ some SI4463_START_TX) : Still c (exchange oracle c cmd n).1 := by
  have hcount : Still c { c with index := c.index + 1 } := ⟨rfl, id, id⟩
  unfold exchange
  dsimp only
  split
  · exact hcount.trans (still_execute _ h)
  · exact hcount.trans (still_execute _ h)
  · rw [if_neg h]
    exact hcount

/-- Every exchange but START_TX is still. -/
theorem keeps_still : (board oracle).Keeps Still where
  refl := .refl
  trans := .trans
  exchange w _ n htx _ := still_exchange w n htx
  readRxFifo w n := by
    refine ⟨rfl, id, fun hrx ↦ ?_⟩
    show w.rxFifo.drop n = []
    rw [hrx, List.drop_nil]

/-- START_RX sends nothing. -/
theorem still_startRx (channo : UInt8) (w : Si4463) :
    Still w ((board oracle).exchange w (startRx channo) 0).1 :=
  still_exchange w 0 (by simp only [startRx, List.head?_cons]; decide)

/-- A willing radio answers. -/
theorem answers_of_willing (hb : (board oracle).Willing) (c : Si4463) : Answers oracle c := by
  obtain ⟨w, v, heq⟩ := hb.takes c [] 0
  simp only [board, exchange] at heq
  cases h : oracle c.index with
  | done reply => exact ⟨reply, h⟩
  | failed e executed =>
    rw [h] at heq
    cases executed <;> cases heq

/-- One frame was put on the air, and the FIFOs are empty if they were. -/
structure Transmits (channo : UInt8) (frame : List UInt8) (c c' : Si4463) : Prop where
  air : c'.air = c.air ++ [(channo, frame)]
  txFifo : c'.txFifo = []
  rxFifo : c.rxFifo = [] → c'.rxFifo = []

private theorem Transmits.of_still {channo : UInt8} {frame : List UInt8} {u v w x : Si4463}
    (h₁ : Still u v) (h₂ : Transmits channo frame v w) (h₃ : Still w x) :
    Transmits channo frame u x where
  air := by rw [h₃.air, h₂.air, h₁.air]
  txFifo := h₃.txFifo h₂.txFifo
  rxFifo hrx := h₃.rxFifo (h₂.rxFifo (h₁.rxFifo hrx))

/-- A willing radio with an empty transmit FIFO puts the frame of the packet on the air. -/
theorem transmits_libradioSend (hb : (board oracle).Willing) (ticks : Nat) {d : Dev Si4463}
    (chp : Channel) (channo : UInt8) (hlen : chp.packet.len ≤ 10) (htx : d.chip.txFifo = []) :
    let r := libradioSend (board oracle) ticks d chp channo
    r.ok = true ∧ ∃ t, r.packet = chp.packet.stamp t ∧
      Transmits channo (chp.packet.stamp t).frame d.chip r.dev.chip := by
  obtain ⟨e, hstill, heq⟩ := libradioSend_of_willing hb keeps_still ticks d chp channo
  rw [heq]
  unfold transmitFrame libradioTxpacket
  rw [if_neg (UInt8.not_lt.mpr hlen)]
  dsimp only
  rw [if_pos rfl]
  generalize (clockticks ticks e.radio).msTicks = t
  have hlength : (chp.packet.stamp t).frame.length = 16 := Packet.length_frame _ hlen
  have hans := answers_of_willing hb { e.chip with
    txFifo := e.chip.txFifo ++ (chp.packet.stamp t).frame }
  obtain ⟨reply, hreply⟩ := hans
  have hn : 256 * (0 : UInt8).toNat + (16 : UInt8).toNat = 16 := by decide
  simp only [board, exchange, hreply, startTx, execute, hn, hstill.txFifo htx, List.nil_append]
  refine ⟨trivial, t, rfl, ?_, ?_, hstill.rxFifo⟩
  · dsimp only
    rw [hstill.air, List.take_of_length_le (Nat.le_of_eq hlength)]
  · dsimp only
    rw [List.drop_of_length_le (Nat.le_of_eq hlength)]

end Si4463

open Si4463

/-! ### A frame is read -/

section Read

variable {oracle : Nat → Outcome} (hb : (board oracle).Willing) {d : Dev Si4463} {p : Packet}
  {t : UInt16} (hlen : p.len ≤ 10) (hrx : d.chip.rxFifo = (p.stamp t).frame)

include hb hlen hrx

/-- A frame in an otherwise empty FIFO is a good packet. -/
theorem holdsGood_frame : holdsGood (board oracle) d = true ∧
    (received (board oracle) d).received = (p.stamp t).received := by
  have hlength : (p.stamp t).frame.length = 16 := Packet.length_frame (p.stamp t) hlen
  have hblocks : Blocks 16 (· = (p.stamp t).frame) d.chip.rxFifo := by
    rw [hrx]
    exact .single hlength rfl
  have hmany : (libradioCheckRx (board oracle) d).2 = true := by
    obtain ⟨-, -, hcount⟩ := fifoInfo_count oracle d
    obtain ⟨-, hn, -⟩ := hcount.resolve_right fun hno ↦ hno.1 (answers_of_willing hb d.chip)
    rw [libradioCheckRx, hn, hrx, hlength]
    rfl
  obtain ⟨v, hv, hreceived⟩ := received_of_blocks oracle hblocks hmany
  have hsent : v.toList.take (PACKET_HEADER_LEN + p.len.toNat) = (p.stamp t).sent := by
    have hl : (p.stamp t).sent.length = PACKET_HEADER_LEN + p.len.toNat :=
      Packet.length_sent (p.stamp t) hlen
    rw [hv, Packet.frame, ← hl, List.take_left]
  obtain ⟨hfields, hsum⟩ := Packet.received_of_sent .zero p t v hlen hsent
  rw [Packet.overwrite_full] at hfields hsum
  rw [← hreceived] at hfields hsum
  refine ⟨?_, hfields⟩
  unfold holdsGood
  rw [hmany, decide_eq_true hsum]
  rfl

/-- A client that was interrupted takes it, if it is addressed to it or to all. -/
theorem accepted_frame (hirq : d.radio.irqFired ≠ 0)
    (hnode : p.node = 0 ∨ p.node = d.radio.myNodeId) :
    ∃ q, Client.accepted (board oracle) d = some q ∧ q.received = (p.stamp t).received := by
  obtain ⟨hgood, hfields⟩ := holdsGood_frame hb hlen hrx
  have hhears : Client.hears (board oracle) d = true := by
    unfold Client.hears
    rw [hgood, decide_eq_true hirq]
    rfl
  unfold Client.accepted
  rw [hhears]
  generalize received (board oracle) d = q at hfields ⊢
  have hq : q.node = p.node := congrArg Packet.Received.node hfields
  refine ⟨q, if_pos ⟨rfl, ?_⟩, hfields⟩
  unfold IsAddressed
  rw [hq]
  exact hnode

end Read

/-! ### A client answers -/

section Answer

variable {oracle : Nat → Outcome}

/-- The packet is a response with the first bytes of the buffer. -/
structure Responds (cmd n : UInt8) (buffer : Nat → UInt8) (p : Packet) : Prop where
  cmd : p.cmd = cmd
  len : p.len = n
  data : p.data.toList.take n.toNat = (List.range n.toNat).map buffer

/-- The bytes are a status that the application fetches while the station is `st`. -/
def IsStatus (app : App Si4463) (type : UInt8) (st : Station) (bytes : List UInt8) : Prop :=
  ∃ d, d.radio.station = st ∧
    bytes = (List.range (app.fetchStatus type d).2).map (app.fetchStatus type d).1.statusbuffer

/-- Every status of the application has a byte at least, and fits a packet. -/
def FitsPacket (app : App Si4463) (type : UInt8) : Prop :=
  ∀ d, 1 ≤ (app.fetchStatus type d).2 ∧ (app.fetchStatus type d).2 ≤ 10

/-- A pass that has accepted a packet executes it, and asks the radio before and after. -/
theorem still_pass {app : App Si4463} {fuel ticks : Nat} {serial : Bool} {d : Dev Si4463}
    {q : Packet} (hq : Client.accepted (board oracle) d = some q) :
    Still (libradioCommand (board oracle) app fuel q (Client.handed (board oracle) ticks d)).chip
      (Client.step (board oracle) app fuel d (.pass ticks serial)).chip := by
  have hirq := irqFired_of_accepted hq
  have hk : (board oracle).Keeps Still := keeps_still
  show Still _ (libradioRxloop (board oracle) app fuel ticks serial d).chip
  unfold libradioRxloop
  rw [if_pos (.inl hirq), rxloopHandle_of_irq _ _ _ _ hirq, hq]
  exact (asked_libradioGetIntStatus hk _).chip

variable (hb : (board oracle).Willing)

include hb

/-- A response that fits a packet is put on the air. -/
theorem transmits_libradioSendResponse (fuel : Nat) (cmd chan addr : UInt8) {n : UInt8}
    (hn : n ≤ 10) (buffer : Nat → UInt8) {d : Dev Si4463} (htx : d.chip.txFifo = []) :
    ∃ p t, Responds cmd n buffer p ∧ Transmits chan (p.stamp t).frame d.chip
      (libradioSendResponse (board oracle) fuel cmd chan addr n buffer d).chip := by
  have hle : n.toNat ≤ 10 := UInt8.le_iff_toNat_le.mp hn
  unfold libradioSendResponse
  dsimp only
  generalize hchp : (⟨.transmit, 10, _⟩ : Channel) = chp
  have hresponds : Responds cmd n buffer chp.packet := by
    rw [← hchp, if_neg (UInt8.not_lt.mpr hn)]
    refine ⟨rfl, rfl, ?_⟩
    apply List.ext_getElem
    · simp [hle]
    · intro i hi hi'
      simp only [List.length_map, List.length_range] at hi'
      simp [hi']
  have hsend := transmits_libradioSend hb 0 (d := { d with txchan := chp }) chp chan
    (by rw [hresponds.len]; exact hn) htx
  generalize libradioSend (board oracle) 0 { d with txchan := chp } chp chan = r at hsend ⊢
  obtain ⟨hok, t, -, htransmits⟩ := hsend
  refine ⟨chp.packet, t, hresponds, ?_⟩
  generalize (if r.ok = true then _ else _ : Channel) = chp'
  have hk : (board oracle).Keeps Still := keeps_still
  have hwait := (asked_waitTransmitted hk fuel { r.dev with txchan := chp' }).chip
  have hrest := hwait.trans (chip_libradioRecvStart hk (fun w c ↦ still_startRx c w)
    (waitTransmitted (board oracle) fuel { r.dev with txchan := chp' }))
  exact .of_still (.refl _) htransmits hrest

/-- An active client that gets a STATUS request puts a status of its application on the air. -/
theorem transmits_status {app : App Si4463} (happ : app.LeavesRadio SameQueues) (fuel ticks : Nat)
    (serial : Bool) {d : Dev Si4463} {q : Packet}
    (hq : Client.accepted (board oracle) d = some q)
    (hactive : d.radio.state ≥ LIBRADIO_STATE_ACTIVE)
    (hcmd : q.cmd = RADIO_CMD_STATUS) (hlen : q.len = 3) (htx : d.chip.txFifo = [])
    (hfits : FitsPacket app (dataByte q.data 2)) :
    ∃ (p : Packet) (t : UInt16), p.cmd = RADIO_STATUS_RESPONSE ∧ p.len ≤ 10 ∧
      IsStatus app (dataByte q.data 2) d.radio.station (p.data.toList.take p.len.toNat) ∧
      (Client.step (board oracle) app fuel d (.pass ticks serial)).chip.air =
        d.chip.air ++ [(dataByte q.data 0, (p.stamp t).frame)] := by
  have hirq := irqFired_of_accepted hq
  have hk : (board oracle).Keeps Still := keeps_still
  obtain ⟨hstation, -, hchip⟩ := handed_spec hk ticks hirq fun w ↦ still_startRx d.radio.myChannel w
  have hstate : (Client.handed (board oracle) ticks d).radio.state = d.radio.state :=
    congrArg Station.state hstation
  have hstill : Still _ (Client.step (board oracle) app fuel d (.pass ticks serial)).chip :=
    still_pass hq
  obtain ⟨hsome, hmost⟩ := hfits (Client.handed (board oracle) ticks d)
  have hfetched : Still (Client.handed (board oracle) ticks d).chip
      (app.fetchStatus (dataByte q.data 2) (Client.handed (board oracle) ticks d)).1.chip :=
    .of_sameQueues
      (happ.fetchStatus (dataByte q.data 2) (Client.handed (board oracle) ticks d)).chip
  have hstatus : IsStatus app (dataByte q.data 2) d.radio.station _ :=
    ⟨Client.handed (board oracle) ticks d, hstation, rfl⟩
  have hcommand : libradioCommand (board oracle) app fuel q (Client.handed (board oracle) ticks d) =
      libradioSendResponse (board oracle) fuel RADIO_STATUS_RESPONSE (dataByte q.data 0)
        (dataByte q.data 1)
        (UInt8.ofNat (app.fetchStatus (dataByte q.data 2) (Client.handed (board oracle) ticks d)).2)
        (app.fetchStatus (dataByte q.data 2) (Client.handed (board oracle) ticks d)).1.statusbuffer
        (app.fetchStatus (dataByte q.data 2) (Client.handed (board oracle) ticks d)).1 := by
    unfold libradioCommand
    rw [hcmd, hstate, if_neg fun hc ↦ UInt8.not_lt.mpr hactive hc.2, if_neg (by decide),
      if_neg (by decide), if_pos rfl, if_neg (not_not_intro hlen)]
    dsimp only
    exact if_pos hsome
  rw [hcommand] at hstill
  generalize app.fetchStatus (dataByte q.data 2) (Client.handed (board oracle) ticks d) = fetched
    at hsome hmost hfetched hstatus hstill
  have hn : (UInt8.ofNat fetched.2).toNat = fetched.2 := by
    rw [UInt8.toNat_ofNat', Nat.mod_eq_of_lt (by omega)]
  have hle : UInt8.ofNat fetched.2 ≤ 10 := by
    rw [UInt8.le_iff_toNat_le, hn]
    exact hmost
  have hfetch := hchip.trans hfetched
  obtain ⟨p, t, hresponds, htransmits⟩ := transmits_libradioSendResponse hb fuel
    RADIO_STATUS_RESPONSE (dataByte q.data 0) (dataByte q.data 1) hle fetched.1.statusbuffer
    (hfetch.txFifo htx)
  have hdata := hresponds.data
  rw [← hresponds.len, hresponds.len, hn] at hdata
  refine ⟨p, t, hresponds.cmd, ?_, ?_, ?_⟩
  · rw [hresponds.len]
    exact hle
  · rw [hresponds.len, hn, hdata]
    exact hstatus
  · rw [hstill.air, htransmits.air, hfetch.air]

end Answer

/-! ### The controller sends and reads -/

namespace Ctl

variable {oracle : Nat → Outcome} (hb : (board oracle).Willing)

include hb

/-- The packet that the priority scan picks is put on the air, and a request is waited for. -/
theorem check_picked {s : Ctl Si4463} {c : Fin 6} {between : Nat} (inSend : Nat)
    (hfree : s.respChp = none) (hlistens : ¬ s.dev.radio.state < LIBRADIO_STATE_LISTEN)
    (hdue : slotDue between s = none) (hpick : pickReady (readClock between s) = some c)
    (hstate : (s.chan c).state.IsQueued) (hlen : (s.chan c).packet.len ≤ 10)
    (htx : s.dev.chip.txFifo = []) :
    let s' := check (board oracle) between inSend s
    s'.respChp = (if (s.chan c).state = .txrespond then some c else none) ∧
      (s'.chan c).state = (if (s.chan c).state = .txrespond then .rxresponse1 else .empty) ∧
      s'.out = s.out ∧ ∃ t, (s'.chan c).packet = (s.chan c).packet.stamp t ∧
        Transmits (UInt8.ofNat c.val) ((s.chan c).packet.stamp t).frame s.dev.chip
          s'.dev.chip := by
  have hcheck : check (board oracle) between inSend s =
      transmitOn (board oracle) inSend c (readClock between s) := by
    cases checked_check (board oracle) between inSend s with
    | awaiting awaited eq => exact absurd hfree awaited
    | deaf free deaf eq => exact absurd deaf hlistens
    | slot d free listens due eq =>
      rw [hdue] at due
      cases due
    | idle free listens due none eq =>
      rw [hpick] at none
      cases none
    | picked d free listens due some eq =>
      rw [hpick] at some
      rw [eq, Option.some.inj some]
  have hchan : (readClock between s).chan c = s.chan c := rfl
  have hready : ¬ ((readClock between s).chan c).state.toNat < ChState.empty.toNat := by
    rw [hchan]
    rcases hstate with h | h <;> rw [h] <;> decide
  have hsend := transmits_libradioSend hb inSend (d := (readClock between s).dev) (s.chan c)
    (UInt8.ofNat c.val) hlen htx
  dsimp only
  rw [hcheck]
  unfold transmitOn
  rw [if_neg hready]
  dsimp only
  unfold sendOn
  rw [hchan]
  dsimp only
  generalize libradioSend (board oracle) inSend (readClock between s).dev (s.chan c)
    (UInt8.ofNat c.val) = r at hsend ⊢
  obtain ⟨hok, t, hpacket, htransmits⟩ := hsend
  rw [if_pos hok]
  -- the channel with the packet as it was sent
  generalize hsent : Ctl.note _ _ = u
  have hdev : u.dev = r.dev := by rw [← hsent]; rfl
  have hout : u.out = s.out := by rw [← hsent]; rfl
  have hresp : u.respChp = none := by rw [← hsent]; exact hfree
  have hu : u.chan c = { s.chan c with packet := r.packet } := by
    rw [← hsent, chan_note]
    show ((readClock between s).modify c fun chp ↦ { chp with packet := r.packet }).chan c = _
    rw [chan_modify_self, hchan]
  have hage (v : Ctl Si4463) :
      ({ v with channels := v.channels.map age } : Ctl Si4463).chan c = age (v.chan c) := by
    simp [chan]
  have hustate : (u.chan c).state = (s.chan c).state := by rw [hu]
  unfold sentOn
  rw [hage, (age_spec _).1, (age_spec _).2, hustate]
  split
  · refine ⟨rfl, ?_, hout, t, ?_, ?_⟩
    · show ((u.modify c
        fun chp ↦ { chp with state := .rxresponse1, priority := 0 }).chan c).state = _
      rw [chan_modify_self]
    · show ((u.modify c
        fun chp ↦ { chp with state := .rxresponse1, priority := 0 }).chan c).packet = _
      rw [chan_modify_self, hu]
      exact hpacket
    · show Transmits _ _ _ u.dev.chip
      rw [hdev]
      exact htransmits
  · refine ⟨hresp, ?_, hout, t, ?_, ?_⟩
    · rw [chan_modify_self]
    · rw [chan_modify_self, hu]
      exact hpacket
    · show Transmits _ _ _ u.dev.chip
      rw [hdev]
      exact htransmits

/-- A frame at the front of the FIFO is printed as it was sent. -/
theorem out_txresponse {s : Ctl Si4463} (c : Fin 6) (sent : Sent) {rest : List UInt8}
    (hlen : sent.packet.len ≤ 10) (hrx : s.dev.chip.rxFifo = sent.frame ++ rest) :
    (txresponse (board oracle) c s).out = s.out ++ [.report s.dev.radio.currChannel
      (s.chan c).packet.node sent.ticks sent.packet.cmd
      (sent.packet.data.toList.take sent.packet.len.toNat)] := by
  obtain ⟨hreturns, -⟩ := libradioRecv_frame oracle s.dev (s.chan c).packet
    s.dev.radio.currChannel sent rest hlen (answers_of_willing hb _) hrx
  unfold txresponse
  dsimp only
  generalize libradioRecv (board oracle) s.dev (s.chan c).packet s.dev.radio.currChannel = r
    at hreturns ⊢
  have hticks : r.packet.ticks = sent.ticks := congrArg Packet.Received.ticks hreturns.received
  have hcmd : r.packet.cmd = sent.packet.cmd := congrArg Packet.Received.cmd hreturns.received
  have hdata : r.packet.data.toList.take r.packet.len.toNat =
      sent.packet.data.toList.take sent.packet.len.toNat :=
    congrArg Packet.Received.payload hreturns.received
  rw [if_pos hreturns.ok, hticks, hcmd, hdata]
  rfl

/-- A frame that has come in while the controller waits is printed as it was sent, and ends the
wait. -/
theorem poll_frame {s : Ctl Si4463} {c : Fin 6} {p : Packet} {t : UInt16}
    (hwaits : s.respChp = some c) (hlen : p.len ≤ 10)
    (hrx : s.dev.chip.rxFifo = (p.stamp t).frame) :
    (poll (board oracle) s).respChp = none ∧ ∃ chan, (poll (board oracle) s).out = s.out ++
      [.report chan (s.chan c).packet.node t p.cmd (p.data.toList.take p.len.toNat)] := by
  obtain ⟨hgood, -⟩ := holdsGood_frame hb hlen hrx
  have hmany : (libradioCheckRx (board oracle) s.dev).2 = true := by
    unfold holdsGood at hgood
    exact (Bool.and_eq_true _ _ ▸ hgood).1
  have hchip : (libradioCheckRx (board oracle) s.dev).1.chip.rxFifo = s.dev.chip.rxFifo := by
    rw [libradioCheckRx, (fifoInfo_count oracle s.dev).1]
  have hframe : (libradioCheckRx (board oracle) s.dev).1.chip.rxFifo =
      (⟨p, t, fun _ ↦ 0xff⟩ : Sent).frame ++ [] := by
    rw [hchip, hrx, List.append_nil, Sent.frame, List.map_const', List.length_range]
    rfl
  have hpoll : poll (board oracle) s = endWait c (txresponse (board oracle) c
      { s with dev := (libradioCheckRx (board oracle) s.dev).1 }) := by
    unfold poll
    split
    · next hnone =>
      rw [hwaits] at hnone
      cases hnone
    · next c' hsome =>
      rw [Option.some.inj (hwaits.symm.trans hsome)]
      exact if_pos hmany
  have hout := out_txresponse hb (s := { s with dev := (libradioCheckRx (board oracle) s.dev).1 }) c
    ⟨p, t, fun _ ↦ 0xff⟩ hlen hframe
  rw [hpoll]
  exact ⟨rfl, _, hout⟩

omit hb

/-- Between `s` and `s'` the controller has looked `n` times for an answer on channel `c`, and has
seen nothing. -/
structure Looked (c : Fin 6) (n : Nat) (s s' : Ctl Si4463) : Prop where
  respChp : s'.respChp = s.respChp
  state : (s'.chan c).state.toNat = (s.chan c).state.toNat + n
  packet : (s'.chan c).packet = (s.chan c).packet
  out : s'.out = s.out
  air : s'.dev.chip.air = s.dev.chip.air
  rxFifo : s'.dev.chip.rxFifo = s.dev.chip.rxFifo

variable {c : Fin 6}

private theorem Looked.refl (s : Ctl Si4463) : Looked c 0 s s := ⟨rfl, rfl, rfl, rfl, rfl, rfl⟩

private theorem Looked.trans {n k : Nat} {s t u : Ctl Si4463} (h₁ : Looked c n s t)
    (h₂ : Looked c k t u) :
    Looked c (n + k) s u where
  respChp := h₂.respChp.trans h₁.respChp
  state := by rw [h₂.state, h₁.state, Nat.add_assoc]
  packet := h₂.packet.trans h₁.packet
  out := h₂.out.trans h₁.out
  air := h₂.air.trans h₁.air
  rxFifo := h₂.rxFifo.trans h₁.rxFifo

private theorem looked_tick (b : Board Si4463) (s : Ctl Si4463) :
    Looked c 0 s (step b s .tick) := by
  show Looked c 0 s { s with dev := { s.dev with radio := clocktick s.dev.radio } }
  generalize clocktick s.dev.radio = r
  exact ⟨rfl, rfl, rfl, rfl, rfl, rfl⟩

/-- The first three looks at an empty FIFO go on. -/
theorem looked_poll {s : Ctl Si4463} (hwaits : s.respChp = some c) (hrx : s.dev.chip.rxFifo = [])
    (hstate : (s.chan c).state.toNat < ChState.rxresponse4.toNat) :
    Looked c 1 s (poll (board oracle) s) := by
  obtain ⟨hchip, -, hcount⟩ := fifoInfo_count oracle s.dev
  have hnone : (libradioCheckRx (board oracle) s.dev).2 = false := by
    rw [libradioCheckRx]
    rcases hcount with ⟨-, hn, -⟩ | ⟨-, hn⟩
    · rw [hn, hrx]
      rfl
    · rw [hn]
      rfl
  have hearly : (s.chan c).state ≠ .rxresponse4 := by
    intro hlast
    rw [hlast] at hstate
    exact absurd hstate (Nat.lt_irrefl _)
  have hnext : (s.chan c).state.next.toNat = (s.chan c).state.toNat + 1 := by
    generalize (s.chan c).state = st at hearly
    cases st <;> first | rfl | exact absurd rfl hearly
  obtain ⟨u, hu⟩ : ∃ u : Ctl Si4463,
      u = { s with dev := (libradioCheckRx (board oracle) s.dev).1 } := ⟨_, rfl⟩
  have hpoll : poll (board oracle) s =
      (u.setState c (s.chan c).state.next).note (.wait c (s.chan c).state.next) := by
    unfold poll
    split
    · next hidle =>
      rw [hwaits] at hidle
      cases hidle
    · next c' hsome =>
      obtain rfl := Option.some.inj (hwaits.symm.trans hsome)
      dsimp only
      rw [if_neg (by rw [hnone]; decide), hu]
      exact if_neg hearly
  have hdev : u.dev.chip = { s.dev.chip with index := s.dev.chip.index + 1 } := by
    rw [hu, libradioCheckRx, hchip]
  have hown : (poll (board oracle) s).chan c =
      { s.chan c with state := (s.chan c).state.next } := by
    rw [hpoll, chan_note]
    refine (chan_modify_self c _ u).trans ?_
    rw [hu]
    rfl
  have hair : u.dev.chip.air = s.dev.chip.air := by rw [hdev]
  have hfifo : u.dev.chip.rxFifo = s.dev.chip.rxFifo := by rw [hdev]
  refine ⟨?_, ?_, ?_, ?_, ?_, ?_⟩
  · rw [hpoll, hu]
    rfl
  · rw [hown]
    exact hnext
  · rw [hown]
  · rw [hpoll, hu]
    rfl
  · rw [hpoll]
    exact hair
  · rw [hpoll]
    exact hfifo

/-- The controller is about to send the request for the status that it has on channel `c`. -/
structure Asks (between : Nat) (c : Fin 6) (s : Ctl Si4463) : Prop where
  free : s.respChp = none
  listens : LIBRADIO_STATE_LISTEN ≤ s.dev.radio.state
  noSlot : slotDue between s = none
  picked : pickReady (readClock between s) = some c
  state : (s.chan c).state = .txrespond
  cmd : (s.chan c).packet.cmd = RADIO_CMD_STATUS
  len : (s.chan c).packet.len = 3
  txFifo : s.dev.chip.txFifo = []
  rxFifo : s.dev.chip.rxFifo = []

/-- The controller waits for the answer of `node` on channel `c`, and has looked `n` times. -/
structure Awaits (c : Fin 6) (node : UInt8) (out : List Line) (n : Nat)
    (s : Ctl Si4463) : Prop where
  respChp : s.respChp = some c
  state : (s.chan c).state.toNat = ChState.rxresponse1.toNat + n
  node : (s.chan c).packet.node = node
  out : s.out = out
  rxFifo : s.dev.chip.rxFifo = []

private theorem Awaits.looked {node : UInt8} {out : List Line} {n k : Nat} {s s' : Ctl Si4463}
    (h : Awaits c node out n s) (hlooked : Looked c k s s') : Awaits c node out (n + k) s' where
  respChp := hlooked.respChp.trans h.respChp
  state := by rw [hlooked.state, h.state, Nat.add_assoc]
  node := by rw [hlooked.packet, h.node]
  out := hlooked.out.trans h.out
  rxFifo := hlooked.rxFifo.trans h.rxFifo

/-- The request is sent. -/
theorem Asks.check {between : Nat} {s : Ctl Si4463} (h : Asks between c s)
    (hb : (board oracle).Willing) (inSend : Nat) :
    Awaits c (s.chan c).packet.node s.out 0 (check (board oracle) between inSend s) ∧
      ∃ t, Transmits (UInt8.ofNat c.val) ((s.chan c).packet.stamp t).frame s.dev.chip
        (check (board oracle) between inSend s).dev.chip := by
  obtain ⟨hresp, hstate, hout, t, hpacket, htransmits⟩ := check_picked hb (c := c) inSend h.free
    (UInt8.not_lt.mpr h.listens) h.noSlot h.picked (.inr h.state) (by rw [h.len]; decide) h.txFifo
  rw [if_pos h.state] at hresp hstate
  refine ⟨⟨hresp, ?_, ?_, hout, htransmits.rxFifo h.rxFifo⟩, t, htransmits⟩
  · rw [hstate, Nat.add_zero]
  · rw [hpacket]
    rfl

end Ctl

/-- The clock changes neither the station nor what the radio's interrupt is for. -/
theorem awake_of_untimed {r r' : Radio} (h : r'.untimed = r.untimed) :
    r'.station = r.station ∧ r'.int0Enabled = r.int0Enabled ∧ r'.irqFired = r.irqFired := by
  have hstation : r'.untimed.station = r.untimed.station := congrArg Radio.station h
  have hint0 : r'.untimed.int0Enabled = r.untimed.int0Enabled := congrArg Radio.int0Enabled h
  have hirq : r'.untimed.irqFired = r.untimed.irqFired := congrArg Radio.irqFired h
  exact ⟨hstation, hint0, hirq⟩

private theorem untimed_radioIrq (r : Radio) : (radioIrq r).untimed = radioIrq r.untimed := rfl

/-- An active client sleeps until the radio interrupts. -/
structure Sleeps (d : Dev Si4463) : Prop where
  active : LIBRADIO_STATE_ACTIVE ≤ d.radio.state
  int0Enabled : d.radio.int0Enabled = true
  irqFired : d.radio.irqFired = 0
  txFifo : d.chip.txFifo = []
  rxFifo : d.chip.rxFifo = []

namespace Net

variable {ι : Type}

/-- What may go on besides an exchange with client `i`: the clocks run, the controller looks for an
answer, and the others do as they like, as long as nothing of it arrives at the two. -/
def Besides (i : ι) : Event ι → Prop
  | .control a => ∀ ch, a ≠ .input ch
  | .client j e => j = i → e = .tick
  | .carry _ _ reaches => reaches none = false ∧ reaches (some i) = false
  | .noise _ reaches => reaches none = false ∧ reaches (some i) = false

/-- The controller looks for an answer. -/
def IsPoll : Event ι → Bool
  | .control .poll => true
  | _ => false

/-- The clock may have interrupted, nothing else. -/
structure Rests (d d' : Dev Si4463) : Prop where
  chip : d'.chip = d.chip
  untimed : d'.radio.untimed = d.radio.untimed

private theorem Rests.refl (d : Dev Si4463) : Rests d d := ⟨rfl, rfl⟩

private theorem Rests.trans {d d' d'' : Dev Si4463} (h₁ : Rests d d') (h₂ : Rests d' d'') :
    Rests d d'' :=
  ⟨h₂.chip.trans h₁.chip, h₂.untimed.trans h₁.untimed⟩

private theorem rests_tick (m : Member) (s : Member.State) : Rests s.dev (m.step s .tick).dev := by
  show Rests s.dev { s.dev with radio := clocktick s.dev.radio }
  have htick := untimed_clocktick s.dev.radio
  generalize clocktick s.dev.radio = r at htick ⊢
  exact ⟨rfl, htick⟩

variable [DecidableEq ι] (oracle : Nat → Outcome) (m : ι → Member) {i : ι} {c : Fin 6}

omit [DecidableEq ι] in
/-- Nothing arrives at stations that are not reached. -/
theorem unmoved_arrive (bytes : List UInt8) (reaches : Option ι → Bool) (s : Net ι)
    (hctl : reaches none = false) (hcli : reaches (some i) = false) :
    (s.arrive bytes reaches).ctl = s.ctl ∧ (s.arrive bytes reaches).cli i = s.cli i := by
  unfold arrive
  dsimp only
  rw [if_neg (by rw [hctl]; decide), if_neg (by rw [hcli]; decide)]
  exact ⟨rfl, rfl⟩

private theorem step_carry {s : Net ι} {sender : Option ι} {k : Nat} {reaches : Option ι → Bool}
    {f : UInt8 × List UInt8} (hget : (s.chip sender).air[k]? = some f) :
    step oracle m s (.carry sender k reaches) =
      s.arrive f.2 fun x ↦ reaches x && decide (x ≠ sender) := by
  unfold step
  dsimp only
  rw [hget]

/-- The two stations after one step besides. -/
theorem looked_step {s : Net ι} {e : Event ι} (he : Besides i e) (hwaits : s.ctl.respChp = some c)
    (hpoll : IsPoll e = true → s.ctl.dev.chip.rxFifo = [] ∧
      (s.ctl.chan c).state.toNat < ChState.rxresponse4.toNat) :
    Ctl.Looked c (if IsPoll e then 1 else 0) s.ctl (step oracle m s e).ctl ∧
      Rests (s.cli i).dev ((step oracle m s e).cli i).dev := by
  cases e with
  | control a =>
    refine ⟨?_, .refl _⟩
    cases a with
    | tick => exact Ctl.looked_tick (board oracle) s.ctl
    | poll =>
      obtain ⟨hrx, hstate⟩ := hpoll rfl
      exact Ctl.looked_poll hwaits hrx hstate
    | input ch => exact absurd rfl (he ch)
    | check between inSend =>
      have hcheck : Ctl.check (board oracle) between inSend s.ctl = s.ctl := by
        unfold Ctl.check
        rw [if_neg]
        rw [hwaits]
        exact Option.some_ne_none c
      show Ctl.Looked c 0 s.ctl (Ctl.check (board oracle) between inSend s.ctl)
      rw [hcheck]
      exact .refl s.ctl
  | client j ev =>
    refine ⟨.refl s.ctl, ?_⟩
    show Rests _ (Function.update s.cli j ((m j).step (s.cli j) ev) i).dev
    by_cases hj : j = i
    · subst hj
      rw [Function.update_self, he rfl]
      exact rests_tick _ _
    · rw [Function.update_of_ne (Ne.symm hj)]
      exact .refl _
  | carry sender k reaches =>
    obtain ⟨hctl, hcli⟩ := he
    show Ctl.Looked c 0 s.ctl (step oracle m s (.carry sender k reaches)).ctl ∧ _
    cases hget : (s.chip sender).air[k]? with
    | none =>
      have hstep : step oracle m s (.carry sender k reaches) = s := by
        unfold step
        dsimp only
        rw [hget]
      rw [hstep]
      exact ⟨.refl s.ctl, .refl _⟩
    | some f =>
      obtain ⟨h₁, h₂⟩ := unmoved_arrive (i := i) f.2 (fun x ↦ reaches x && decide (x ≠ sender)) s
        (by rw [hctl, Bool.false_and]) (by rw [hcli, Bool.false_and])
      rw [step_carry oracle m hget, h₁, h₂]
      exact ⟨.refl s.ctl, .refl _⟩
  | noise n reaches =>
    obtain ⟨h₁, h₂⟩ := unmoved_arrive n.toList reaches s he.1 he.2
    show Ctl.Looked c 0 s.ctl (s.arrive n.toList reaches).ctl ∧ _
    refine ⟨?_, ?_⟩
    · rw [h₁]
      exact .refl s.ctl
    · show Rests _ ((s.arrive n.toList reaches).cli i).dev
      rw [h₂]
      exact .refl _

/-- The two stations after any number of steps besides: the controller may look three times. -/
theorem looked_run {s : Net ι} {events : List (Event ι)} (he : ∀ e ∈ events, Besides i e)
    (hwaits : s.ctl.respChp = some c)
    (hpolls : events.countP IsPoll = 0 ∨ s.ctl.dev.chip.rxFifo = [] ∧
      (s.ctl.chan c).state.toNat + events.countP IsPoll ≤ ChState.rxresponse4.toNat) :
    Ctl.Looked c (events.countP IsPoll) s.ctl (run (step oracle m) s events).ctl ∧
      Rests (s.cli i).dev ((run (step oracle m) s events).cli i).dev := by
  induction events generalizing s with
  | nil => exact ⟨.refl s.ctl, .refl _⟩
  | cons e events ih =>
    have hcount : (e :: events).countP IsPoll =
        (if IsPoll e then 1 else 0) + events.countP IsPoll := by
      rw [List.countP_cons, Nat.add_comm]
    rw [hcount] at hpolls ⊢
    have hone : IsPoll e = true → s.ctl.dev.chip.rxFifo = [] ∧
        (s.ctl.chan c).state.toNat < ChState.rxresponse4.toNat := by
      intro hpoll
      rw [if_pos hpoll] at hpolls
      rcases hpolls with hzero | ⟨hrx, hle⟩
      · omega
      · exact ⟨hrx, by omega⟩
    obtain ⟨hlooked, hrests⟩ := looked_step oracle m (he e List.mem_cons_self)
      hwaits hone
    have hrest : events.countP IsPoll = 0 ∨
        (step oracle m s e).ctl.dev.chip.rxFifo = [] ∧
          ((step oracle m s e).ctl.chan c).state.toNat + events.countP IsPoll ≤
            ChState.rxresponse4.toNat := by
      rw [hlooked.rxFifo, hlooked.state]
      rcases hpolls with hzero | ⟨hrx, hle⟩
      · exact .inl (by omega)
      · exact .inr ⟨hrx, by omega⟩
    obtain ⟨hlooked', hrests'⟩ := ih (fun e' he' ↦ he e' (List.mem_cons_of_mem e he'))
      (hlooked.respChp.trans hwaits) hrest
    exact ⟨hlooked.trans hlooked', hrests.trans hrests'⟩

/-- While the controller waits, up to the third look. -/
theorem looked_awaits {node : UInt8} {out : List Line} {n : Nat} {s : Net ι}
    (h : s.ctl.Awaits c node out n) {events : List (Event ι)} (he : ∀ e ∈ events, Besides i e)
    (hpolls : n + events.countP IsPoll ≤ 3) :
    Ctl.Looked c (events.countP IsPoll) s.ctl (run (step oracle m) s events).ctl ∧
      Rests (s.cli i).dev ((run (step oracle m) s events).cli i).dev := by
  apply looked_run oracle m he h.respChp
  refine .inr ⟨h.rxFifo, ?_⟩
  rw [h.state]
  simp only [ChState.toNat]
  omega

/-- The request is sent, and stays on the air. -/
theorem request_sent (hb : (board oracle).Willing) {between : Nat} (inSend : Nat) {s : Net ι}
    (hasks : s.ctl.Asks between c) {events : List (Event ι)} (he : ∀ e ∈ events, Besides i e)
    (hpolls : events.countP IsPoll ≤ 3) :
    let t := run (step oracle m) s (.control (.check between inSend) :: events)
    t.ctl.Awaits c (s.ctl.chan c).packet.node s.ctl.out (events.countP IsPoll) ∧
      Rests (s.cli i).dev (t.cli i).dev ∧ ∃ ticks,
        (t.chip none).air[s.ctl.dev.chip.air.length]? =
          some (UInt8.ofNat c.val, ((s.ctl.chan c).packet.stamp ticks).frame) := by
  obtain ⟨hawaits, ticks, htransmits⟩ := hasks.check hb inSend
  have hawaits' : (step oracle m s (.control (.check between inSend))).ctl.Awaits c
      (s.ctl.chan c).packet.node s.ctl.out 0 := hawaits
  obtain ⟨hlooked, hrests⟩ := looked_awaits oracle m hawaits' he (by omega)
  have hwaits := hawaits'.looked hlooked
  rw [Nat.zero_add] at hwaits
  refine ⟨hwaits, hrests, ticks, ?_⟩
  have hair :
      (run (step oracle m) s (.control (.check between inSend) :: events)).ctl.dev.chip.air =
        (Ctl.check (board oracle) between inSend s.ctl).dev.chip.air := hlooked.air
  show (run (step oracle m) s (.control (.check between inSend) :: events)).ctl.dev.chip.air[_]? = _
  rw [hair, htransmits.air, List.getElem?_append_right (Nat.le_refl _), Nat.sub_self]
  rfl

/-- A frame of the controller reaches the client. -/
theorem request_arrives {node : UInt8} {out : List Line} {n k : Nat} {s : Net ι}
    (h : s.ctl.Awaits c node out n) {f : UInt8 × List UInt8} (hget : (s.chip none).air[k]? = some f)
    {reaches : Option ι → Bool} (hreach : reaches (some i) = true) {events : List (Event ι)}
    (he : ∀ e ∈ events, Besides i e) (hpolls : n + events.countP IsPoll ≤ 3) :
    let t := run (step oracle m) s (.carry none k reaches :: events)
    t.ctl.Awaits c node out (n + events.countP IsPoll) ∧
      (t.cli i).dev.chip = (s.cli i).dev.chip.hear f.2 ∧
      (t.cli i).dev.radio.untimed = (s.cli i).dev.radio.untimed := by
  have hctl : (step oracle m s (.carry none k reaches)).ctl = s.ctl := by
    rw [step_carry oracle m hget]
    show (if _ then _ else s.ctl) = _
    rw [if_neg]
    simp
  have hcli : (step oracle m s (.carry none k reaches)).cli i = { s.cli i with
      dev := { (s.cli i).dev with chip := (s.cli i).dev.chip.hear f.2 } } := by
    rw [step_carry oracle m hget]
    have hreached : (reaches (some i) && decide (some i ≠ none)) = true := by
      rw [hreach]
      rfl
    exact if_pos hreached
  have h' : (step oracle m s (.carry none k reaches)).ctl.Awaits c node out n := hctl ▸ h
  obtain ⟨hlooked, hrests⟩ := looked_awaits oracle m h' he hpolls
  refine ⟨h'.looked hlooked, ?_, ?_⟩
  · exact hrests.chip.trans (by rw [hcli])
  · exact hrests.untimed.trans (by rw [hcli])

/-- The radio interrupts the client. -/
theorem client_interrupted {node : UInt8} {out : List Line} {n : Nat} {s : Net ι}
    (h : s.ctl.Awaits c node out n) (hint : (s.cli i).dev.radio.int0Enabled = true)
    {events : List (Event ι)} (he : ∀ e ∈ events, Besides i e)
    (hpolls : n + events.countP IsPoll ≤ 3) :
    let t := run (step oracle m) s (.client i .interrupt :: events)
    t.ctl.Awaits c node out (n + events.countP IsPoll) ∧
      (t.cli i).dev.chip = (s.cli i).dev.chip ∧
      (t.cli i).dev.radio.untimed = (radioIrq (s.cli i).dev.radio).untimed := by
  have hcli : ((step oracle m s (.client i .interrupt)).cli i).dev =
      { (s.cli i).dev with radio := radioIrq (s.cli i).dev.radio } := by
    show (Function.update s.cli i ((m i).step (s.cli i) .interrupt) i).dev = _
    rw [Function.update_self]
    exact if_pos hint
  have h' : (step oracle m s (.client i .interrupt)).ctl.Awaits c node out n := h
  obtain ⟨hlooked, hrests⟩ := looked_awaits oracle m h' he hpolls
  refine ⟨h'.looked hlooked, ?_, ?_⟩
  · exact hrests.chip.trans (by rw [hcli])
  · exact hrests.untimed.trans (by rw [hcli])

/-- The packet that a client accepts is the one whose frame has come in. -/
theorem reaches_of_received {p q : Packet} {t : UInt16} (h : q.received = (p.stamp t).received) :
    p.content.Reaches q := by
  have hticks : q.ticks = t := congrArg Packet.Received.ticks h
  rw [Packet.Content.Reaches, h, hticks]
  rfl

/-- The client answers. -/
theorem status_sent (hbi : (m i).board.Willing) (happ : (m i).app.LeavesRadio SameQueues)
    (ticks : Nat) (serial : Bool) {node : UInt8} {out : List Line} {n : Nat} {s : Net ι}
    (h : s.ctl.Awaits c node out n) {p q : Packet}
    (hq : Client.accepted (m i).board (s.cli i).dev = some q) (hp : p.content.Reaches q)
    (hactive : LIBRADIO_STATE_ACTIVE ≤ (s.cli i).dev.radio.state) (hcmd : p.cmd = RADIO_CMD_STATUS)
    (hlen : p.len = 3) (htx : (s.cli i).dev.chip.txFifo = [])
    (hfits : FitsPacket (m i).app (dataByte p.data 2))
    {events : List (Event ι)} (he : ∀ e ∈ events, Besides i e)
    (hpolls : n + events.countP IsPoll ≤ 3) :
    let t := run (step oracle m) s (.client i (.pass ticks serial) :: events)
    t.ctl.Awaits c node out (n + events.countP IsPoll) ∧
      ∃ (a : Packet) (time : UInt16) (channo : UInt8),
      a.cmd = RADIO_STATUS_RESPONSE ∧ a.len ≤ 10 ∧
      IsStatus (m i).app (dataByte p.data 2) (s.cli i).dev.radio.station
        (a.data.toList.take a.len.toNat) ∧
      (t.chip (some i)).air[(s.cli i).dev.chip.air.length]? =
        some (channo, (a.stamp time).frame) := by
  obtain ⟨hqcmd, hqlen, hqdata⟩ := hp.fields
  have htype : dataByte q.data 2 = dataByte p.data 2 := hqdata 2 (by
    show 2 < p.len.toNat
    rw [hlen]
    decide)
  rw [← htype] at hfits ⊢
  obtain ⟨a, time, hacmd, halen, hstatus, hair⟩ := transmits_status hbi happ (m i).fuel
    ticks serial hq hactive (hqcmd.trans hcmd) (hqlen.trans hlen) htx hfits
  have h' : (step oracle m s (.client i (.pass ticks serial))).ctl.Awaits c node out n := h
  obtain ⟨hlooked, hrests⟩ := looked_awaits oracle m h' he hpolls
  refine ⟨h'.looked hlooked, a, time, dataByte q.data 0, hacmd, halen, hstatus, ?_⟩
  have hdev : ((step oracle m s (.client i (.pass ticks serial))).cli i).dev =
      Client.step (m i).board (m i).app (m i).fuel (s.cli i).dev (.pass ticks serial) := by
    show (Function.update s.cli i ((m i).step (s.cli i) (.pass ticks serial)) i).dev = _
    rw [Function.update_self]
    rfl
  show ((run (step oracle m) s
    (.client i (.pass ticks serial) :: events)).cli i).dev.chip.air[_]? = _
  rw [run_cons, hrests.chip, hdev, Member.board, hair, List.getElem?_append_right (Nat.le_refl _),
    Nat.sub_self]
  rfl

/-- A frame of the client reaches the controller, which prints it the next time it looks. -/
theorem answer_printed (hb : (board oracle).Willing) {node : UInt8} {out : List Line} {n k : Nat}
    {s : Net ι} (h : s.ctl.Awaits c node out n) {a : Packet} {time : UInt16} {channo : UInt8}
    (hlen : a.len ≤ 10)
    (hget : (s.chip (some i)).air[k]? = some (channo, (a.stamp time).frame))
    {reaches : Option ι → Bool} (hreach : reaches none = true) {events : List (Event ι)}
    (he : ∀ e ∈ events, Besides i e) (hpolls : events.countP IsPoll = 0) :
    let t := run (step oracle m) s (.carry (some i) k reaches :: events ++ [.control .poll])
    t.ctl.respChp = none ∧ ∃ chan, t.ctl.out = out ++
      [.report chan node time a.cmd (a.data.toList.take a.len.toNat)] := by
  have hctl : (step oracle m s (.carry (some i) k reaches)).ctl =
      { s.ctl with dev := { s.ctl.dev with
        chip := s.ctl.dev.chip.hear (a.stamp time).frame } } := by
    have hreached : (reaches none && decide (none ≠ some i)) = true := by
      rw [hreach]
      rfl
    rw [step_carry oracle m hget]
    exact if_pos hreached
  have hwaits : (step oracle m s (.carry (some i) k reaches)).ctl.respChp = some c := by
    rw [hctl]
    exact h.respChp
  obtain ⟨hlooked, -⟩ := looked_run oracle m he hwaits (.inl hpolls)
  have hrx : (run (step oracle m) s (.carry (some i) k reaches :: events)).ctl.dev.chip.rxFifo =
      (a.stamp time).frame := by
    refine hlooked.rxFifo.trans ?_
    rw [hctl]
    show s.ctl.dev.chip.rxFifo ++ _ = _
    rw [h.rxFifo, List.nil_append]
  have hnode :
      ((run (step oracle m) s (.carry (some i) k reaches :: events)).ctl.chan c).packet.node =
        node := by
    refine (congrArg Packet.node hlooked.packet).trans ?_
    rw [hctl]
    exact h.node
  have hout : (run (step oracle m) s (.carry (some i) k reaches :: events)).ctl.out = out := by
    refine hlooked.out.trans ?_
    rw [hctl]
    exact h.out
  have hpoll := Ctl.poll_frame hb (hlooked.respChp.trans hwaits) hlen hrx
  rw [← hnode, ← hout]
  intro t
  have ht : t.ctl = Ctl.poll (board oracle)
      (run (step oracle m) s (.carry (some i) k reaches :: events)).ctl := by
    show (run (step oracle m) s ((.carry (some i) k reaches :: events) ++ [.control .poll])).ctl = _
    rw [run_concat]
    rfl
  rw [ht]
  exact hpoll

omit [DecidableEq ι] in
/-- The frame of a request wakes the client, which accepts it. -/
theorem accepted_interrupted (hbi : (m i).board.Willing) {d d' : Dev Si4463} (hsleeps : Sleeps d)
    {p : Packet} {t : UInt16} (hlen : p.len ≤ 10)
    (hnode : p.node = 0 ∨ p.node = d.radio.myNodeId)
    (hchip : d'.chip = d.chip.hear (p.stamp t).frame)
    (huntimed : d'.radio.untimed = (radioIrq d.radio).untimed) :
    ∃ q, Client.accepted (m i).board d' = some q ∧ p.content.Reaches q := by
  obtain ⟨hstation, -, hfired⟩ := awake_of_untimed huntimed
  have hrx : d'.chip.rxFifo = (p.stamp t).frame := by
    rw [hchip]
    show d.chip.rxFifo ++ _ = _
    rw [hsleeps.rxFifo, List.nil_append]
  have hirq : d'.radio.irqFired ≠ 0 := by
    rw [hfired]
    show d.radio.irqFired + 1 ≠ 0
    rw [hsleeps.irqFired]
    decide
  have hmine : d'.radio.myNodeId = d.radio.myNodeId := congrArg Station.myNodeId hstation
  obtain ⟨q, hq, hreceived⟩ := accepted_frame hbi hlen hrx hirq (hmine.symm ▸ hnode)
  exact ⟨q, hq, reaches_of_received hreceived⟩

/-- With willing radios, and as long as nothing else arrives at the two (no frame of another
station, no noise and no character on the console), a request for the status that the controller
sends to a sleeping active client is answered, if every status of its application fits a packet:
whatever the clocks do and the other stations send to each other, and if the controller has looked
no more than three times before the answer is there, it prints a status that the application of the
client has fetched, under the node of the request, and waits no longer. -/
theorem request_answered (hb : (board oracle).Willing) (hbi : (m i).board.Willing)
    (happ : (m i).app.LeavesRadio SameQueues) {between : Nat} (inSend ticks : Nat) (serial : Bool)
    {s : Net ι} (hasks : s.ctl.Asks between c) (hsleeps : Sleeps (s.cli i).dev)
    (hnode : (s.ctl.chan c).packet.node = 0 ∨
      (s.ctl.chan c).packet.node = (s.cli i).dev.radio.myNodeId)
    (hfits : FitsPacket (m i).app (dataByte (s.ctl.chan c).packet.data 2))
    {reaches reaches' : Option ι → Bool} (hreach : reaches (some i) = true)
    (hreach' : reaches' none = true) {e₁ e₂ e₃ e₄ e₅ : List (Event ι)}
    (he : ∀ e ∈ e₁ ++ e₂ ++ e₃ ++ e₄ ++ e₅, Besides i e)
    (hpolls : (e₁ ++ e₂ ++ e₃ ++ e₄).countP IsPoll ≤ 3) (hpolls' : e₅.countP IsPoll = 0) :
    let t := run (step oracle m) s ((.control (.check between inSend) :: e₁) ++
      (.carry none s.ctl.dev.chip.air.length reaches :: e₂) ++ (.client i .interrupt :: e₃) ++
      (.client i (.pass ticks serial) :: e₄) ++
      (.carry (some i) (s.cli i).dev.chip.air.length reaches' :: e₅ ++ [.control .poll]))
    t.ctl.respChp = none ∧ ∃ chan time bytes,
      IsStatus (m i).app (dataByte (s.ctl.chan c).packet.data 2) (s.cli i).dev.radio.station bytes ∧
      t.ctl.out = s.ctl.out ++ [.report chan (s.ctl.chan c).packet.node time RADIO_STATUS_RESPONSE
        bytes] := by
  simp only [List.countP_append] at hpolls
  obtain ⟨⟨⟨⟨he₁, he₂⟩, he₃⟩, he₄⟩, he₅⟩ := by
    simpa only [List.forall_mem_append] using he
  have hlen : (s.ctl.chan c).packet.len ≤ 10 := by
    rw [hasks.len]
    decide
  intro t
  have ht : t = run (step oracle m) s _ := rfl
  simp only [run_append] at ht
  -- the request is sent
  obtain ⟨hawaits₁, hrests₁, time, hair₁⟩ := request_sent oracle m hb inSend hasks he₁
    (by omega)
  generalize run (step oracle m) s (.control (.check between inSend) :: e₁) = s₁
    at hawaits₁ hrests₁ hair₁ ht
  -- it arrives
  obtain ⟨hawaits₂, hchip₂, huntimed₂⟩ := request_arrives oracle m hawaits₁ hair₁ hreach he₂
    (by omega)
  generalize run (step oracle m) s₁ (.carry none s.ctl.dev.chip.air.length reaches :: e₂) = s₂
    at hawaits₂ hchip₂ huntimed₂ ht
  rw [hrests₁.chip] at hchip₂
  rw [hrests₁.untimed] at huntimed₂
  -- the client is interrupted, and takes it
  have hint : (s₂.cli i).dev.radio.int0Enabled = true :=
    (awake_of_untimed huntimed₂).2.1.trans hsleeps.int0Enabled
  obtain ⟨hawaits₃, hchip₃, huntimed₃⟩ := client_interrupted oracle m hawaits₂ hint he₃
    (by omega)
  generalize run (step oracle m) s₂ (.client i .interrupt :: e₃) = s₃
    at hawaits₃ hchip₃ huntimed₃ ht
  rw [hchip₂] at hchip₃
  have hirq₃ : (s₃.cli i).dev.radio.untimed = (radioIrq (s.cli i).dev.radio).untimed := by
    rw [huntimed₃, untimed_radioIrq, huntimed₂, untimed_radioIrq]
  obtain ⟨q, hq, hreaches⟩ := accepted_interrupted m hbi hsleeps hlen hnode hchip₃ hirq₃
  have hstation : (s₃.cli i).dev.radio.station = (s.cli i).dev.radio.station :=
    (awake_of_untimed hirq₃).1
  have hactive : LIBRADIO_STATE_ACTIVE ≤ (s₃.cli i).dev.radio.state := by
    have hstate : (s₃.cli i).dev.radio.state = (s.cli i).dev.radio.state :=
      congrArg Station.state hstation
    rw [hstate]
    exact hsleeps.active
  have hair₃ : (s₃.cli i).dev.chip.air = (s.cli i).dev.chip.air := by
    rw [hchip₃]
    rfl
  have htx₃ : (s₃.cli i).dev.chip.txFifo = [] := by
    rw [hchip₃]
    exact hsleeps.txFifo
  -- it answers
  obtain ⟨hawaits₄, a, time', channo, hacmd, halen, hstatus, hair₄⟩ := status_sent oracle m hbi happ
    ticks serial hawaits₃ hq hreaches hactive hasks.cmd hasks.len htx₃ hfits he₄ (by omega)
  generalize run (step oracle m) s₃ (.client i (.pass ticks serial) :: e₄) = s₄
    at hawaits₄ hair₄ ht
  rw [hair₃] at hair₄
  rw [hstation] at hstatus
  -- the answer is printed
  obtain ⟨hfree, chan, hout⟩ := answer_printed oracle m hb hawaits₄ halen hair₄ hreach' he₅ hpolls'
  rw [run_append] at hfree hout
  rw [ht]
  refine ⟨hfree, chan, time', _, hstatus, ?_⟩
  rw [← hacmd]
  exact hout

private theorem willing_readyChip : (board readyChip).Willing where
  takes w cmd n := ⟨_, _, rfl⟩
  ready heq := by
    simp only [board, exchange, readyChip, Prod.mk.injEq, Except.ok.injEq] at heq
    obtain ⟨-, rfl⟩ := heq
    exact .inl rfl
  room heq := by
    simp only [board, exchange, readyChip, Prod.mk.injEq, Except.ok.injEq] at heq
    obtain ⟨-, rfl⟩ := heq
    show (16 : UInt8) ≤ 64
    decide

/-- The controller has read a request for the status of the sensor. -/
def sensorRequested : List (Event Unit) :=
  sensorAddressed ++ [.client () (.pass 0 false)] ++ typed ">A2:2:0,1,4.\n"

instance (between : Nat) (c : Fin 6) (s : Ctl Si4463) : Decidable (s.Asks between c) :=
  decidable_of_iff
    (s.respChp = none ∧ LIBRADIO_STATE_LISTEN ≤ s.dev.radio.state ∧ Ctl.slotDue between s = none ∧
      Ctl.pickReady (Ctl.readClock between s) = some c ∧ (s.chan c).state = .txrespond ∧
      (s.chan c).packet.cmd = RADIO_CMD_STATUS ∧ (s.chan c).packet.len = 3 ∧
      s.dev.chip.txFifo = [] ∧ s.dev.chip.rxFifo = [])
    ⟨fun ⟨h₁, h₂, h₃, h₄, h₅, h₆, h₇, h₈, h₉⟩ ↦ ⟨h₁, h₂, h₃, h₄, h₅, h₆, h₇, h₈, h₉⟩,
      fun h ↦ ⟨h.free, h.listens, h.noSlot, h.picked, h.state, h.cmd, h.len, h.txFifo, h.rxFifo⟩⟩

/-- The sensor answers, though the clocks run, and the controller looks too early. -/
theorem request_answered_sensor :
    let s := sensorNet sensorRequested
    let t := run (step readyChip fun _ ↦ statusSensor) s
      [.control (.check 0 0), .control .poll, .carry none 1 fun _ ↦ true, .client () .tick,
        .client () .interrupt, .client () (.pass 0 false), .control .poll,
        .carry (some ()) 0 fun _ ↦ true, .control .tick, .control .poll]
    t.ctl.respChp = none ∧ ∃ chan time bytes,
      IsStatus statusSensor.app (dataByte (s.ctl.chan 0).packet.data 2)
        (s.cli ()).dev.radio.station bytes ∧
      t.ctl.out = s.ctl.out ++ [.report chan 2 time RADIO_STATUS_RESPONSE bytes] := by
  have hasks : (sensorNet sensorRequested).ctl.Asks 0 0 := by decide +kernel
  have hsleeps : Sleeps ((sensorNet sensorRequested).cli ()).dev :=
    ⟨by decide +kernel, by decide +kernel, by decide +kernel, by decide +kernel,
      by decide +kernel⟩
  have hnode : ((sensorNet sensorRequested).ctl.chan 0).packet.node = 2 := by decide +kernel
  have hmine : ((sensorNet sensorRequested).cli ()).dev.radio.myNodeId = 2 := by decide +kernel
  have hair : (sensorNet sensorRequested).ctl.dev.chip.air.length = 1 := by decide +kernel
  have hcli : ((sensorNet sensorRequested).cli ()).dev.chip.air.length = 0 := by decide +kernel
  have hfits : FitsPacket statusSensor.app
      (dataByte ((sensorNet sensorRequested).ctl.chan 0).packet.data 2) := by
    intro d
    show 1 ≤ 2 ∧ 2 ≤ 10
    decide
  have hreach (x : Option Unit) : Function.const (Option Unit) true x = true := rfl
  have hbesides : ∀ e ∈ ([.control .poll] ++ [.client () .tick] ++ [] ++ [.control .poll] ++
      [.control .tick] : List (Event Unit)), Besides () e := by
    simp [Besides]
  have hanswered := request_answered readyChip (fun _ ↦ statusSensor) willing_readyChip
    willing_readyChip leavesRadio_statusSensor 0 0 false hasks hsleeps
    (.inr (hnode.trans hmine.symm)) hfits (hreach (some ())) (hreach none) hbesides (by decide) rfl
  rw [hnode, hair, hcli] at hanswered
  exact hanswered

end Net
end Libradio
