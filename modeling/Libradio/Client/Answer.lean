import Libradio.Client.Pass
import Libradio.Client.Traffic

/-!
# What a client answers

A client transmits responses only: to a STATUS and to a READ_EEPROM of the right length, if the
response fits a packet, and on the channel that the first byte of the request names
(`src/lib/command.c:77-90`, `src/lib/command.c:144-158`).
-/

namespace Libradio

variable {σ : Type}

/-- A receiver got the content `p`, with whatever time stamp: what is behind the data of a packet
is not sent. -/
def Packet.Content.Reaches (p : Packet.Content) (q : Packet) : Prop :=
  q.received = ⟨q.ticks, p.node, p.cmd, p.len, p.data.toList.take p.len.toNat⟩

instance (p : Packet.Content) (q : Packet) : Decidable (p.Reaches q) :=
  inferInstanceAs (Decidable (_ = _))

/-- The command, the length and the data of a packet that reaches. -/
theorem Packet.Content.Reaches.fields {p : Packet.Content} {q : Packet} (h : p.Reaches q) :
    q.cmd = p.cmd ∧ q.len = p.len ∧
      ∀ i, i < p.len.toNat → dataByte q.data i = dataByte p.data i := by
  obtain ⟨-, -, hcmd, hlen, hdata⟩ := Packet.Received.mk.inj h
  refine ⟨hcmd, hlen, fun i hi ↦ ?_⟩
  have hget := congrArg (fun xs : List UInt8 ↦ xs[i]?) hdata
  rw [List.getElem?_take_of_lt (by rw [hlen]; exact hi), List.getElem?_take_of_lt hi,
    Vector.getElem?_toList, Vector.getElem?_toList] at hget
  rw [dataByte, hget, dataByte]

/-- The channel of a START_TX. -/
def Op.sentOn : Op → Option UInt8
  | command (cmd :: channo :: _) => if cmd = SI4463_START_TX then some channo else none
  | _ => none

/-- The command START_TX names the channel it transmits on. -/
theorem sentOn_startTx (state : ChState) (channo : UInt8) :
    (Op.command (startTx state channo)).sentOn = some channo := by
  unfold startTx Op.sentOn
  dsimp only
  rw [if_pos rfl]

/-- There was a START_TX for channel `channo` in between. -/
def Transmitted (channo : UInt8) (w w' : Logged σ) : Prop :=
  ∃ ops, w'.log = ops ++ w.log ∧ ∃ op ∈ ops, op.sentOn = some channo

/-- Every START_TX in between was for channel `channo`. -/
def SendsOn (channo : UInt8) (w w' : Logged σ) : Prop :=
  ∃ ops, w'.log = ops ++ w.log ∧ ∀ op ∈ ops, ∀ x, op.sentOn = some x → x = channo

/-- A part that transmits on one channel transmits on no other. -/
theorem SendsOn.eq {x channo : UInt8} {w w' : Logged σ} (h : SendsOn channo w w')
    (hx : Transmitted x w w') : x = channo := by
  obtain ⟨ops, hlog, hops⟩ := h
  obtain ⟨ops', hlog', op, hop, hsent⟩ := hx
  obtain rfl : ops = ops' := List.append_cancel_right (hlog.symm.trans hlog')
  exact hops op hop x hsent

/-- An operation that names a channel transmits. -/
theorem transmits_of_sentOn {op : Op} {x : UInt8} (h : op.sentOn = some x) : op.Transmits := by
  unfold Op.sentOn at h
  split at h
  · next cmd channo rest =>
    split at h
    · next hcmd =>
      rw [hcmd]
      rfl
    · cases h
  · cases h

/-- Whatever is silent sends on no other channel. -/
theorem Silent.sendsOn {w w' : Logged σ} (h : Silent w w') (channo : UInt8) :
    SendsOn channo w w' := by
  obtain ⟨ops, hlog, hops⟩ := h
  exact ⟨ops, hlog, fun op hop x hx ↦ absurd (transmits_of_sentOn hx) (hops op hop).1⟩

/-- A relation between states of the chip that holds across a transmission on channel `channo`
and the return to RX. -/
structure Board.Sends (b : Board σ) (R : σ → σ → Prop) (channo : UInt8) : Prop
    extends b.Keeps R where
  writeTxFifo : ∀ w bytes, R w (b.writeTxFifo w bytes)
  startTx : ∀ w state, R w (b.exchange w (startTx state channo) 0).1
  startRx : ∀ w c, R w (b.exchange w (startRx c) 0).1

/-- What every exchange keeps, powering up keeps. -/
theorem chip_libradioPowerUp {b : Board σ} {R : σ → σ → Prop} (hb : b.Keeps R) (d : Dev σ) :
    R d.chip (libradioPowerUp b d).1.chip := by
  cases poweredUp_libradioPowerUp hb d with
  | already active eq =>
    rw [eq]
    exact hb.refl d.chip
  | done asleep ok asked => exact asked.chip
  | failed asleep ok asked => exact asked.chip

/-- What every exchange keeps, starting to receive keeps. -/
theorem chip_libradioRecvStart {b : Board σ} {R : σ → σ → Prop} (hb : b.Keeps R)
    (hrx : ∀ w c, R w (b.exchange w (startRx c) 0).1) (d : Dev σ) :
    R d.chip (libradioRecvStart b d).1.chip := by
  have hup := chip_libradioPowerUp hb d
  unfold libradioRecvStart
  dsimp only
  split
  · exact hb.trans hup (hrx _ _)
  · exact hup

section Response

variable {b : Board σ} {R : σ → σ → Prop} {channo : UInt8} (hb : b.Sends R channo)

include hb

private theorem chip_transmitFrame (ticks : Nat) (d : Dev σ) (chp : Channel) :
    R d.chip (transmitFrame b ticks d chp channo).dev.chip := by
  unfold transmitFrame libradioTxpacket
  dsimp only
  split
  · rw [if_neg Bool.false_ne_true]
    exact hb.refl d.chip
  · rw [if_pos rfl]
    dsimp only
    generalize (chp.packet.stamp (clockticks ticks d.radio).msTicks).frame = bytes
    have hfill := hb.writeTxFifo d.chip bytes
    have hstart := hb.startTx (b.writeTxFifo d.chip bytes) chp.state
    split
    · next w v he =>
      rw [he] at hstart
      exact hb.trans hfill hstart
    · next w e he =>
      rw [he] at hstart
      exact hb.trans hfill hstart

private theorem chip_libradioSend (ticks : Nat) (d : Dev σ) (chp : Channel) :
    R d.chip (libradioSend b ticks d chp channo).dev.chip := by
  have hup := chip_libradioPowerUp hb.toKeeps d
  unfold libradioSend
  dsimp only
  generalize libradioPowerUp b d = up at hup ⊢
  split
  · have hstatus := hb.trans hup (asked_libradioRequestDeviceStatus hb.toKeeps up.1).chip
    generalize (libradioRequestDeviceStatus b up.1).1 = e at hstatus ⊢
    split
    · exact hstatus
    · have hspace := hb.trans hstatus (asked_libradioGetFifoInfo hb.toKeeps 0 e).chip
      unfold libradioCheckTx
      dsimp only
      split
      · exact hb.trans hspace (chip_transmitFrame hb ticks _ chp)
      · exact hspace
  · exact hup

/-- A response is a transmission on its channel, a wait, and the return to RX. -/
theorem chip_libradioSendResponse (fuel : Nat) (cmd addr len : UInt8) (buffer : Nat → UInt8)
    (d : Dev σ) : R d.chip (libradioSendResponse b fuel cmd channo addr len buffer d).chip := by
  unfold libradioSendResponse
  dsimp only
  generalize (⟨.transmit, 10, _⟩ : Channel) = chp
  have hsend := chip_libradioSend hb 0 { d with txchan := chp } chp
  generalize libradioSend b 0 { d with txchan := chp } chp channo = r at hsend ⊢
  generalize (if r.ok = true then _ else _ : Channel) = chp'
  have hwait := (asked_waitTransmitted hb.toKeeps fuel { r.dev with txchan := chp' }).chip
  exact hb.trans hsend (hb.trans hwait (chip_libradioRecvStart hb.toKeeps hb.startRx _))

end Response

-- One entry that is no START_TX for another channel.
private theorem sendsOn_of_cons {w w' : Logged σ} {op : Op} {channo : UInt8}
    (h : w'.log = op :: w.log) (hop : ∀ x, op.sentOn = some x → x = channo) :
    SendsOn channo w w' :=
  ⟨[op], h, by simpa using hop⟩

private theorem sends_logged (b : Board σ) (channo : UInt8) :
    b.logged.Sends (SendsOn channo) channo where
  refl w := ⟨[], rfl, by simp⟩
  trans := by
    rintro u v w ⟨ops, hv, hops⟩ ⟨ops', hw, hops'⟩
    refine ⟨ops' ++ ops, by rw [hw, hv, List.append_assoc], fun op hop ↦ ?_⟩
    rcases List.mem_append.mp hop with hop | hop
    · exact hops' op hop
    · exact hops op hop
  exchange w cmd n htx hrx :=
    sendsOn_of_cons rfl fun x hx ↦ absurd (transmits_of_sentOn hx) htx
  readRxFifo w n := sendsOn_of_cons rfl nofun
  writeTxFifo w bytes := sendsOn_of_cons rfl nofun
  startTx w state := by
    apply sendsOn_of_cons rfl
    intro x hx
    exact (Option.some.inj ((sentOn_startTx state channo).symm.trans hx)).symm
  startRx w c := (silent_startRx b c w).sendsOn channo

/-! ### On which channel -/

/-- A client that is given a STATUS or a READ_EEPROM sends on the channel that it names; what
the application does besides is left out. -/
theorem sendsOn_libradioCommand (b : Board σ) {app : App (Logged σ)}
    (happ : app.LeavesRadio Silent) (fuel : Nat) (p : Packet) (d : Dev (Logged σ)) :
    SendsOn (dataByte p.data 0) d.chip (libradioCommand b.logged app fuel p d).chip := by
  have hb := sends_logged b (dataByte p.data 0)
  have hsame {d' : Dev (Logged σ)} (h : d'.chip = d.chip) :
      SendsOn (dataByte p.data 0) d.chip d'.chip := by
    rw [h]
    exact hb.refl d.chip
  cases executed_libradioCommand b.logged app fuel p d with
  | nothing act deact request eq => exact hsame (by rw [eq])
  | activated act eq => exact hsame (by rw [eq])
  | deactivated deact eq => exact hsame (by rw [eq])
  | setTime active cmd len eq => exact hsame (by rw [eq])
  | setDate active cmd len eq => exact hsame (by rw [eq])
  | silent active cmd len none eq =>
    rw [eq]
    exact (happ.fetchStatus _ d).chip.sendsOn _
  | status active cmd len some eq =>
    rw [eq]
    exact hb.trans ((happ.fetchStatus _ d).chip.sendsOn _)
      (chip_libradioSendResponse hb fuel _ _ _ _ _)
  | readEeprom buffer addr active cmd len eq =>
    rw [eq]
    exact chip_libradioSendResponse hb fuel _ _ _ _ { d with statusbuffer := buffer }
  | writeEeprom eeprom active cmd eq => exact hsame (by rw [eq])
  | operate active cmd eq =>
    rw [eq]
    exact (happ.operate p d).chip.sendsOn _

/-- The same for a packet out of the FIFO, whether it is for this client or not. -/
theorem sendsOn_libradioHandlePacket (b : Board σ) {app : App (Logged σ)}
    (happ : app.LeavesRadio Silent) (fuel ticks : Nat) (d : Dev (Logged σ)) :
    SendsOn (dataByte (received b.logged d).data 0) d.chip
      (libradioHandlePacket b.logged app fuel ticks d).chip := by
  cases taken_libradioHandlePacket (keeps_silent b) app fuel ticks d (silent_startRx b _) with
  | passed good addressed e handed station sawRx chip eq =>
    rw [eq]
    exact (sends_logged b _).trans (chip.sendsOn _) (sendsOn_libradioCommand b happ fuel _ e)
  | dropped not station sawRx chip => exact chip.sendsOn _

/-! ### Which packets -/

/-- A radio that takes every command, is ready to transmit and has room for a packet. -/
structure Board.Willing (b : Board σ) : Prop where
  takes : ∀ w cmd n, ∃ w' v, b.exchange w cmd n = (w', .ok v)
  ready : ∀ {w w'} {v : Vector UInt8 2},
    b.exchange w [SI4463_REQUEST_DEVICE_STATE] 2 = (w', .ok v) →
      getElem v 0 (by decide) = SI4463_STATE_READY ∨ getElem v 0 (by decide) = SI4463_STATE_RX
  room : ∀ {w w' clrf} {v : Vector UInt8 2},
    b.exchange w [SI4463_FIFO_INFO, clrf] 2 = (w', .ok v) →
      (16 : UInt8) ≤ getElem v 1 (by decide)

private theorem Board.Willing.logged {b : Board σ} (hb : b.Willing) : b.logged.Willing where
  takes w cmd n := by
    obtain ⟨w', v, heq⟩ := hb.takes w.chip cmd n
    unfold Board.logged
    dsimp only
    rw [heq]
    exact ⟨_, v, rfl⟩
  ready {w _ v} heq := by
    have hanswer : (b.exchange w.chip [SI4463_REQUEST_DEVICE_STATE] 2).2 = .ok v :=
      congrArg Prod.snd heq
    exact hb.ready (Prod.ext rfl hanswer)
  room {w _ clrf v} heq := by
    have hanswer : (b.exchange w.chip [SI4463_FIFO_INFO, clrf] 2).2 = .ok v :=
      congrArg Prod.snd heq
    exact hb.room (Prod.ext rfl hanswer)

private theorem takes_of_willing {b : Board σ} (hb : b.Willing) (entries : List (List UInt8))
    (w : σ) :
    b.takes entries w = true := by
  induction entries generalizing w with
  | nil => rfl
  | cons entry rest ih =>
    obtain ⟨w', v, heq⟩ := hb.takes w entry 0
    unfold Board.takes
    rw [heq]
    exact ih w'

/-- A willing radio lets every send get as far as the packet itself. -/
theorem libradioSend_of_willing {b : Board σ} {R : σ → σ → Prop} (hb : b.Willing)
    (hk : b.Keeps R) (ticks : Nat) (d : Dev σ) (chp : Channel) (channo : UInt8) :
    ∃ e : Dev σ, R d.chip e.chip ∧
      libradioSend b ticks d chp channo = transmitFrame b ticks e chp channo := by
  have hok : (libradioPowerUp b d).2 = true := by
    cases hpower : (libradioPowerUp b d).2 with
    | true => rfl
    | false =>
      have hfails := (ok_libradioPowerUp b d).mp hpower
      exact absurd (hfails.2.symm.trans (takes_of_willing hb _ d.chip)) Bool.false_ne_true
  have hup := chip_libradioPowerUp hk d
  unfold libradioSend
  dsimp only
  rw [if_pos hok]
  generalize libradioPowerUp b d = up at hup ⊢
  have hstatus := hk.trans hup (asked_libradioRequestDeviceStatus hk up.1).chip
  have hready : ¬ ((libradioRequestDeviceStatus b up.1).1.radio.currState ≠ SI4463_STATE_READY ∧
      (libradioRequestDeviceStatus b up.1).1.radio.currState ≠ SI4463_STATE_RX) := by
    obtain ⟨w, v, heq⟩ := hb.takes up.1.chip [SI4463_REQUEST_DEVICE_STATE] 2
    have hstate := hb.ready heq
    unfold libradioRequestDeviceStatus
    rw [heq]
    rintro ⟨hnot, hnot'⟩
    exact hstate.elim hnot hnot'
  rw [if_neg hready]
  generalize (libradioRequestDeviceStatus b up.1).1 = e at hstatus ⊢
  have hspace := hk.trans hstatus (asked_libradioGetFifoInfo hk 0 e).chip
  have hroom : (libradioCheckTx b e).2 = true := by
    obtain ⟨w, v, heq⟩ := hb.takes e.chip [SI4463_FIFO_INFO, 0] 2
    have h16 := hb.room heq
    unfold libradioCheckTx libradioGetFifoInfo
    dsimp only
    rw [heq]
    exact decide_eq_true h16
  rw [if_pos hroom]
  exact ⟨(libradioCheckTx b e).1, hspace, rfl⟩

/-- A silent beginning does not count. -/
theorem transmitted_iff_of_silent {x : UInt8} {u v w : Logged σ} (h : Silent u v)
    (hgrows : ∃ ops, w.log = ops ++ v.log) : Transmitted x u w ↔ Transmitted x v w := by
  obtain ⟨ops, hlog, hops⟩ := h
  obtain ⟨ops', hlog'⟩ := hgrows
  have hall : w.log = (ops' ++ ops) ++ u.log := by rw [hlog', hlog, List.append_assoc]
  constructor
  · rintro ⟨ops'', hlog'', op, hop, hsent⟩
    obtain rfl := List.append_cancel_right (hall.symm.trans hlog'')
    rcases List.mem_append.mp hop with hop | hop
    · exact ⟨ops', hlog', op, hop, hsent⟩
    · exact absurd (transmits_of_sentOn hsent) (hops op hop).1
  · rintro ⟨ops'', hlog'', op, hop, hsent⟩
    obtain rfl := List.append_cancel_right (hlog'.symm.trans hlog'')
    exact ⟨ops' ++ ops, hall, op, List.mem_append_left ops hop, hsent⟩

private theorem Transmitted.then_silent {x : UInt8} {u v w : Logged σ} (hx : Transmitted x u v)
    (h : Silent v w) : Transmitted x u w := by
  obtain ⟨ops, hlog, op, hop, hsent⟩ := hx
  obtain ⟨ops', hlog', -⟩ := h
  exact ⟨ops' ++ ops, by rw [hlog', hlog, List.append_assoc], op, List.mem_append_right ops' hop,
    hsent⟩

/-- A silent part transmits nothing. -/
theorem Silent.not_transmitted {w w' : Logged σ} (h : Silent w w') (x : UInt8) :
    ¬ Transmitted x w w' := by
  obtain ⟨ops, hlog, hops⟩ := h
  rintro ⟨ops', hlog', op, hop, hsent⟩
  obtain rfl : ops = ops' := List.append_cancel_right (hlog.symm.trans hlog')
  exact (hops op hop).1 (transmits_of_sentOn hsent)

/-- A packet that is too long is not transmitted. -/
theorem silent_transmitFrame (b : Board σ) (ticks : Nat) (d : Dev (Logged σ)) (chp : Channel)
    (channo : UInt8) (hlong : ¬ chp.packet.len ≤ 10) :
    Silent d.chip (transmitFrame b.logged ticks d chp channo).dev.chip := by
  unfold transmitFrame libradioTxpacket
  rw [if_pos (UInt8.not_le.mp hlong)]
  dsimp only
  rw [if_neg Bool.false_ne_true]
  exact (keeps_silent b).refl d.chip

/-- Any other is put into the FIFO, and the radio is told to transmit it. -/
theorem log_transmitFrame (b : Board σ) (ticks : Nat) (d : Dev (Logged σ)) (chp : Channel)
    (channo : UInt8) (hfits : chp.packet.len ≤ 10) :
    ∃ t, (transmitFrame b.logged ticks d chp channo).dev.chip.log =
      .command (startTx chp.state channo) :: .fill (chp.packet.stamp t).frame :: d.chip.log := by
  unfold transmitFrame libradioTxpacket
  rw [if_neg (UInt8.not_lt.mpr hfits)]
  dsimp only
  rw [if_pos rfl]
  refine ⟨(clockticks ticks d.radio).msTicks, ?_⟩
  generalize (chp.packet.stamp (clockticks ticks d.radio).msTicks).frame = bytes
  have hlog : (b.logged.exchange (b.logged.writeTxFifo d.chip bytes)
      (startTx chp.state channo) 0).1.log =
        .command (startTx chp.state channo) :: .fill bytes :: d.chip.log := rfl
  split
  · next w v he =>
    rw [he] at hlog
    exact hlog
  · next w e he =>
    rw [he] at hlog
    exact hlog

/-- The packet that is to be sent as a response. -/
structure IsResponse (p : Packet) (n : UInt8) (buffer : Nat → UInt8) : Prop where
  len : p.len = n
  data : ∀ i, i < n.toNat → i < 10 → p.data[i]? = some (buffer i)

/-- What the radio is told for a response that it is willing to transmit: nothing of the kind if
the response does not fit a packet, and otherwise the frame, and to transmit it on the channel. -/
theorem log_libradioSendResponse {b : Board σ} (hb : b.Willing) (fuel : Nat)
    (cmd chan addr len : UInt8) (buffer : Nat → UInt8) (d : Dev (Logged σ)) :
    (len ≤ 10 → ∃ (u v : Logged σ) (p : Packet) (t : UInt16), IsResponse p len buffer ∧
      Silent d.chip u ∧
      v.log = .command (startTx .transmit chan) :: .fill (p.stamp t).frame :: u.log ∧
      Silent v (libradioSendResponse b.logged fuel cmd chan addr len buffer d).chip) ∧
    (¬ len ≤ 10 → Silent d.chip
      (libradioSendResponse b.logged fuel cmd chan addr len buffer d).chip) := by
  unfold libradioSendResponse
  dsimp only
  generalize hchp : (⟨.transmit, 10, _⟩ : Channel) = chp
  have hresponse : IsResponse chp.packet len buffer := by
    rw [← hchp]
    refine ⟨rfl, fun i hi hdata ↦ ?_⟩
    have hcopied : i < if len > 10 then 10 else len.toNat := by
      split
      · exact hdata
      · exact hi
    simp [hdata, hcopied]
  have hstate : chp.state = .transmit := by rw [← hchp]
  obtain ⟨e, hsilent, heq⟩ := libradioSend_of_willing hb.logged (keeps_silent b) 0
    { d with txchan := chp } chp chan
  have hfits := log_transmitFrame b 0 e chp chan
  have hlong := silent_transmitFrame b 0 e chp chan
  rw [hresponse.len] at hfits hlong
  rw [hstate] at hfits
  rw [heq]
  generalize transmitFrame b.logged 0 e chp chan = r at hfits hlong ⊢
  generalize (if r.ok = true then _ else _ : Channel) = chp'
  have hwait := (asked_waitTransmitted (keeps_silent b) fuel { r.dev with txchan := chp' }).chip
  have hrest := (keeps_silent b).trans hwait (chip_libradioRecvStart (keeps_silent b)
    (fun w c ↦ silent_startRx b c w) (waitTransmitted b.logged fuel { r.dev with txchan := chp' }))
  constructor
  · intro hle
    obtain ⟨t, hlog⟩ := hfits hle
    exact ⟨e.chip, r.dev.chip, chp.packet, t, hresponse, hsilent, hlog, hrest⟩
  · intro hno
    exact (keeps_silent b).trans hsilent ((keeps_silent b).trans (hlong hno) hrest)

/-- With a willing radio a response is transmitted exactly if it fits a packet. -/
theorem transmitted_libradioSendResponse_iff {b : Board σ} (hb : b.Willing) (fuel : Nat)
    (cmd chan addr len : UInt8) (buffer : Nat → UInt8) (d : Dev (Logged σ)) :
    (∃ x, Transmitted x d.chip
      (libradioSendResponse b.logged fuel cmd chan addr len buffer d).chip) ↔ len ≤ 10 := by
  obtain ⟨hfits, hlong⟩ := log_libradioSendResponse hb fuel cmd chan addr len buffer d
  constructor
  · rintro ⟨x, hx⟩
    by_cases hle : len ≤ 10
    · exact hle
    · exact absurd hx ((hlong hle).not_transmitted x)
  · intro hle
    obtain ⟨u, v, p, t, -, hbefore, hlog, hafter⟩ := hfits hle
    have hsent : Transmitted chan u v :=
      ⟨[.command (startTx .transmit chan), .fill (p.stamp t).frame], hlog, _, List.mem_cons_self,
        sentOn_startTx .transmit chan⟩
    have hrest := hsent.then_silent hafter
    obtain ⟨ops, hops, -⟩ := id hrest
    exact ⟨chan, (transmitted_iff_of_silent hbefore ⟨ops, hops⟩).mpr hrest⟩

/-- The client answers the packet: a STATUS for which the application has something to say, or a
READ_EEPROM, with the right length and a response that fits a packet. -/
def Solicits (app : App σ) (p : Packet) (d : Dev σ) : Prop :=
  LIBRADIO_STATE_ACTIVE ≤ d.radio.state ∧
    ((p.cmd = RADIO_CMD_STATUS ∧ p.len = 3 ∧ 0 < (app.fetchStatus (dataByte p.data 2) d).2 ∧
        UInt8.ofNat (app.fetchStatus (dataByte p.data 2) d).2 ≤ 10) ∨
      (p.cmd = RADIO_CMD_READ_EEPROM ∧ p.len = 4 ∧ dataByte p.data 1 ≤ 10))

instance (app : App σ) (p : Packet) (d : Dev σ) : Decidable (Solicits app p d) :=
  inferInstanceAs (Decidable (_ ∧ _))

/-- With a willing radio a client transmits exactly for the packets that ask for a response. -/
theorem transmitted_libradioCommand_iff {b : Board σ} (hb : b.Willing) {app : App (Logged σ)}
    (happ : app.LeavesRadio Silent) (fuel : Nat) (p : Packet) (d : Dev (Logged σ)) :
    (∃ x, Transmitted x d.chip (libradioCommand b.logged app fuel p d).chip) ↔
      Solicits app p d := by
  have hsilent {d' : Dev (Logged σ)} (hchip : Silent d.chip d'.chip) (hno : ¬ Solicits app p d) :
      (∃ x, Transmitted x d.chip d'.chip) ↔ Solicits app p d := by
    constructor
    · rintro ⟨x, hx⟩
      exact absurd hx (hchip.not_transmitted x)
    · intro h
      exact absurd h hno
  have hsame {d' : Dev (Logged σ)} (h : d'.chip = d.chip) : Silent d.chip d'.chip := by
    rw [h]
    exact (keeps_silent b).refl d.chip
  have hother {c : UInt8} (hcmd : p.cmd = c) (hs : c ≠ RADIO_CMD_STATUS)
      (hr : c ≠ RADIO_CMD_READ_EEPROM) : ¬ Solicits app p d := by
    rintro ⟨-, h | h⟩
    · exact hs (hcmd.symm.trans h.1)
    · exact hr (hcmd.symm.trans h.1)
  cases executed_libradioCommand b.logged app fuel p d with
  | nothing act deact request eq =>
    apply hsilent (hsame (by rw [eq]))
    rintro ⟨hactive, h | h⟩
    · exact request hactive (.inl ⟨h.1, h.2.1⟩)
    · exact request hactive (.inr ⟨h.1, h.2.1⟩)
  | activated act eq =>
    exact hsilent (hsame (by rw [eq])) (hother act.1 (by decide) (by decide))
  | deactivated deact eq =>
    exact hsilent (hsame (by rw [eq])) (hother deact.1 (by decide) (by decide))
  | setTime active cmd len eq =>
    exact hsilent (hsame (by rw [eq])) (hother cmd (by decide) (by decide))
  | setDate active cmd len eq =>
    exact hsilent (hsame (by rw [eq])) (hother cmd (by decide) (by decide))
  | silent active cmd len none eq =>
    rw [eq]
    apply hsilent (happ.fetchStatus _ d).chip
    rintro ⟨-, h | h⟩
    · exact absurd h.2.2.1 (by rw [none]; exact Nat.lt_irrefl 0)
    · exact absurd (cmd.symm.trans h.1) (by decide)
  | status active cmd len some eq =>
    have hfetch := (happ.fetchStatus (dataByte p.data 2) d).chip
    have hsend := transmitted_libradioSendResponse_iff hb fuel RADIO_STATUS_RESPONSE
      (dataByte p.data 0) (dataByte p.data 1)
      (UInt8.ofNat (app.fetchStatus (dataByte p.data 2) d).2)
      (app.fetchStatus (dataByte p.data 2) d).1.statusbuffer
      (app.fetchStatus (dataByte p.data 2) d).1
    obtain ⟨ops, hlog, -⟩ := chip_libradioSendResponse (sends_logged b (dataByte p.data 0)) fuel
      RADIO_STATUS_RESPONSE (dataByte p.data 1)
      (UInt8.ofNat (app.fetchStatus (dataByte p.data 2) d).2)
      (app.fetchStatus (dataByte p.data 2) d).1.statusbuffer
      (app.fetchStatus (dataByte p.data 2) d).1
    rw [← eq] at hsend hlog
    have hsame (x : UInt8) := transmitted_iff_of_silent (x := x) hfetch ⟨ops, hlog⟩
    simp only [hsame]
    refine hsend.trans ⟨fun hle ↦ ⟨active, .inl ⟨cmd, len, some, hle⟩⟩, ?_⟩
    rintro ⟨-, h | h⟩
    · exact h.2.2.2
    · exact absurd (cmd.symm.trans h.1) (by decide)
  | readEeprom buffer addr active cmd len eq =>
    have hsend := transmitted_libradioSendResponse_iff hb fuel RADIO_EEPROM_RESPONSE
      (dataByte p.data 0) addr (dataByte p.data 1) buffer { d with statusbuffer := buffer }
    rw [← eq] at hsend
    refine hsend.trans ⟨fun hle ↦ ⟨active, .inr ⟨cmd, len, hle⟩⟩, ?_⟩
    rintro ⟨-, h | h⟩
    · exact absurd (cmd.symm.trans h.1) (by decide)
    · exact h.2.2
  | writeEeprom eeprom active cmd eq =>
    exact hsilent (hsame (by rw [eq])) (hother cmd (by decide) (by decide))
  | operate active cmd eq =>
    rw [eq]
    apply hsilent (happ.operate p d).chip
    rintro ⟨-, h | h⟩
    · rw [h.1] at cmd
      exact absurd cmd (by decide)
    · rw [h.1] at cmd
      exact absurd cmd (by decide)

/-- An application that does nothing with the packets it is passed, and whose status is `n` bytes
of its buffer. -/
def Client.reportingApp (n : Nat) : App σ := ⟨fun _ d ↦ d, fun _ d ↦ (d, n)⟩

/-- The reporting application is silent. -/
theorem Client.leavesRadio_reportingApp (n : Nat) :
    (Client.reportingApp n : App (Logged σ)).LeavesRadio Silent where
  operate _ d := ⟨⟨[], rfl, by simp⟩, rfl, rfl⟩
  fetchStatus _ d := ⟨⟨[], rfl, by simp⟩, rfl, rfl⟩

end Libradio
