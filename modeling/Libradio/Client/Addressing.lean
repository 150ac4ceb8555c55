import Libradio.Client.Clearance

/-!
# To whom a response is addressed

The response to a READ_EEPROM goes to a node on the channel that the request names
(`src/COMMANDS.md:194-215`). The request has no byte for the node: the variable that the
command counts the address up in is what `libradio_send_response` gets for it
(`src/lib/command.c:144-158`).
-/

namespace Libradio

variable {σ : Type}

/-- In between, a frame for node `n` was put into the FIFO and sent on channel `c`. -/
def SentTo (c n : UInt8) (w w' : Logged σ) : Prop :=
  ∃ (before after : List Op) (cmd : Op) (frame : List UInt8),
    w'.log = after ++ cmd :: .fill frame :: before ++ w.log ∧
      cmd.sentOn = some c ∧ frame[2]? = some n

/-- From `w` to `w₁` and from `w` to `w₂`, packets are sent to the same nodes on the same
channels. -/
def SentAlike (w w₁ w₂ : Logged σ) : Prop := ∀ c n, SentTo c n w w₁ ↔ SentTo c n w w₂

/-- Nothing silent sends to anybody. -/
theorem Silent.not_sentTo {w w' : Logged σ} (h : Silent w w') (c n : UInt8) :
    ¬SentTo c n w w' := by
  intro ⟨before, after, cmd, frame, hlog, hcmd, _⟩
  apply h.not_transmitted c
  exact ⟨after ++ cmd :: .fill frame :: before, hlog, cmd, by simp, hcmd⟩

/-- The destination is the third byte of a frame, whatever the time and the checksum. -/
theorem node_frame (p : Packet) (t : UInt16) : (p.stamp t).frame[2]? = some p.node := by
  rw [Packet.frame, Packet.sent, Packet.bytes_split]
  rfl

/-- A silent beginning, one frame and a silent end. -/
theorem sentTo_iff_of_frame {u v w x : Logged σ} {state : ChState} {chan : UInt8}
    {frame : List UInt8} (hbefore : Silent u v)
    (hlog : w.log = .command (startTx state chan) :: .fill frame :: v.log) (hafter : Silent w x)
    (c n : UInt8) : SentTo c n u x ↔ c = chan ∧ frame[2]? = some n := by
  obtain ⟨before, hv, hbefore⟩ := hbefore
  obtain ⟨after, hx, hafter⟩ := hafter
  have hall : x.log =
      after ++ .command (startTx state chan) :: .fill frame :: before ++ u.log := by
    rw [hx, hlog, hv, List.append_assoc]
    rfl
  constructor
  · intro ⟨before', after', cmd, frame', hlog', hcmd, hnode⟩
    have hops := List.append_cancel_right (hlog'.symm.trans hall)
    have hwhich (op : Op) (hop : op ∈ after' ++ cmd :: .fill frame' :: before')
        (htx : op.Transmits) : op = .command (startTx state chan) ∨ op = .fill frame := by
      rw [hops, List.mem_append, List.mem_cons, List.mem_cons] at hop
      rcases hop with hop | heq | heq | hop
      · exact absurd htx (hafter op hop).1
      · exact .inl heq
      · exact .inr heq
      · exact absurd htx (hbefore op hop).1
    constructor
    · rcases hwhich cmd (by simp) (transmits_of_sentOn hcmd) with rfl | rfl
      · exact (Option.some.inj ((sentOn_startTx state chan).symm.trans hcmd)).symm
      · cases hcmd
    · rcases hwhich (.fill frame') (by simp) trivial with heq | heq
      · cases heq
      · cases heq
        exact hnode
  · intro ⟨hc, hnode⟩
    exact ⟨before, after, _, frame, hall, by rw [sentOn_startTx, hc], hnode⟩

/-- A response goes to the node that it is given on the channel that it is given, if it fits a
packet and the radio lets the client send. -/
theorem sentTo_libradioSendResponse_iff (b : Board σ) (fuel : Nat) (cmd chan addr len : UInt8)
    (buffer : Nat → UInt8) (d : Dev (Logged σ)) (c n : UInt8) :
    SentTo c n d.chip (libradioSendResponse b.logged fuel cmd chan addr len buffer d).chip ↔
      (IsClear b.logged d ∧ len ≤ 10) ∧ c = chan ∧ n = addr := by
  have hb := keeps_silent b
  simp only [libradioSendResponse]
  generalize hchp : (⟨.transmit, 10, _⟩ : Channel) = chp
  have hnode : chp.packet.node = addr := by rw [← hchp]
  have hlen : chp.packet.len = len := by rw [← hchp]
  have hrest (r : Transfer (Logged σ)) (chp' : Channel) : Silent r.dev.chip
      (libradioRecvStart b.logged
        (waitTransmitted b.logged fuel { r.dev with txchan := chp' })).1.chip :=
    hb.trans (asked_waitTransmitted hb fuel { r.dev with txchan := chp' }).chip
      (chip_libradioRecvStart hb (fun w c ↦ silent_startRx b c w) _)
  have hquiet {w : Logged σ} (h : Silent d.chip w) (hno : ¬(IsClear b.logged d ∧ len ≤ 10)) :
      SentTo c n d.chip w ↔ (IsClear b.logged d ∧ len ≤ 10) ∧ c = chan ∧ n = addr :=
    iff_of_false (h.not_sentTo c n) fun h ↦ hno h.1
  by_cases hclear : IsClear b.logged d
  · obtain ⟨e, _, hkeeps, hsend⟩ := libradioSend_of_clear
      (d := { d with txchan := chp }) hclear 0 chp chan
    rw [hsend]
    by_cases hfits : len ≤ 10
    · obtain ⟨t, hlog⟩ := log_transmitFrame b 0 e chp chan (hlen ▸ hfits)
      rw [sentTo_iff_of_frame (hkeeps Silent hb) hlog (hrest _ _), node_frame, hnode,
        Option.some.injEq]
      simp only [hclear, hfits, and_self, true_and]
      exact and_congr_right fun _ ↦ eq_comm
    · have hlong := silent_transmitFrame b 0 e chp chan (hlen ▸ hfits)
      exact hquiet (hb.trans (hkeeps Silent hb) (hb.trans hlong (hrest _ _))) fun h ↦ hfits h.2
  · have hasked := chip_libradioSend_of_not_clear (d := { d with txchan := chp }) hb hclear 0
      chp chan
    exact hquiet (hb.trans hasked (hrest _ _)) fun h ↦ hclear h.1

/-- A READ_EEPROM that is executed by an active client. -/
def IsReadEeprom (p : Packet) : Prop := p.cmd = RADIO_CMD_READ_EEPROM ∧ p.len = 4

/-- The packets differ in the two bytes of the EEPROM address at most. -/
structure SameButAddress (p q : Packet) : Prop where
  cmd : p.cmd = q.cmd
  len : p.len = q.len
  node : p.node = q.node
  data : ∀ i, i ≠ 2 → i ≠ 3 → dataByte p.data i = dataByte q.data i

/-- What the command is left with of its address, once it has counted it up. -/
def nodeOf (p : Packet) : UInt8 :=
  (word (dataByte p.data 2) (dataByte p.data 3) + (dataByte p.data 1).toUInt16).toUInt8

/-- It is the lower byte of the address behind the last byte that was read. -/
theorem nodeOf_eq (p : Packet) : nodeOf p = dataByte p.data 3 + dataByte p.data 1 := by
  have hword := toNat_word (dataByte p.data 2) (dataByte p.data 3)
  apply UInt8.toNat_inj.mp
  rw [nodeOf, UInt16.toNat_toUInt8, UInt16.toNat_add, hword, UInt8.toNat_toUInt16, UInt8.toNat_add]
  omega

private theorem libradioCommand_of_readEeprom (b : Board σ) (app : App σ) (fuel : Nat) {p : Packet}
    {d : Dev σ} (hactive : LIBRADIO_STATE_ACTIVE ≤ d.radio.state) (hp : IsReadEeprom p) :
    ∃ buffer, libradioCommand b app fuel p d =
      libradioSendResponse b fuel RADIO_EEPROM_RESPONSE (dataByte p.data 0) (nodeOf p)
        (dataByte p.data 1) buffer { d with statusbuffer := buffer } := by
  simp only [libradioCommand]
  rw [hp.1, if_neg fun h ↦ UInt8.not_lt.mpr hactive h.2, if_neg (by decide), if_neg (by decide),
    if_neg (by decide), if_neg (by decide), if_neg (by decide), if_neg (by decide),
    if_neg (by decide), if_pos rfl, if_neg (not_not_intro hp.2)]
  exact ⟨_, rfl⟩

/-- Where the response to a READ_EEPROM goes. -/
theorem sentTo_readEeprom (b : Board σ) (app : App (Logged σ)) (fuel : Nat) {p : Packet}
    {d : Dev (Logged σ)} (hactive : LIBRADIO_STATE_ACTIVE ≤ d.radio.state) (hp : IsReadEeprom p)
    (c n : UInt8) :
    SentTo c n d.chip (libradioCommand b.logged app fuel p d).chip ↔
      (IsClear b.logged d ∧ dataByte p.data 1 ≤ 10) ∧ c = dataByte p.data 0 ∧ n = nodeOf p := by
  obtain ⟨buffer, hcommand⟩ := libradioCommand_of_readEeprom b.logged app fuel hactive hp
  rw [hcommand]
  exact sentTo_libradioSendResponse_iff b fuel _ _ _ _ _ { d with statusbuffer := buffer } c n

/-- Two READ_EEPROM packets for at most ten bytes that differ in the address alone are answered
to the same node on the same channel exactly if the lower bytes of the addresses are the same or
the radio does not let the client send at all. -/
theorem sentTo_readEeprom_iff (b : Board σ) (app : App (Logged σ)) (fuel : Nat) {p q : Packet}
    {d : Dev (Logged σ)} (hactive : LIBRADIO_STATE_ACTIVE ≤ d.radio.state) (hp : IsReadEeprom p)
    (hsame : SameButAddress p q) (hlen : dataByte p.data 1 ≤ 10) :
    SentAlike d.chip (libradioCommand b.logged app fuel p d).chip
        (libradioCommand b.logged app fuel q d).chip ↔
      dataByte p.data 3 = dataByte q.data 3 ∨ ¬IsClear b.logged d := by
  have hq : IsReadEeprom q := ⟨hsame.cmd.symm.trans hp.1, hsame.len.symm.trans hp.2⟩
  have hnode : nodeOf p = nodeOf q ↔ dataByte p.data 3 = dataByte q.data 3 := by
    rw [nodeOf_eq, nodeOf_eq, hsame.data 1 (by decide) (by decide)]
    exact UInt8.add_left_inj _
  simp only [SentAlike, sentTo_readEeprom b app fuel hactive hp,
    sentTo_readEeprom b app fuel hactive hq, hsame.data 0 (by decide) (by decide),
    ← hsame.data 1 (by decide) (by decide), hlen, and_true, ← hnode]
  constructor
  · intro h
    by_cases hclear : IsClear b.logged d
    · exact .inl ((h _ _).mp ⟨hclear, rfl, rfl⟩).2.2
    · exact .inr hclear
  · intro h c n
    rcases h with heq | hno
    · rw [heq]
    · exact iff_of_false (fun h ↦ hno h.1) fun h ↦ hno h.1

-- A READ_EEPROM of one byte, to be answered on channel 1.
private def readByteAt (hi lo : UInt8) : Packet :=
  { Packet.zero with
    cmd := RADIO_CMD_READ_EEPROM, len := 4, data := #v[1, 1, hi, lo, 0, 0, 0, 0, 0, 0] }

-- A radio in RX with room in its FIFO.
private def roomyRadio : Board Nat := Board.scripted fun _ i ↦ if i = 0 then 8 else 64

-- A client that is active and whose radio is powered up.
private def addressedClient : Dev (Logged Nat) :=
  { Client.powerOn ⟨0, []⟩ with
    radio := { Radio.zero with state := LIBRADIO_STATE_ACTIVE, radioActive := true } }

private theorem sameButAddress_readByteAt (hi lo hi' lo' : UInt8) :
    SameButAddress (readByteAt hi lo) (readByteAt hi' lo') := by
  refine ⟨rfl, rfl, rfl, fun i h₂ h₃ ↦ ?_⟩
  match i with
  | 0 => rfl
  | 1 => rfl
  | 2 => exact absurd rfl h₂
  | 3 => exact absurd rfl h₃
  | i + 4 => simp [readByteAt, dataByte]

/-- The addresses 0 and 256 have the same lower byte. -/
theorem sentTo_readEeprom_pages :
    SentAlike addressedClient.chip
      (libradioCommand roomyRadio.logged Client.idleApp 1 (readByteAt 0 0) addressedClient).chip
      (libradioCommand roomyRadio.logged Client.idleApp 1 (readByteAt 1 0) addressedClient).chip :=
  (sentTo_readEeprom_iff roomyRadio Client.idleApp 1 (d := addressedClient) (by decide) ⟨rfl, rfl⟩
    (sameButAddress_readByteAt 0 0 1 0) (by decide)).mpr (.inl rfl)

/-- The byte at address 0 is sent to node 1, and the byte at address 1 to node 2. -/
theorem not_sentTo_readEeprom :
    ¬SentAlike addressedClient.chip
        (libradioCommand roomyRadio.logged Client.idleApp 1 (readByteAt 0 0) addressedClient).chip
        (libradioCommand roomyRadio.logged Client.idleApp 1 (readByteAt 0 1)
          addressedClient).chip := by
  intro h
  have hclear : IsClear roomyRadio.logged addressedClient := by decide
  have hfirst := (sentTo_readEeprom roomyRadio Client.idleApp 1 (p := readByteAt 0 0)
    (d := addressedClient) (by decide) ⟨rfl, rfl⟩ 1 1).mpr ⟨⟨hclear, by decide⟩, rfl, by decide⟩
  have hsecond := (sentTo_readEeprom roomyRadio Client.idleApp 1 (p := readByteAt 0 1)
    (d := addressedClient) (by decide) ⟨rfl, rfl⟩ 1 1).mp ((h 1 1).mp hfirst)
  exact absurd hsecond.2.2 (by decide)

end Libradio
