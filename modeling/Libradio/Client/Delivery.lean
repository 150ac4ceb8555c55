import Libradio.Client.Answer

/-!
# Whether a response is delivered

A response may have sixteen bytes (`src/COMMANDS.md:194-214`, `MAX_RESPONSE_SIZE`), a packet has
room for ten. `libradio_send_response` copies no more than ten of them (`src/lib/handle.c:81-84`)
and leaves the length as it is; `libradio_txpacket` refuses the packet for it
(`src/lib/packet.c:183-184`).
-/

namespace Libradio

variable {σ : Type}

/-- The client has agreed to answer the packet `p` with `response`, which is ready in `d'`. -/
inductive Agreed (app : App σ) (p : Packet) (d : Dev σ) : Dev σ → List UInt8 → Prop
  | status (active : LIBRADIO_STATE_ACTIVE ≤ d.radio.state) (cmd : p.cmd = RADIO_CMD_STATUS)
      (len : p.len = 3) :
      Agreed app p d (app.fetchStatus (dataByte p.data 2) d).1
        ((List.range (app.fetchStatus (dataByte p.data 2) d).2).map
          (app.fetchStatus (dataByte p.data 2) d).1.statusbuffer)
  | readEeprom (active : LIBRADIO_STATE_ACTIVE ≤ d.radio.state)
      (cmd : p.cmd = RADIO_CMD_READ_EEPROM) (len : p.len = 4) :
      Agreed app p d d
        ((List.range (dataByte p.data 1).toNat).map fun i ↦
          d.eeprom (word (dataByte p.data 2) (dataByte p.data 3) + UInt16.ofNat i))

/-- A frame carries all of a response. -/
structure CarriesAll (frame response : List UInt8) : Prop where
  len : frame[4]? = some (UInt8.ofNat response.length)
  data : (frame.drop PACKET_HEADER_LEN).take response.length = response

/-- Between `w` and `w'` a frame that carries the response was put into the FIFO, and the radio
was told to transmit it on the channel. -/
def Delivered (chan : UInt8) (response : List UInt8) (w w' : Logged σ) : Prop :=
  ∃ (before after : List Op) (state : ChState) (frame : List UInt8),
    w'.log = after ++ .command (startTx state chan) :: .fill frame :: before ++ w.log ∧
      CarriesAll frame response

private theorem Delivered.transmitted {chan : UInt8} {response : List UInt8} {w w' : Logged σ}
    (h : Delivered chan response w w') : Transmitted chan w w' := by
  obtain ⟨before, after, state, frame, hlog, -⟩ := h
  refine ⟨after ++ .command (startTx state chan) :: .fill frame :: before, hlog, _,
    List.mem_append_right after List.mem_cons_self, sentOn_startTx state chan⟩

/-- The frame of a response that fits a packet carries all of it. -/
theorem carriesAll_frame {p : Packet} {response : List UInt8} {buffer : Nat → UInt8}
    (h : IsResponse p (UInt8.ofNat response.length) buffer)
    (hbuffer : response = (List.range response.length).map buffer) (hfits : response.length ≤ 10)
    (t : UInt16) : CarriesAll (p.stamp t).frame response := by
  have hlen : p.len.toNat = response.length := by
    rw [h.len, UInt8.toNat_ofNat']
    omega
  constructor
  · rw [Packet.frame, Packet.sent, Packet.bytes_split, ← h.len]
    rfl
  · have hdata : (p.stamp t).frame.drop PACKET_HEADER_LEN =
        p.data.toList.take p.len.toNat ++ List.replicate (10 - p.len.toNat) 0xff := by
      rw [Packet.frame, Packet.sent, Packet.bytes_split]
      rfl
    have hsize : (p.data.toList.take p.len.toNat).length = response.length := by
      rw [List.length_take, Vector.length_toList, hlen]
      omega
    have hbytes : p.data.toList.take p.len.toNat = response := by
      rw [hbuffer]
      apply List.ext_getElem?
      intro i
      rw [List.getElem?_map, hlen]
      by_cases hi : i < response.length
      · rw [List.getElem?_take_of_lt hi, List.getElem?_range hi, Vector.getElem?_toList,
          h.data i (by rw [← h.len, hlen]; exact hi) (by omega)]
        rfl
      · have hend : (List.range response.length)[i]? = none := by
          rw [List.getElem?_eq_none]
          rw [List.length_range]
          exact Nat.le_of_not_lt hi
        rw [hend, List.getElem?_eq_none]
        · rfl
        · rw [List.length_take]
          omega
    rw [hdata, ← hsize, List.take_left, hbytes]

/-- What `libradio_send_response` is called with for an answer that a client agrees to. -/
theorem sent_of_agreed (b : Board σ) (app : App σ) (fuel : Nat) {p : Packet} {d d' : Dev σ}
    {response : List UInt8} (h : Agreed app p d d' response) (hsome : 1 ≤ response.length) :
    ∃ (cmd addr : UInt8) (buffer : Nat → UInt8) (e : Dev σ), e.chip = d'.chip ∧
      response = (List.range response.length).map buffer ∧
      libradioCommand b app fuel p d = libradioSendResponse b fuel cmd (dataByte p.data 0) addr
        (UInt8.ofNat response.length) buffer e := by
  cases h with
  | status active cmd len =>
    simp only [List.length_map, List.length_range] at hsome ⊢
    refine ⟨RADIO_STATUS_RESPONSE, dataByte p.data 1, _, _, rfl, rfl, ?_⟩
    unfold libradioCommand
    rw [cmd, if_neg fun hc ↦ UInt8.not_lt.mpr active hc.2, if_neg (by decide),
      if_neg (by decide), if_pos rfl, if_neg (not_not_intro len)]
    dsimp only
    exact if_pos hsome
  | readEeprom active cmd len =>
    simp only [List.length_map, List.length_range] at hsome ⊢
    obtain ⟨addr, buffer, heq, hbuffer⟩ := libradioCommand_readEeprom b app fuel cmd len active
    refine ⟨RADIO_EEPROM_RESPONSE, addr, buffer, { d with statusbuffer := buffer }, rfl, ?_, ?_⟩
    · apply List.map_congr_left
      intro i hi
      rw [hbuffer, fillStatus, if_pos (List.mem_range.mp hi)]
    · rw [heq, UInt8.ofNat_toNat]

/-- With a radio that takes every command, is ready and has room, a response of one to sixteen
bytes is transmitted on the channel of the request with all of its bytes exactly if it has no
more than ten. -/
theorem delivered_iff {b : Board σ} (hb : b.Willing) (app : App (Logged σ)) (fuel : Nat)
    {p : Packet} {d d' : Dev (Logged σ)} {response : List UInt8}
    (h : Agreed app p d d' response) (hsome : 1 ≤ response.length)
    (hmost : response.length ≤ 16) :
    Delivered (dataByte p.data 0) response d'.chip
        (libradioCommand b.logged app fuel p d).chip ↔
      response.length ≤ 10 := by
  obtain ⟨cmd, addr, buffer, e, hchip, hbuffer, heq⟩ := sent_of_agreed b.logged app fuel h hsome
  have hlen : UInt8.ofNat response.length ≤ 10 ↔ response.length ≤ 10 := by
    rw [UInt8.le_iff_toNat_le, UInt8.toNat_ofNat', Nat.mod_eq_of_lt (by omega)]
    rfl
  rw [heq, ← hchip]
  constructor
  · intro hdelivered
    exact hlen.mp ((transmitted_libradioSendResponse_iff hb fuel cmd (dataByte p.data 0) addr
      (UInt8.ofNat response.length) buffer e).mp ⟨_, hdelivered.transmitted⟩)
  · intro hle
    obtain ⟨u, v, q, t, hresponse, ⟨before, hbefore, -⟩, hlog, ⟨after, hafter, -⟩⟩ :=
      (log_libradioSendResponse hb fuel cmd (dataByte p.data 0) addr
        (UInt8.ofNat response.length) buffer e).1 (hlen.mpr hle)
    refine ⟨before, after, .transmit, (q.stamp t).frame, ?_,
      carriesAll_frame hresponse hbuffer hle t⟩
    rw [hafter, hlog, hbefore, List.append_assoc]
    rfl

-- A radio in RX with an empty transmit FIFO that takes every command.
private def emptyRadio : Board Nat := Board.scripted fun _ i ↦ if i = 0 then 8 else 64

private theorem willing_emptyRadio : emptyRadio.Willing where
  takes _ _ _ := ⟨_, _, rfl⟩
  ready heq := by
    cases heq
    exact .inr rfl
  room heq := by
    cases heq
    show (16 : UInt8) ≤ 64
    decide

-- A client that is active and listens.
private def listeningClient : Dev (Logged Nat) :=
  { Client.powerOn ⟨0, []⟩ with
    radio := { Radio.zero with state := LIBRADIO_STATE_ACTIVE, radioActive := true } }

-- A READ_EEPROM of `n` bytes from address 0, to be answered on channel 1.
private def readPacket (n : UInt8) : Packet :=
  { Packet.zero with
    cmd := RADIO_CMD_READ_EEPROM, len := 4
    data := .ofFn fun i ↦ if i.val = 0 then 1 else if i.val = 1 then n else 0 }

private theorem agreed_readPacket (n : UInt8) :
    Agreed Client.idleApp (readPacket n) listeningClient listeningClient
      ((List.range n.toNat).map fun _ ↦ 0xff) :=
  .readEeprom (p := readPacket n) (d := listeningClient) (by decide) rfl rfl

/-- Ten bytes of the EEPROM are delivered. -/
theorem delivered_ten :
    Delivered 1 ((List.range 10).map fun _ ↦ 0xff) listeningClient.chip
      (libradioCommand emptyRadio.logged Client.idleApp 1 (readPacket 10) listeningClient).chip :=
  (delivered_iff willing_emptyRadio Client.idleApp 1 (agreed_readPacket 10) (by decide)
    (by decide)).mpr (by decide)

/-- Of sixteen none is. -/
theorem not_delivered_sixteen :
    Agreed Client.idleApp (readPacket 16) listeningClient listeningClient
        ((List.range 16).map fun _ ↦ 0xff) ∧
      ¬ Delivered 1 ((List.range 16).map fun _ ↦ 0xff) listeningClient.chip
        (libradioCommand emptyRadio.logged Client.idleApp 1 (readPacket 16)
          listeningClient).chip := by
  refine ⟨agreed_readPacket 16, fun h ↦ ?_⟩
  obtain ⟨cmd, addr, buffer, e, hchip, -, heq⟩ :=
    sent_of_agreed emptyRadio.logged Client.idleApp 1 (agreed_readPacket 16) (by decide)
  have hsent := h.transmitted
  rw [heq, ← hchip] at hsent
  have hfits := (transmitted_libradioSendResponse_iff willing_emptyRadio 1 cmd _ addr _ buffer
    e).mp ⟨1, hsent⟩
  exact absurd hfits (by decide)

end Libradio
