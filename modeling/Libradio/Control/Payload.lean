import Libradio.Client.Bounds
import Libradio.Control.ChannelEffects

/-!
# The indexes the controller writes at

The controller once more, with every index at which it writes into a channel's packet data
written down where it is used: the parser's next data byte, the tens of minutes of a time slot
and the bytes of a received frame. Forgetting the indexes gives the controller back. The length
of a packet stays at most ten between its actions, whatever comes in between two characters.
-/

namespace Libradio
open Libradio.Base

namespace Ctl

variable {σ : Type}

/-- One more data byte, `src/control/input.c:186-187`. -/
def tracedStoreData (s : Ctl σ) : Traced (Ctl σ) :=
  ⟨[.data (s.chan s.currChp).packet.len.toNat], storeData s⟩

/-- The characters of the data, `src/control/input.c:145-192`. -/
def tracedInputData (b : Board σ) (ch : UInt8) (s : Ctl σ) : Traced (Ctl σ) :=
  if IsDigit ch then pure { s with value := addDigit s.value ch }
  else if ch = chComma ∨ ch = chDot then
    if (s.chan s.currChp).packet.len ≥ 10 then pure (s.reply RADIO_CTLERR_TOO_BIG)
    else do
      let s ← tracedStoreData s
      if ch = chDot then pure (handOver b s) else pure s
  else pure (s.reply RADIO_CTLERR_NEWLINE)

/-- `process_input`, `src/control/input.c:61-199`. -/
def tracedProcessInput (b : Board σ) (ch : UInt8) (s : Ctl σ) : Traced (Ctl σ) :=
  let s := s.note (.input ch)
  if IsLineEnd ch then
    if IoState.waitcmd.toNat ≤ s.state.toNat then
      pure { enqueue b s.currChp s with state := .newline }
    else pure { s with state := .newline }
  else
    match s.state with
    | .newline => if ch = chGreater then pure { s with state := .waitchan }
      else pure (s.reply RADIO_CTLERR_NEWLINE)
    | .waitnl => pure s
    | .waitchan => pure (inputChan b ch s)
    | .waitnode => pure (inputNode ch s)
    | .waitcmd => pure (inputCmd b ch s)
    | .waitdata => tracedInputData b ch s

/-- The time slot of channel `c`, `src/control/transmit.c:95-109`. -/
def tracedFillSlot (c : Fin 6) (s : Ctl σ) : Traced (Ctl σ) :=
  if (s.chan c).state = .empty then ⟨[.data 0], fillSlot c s⟩ else pure s

/-- `tx_check_queues`, `src/control/transmit.c:73-160`. -/
def tracedTxCheckQueues (b : Board σ) (between inSend : Nat) (s : Ctl σ) : Traced (Ctl σ) :=
  if s.dev.radio.state < LIBRADIO_STATE_LISTEN then pure s
  else
    let slot := s.dev.radio.msTicks.toNat % 500 < s.lastModulo
    let s := readClock between s
    if slot then do
      let c := slotChannel s.dev.radio
      let s ← tracedFillSlot c s
      pure (transmitOn b inSend c s)
    else
      match pickReady s with
      | none => pure s
      | some c => pure (transmitOn b inSend c s)

/-- `libradio_rxpacket`, `src/lib/packet.c:123-163`, which writes the bytes of the struct one
after the other; those behind the header are the data. -/
def tracedRxpacket (b : Board σ) (d : Dev σ) (p : Packet) : Traced (Transfer σ) :=
  ⟨(List.range (min d.radio.rxFifo.toNat SI4463_PACKET_LEN - PACKET_HEADER_LEN)).map .data,
    libradioRxpacket b d p⟩

/-- `libradio_recv`, `src/lib/rxtx.c:70-112`. -/
def tracedRecv (b : Board σ) (d : Dev σ) (p : Packet) (channo : UInt8) : Traced (Transfer σ) :=
  let avail := libradioCheckRx b d
  if avail.2 then do
    let r ← tracedRxpacket b avail.1 p
    pure ⟨listenAgain b channo (countReceived b r.ok r.dev), r.packet, r.ok⟩
  else pure ⟨listenAgain b channo avail.1, p, false⟩

/-- `txresponse`, `src/control/response.c:57-77`. -/
def tracedTxresponse (b : Board σ) (c : Fin 6) (s : Ctl σ) : Traced (Ctl σ) := do
  let chan := s.dev.radio.currChannel
  let node := (s.chan c).packet.node
  let r ← tracedRecv b s.dev (s.chan c).packet chan
  let s := { s.modify c fun chp ↦ { chp with packet := r.packet } with dev := r.dev }
  if r.ok then
    pure (s.print (.report chan node r.packet.ticks r.packet.cmd
      (r.packet.data.toList.take r.packet.len.toNat)))
  else pure s

/-- The response wait of one pass, `src/control/main.c:95-112`. -/
def tracedPoll (b : Board σ) (s : Ctl σ) : Traced (Ctl σ) :=
  match s.respChp with
  | none => pure s
  | some c =>
    let avail := libradioCheckRx b s.dev
    let s := { s with dev := avail.1 }
    if avail.2 then do
      let s ← tracedTxresponse b c s
      pure (endWait c s)
    else if (s.chan c).state = .rxresponse4 then pure (endWait c s)
    else
      let st := (s.chan c).state.next
      pure ((s.setState c st).note (.wait c st))

/-- One action. -/
def tracedStep (b : Board σ) (s : Ctl σ) : Act → Traced (Ctl σ)
  | .tick => pure { s with dev := { s.dev with radio := clocktick s.dev.radio } }
  | .poll => tracedPoll b s
  | .input ch => tracedProcessInput b ch s
  | .check between inSend =>
    if s.respChp = none then tracedTxCheckQueues b between inSend s else pure s

/-! ### Forgetting the indexes -/

private theorem result_tracedInputData (b : Board σ) (ch : UInt8) (s : Ctl σ) :
    (tracedInputData b ch s).result = inputData b ch s := by
  simp only [tracedInputData, inputData, apply_ite Traced.result, result_pure, result_bind,
    tracedStoreData]

private theorem result_tracedProcessInput (b : Board σ) (ch : UInt8) (s : Ctl σ) :
    (tracedProcessInput b ch s).result = processInput b ch s := by
  unfold tracedProcessInput processInput
  dsimp only
  rw [apply_ite Traced.result, apply_ite Traced.result, state_note]
  cases s.state with
  | newline => simp only [apply_ite Traced.result, result_pure]
  | waitdata => simp only [result_pure, result_tracedInputData]
  | _ => simp only [result_pure]

private theorem result_tracedFillSlot (c : Fin 6) (s : Ctl σ) :
    (tracedFillSlot c s).result = fillSlot c s := by
  unfold tracedFillSlot
  split
  · rfl
  · next h => rw [result_pure, fillSlot, if_neg h]

private theorem result_tracedTxCheckQueues (b : Board σ) (between inSend : Nat) (s : Ctl σ) :
    (tracedTxCheckQueues b between inSend s).result = txCheckQueues b between inSend s := by
  unfold tracedTxCheckQueues txCheckQueues
  dsimp only
  rw [apply_ite Traced.result, apply_ite Traced.result]
  simp only [result_bind, result_pure, result_tracedFillSlot]
  cases pickReady (readClock between s) <;> simp only [result_pure]

private theorem result_tracedRecv (b : Board σ) (d : Dev σ) (p : Packet) (channo : UInt8) :
    (tracedRecv b d p channo).result = libradioRecv b d p channo := by
  simp only [tracedRecv, libradioRecv, apply_ite Traced.result, result_pure, result_bind,
    tracedRxpacket]

private theorem result_tracedPoll (b : Board σ) (s : Ctl σ) :
    (tracedPoll b s).result = poll b s := by
  have hresponse (c : Fin 6) (s : Ctl σ) : (tracedTxresponse b c s).result = txresponse b c s := by
    simp only [tracedTxresponse, txresponse, result_bind, result_tracedRecv,
      apply_ite Traced.result, result_pure]
  unfold tracedPoll poll
  cases s.respChp with
  | none => rfl
  | some c => simp only [apply_ite Traced.result, result_bind, result_pure, hresponse]

/-- Without the indexes it is the action of the model. -/
theorem result_tracedStep (b : Board σ) (s : Ctl σ) (a : Act) :
    (tracedStep b s a).result = step b s a := by
  cases a with
  | tick => rfl
  | poll => exact result_tracedPoll b s
  | input ch => exact result_tracedProcessInput b ch s
  | check between inSend =>
    rw [step, check, tracedStep, apply_ite Traced.result, result_tracedTxCheckQueues, result_pure]

/-! ### The indexes that are written -/

/-- The parser looks at the length before it stores a byte. -/
theorem inBounds_tracedInputData (b : Board σ) (ch : UInt8) (s : Ctl σ) :
    (tracedInputData b ch s).InBounds := by
  unfold tracedInputData
  split
  · exact inBounds_pure _
  · split
    · split
      · exact inBounds_pure _
      · next hlen =>
        rw [inBounds_bind]
        constructor
        · intro u hu
          obtain rfl := List.mem_singleton.mp hu
          exact UInt8.lt_iff_toNat_lt.mp (UInt8.not_le.mp hlen)
        · split <;> exact inBounds_pure _
    · exact inBounds_pure _

private theorem inBounds_tracedProcessInput (b : Board σ) (ch : UInt8) (s : Ctl σ) :
    (tracedProcessInput b ch s).InBounds := by
  unfold tracedProcessInput
  dsimp only
  split
  · split <;> exact inBounds_pure _
  · split
    · split <;> exact inBounds_pure _
    · exact inBounds_pure _
    · exact inBounds_pure _
    · exact inBounds_pure _
    · exact inBounds_pure _
    · exact inBounds_tracedInputData b ch _

private theorem inBounds_tracedTxCheckQueues (b : Board σ) (between inSend : Nat) (s : Ctl σ) :
    (tracedTxCheckQueues b between inSend s).InBounds := by
  have hslot (c : Fin 6) (s : Ctl σ) : (tracedFillSlot c s).InBounds := by
    unfold tracedFillSlot
    split
    · intro u hu
      obtain rfl := List.mem_singleton.mp hu
      exact Nat.le_add_left 1 9
    · exact inBounds_pure _
  unfold tracedTxCheckQueues
  dsimp only
  split
  · exact inBounds_pure _
  · split
    · exact inBounds_bind _ _ |>.mpr ⟨hslot _ _, inBounds_pure _⟩
    · split <;> exact inBounds_pure _

/-- A received frame ends with the struct, so its data ends with the array. -/
theorem inBounds_tracedRxpacket (b : Board σ) (d : Dev σ) (p : Packet) :
    (tracedRxpacket b d p).InBounds := by
  intro u hu
  obtain ⟨i, hi, rfl⟩ := List.mem_map.mp hu
  have hlt := List.mem_range.mp hi
  have hmin := Nat.min_le_right d.radio.rxFifo.toNat SI4463_PACKET_LEN
  show i < MAX_PAYLOAD_SIZE
  simp only [SI4463_PACKET_LEN, PACKET_HEADER_LEN, MAX_PAYLOAD_SIZE] at *
  omega

private theorem inBounds_tracedPoll (b : Board σ) (s : Ctl σ) : (tracedPoll b s).InBounds := by
  have hrecv (d : Dev σ) (p : Packet) (channo : UInt8) :
      (tracedRecv b d p channo).InBounds := by
    unfold tracedRecv
    dsimp only
    split
    · exact inBounds_bind _ _ |>.mpr ⟨inBounds_tracedRxpacket b _ p, inBounds_pure _⟩
    · exact inBounds_pure _
  have hresponse (c : Fin 6) (s : Ctl σ) : (tracedTxresponse b c s).InBounds := by
    rw [tracedTxresponse, inBounds_bind]
    constructor
    · exact hrecv _ _ _
    · dsimp only
      split <;> exact inBounds_pure _
  unfold tracedPoll
  split
  · exact inBounds_pure _
  · dsimp only
    split
    · exact inBounds_bind _ _ |>.mpr ⟨hresponse _ _, inBounds_pure _⟩
    · split <;> exact inBounds_pure _

/-- Every action writes inside the ten bytes, in every state. -/
theorem inBounds_tracedStep (b : Board σ) (s : Ctl σ) (a : Act) :
    (tracedStep b s a).InBounds := by
  cases a with
  | tick => exact inBounds_pure _
  | poll => exact inBounds_tracedPoll b s
  | input ch => exact inBounds_tracedProcessInput b ch s
  | check between inSend =>
    rw [tracedStep]
    split
    · exact inBounds_tracedTxCheckQueues b between inSend s
    · exact inBounds_pure _

/-! ### The lengths between the actions -/

/-- Every channel's packet has at most ten bytes of data. -/
def Fits (s : Ctl σ) : Prop := ∀ c, (s.chan c).packet.len ≤ 10

private theorem Fits.of_packet {s s' : Ctl σ} (h : Fits s)
    (hpacket : ∀ c, (s'.chan c).packet = (s.chan c).packet) : Fits s' := by
  intro c
  rw [hpacket c]
  exact h c

/-- A new packet that fits in one channel. -/
theorem Fits.of_others {s s' : Ctl σ} (h : Fits s) {c : Fin 6}
    (own : (s'.chan c).packet.len ≤ 10)
    (others : ∀ d, c ≠ d → (s'.chan d).packet = (s.chan d).packet) : Fits s' := by
  intro d
  by_cases hd : c = d
  · exact hd ▸ own
  · rw [others d hd]
    exact h d

/-- A changed packet that fits in one channel. -/
theorem Fits.modify {s : Ctl σ} (h : Fits s) (c : Fin 6) (f : Channel → Channel)
    (hf : (f (s.chan c)).packet.len ≤ 10) : Fits (s.modify c f) := by
  apply h.of_others (c := c)
  · rw [chan_modify_self]
    exact hf
  · intro d hd
    rw [chan_modify_of_ne hd]

private theorem Fits.handOver {s : Ctl σ} (h : Fits s) (b : Board σ) : Fits (handOver b s) :=
  h.of_packet (enqueued_enqueue b s.currChp s).packet

private theorem Fits.storeCmd {s : Ctl σ} (h : Fits s) : Fits (storeCmd s) :=
  h.modify s.currChp
    (fun chp ↦ { chp with packet := { chp.packet with cmd := s.value, len := 0 } })
    (Nat.zero_le 10)

/-- A byte is stored only behind at most nine. -/
theorem Fits.storeData {s : Ctl σ} (h : Fits s) (hlen : (s.chan s.currChp).packet.len < 10) :
    Fits (storeData s) := by
  apply h.modify s.currChp (fun chp ↦ { chp with packet := chp.packet.push s.value })
  show (s.chan s.currChp).packet.len + 1 ≤ 10
  rw [UInt8.lt_iff_toNat_lt] at hlen
  rw [UInt8.le_iff_toNat_le, UInt8.toNat_add]
  simp only [UInt8.reduceToNat] at hlen ⊢
  omega

private theorem Fits.inputCmd {s : Ctl σ} (h : Fits s) (b : Board σ) (ch : UInt8) :
    Fits (inputCmd b ch s) := by
  unfold Ctl.inputCmd
  split
  · exact h
  · split
    · exact h.storeCmd
    · split
      · exact h.storeCmd.handOver b
      · exact h

private theorem Fits.inputData {s : Ctl σ} (h : Fits s) (b : Board σ) (ch : UInt8) :
    Fits (inputData b ch s) := by
  unfold Ctl.inputData
  split
  · exact h
  · split
    · split
      · exact h
      · next hlen =>
        have hstored := h.storeData (UInt8.not_le.mp hlen)
        split
        · exact hstored.handOver b
        · exact hstored
    · exact h

/-- A restart clears the packets. -/
theorem fits_boot (b : Board σ) (s : Ctl σ) : Fits (boot b s) := by
  intro c
  rw [(boot_fresh b s).1 c]
  exact Nat.zero_le 10

private theorem Fits.inputChan {s : Ctl σ} (h : Fits s) (b : Board σ) (ch : UInt8) :
    Fits (inputChan b ch s) := by
  unfold Ctl.inputChan
  split
  · unfold claimChannel
    dsimp only
    split
    · next hlt =>
      split
      · exact h
      · exact h.modify ⟨(ch - chA).toNat, hlt⟩ (fun chp ↦ { chp with state := .adding }) (h _)
    · exact h
  · split
    · exact fits_boot b s
    · split <;> exact h

private theorem Fits.inputNode {s : Ctl σ} (h : Fits s) (ch : UInt8) : Fits (inputNode ch s) := by
  unfold Ctl.inputNode
  split
  · exact h
  · split
    · exact h.modify s.currChp
        (fun chp ↦ { chp with packet := { chp.packet with node := s.value } }) (h s.currChp)
    · exact h

private theorem Fits.processInput {s : Ctl σ} (h : Fits s) (b : Board σ) (ch : UInt8) :
    Fits (processInput b ch s) := by
  have hnote : Fits (s.note (.input ch)) := h
  unfold Ctl.processInput
  dsimp only
  generalize s.note (.input ch) = s at hnote
  split
  · split
    · exact hnote.handOver b
    · exact hnote
  · split
    · split <;> exact hnote
    · exact hnote
    · exact hnote.inputChan b ch
    · exact hnote.inputNode ch
    · exact hnote.inputCmd b ch
    · exact hnote.inputData b ch

/-- The length of a received frame is cut, also if its checksum is bad. -/
theorem len_checkReceived (d : Dev σ) (p : Packet) : (checkReceived d p).packet.len ≤ 10 := by
  have hclamp := len_clampLen p
  unfold checkReceived
  dsimp only
  generalize p.clampLen = p at hclamp ⊢
  split
  · exact hclamp
  · split <;> exact hclamp

private theorem len_libradioRecv (b : Board σ) (d : Dev σ) {p : Packet} (h : p.len ≤ 10)
    (channo : UInt8) : (libradioRecv b d p channo).packet.len ≤ 10 := by
  have hread : (libradioRxpacket b (libradioCheckRx b d).1 p).packet.len ≤ 10 := by
    unfold libradioRxpacket
    apply len_checkReceived
  unfold libradioRecv
  dsimp only
  generalize libradioRxpacket b (libradioCheckRx b d).1 p = r at hread ⊢
  split
  · exact hread
  · exact h

private theorem Fits.txresponse {s : Ctl σ} (h : Fits s) (b : Board σ) (c : Fin 6) :
    Fits (txresponse b c s) := by
  have hrecv := len_libradioRecv b s.dev (h c) s.dev.radio.currChannel
  unfold Ctl.txresponse
  dsimp only
  generalize libradioRecv b s.dev (s.chan c).packet s.dev.radio.currChannel = r at hrecv ⊢
  have hset := h.modify c (fun chp ↦ { chp with packet := r.packet }) hrecv
  split <;> exact hset

private theorem Fits.poll {s : Ctl σ} (h : Fits s) (b : Board σ) : Fits (poll b s) := by
  unfold Ctl.poll
  split
  · exact h
  · next c _ =>
    have hchecked : Fits { s with dev := (libradioCheckRx b s.dev).1 } := h
    dsimp only
    generalize ({ s with dev := (libradioCheckRx b s.dev).1 } : Ctl σ) = s₁ at hchecked
    have hstate {s₂ : Ctl σ} (h₂ : Fits s₂) (st : ChState) : Fits (s₂.setState c st) :=
      h₂.modify c (fun chp ↦ { chp with state := st }) (h₂ c)
    split
    · exact hstate (hchecked.txresponse b c) .empty
    · split
      · exact hstate hchecked .empty
      · exact hstate hchecked _

/-- The packet of a time slot has one byte. -/
theorem Fits.fillSlot {s : Ctl σ} (h : Fits s) (c : Fin 6) : Fits (fillSlot c s) := by
  unfold Ctl.fillSlot
  split
  · exact h.modify c (fun _ ↦
      ⟨.transmit, 0xff, timePacket s.dev.radio.tensOfMinutes (s.chan c).packet⟩)
      (Nat.le_add_left 1 9)
  · exact h

private theorem Fits.transmitOn {s : Ctl σ} (h : Fits s) (b : Board σ) (ticks : Nat) (c : Fin 6) :
    Fits (transmitOn b ticks c s) := by
  unfold Ctl.transmitOn
  split
  · exact h
  · obtain ⟨-, -, hcontent, hothers, -⟩ := sendOn_spec b ticks c s
    dsimp only
    generalize sendOn b ticks c s = s' at hcontent hothers
    have hsent : Fits s' := h.of_others
      (by rw [show (s'.chan c).packet.len = _ from congrArg Packet.Content.len hcontent]; exact h c)
      fun d hd ↦ congrArg Channel.packet (hothers d hd)
    apply hsent.of_packet
    intro d
    simp only [chan, Fin.getElem_fin, Vector.getElem_map, (age_spec _).2]

private theorem Fits.check {s : Ctl σ} (h : Fits s) (b : Board σ) (between inSend : Nat) :
    Fits (check b between inSend s) := by
  have hread : Fits (readClock between s) := h
  cases checked_check b between inSend s with
  | awaiting awaited eq =>
    rw [eq]
    exact h
  | deaf free deaf eq =>
    rw [eq]
    exact h
  | slot c free listens due eq =>
    rw [eq]
    exact (hread.fillSlot c).transmitOn b inSend c
  | idle free listens due none eq =>
    rw [eq]
    exact hread
  | picked c free listens due some eq =>
    rw [eq]
    exact hread.transmitOn b inSend c

/-- Every action leaves the packets in their ten bytes. -/
theorem fits_step (b : Board σ) (s : Ctl σ) (a : Act) (h : Fits s) : Fits (step b s a) := by
  cases a with
  | tick => exact h
  | poll => exact h.poll b
  | input ch => exact h.processInput b ch
  | check between inSend => exact h.check b between inSend

/-- Every packet that was given to `libradio_send` fits. -/
def SentFit (s : Ctl σ) : Prop := ∀ c st p ok, Obs.send c st p ok ∈ s.track c → p.len ≤ 10

-- An action that sends nothing on the channel.
private theorem sent_of_cons {c : Fin 6} {st : ChState} {p : Packet.Content} {ok : Bool}
    {o : Obs} {h h' : List Obs} (hmem : Obs.send c st p ok ∈ h') (track : h' = o :: h)
    (ho : o ≠ .send c st p ok) : Obs.send c st p ok ∈ h := by
  rw [track] at hmem
  exact (List.mem_cons.mp hmem).resolve_left (Ne.symm ho)

/-- A packet is sent as it lies in its channel. -/
theorem sentFit_step (b : Board σ) (s : Ctl σ) (a : Act) (hfits : Fits s) (h : SentFit s) :
    SentFit (step b s a) := by
  have hafter := fits_step b s a hfits
  intro c st p ok hmem
  cases chanEffect_step b s a c with
  | same state content resp asm track => exact h c st p ok (track ▸ hmem)
  | claimed free state resp before after track =>
    exact h c st p ok (sent_of_cons hmem track (by intro heq; cases heq))
  | edited before after state resp track => exact h c st p ok (track ▸ hmem)
  | left ch act leaves before after state content resp track =>
    exact h c st p ok (track ▸ hmem)
  | released q config before after state resp config_set track =>
    have hmem := sent_of_cons hmem track (by intro heq; cases heq)
    rcases List.mem_append.mp hmem with hmem | hmem
    · obtain ⟨v, hv⟩ := config_set _ hmem
      cases hv
    · exact h c st p ok (sent_of_cons hmem rfl (by intro heq; cases heq))
  | queued ch q act queues before after state content resp track =>
    have hmem := sent_of_cons hmem track (by intro heq; cases heq)
    exact h c st p ok (sent_of_cons hmem rfl (by intro heq; cases heq))
  | configured ch config act configures before after state content resp track =>
    exact h c st p ok (sent_of_cons hmem track (by intro heq; cases heq))
  | waited act before early state resp asm track =>
    exact h c st p ok (sent_of_cons hmem track (by intro heq; cases heq))
  | ended act before ends state resp asm track =>
    exact h c st p ok (sent_of_cons hmem track (by intro heq; cases heq))
  | built between inSend q ok' act free due empty state content resp asm track =>
    rw [track] at hmem
    rcases List.mem_cons.mp hmem with heq | hmem
    · cases heq
      rw [← content]
      exact hafter c
    · exact h c st p ok (sent_of_cons hmem rfl (by intro heq; cases heq))
  | sent between inSend ok' act free busy adding state content resp asm track =>
    rw [track] at hmem
    rcases List.mem_cons.mp hmem with heq | hmem
    · cases heq
      exact hfits c
    · exact h c st p ok hmem
  | reset state resp after track =>
    exact h c st p ok (sent_of_cons hmem track (by intro heq; cases heq))

/-- `libradio_txpacket` refuses a packet for its length only. -/
theorem ok_libradioTxpacket (b : Board σ) (ticks : Nat) (d : Dev σ) {p : Packet}
    (h : p.len ≤ 10) : (libradioTxpacket b ticks d p).ok = true := by
  rw [libradioTxpacket, if_neg (UInt8.not_lt.mpr h)]

/-- For every run of the controller, over every radio: each action writes into the packets only
at indexes below ten, the length of every packet is at most ten between the actions, and no
packet that was given to `libradio_send` is one that `libradio_txpacket` refuses. -/
theorem payload_bounded (b : Board σ) (chip : σ) (eeprom : UInt16 → UInt8) (beyondData : UInt8)
    (acts : List Act) :
    let s := run (step b) (start b chip eeprom beyondData) acts
    (∀ a, (tracedStep b s a).result = step b s a ∧ (tracedStep b s a).InBounds) ∧
      (∀ c, (s.chan c).packet.len ≤ 10) ∧
      (∀ c st p ok, Obs.send c st p ok ∈ s.hist → ∀ q : Packet, q.content = p →
        ∀ ticks d, (libradioTxpacket b ticks d q).ok = true) := by
  intro s
  have hinit : Fits (start b chip eeprom beyondData) ∧
      SentFit (start b chip eeprom beyondData) := by
    constructor
    · exact fits_boot b _
    · intro c st p ok hmem
      rw [track, (chan_start b chip eeprom beyondData c).2.2.2] at hmem
      cases List.mem_singleton.mp (List.mem_filter.mp hmem).1
  obtain ⟨hfits, hsent⟩ := run_inv_of_step (step b) (I := fun s ↦ Fits s ∧ SentFit s)
    (fun s a h ↦ ⟨fits_step b s a h.1, sentFit_step b s a h.1 h.2⟩) acts hinit
  refine ⟨fun a ↦ ⟨result_tracedStep b s a, inBounds_tracedStep b s a⟩, hfits, ?_⟩
  intro c st p ok hmem q hq ticks d
  apply ok_libradioTxpacket
  have hlen : q.len = p.len := congrArg Packet.Content.len hq
  rw [hlen]
  exact hsent c st p ok (List.mem_filter.mpr ⟨hmem, by simp [Obs.concerns]⟩)

end Ctl
end Libradio
