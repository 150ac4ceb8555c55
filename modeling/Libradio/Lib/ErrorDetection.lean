import Libradio.Lib.ReceiveStream

/-!
# What the checksum detects

A frame with one bit flipped on its way from `libradio_txpacket` to `libradio_rxpacket`
(`src/lib/packet.c:123-206`). The exclusive or finds every such flip among the bytes it is taken
over; the length byte says which bytes these are.
-/

namespace Libradio
open Libradio.Base

/-- Bit `k` of byte `j` of a block is flipped. -/
def flipBit (j k : Nat) (block : List UInt8) : List UInt8 :=
  block.modify j (· ^^^ UInt8.ofNat (1 <<< k))

/-- The receiver has rejected a frame, or has returned what was sent. -/
def Detects {σ : Type} (r : Transfer σ) (sent : Packet.Received) : Prop :=
  r.ok = false ∨ r.packet.received = sent

instance {σ : Type} (r : Transfer σ) (sent : Packet.Received) : Decidable (Detects r sent) :=
  inferInstanceAs (Decidable (_ ∨ _))

namespace Packet

/-- The flip shortens the packet, and the bytes cut off have the flipped bit for their sum. -/
def Escapes (p : Packet) (j k : Nat) : Prop :=
  j = 4 ∧ p.len.toNat.testBit k = true ∧
    xorSum ((p.data.toList.take p.len.toNat).drop (p.len.toNat - (1 <<< k))) = UInt8.ofNat (1 <<< k)

instance (p : Packet) (j k : Nat) : Decidable (Escapes p j k) :=
  inferInstanceAs (Decidable (_ ∧ _))

/-- A packet is its image. -/
theorem bytes_injective {p q : Packet} (h : p.bytes = q.bytes) : p = q := by
  cases p
  cases q
  simp only [bytes, List.cons_append, List.nil_append, List.cons.injEq, Vector.toList_inj] at h
  obtain ⟨hlo, hhi, rfl, rfl, rfl, rfl, rfl⟩ := h
  obtain rfl := ticks_eq_of_bytes hlo hhi
  rfl

/-- The length byte is the fifth of the image. -/
theorem getElem?_bytes_len (p : Packet) : p.bytes[4]? = some p.len := rfl

/-- A flip in the length byte is a packet of another length. -/
theorem modify_bytes_len (p : Packet) (f : UInt8 → UInt8) :
    p.bytes.modify 4 f = ({ p with len := f p.len } : Packet).bytes := rfl

/-- The checksum in three parts: the four bytes in front of the length, the length, and the
rest. -/
theorem checksum_eq (p : Packet) :
    p.checksum = xorSum [p.ticks.toUInt8, (p.ticks >>> 8).toUInt8, p.node, p.cmd] ^^^ p.len ^^^
      (p.csum ^^^ xorSum (p.data.toList.take p.len.toNat)) := by
  have hfront : [p.ticks.toUInt8, (p.ticks >>> 8).toUInt8, p.node, p.cmd, p.len] =
      [p.ticks.toUInt8, (p.ticks >>> 8).toUInt8, p.node, p.cmd] ++ [p.len] := rfl
  rw [checksum, bytes_split, hfront, xorSum_append, xorSum_append, xorSum_cons p.csum,
    xorSum_cons p.len, xorSum_nil, UInt8.xor_zero]

/-- What a good packet's checksum becomes with another length: the length enters it, and it
is taken over other bytes. -/
theorem checksum_setLen {p : Packet} (h : p.checksum = 0) (m : UInt8) :
    ({ p with len := m } : Packet).checksum = m ^^^ p.len ^^^
      (xorSum (p.data.toList.take m.toNat) ^^^ xorSum (p.data.toList.take p.len.toNat)) := by
  rw [checksum_eq] at h ⊢
  dsimp only
  generalize xorSum [p.ticks.toUInt8, (p.ticks >>> 8).toUInt8, p.node, p.cmd] = a at h ⊢
  generalize xorSum (p.data.toList.take m.toNat) = x
  generalize xorSum (p.data.toList.take p.len.toNat) = y at h ⊢
  calc a ^^^ m ^^^ (p.csum ^^^ x)
      = a ^^^ m ^^^ (p.csum ^^^ x) ^^^ (a ^^^ p.len ^^^ (p.csum ^^^ y)) := by
        rw [h, UInt8.xor_zero]
    _ = a ^^^ a ^^^ (p.csum ^^^ p.csum) ^^^ (m ^^^ p.len ^^^ (x ^^^ y)) := by ac_rfl
    _ = m ^^^ p.len ^^^ (x ^^^ y) := by
        rw [UInt8.xor_self, UInt8.xor_self, UInt8.xor_self, UInt8.zero_xor]

/-! ### The flips -/

/-- What comes in as the block `v`. -/
def Accepted (v : Vector UInt8 16) (sent : Received) : Prop :=
  (ofBytes v).clampLen.checksum = 0 → (ofBytes v).clampLen.received = sent

/-- The first bytes of a block with a flipped bit. -/
theorem take_flipBit (j k n : Nat) (block : List UInt8) :
    (flipBit j k block).take n = flipBit j k (block.take n) := by
  unfold flipBit
  induction block generalizing j n with
  | nil => rw [List.modify_nil, List.take_nil, List.modify_nil]
  | cons x block ih =>
    cases n with
    | zero => rw [List.take_zero, List.take_zero, List.modify_nil]
    | succ n =>
      cases j with
      | zero => rfl
      | succ j =>
        rw [List.modify_succ_cons, List.take_succ_cons, List.take_succ_cons,
          List.modify_succ_cons, ih]

/-- A single bit is no zero. -/
theorem bit_ne_zero {k : Nat} (hk : k < 8) : UInt8.ofNat (1 <<< k) ≠ 0 := by
  have hall : ∀ i : Fin 8, UInt8.ofNat (1 <<< i.val) ≠ 0 := by decide
  exact hall ⟨k, hk⟩

/-- Sixteen bytes are the image of a packet. -/
theorem exists_bytes_eq {block : List UInt8} (h : block.length = 16) :
    ∃ g : Packet, g.bytes = block := by
  refine ⟨ofBytes ⟨block.toArray, by rw [List.size_toArray, h]⟩, ?_⟩
  rw [bytes_ofBytes]
  rfl

section Flip

variable {s : Packet} {v : Vector UInt8 16} {j k : Nat}

/-- The packet's part of the frame. -/
theorem take_frame (hs : s.len ≤ 10) :
    s.frame.take (PACKET_HEADER_LEN + s.len.toNat) = s.sent := by
  rw [frame, ← length_sent s hs, List.take_left]

/-- Behind the packet's part of the frame a flip does no harm. -/
theorem accepted_of_padding (hs : s.len ≤ 10) (hv : v.toList = flipBit j k s.frame)
    (hj : PACKET_HEADER_LEN + s.len.toNat ≤ j) : Accepted v s.received := by
  have htake : (ofBytes v).bytes.take (PACKET_HEADER_LEN + s.len.toNat) = s.sent := by
    rw [bytes_ofBytes, hv, take_flipBit, take_frame hs, flipBit, List.modify_eq_self]
    rw [length_sent s hs]
    exact hj
  obtain ⟨hreceived, -⟩ := received_eq_of_take s (ofBytes v) htake
  have hlen : (ofBytes v).len = s.len := congrArg Received.len hreceived
  have hclamp : (ofBytes v).clampLen = ofBytes v := by
    rw [clampLen, if_neg]
    rw [hlen]
    exact UInt8.not_lt.mpr hs
  rw [Accepted, hclamp]
  exact fun _ ↦ hreceived

/-- Among the other bytes that the checksum is taken over, a flip makes the sum wrong. -/
theorem accepted_of_summed (hs : s.len ≤ 10) (hsum : s.checksum = 0) (hk : k < 8)
    (hv : v.toList = flipBit j k s.frame) (hj : j < PACKET_HEADER_LEN + s.len.toNat)
    (hother : j ≠ 4) : Accepted v s.received := by
  have hlen : (ofBytes v).len = s.len := by
    have hget : (ofBytes v).bytes[4]? = some s.len := by
      rw [bytes_ofBytes, hv, flipBit, List.getElem?_modify_ne _ _ hother, frame, sent, bytes_split]
      rfl
    exact Option.some.inj ((getElem?_bytes_len (ofBytes v)).symm.trans hget)
  have hclamp : (ofBytes v).clampLen = ofBytes v := by
    rw [clampLen, if_neg]
    rw [hlen]
    exact UInt8.not_lt.mpr hs
  have hflip : (ofBytes v).checksum = UInt8.ofNat (1 <<< k) := by
    rw [checksum, hlen, bytes_ofBytes, hv, take_flipBit, take_frame hs, flipBit,
      xorSum_modify _ _ _ (by rw [length_sent s hs]; exact hj)]
    rw [checksum] at hsum
    rw [sent, hsum, UInt8.zero_xor]
  rw [Accepted, hclamp, hflip]
  exact fun hzero ↦ absurd hzero (bit_ne_zero hk)

end Flip

/-! ### The length byte -/

/-- The length that is left of one with a flipped bit. -/
def flippedLen (len : UInt8) (k : Nat) : UInt8 :=
  if len ^^^ UInt8.ofNat (1 <<< k) > 10 then 10 else len ^^^ UInt8.ofNat (1 <<< k)

private theorem clampLen_setLen (g : Packet) (k : Nat) :
    ({ g with len := g.len ^^^ UInt8.ofNat (1 <<< k) } : Packet).clampLen =
      { g with len := flippedLen g.len k } := by
  unfold clampLen flippedLen
  dsimp only
  split <;> rfl

/-- A bit that is set shortens the length by what it counts; any other makes it longer, or is
cut off again. -/
theorem flippedLen_spec {len : UInt8} (hlen : len ≤ 10) {k : Nat} (hk : k < 8) :
    (len.toNat.testBit k = true → (flippedLen len k).toNat + (1 <<< k) = len.toNat ∧
        flippedLen len k ^^^ len = UInt8.ofNat (1 <<< k)) ∧
      (len.toNat.testBit k = false → len.toNat ≤ (flippedLen len k).toNat ∧
        (flippedLen len k).toNat ≤ 10) := by
  have hall : ∀ (n : Fin 11) (i : Fin 8),
      ((UInt8.ofNat n.val).toNat.testBit i.val = true →
          (flippedLen (UInt8.ofNat n.val) i.val).toNat + (1 <<< i.val) = (UInt8.ofNat n.val).toNat ∧
          flippedLen (UInt8.ofNat n.val) i.val ^^^ UInt8.ofNat n.val =
            UInt8.ofNat (1 <<< i.val)) ∧
        ((UInt8.ofNat n.val).toNat.testBit i.val = false →
          (UInt8.ofNat n.val).toNat ≤ (flippedLen (UInt8.ofNat n.val) i.val).toNat ∧
          (flippedLen (UInt8.ofNat n.val) i.val).toNat ≤ 10) := by
    decide +kernel
  have hlt : len.toNat < 11 := Nat.lt_succ_of_le (UInt8.le_iff_toNat_le.mp hlen)
  have hthis := hall ⟨len.toNat, hlt⟩ ⟨k, hk⟩
  simp only [UInt8.ofNat_toNat] at hthis
  exact hthis

/-- No two lengths differ by nothing, or by all bits. -/
theorem xor_len_ne {m n : UInt8} (hm : m ≤ 10) (hn : n ≤ 10) (hne : m ≠ n) :
    m ^^^ n ≠ 0 ∧ m ^^^ n ^^^ 0xff ≠ 0 := by
  have hall : ∀ i j : Fin 11, UInt8.ofNat i.val ≠ UInt8.ofNat j.val →
      UInt8.ofNat i.val ^^^ UInt8.ofNat j.val ≠ 0 ∧
        UInt8.ofNat i.val ^^^ UInt8.ofNat j.val ^^^ 0xff ≠ 0 := by
    decide +kernel
  have him : m.toNat < 11 := Nat.lt_succ_of_le (UInt8.le_iff_toNat_le.mp hm)
  have hjn : n.toNat < 11 := Nat.lt_succ_of_le (UInt8.le_iff_toNat_le.mp hn)
  have hthis := hall ⟨m.toNat, him⟩ ⟨n.toNat, hjn⟩
  simp only [UInt8.ofNat_toNat] at hthis
  exact hthis hne

section Length

variable {s g : Packet}

/-- The packet that a frame is the image of. -/
structure Framed (s g : Packet) : Prop where
  bytes : g.bytes = s.frame
  received : g.received = s.received
  checksum : g.checksum = 0

private theorem Framed.len (h : Framed s g) : g.len = s.len := congrArg Received.len h.received

/-- The data of the frame: those of the packet, and the padding. -/
theorem Framed.data (h : Framed s g) :
    g.data.toList = s.data.toList.take s.len.toNat ++
      List.replicate (10 - s.len.toNat) 0xff := by
  have hdrop := congrArg (List.drop 6) h.bytes
  rw [frame, sent, bytes_split] at hdrop
  exact hdrop

private theorem length_take_data (hs : s.len ≤ 10) :
    (s.data.toList.take s.len.toNat).length = s.len.toNat := by
  have hle : s.len.toNat ≤ 10 := UInt8.le_iff_toNat_le.mp hs
  rw [List.length_take, Vector.length_toList]
  omega

/-- In front of the padding they are those of the packet. -/
theorem Framed.take_data (h : Framed s g) (hs : s.len ≤ 10) :
    g.data.toList.take s.len.toNat = s.data.toList.take s.len.toNat := by
  rw [h.data]
  exact List.take_left' (length_take_data hs)

private theorem exists_framed (hs : s.len ≤ 10) (hsum : s.checksum = 0) : ∃ g, Framed s g := by
  obtain ⟨g, hg⟩ := exists_bytes_eq (length_frame s hs)
  obtain ⟨hreceived, hchecksum⟩ := received_eq_of_take s g (by rw [hg, take_frame hs])
  exact ⟨g, hg, hreceived, hchecksum.trans hsum⟩

/-- With more than its own bytes the packet is rejected. -/
theorem Framed.rejected_longer (h : Framed s g) (hs : s.len ≤ 10) {m : UInt8} (hm : m ≤ 10)
    (hlonger : s.len < m) : ({ g with len := m } : Packet).checksum ≠ 0 := by
  have hlt : s.len.toNat < m.toNat := UInt8.lt_iff_toNat_lt.mp hlonger
  have hlen := length_take_data hs
  have hmore : ∃ n, g.data.toList.take m.toNat =
      s.data.toList.take s.len.toNat ++ List.replicate n 0xff := by
    refine ⟨min (m.toNat - s.len.toNat) (10 - s.len.toNat), ?_⟩
    rw [h.data, List.take_append, List.take_of_length_le (by rw [hlen]; omega), hlen,
      List.take_replicate]
  obtain ⟨n, hmore⟩ := hmore
  have hne : m ≠ s.len := fun heq ↦ Nat.lt_irrefl _ (heq ▸ hlt)
  obtain ⟨hzero, hall⟩ := xor_len_ne hm hs hne
  rw [checksum_setLen h.checksum, h.len, h.take_data hs, hmore, xorSum_append,
    UInt8.xor_comm (xorSum _) (xorSum (List.replicate _ _)), UInt8.xor_assoc (xorSum _),
    UInt8.xor_self, UInt8.xor_zero]
  rcases xorSum_replicate n 0xff with hones | hnone
  · rw [hones]
    exact hall
  · rw [hnone, UInt8.xor_zero]
    exact hzero

/-- With fewer bytes it is rejected if the bytes that are left out do not have the change of
the length for their sum. -/
theorem Framed.checksum_shorter (h : Framed s g) (hs : s.len ≤ 10) {m : UInt8}
    (hshorter : m.toNat ≤ s.len.toNat) :
    ({ g with len := m } : Packet).checksum =
      m ^^^ s.len ^^^ xorSum ((s.data.toList.take s.len.toNat).drop m.toNat) := by
  have hfew : g.data.toList.take m.toNat = (s.data.toList.take s.len.toNat).take m.toNat := by
    rw [← h.take_data hs, List.take_take, Nat.min_eq_left hshorter]
  rw [checksum_setLen h.checksum, h.len, h.take_data hs, hfew]
  generalize s.data.toList.take s.len.toNat = data
  have hsplit : xorSum data = xorSum (data.take m.toNat) ^^^ xorSum (data.drop m.toNat) := by
    rw [← xorSum_append, List.take_append_drop]
  rw [hsplit, ← UInt8.xor_assoc (xorSum _), UInt8.xor_self, UInt8.zero_xor]

end Length

/-- A flip in the length byte is detected, or harmless, unless it escapes. -/
theorem accepted_len_iff {s : Packet} {v : Vector UInt8 16} {k : Nat} (hs : s.len ≤ 10)
    (hsum : s.checksum = 0) (hk : k < 8) (hv : v.toList = flipBit 4 k s.frame) :
    Accepted v s.received ↔ ¬ s.Escapes 4 k := by
  obtain ⟨g, hg⟩ := exists_framed hs hsum
  have hin : ofBytes v = { g with len := g.len ^^^ UInt8.ofNat (1 <<< k) } := by
    apply bytes_injective
    rw [bytes_ofBytes, hv, ← hg.bytes]
    exact modify_bytes_len g _
  have hclamp : (ofBytes v).clampLen = { g with len := flippedLen s.len k } := by
    rw [hin, clampLen_setLen, hg.len]
  obtain ⟨hset, hunset⟩ := flippedLen_spec hs hk
  rw [Accepted, hclamp]
  cases hbit : s.len.toNat.testBit k with
  | true =>
    obtain ⟨hcount, hxor⟩ := hset hbit
    have hless : (flippedLen s.len k).toNat = s.len.toNat - (1 <<< k) := by omega
    have hpow := Nat.two_pow_pos k
    have hsumeq := hg.checksum_shorter hs (m := flippedLen s.len k) (by omega)
    rw [hxor, hless] at hsumeq
    have hescapes : s.Escapes 4 k ↔
        ({ g with len := flippedLen s.len k } : Packet).checksum = 0 := by
      rw [hsumeq, UInt8.xor_eq_zero_iff]
      unfold Escapes
      rw [hbit]
      exact ⟨fun h ↦ h.2.2.symm, fun h ↦ ⟨rfl, rfl, h.symm⟩⟩
    have hother : ({ g with len := flippedLen s.len k } : Packet).received ≠ s.received := by
      intro heq
      have hlen : (flippedLen s.len k).toNat = s.len.toNat :=
        congrArg (fun r ↦ r.len.toNat) heq
      omega
    rw [hescapes]
    exact ⟨fun h hzero ↦ hother (h hzero), fun h hzero ↦ absurd hzero h⟩
  | false =>
    obtain ⟨hmore, hfits⟩ := hunset hbit
    have hno : ¬ s.Escapes 4 k := by
      rintro ⟨-, h, -⟩
      rw [hbit] at h
      cases h
    apply iff_of_true _ hno
    intro hzero
    by_cases hsame : flippedLen s.len k = s.len
    · rw [hsame, ← hg.len]
      exact hg.received
    · have hlt : s.len < flippedLen s.len k := by
        rw [UInt8.lt_iff_toNat_lt]
        exact Nat.lt_of_le_of_ne hmore fun h ↦ hsame (UInt8.toNat_inj.mp h).symm
      exact absurd hzero (hg.rejected_longer hs (UInt8.le_iff_toNat_le.mpr hfits) hlt)

/-- Any flip is detected, or harmless, unless it escapes. -/
theorem accepted_iff {s : Packet} {v : Vector UInt8 16} {j k : Nat} (hs : s.len ≤ 10)
    (hsum : s.checksum = 0) (hk : k < 8) (hv : v.toList = flipBit j k s.frame) :
    Accepted v s.received ↔ ¬ s.Escapes j k := by
  by_cases hlen : j = 4
  · subst hlen
    exact accepted_len_iff hs hsum hk hv
  · have hno : ¬ s.Escapes j k := fun h ↦ hlen h.1
    by_cases hj : j < PACKET_HEADER_LEN + s.len.toNat
    · exact iff_of_true (accepted_of_summed hs hsum hk hv hj hlen) hno
    · exact iff_of_true (accepted_of_padding hs hv (Nat.le_of_not_lt hj)) hno

end Packet

namespace Si4463

/-- The checks accept what they return, and return what they were given. -/
theorem detects_checkReceived (d : Dev Si4463) (p : Packet) (sent : Packet.Received) :
    Detects (checkReceived d p) sent ↔
      (p.clampLen.checksum = 0 → p.clampLen.received = sent) := by
  unfold Detects checkReceived
  dsimp only
  by_cases hsum : p.clampLen.checksum ≠ 0
  · rw [if_pos hsum]
    exact iff_of_true (.inl rfl) fun h ↦ absurd h hsum
  · have hzero := Decidable.not_not.mp hsum
    rw [if_neg hsum]
    split <;> simp [hzero]

/-- A frame of `libradio_txpacket` in which one bit was flipped is rejected by
`libradio_rxpacket`, or gives the packet that was sent, exactly if the flip does not shorten the
packet by bytes whose sum is the flipped bit. -/
theorem flip_detected_iff (oracle oracle' : Nat → Outcome) (sender : Dev Si4463) (ticks : Nat)
    (p : Packet) (hlen : p.len ≤ 10) {frame : List UInt8}
    (hframe : (libradioTxpacket (board oracle) ticks sender p).dev.chip.txFifo =
      sender.chip.txFifo ++ frame) (j k : Nat) (hk : k < 8) (receiver : Dev Si4463)
    {rest : List UInt8} (hrx : receiver.chip.rxFifo = flipBit j k frame ++ rest)
    (hcount : 16 ≤ receiver.radio.rxFifo) (buffer : Packet) :
    Detects (libradioRxpacket (board oracle') receiver buffer)
        (libradioTxpacket (board oracle) ticks sender p).packet.received ↔
      ¬ p.Escapes j k := by
  have hsent : libradioTxpacket (board oracle) ticks sender p =
      ⟨{ sender with
          radio := clockticks ticks sender.radio
          chip := (board oracle).writeTxFifo sender.chip
            (p.stamp (clockticks ticks sender.radio).msTicks).frame },
        p.stamp (clockticks ticks sender.radio).msTicks, true⟩ := by
    unfold libradioTxpacket
    rw [if_neg (UInt8.not_lt.mpr hlen)]
  rw [hsent] at hframe ⊢
  dsimp only at hframe ⊢
  generalize (clockticks ticks sender.radio).msTicks = t at hframe ⊢
  obtain rfl : (p.stamp t).frame = frame := List.append_cancel_left hframe
  have hsize : (flipBit j k (p.stamp t).frame).length = 16 := by
    rw [flipBit, List.length_modify]
    exact Packet.length_frame (p.stamp t) hlen
  obtain ⟨v, hv, heq⟩ := libradioRxpacket_block oracle' receiver buffer _ rest hsize hrx hcount
  rw [heq, detects_checkReceived, Packet.overwrite_full]
  exact Packet.accepted_iff (s := p.stamp t) hlen (Packet.xorSum_sent_stamp t p) hk hv

-- A device whose receive FIFO holds one block.
private def holding (block : List UInt8) : Dev Si4463 :=
  { radio := { Radio.zero with rxFifo := 16 }, chip := ⟨[], block, [], 0, 0⟩
    eeprom := fun _ ↦ 0xff, rxchan := .zero, txchan := .zero, statusbuffer := fun _ ↦ 0
    beyondData := 0 }

private def alwaysDone : Nat → Outcome := fun _ ↦ .done fun _ ↦ 8

-- A packet with the byte 1 for its data.
private def oneByte : Packet :=
  { Packet.zero with node := 7, len := 1, data := .ofFn fun i ↦ if i.val = 0 then 1 else 0 }

/-- A flip of the data byte is detected. -/
theorem detects_data_flip :
    Detects
      (libradioRxpacket (board alwaysDone) (holding (flipBit 6 0 (oneByte.stamp 0).frame)) .zero)
      (libradioTxpacket (board alwaysDone) 0 (holding []) oneByte).packet.received :=
  (flip_detected_iff alwaysDone alwaysDone (holding []) 0 oneByte (by decide) rfl 6 0 (by decide)
    (holding (flipBit 6 0 (oneByte.stamp 0).frame)) (List.append_nil _).symm (by decide)
    .zero).mpr (by decide)

/-- A flip of the lowest bit of the length is not: the packet comes in without its byte. -/
theorem not_detects_len_flip :
    ¬ Detects
      (libradioRxpacket (board alwaysDone) (holding (flipBit 4 0 (oneByte.stamp 0).frame)) .zero)
      (libradioTxpacket (board alwaysDone) 0 (holding []) oneByte).packet.received := by
  decide +kernel

end Si4463

end Libradio
