import Libradio.Base.Xor
import Libradio.Lib.Radio

/-!
# The byte image of a packet and the frame sent for it

`src/lib/packet.c:123-206`: a packet is sent as the bytes of `struct packet` up to its
payload length, closed by a checksum that makes their exclusive or zero and padded to
sixteen bytes; it is received by overwriting the bytes of the struct.
-/

namespace Libradio
open Libradio.Base

namespace Packet

/-- The bytes of the struct in memory order. -/
def bytes (p : Packet) : List UInt8 :=
  [p.ticks.toUInt8, (p.ticks >>> 8).toUInt8, p.node, p.cmd, p.len, p.csum] ++ p.data.toList

/-- The struct that a block of sixteen bytes is the memory of. -/
def ofBytes (v : Vector UInt8 16) : Packet :=
  { ticks := UInt16.ofNat (v[0].toNat + 256 * v[1].toNat)
    node := v[2]
    cmd := v[3]
    len := v[4]
    csum := v[5]
    data := Vector.ofFn fun i ↦ v[6 + i.val] }

/-- The exclusive or over header and payload; `src/lib/packet.c:144-146,189-191`. -/
def checksum (p : Packet) : UInt8 :=
  xorSum (p.bytes.take (PACKET_HEADER_LEN + p.len.toNat))

/-- The packet with the sender's clock and the checksum filled in;
`src/lib/packet.c:187-192`. -/
def stamp (ticks : UInt16) (p : Packet) : Packet :=
  let p := { p with ticks := ticks, csum := 0 }
  { p with csum := p.checksum }

/-- The part of the frame that carries the packet. -/
def sent (p : Packet) : List UInt8 := p.bytes.take (PACKET_HEADER_LEN + p.len.toNat)

/-- The sixteen bytes put into the transmit FIFO; `src/lib/packet.c:196-204`. -/
def frame (p : Packet) : List UInt8 :=
  p.sent ++ List.replicate (MAX_PAYLOAD_SIZE - p.len.toNat) 0xff

/-- The struct after the first bytes of its memory were overwritten;
`src/lib/packet.c:132-137`. -/
def overwrite (p : Packet) {n : Nat} (v : Vector UInt8 n) : Packet :=
  ofBytes (Vector.ofFn fun i ↦ if h : i.val < n then v[i.val] else p.bytes.getD i.val 0)

/-- A length that cannot be right is cut to the size of the data array;
`src/lib/packet.c:142-143`. -/
def clampLen (p : Packet) : Packet :=
  if p.len > 10 then { p with len := 10 } else p

/-- The image of a packet has the size of the struct. -/
@[simp] theorem length_bytes (p : Packet) : p.bytes.length = SI4463_PACKET_LEN := by
  simp [bytes]

/-- Time stamp and checksum are no content. -/
@[simp] theorem content_stamp (t : UInt16) (p : Packet) : (p.stamp t).content = p.content := rfl

/-- A stamped packet carries the sender's clock. -/
@[simp] theorem ticks_stamp (t : UInt16) (p : Packet) : (p.stamp t).ticks = t := rfl

/-- A packet within the payload limit is sent with header and payload. -/
theorem length_sent (p : Packet) (h : p.len ≤ 10) :
    p.sent.length = PACKET_HEADER_LEN + p.len.toNat := by
  have hl : p.len.toNat ≤ 10 := by simpa [UInt8.le_iff_toNat_le] using h
  rw [sent, List.length_take, length_bytes]
  simp only [PACKET_HEADER_LEN, SI4463_PACKET_LEN]
  omega

/-- Every frame fills the radio's fixed packet length. -/
theorem length_frame (p : Packet) (h : p.len ≤ 10) : p.frame.length = SI4463_PACKET_LEN := by
  have hl : p.len.toNat ≤ 10 := by simpa [UInt8.le_iff_toNat_le] using h
  rw [frame, List.length_append, length_sent p h, List.length_replicate]
  simp only [PACKET_HEADER_LEN, SI4463_PACKET_LEN, MAX_PAYLOAD_SIZE]
  omega

/-- The image up to some byte of the payload. -/
theorem bytes_split (p : Packet) (n : Nat) :
    p.bytes.take (PACKET_HEADER_LEN + n) =
      [p.ticks.toUInt8, (p.ticks >>> 8).toUInt8, p.node, p.cmd, p.len] ++
        p.csum :: p.data.toList.take n := by
  rw [bytes, List.take_append, List.take_of_length_le (by simp)]
  simp

/-- The checksum of a stamped packet balances the frame it is sent in. -/
theorem xorSum_sent_stamp (t : UInt16) (p : Packet) : xorSum (p.stamp t).sent = 0 := by
  rw [sent, bytes_split]
  have hc : (p.stamp t).csum =
      xorSum ([t.toUInt8, (t >>> 8).toUInt8, p.node, p.cmd, p.len] ++
        0 :: p.data.toList.take p.len.toNat) := by
    change checksum { p with ticks := t, csum := 0 } = _
    rw [checksum, bytes_split]
  rw [hc]
  exact xorSum_balanced _ _

/-- What a receiver takes from a packet: the fields, and the data bytes its length counts. -/
structure Received where
  ticks : UInt16
  node : UInt8
  cmd : UInt8
  len : UInt8
  payload : List UInt8
  deriving DecidableEq, Repr

/-- The part of a packet that the receiver is to get. -/
def received (p : Packet) : Received :=
  ⟨p.ticks, p.node, p.cmd, p.len, p.data.toList.take p.len.toNat⟩

/-- A block of sixteen received bytes replaces the whole struct. -/
theorem overwrite_full (p : Packet) (v : Vector UInt8 16) : p.overwrite v = ofBytes v := by
  have hv : (Vector.ofFn fun i : Fin 16 ↦
      if h : i.val < 16 then v[i.val] else p.bytes.getD i.val 0) = v := by
    apply Vector.ext
    intro i hi
    simp
  rw [overwrite, hv]

private theorem low_byte (lo hi : UInt8) :
    (UInt16.ofNat (lo.toNat + 256 * hi.toNat)).toUInt8 = lo := by
  apply UInt8.toNat_inj.mp
  have := lo.toNat_lt
  have := hi.toNat_lt
  simp only [UInt16.toNat_toUInt8, UInt16.toNat_ofNat']
  omega

private theorem high_byte (lo hi : UInt8) :
    (UInt16.ofNat (lo.toNat + 256 * hi.toNat) >>> 8).toUInt8 = hi := by
  apply UInt8.toNat_inj.mp
  have := lo.toNat_lt
  have := hi.toNat_lt
  simp only [UInt16.toNat_toUInt8, UInt16.toNat_shiftRight, UInt16.toNat_ofNat',
    Nat.shiftRight_eq_div_pow]
  simp
  omega

/-- Both bytes of a time stamp determine it. -/
theorem ticks_eq_of_bytes {s t : UInt16} (hlo : s.toUInt8 = t.toUInt8)
    (hhi : (s >>> 8).toUInt8 = (t >>> 8).toUInt8) : s = t := by
  apply UInt16.toNat_inj.mp
  have hl := congrArg UInt8.toNat hlo
  have hh := congrArg UInt8.toNat hhi
  have := s.toNat_lt
  have := t.toNat_lt
  simp [Nat.shiftRight_eq_div_pow] at hl hh
  omega

/-- The image of the struct that a block is the memory of is that block. -/
theorem bytes_ofBytes (v : Vector UInt8 16) : (ofBytes v).bytes = v.toList := by
  apply List.ext_getElem
  · simp
  · intro i hi hj
    simp only [length_bytes] at hi
    simp only [bytes, ofBytes, low_byte, high_byte, Vector.getElem_toList]
    rcases i with _ | _ | _ | _ | _ | _ | i <;> try rfl
    simp only [List.cons_append, List.nil_append, List.getElem_cons_succ,
      Vector.getElem_toList, Vector.getElem_ofFn]
    congr 1
    omega

/-- Two packets whose images agree over the header and the second one's payload are
received alike, and have the same checksum. -/
theorem received_eq_of_take (p q : Packet)
    (h : q.bytes.take (PACKET_HEADER_LEN + p.len.toNat) = p.sent) :
    q.received = p.received ∧ q.checksum = p.checksum := by
  have hs := h
  rw [sent, bytes_split, bytes_split] at hs
  simp only [List.cons_append, List.nil_append, List.cons.injEq] at hs
  obtain ⟨hlo, hhi, hnode, hcmd, hlen, -, hdata⟩ := hs
  constructor
  · simp only [received, ticks_eq_of_bytes hlo hhi, hnode, hcmd, hlen, hdata]
  · rw [checksum, hlen, h, sent, checksum]

/-- A frame is received as the packet it was made from, whatever its padding and whatever
the receiving buffer held before. -/
theorem received_of_sent (old p : Packet) (t : UInt16) (v : Vector UInt8 16) (h : p.len ≤ 10)
    (hv : v.toList.take (PACKET_HEADER_LEN + p.len.toNat) = (p.stamp t).sent) :
    (old.overwrite v).clampLen.received = (p.stamp t).received ∧
      (old.overwrite v).clampLen.checksum = 0 := by
  have hq := received_eq_of_take (p.stamp t) (ofBytes v) (by rw [bytes_ofBytes]; exact hv)
  have hlen : (ofBytes v).len = p.len := congrArg Received.len hq.1
  have hclamp : (ofBytes v).clampLen = ofBytes v := by
    rw [clampLen, if_neg]
    rw [hlen]
    exact UInt8.not_lt.mpr h
  rw [overwrite_full, hclamp]
  exact ⟨hq.1, hq.2.trans (xorSum_sent_stamp t p)⟩

end Packet

end Libradio
