import Libradio.Control.Input
import Libradio.Lib.Packet

/-!
# The dump of a packet

`display_packet` and `hexdigit` of `src/monitor/monitor.c`: one line for each packet, with the
channel, the two signal strengths, a mark for each field that looks wrong, and the bytes of the
packet up to its payload length in hexadecimal. The bytes can be read back from the line.
-/

namespace Libradio
open Libradio.Base

abbrev chSpace : UInt8 := 32

/-- `hexdigit`, `src/monitor/monitor.c:208-214`: what is put out. -/
def hexdigit (ch : UInt8) : UInt8 := (if ch > 9 then ch + 7 else ch) + chZero

/-- One byte of the dump, `src/monitor/monitor.c:170-175`. -/
def dumpByte (i : Nat) (value : UInt8) : List UInt8 :=
  [if i = 6 then chDot else chSpace, hexdigit (value >>> 4 &&& 15), hexdigit (value &&& 15)]

/-- The loop of `display_packet` from index `i` on, `src/monitor/monitor.c:171-176`. -/
def dump : Nat → List UInt8 → List UInt8
  | _, [] => []
  | i, value :: bytes => dumpByte i value ++ dump (i + 1) bytes

/-- `display_packet`, `src/monitor/monitor.c:154-178`, without the newline at its end. -/
def displayPacket (myChannel currentRssi latchRssi : UInt8) (p : Packet) : List UInt8 :=
  let len := if p.len > 10 then MAX_PAYLOAD_SIZE else p.len.toNat
  characters "RX" ++ digits myChannel.toNat ++ chComma :: digits currentRssi.toNat ++
    characters "/" ++ digits latchRssi.toNat ++ [chColon] ++
    (if p.node > 5 then characters "N?" else []) ++
    (if p.cmd > 16 then characters "C?" else []) ++
    (if p.len > 10 then characters "L?" else []) ++
    dump 0 (p.bytes.take (PACKET_HEADER_LEN + len))

/-! ### Reading a line -/

/-- The value of a hexadecimal digit. -/
def hexvalue (ch : UInt8) : UInt8 := if ch > 57 then ch - 55 else ch - chZero

/-- The bytes of a dump: a separator and two digits for each. -/
def undump : List UInt8 → List UInt8
  | _ :: hi :: lo :: rest => (hexvalue hi <<< 4 ||| hexvalue lo) :: undump rest
  | _ => []

/-- The bytes of a line: the dump begins at the first blank. -/
def readDump (line : List UInt8) : List UInt8 := undump (line.dropWhile (· ≠ chSpace))

private theorem hexvalue_hexdigit (value : UInt8) :
    hexvalue (hexdigit (value >>> 4 &&& 15)) <<< 4 ||| hexvalue (hexdigit (value &&& 15)) =
      value := by
  have h : ∀ x : BitVec 8, hexvalue (hexdigit (UInt8.ofBitVec x >>> 4 &&& 15)) <<< 4 |||
      hexvalue (hexdigit (UInt8.ofBitVec x &&& 15)) = UInt8.ofBitVec x := by decide +kernel
  exact h value.toBitVec

/-- The bytes of a dump are read back, whatever their indices are. -/
theorem undump_dump (i : Nat) (bytes : List UInt8) : undump (dump i bytes) = bytes := by
  induction bytes generalizing i with
  | nil => rfl
  | cons value bytes ih =>
    simp only [dump, dumpByte, List.cons_append, List.nil_append, undump, ih, hexvalue_hexdigit]

/-- In front of the dump there is no blank. -/
theorem readDump_append {label : List UInt8} (h : ∀ ch ∈ label, ch ≠ chSpace) (value : UInt8)
    (bytes : List UInt8) : readDump (label ++ dump 0 (value :: bytes)) = value :: bytes := by
  have hlabel : ∀ ch ∈ label, decide (ch ≠ chSpace) = true := by simpa using h
  unfold readDump
  rw [List.dropWhile_append_of_pos hlabel]
  have hblank : (dump 0 (value :: bytes)).dropWhile (· ≠ chSpace) = dump 0 (value :: bytes) := by
    simp [dump, dumpByte]
  rw [hblank, undump_dump]

private theorem ne_chSpace_of_mem_digits {n : Nat} {ch : UInt8} (h : ch ∈ digits n) :
    ch ≠ chSpace := by
  rintro rfl
  exact absurd (digits_digits n chSpace h) (by decide)

/-- The line of a packet within the payload limit is read as the bytes it was sent with. -/
theorem readDump_displayPacket (myChannel currentRssi latchRssi : UInt8) {p : Packet}
    (h : p.len ≤ 10) : readDump (displayPacket myChannel currentRssi latchRssi p) = p.sent := by
  have hlen : ¬ p.len > 10 := UInt8.not_lt.mpr h
  obtain ⟨bytes, hsent⟩ : ∃ bytes, p.sent = p.ticks.toUInt8 :: bytes := by
    rw [Packet.sent, Packet.bytes_split]
    exact ⟨_, rfl⟩
  unfold displayPacket
  dsimp only
  rw [if_neg hlen, if_neg hlen, ← Packet.sent, hsent]
  apply readDump_append
  have hname : ∀ ch ∈ characters "RX", ch ≠ chSpace := by decide +kernel
  have hslash : ∀ ch ∈ characters "/", ch ≠ chSpace := by decide +kernel
  have hnode : ∀ ch ∈ characters "N?", ch ≠ chSpace := by decide +kernel
  have hcmd : ∀ ch ∈ characters "C?", ch ≠ chSpace := by decide +kernel
  intro ch hch
  simp only [List.mem_append, List.mem_cons, List.append_assoc, List.cons_append] at hch
  rcases hch with hch | hch | rfl | hch | hch | hch | rfl | hch | hch | hch | hch
  · exact hname ch hch
  · exact ne_chSpace_of_mem_digits hch
  · decide
  · exact ne_chSpace_of_mem_digits hch
  · exact hslash ch hch
  · exact ne_chSpace_of_mem_digits hch
  · decide
  · cases hch
  · split at hch
    · exact hnode ch hch
    · cases hch
  · split at hch
    · exact hcmd ch hch
    · cases hch
  · cases hch

/-- What the receiver takes from two packets and their checksums determine the bytes they are sent
with. -/
theorem Packet.sent_eq {p q : Packet} (h : p.received = q.received)
    (hsum : p.checksum = q.checksum) : p.sent = q.sent := by
  have hticks : p.ticks = q.ticks := congrArg Packet.Received.ticks h
  have hnode : p.node = q.node := congrArg Packet.Received.node h
  have hcmd : p.cmd = q.cmd := congrArg Packet.Received.cmd h
  have hlen : p.len = q.len := congrArg Packet.Received.len h
  have hdata : p.data.toList.take p.len.toNat = q.data.toList.take q.len.toNat :=
    congrArg Packet.Received.payload h
  rw [Packet.checksum, Packet.checksum, Packet.bytes_split, Packet.bytes_split, hticks, hnode, hcmd,
    hdata, hlen, xorSum_append, xorSum_append, UInt8.xor_right_inj, xorSum_cons, xorSum_cons,
    UInt8.xor_left_inj] at hsum
  rw [Packet.sent, Packet.sent, Packet.bytes_split, Packet.bytes_split, hticks, hnode, hcmd, hdata,
    hlen, hsum]

end Libradio
