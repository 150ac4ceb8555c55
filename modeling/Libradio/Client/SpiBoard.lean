import Libradio.Client.Answer
import Libradio.Lib.Spi

/-!
# The board over the bus

What the library asks of the radio, carried by `pkt_send` and by the block transfers of
`src/lib/packet.c`. Whatever holds over every board holds over this one.
-/

namespace Libradio

variable {τ : Type}

namespace Bus

/-- A command is put at the start of `pkt_data`. -/
def load (bytes : List UInt8) (u : Bus τ) : Bus τ :=
  { u with pktData := Vector.ofFn fun i ↦ bytes.getD i u.pktData[i] }

/-- Bytes whose answers are not looked at, `src/lib/packet.c:197-203`. -/
def shiftOut (spi : SpiByte τ) (bytes : List UInt8) (u : Bus τ) : Bus τ :=
  bytes.foldl (fun u byte ↦ (u.shift spi byte).1) u

/-- Bytes read without looking for a failure, `src/lib/packet.c:136-137`: the negative answer
is stored as an unsigned byte. -/
def shiftIn (spi : SpiByte τ) : (n : Nat) → Bus τ → Bus τ × Vector UInt8 n
  | 0, u => (u, #v[])
  | n + 1, u =>
    let first := u.shift spi 0x00
    let rest := shiftIn spi n first.1
    (rest.1, (#v[first.2.getD 0xff] ++ rest.2).cast (Nat.add_comm 1 n))

end Bus

/-- What the rest of the library asks of the radio, carried over the bus:
`src/lib/packet.c:70-116,134-138,196-204`. -/
def Board.ofSpi (spi : SpiByte τ) (analog : τ → UInt8 → τ × UInt16) : Board (Bus τ) where
  exchange u cmd n :=
    match pktSend spi cmd.length n (u.load cmd) with
    | (u, .ok _) => (u, .ok (Vector.ofFn fun i ↦ u.pktData.toList.getD i 0))
    | (u, .error e) => (u, .error e)
  writeTxFifo u bytes := ((u.setss true).shiftOut spi (0x66 :: bytes)).setss false
  readRxFifo u n :=
    let r := ((u.setss true).shiftOut spi [0x77]).shiftIn spi n
    (r.1.setss false, r.2)
  analogRead u channel :=
    ({ u with chip := (analog u.chip channel).1 }, (analog u.chip channel).2)

section Board

variable (spi : SpiByte τ) (analog : τ → UInt8 → τ × UInt16)

private theorem released_exchange (u : Bus τ) (cmd : List UInt8) (n : Nat) :
    ((Board.ofSpi spi analog).exchange u cmd n).1.Released := by
  have h := released_pktSend spi cmd.length n (u.load cmd)
  simp only [Board.ofSpi]
  split
  · next he => rwa [he] at h
  · next he => rwa [he] at h

/-- No call on the radio leaves it selected. -/
theorem sends_released (channo : UInt8) :
    (Board.ofSpi spi analog).Sends (fun u v ↦ u.Released → v.Released) channo where
  refl _ h := h
  trans h₁ h₂ h := h₂ (h₁ h)
  exchange u cmd n _ _ _ := released_exchange spi analog u cmd n
  readRxFifo _ _ _ := Bus.released_setss_false _
  writeTxFifo _ _ _ := Bus.released_setss_false _
  startTx u state _ := released_exchange spi analog u (startTx state channo) 0
  startRx u channo _ := released_exchange spi analog u (startRx channo) 0

/-- A response leaves the radio deselected on each of its ways out. -/
theorem released_libradioSendResponse (fuel : Nat) (cmd channo addr len : UInt8)
    (buffer : Nat → UInt8) (d : Dev (Bus τ)) (h : d.chip.Released) :
    (libradioSendResponse (Board.ofSpi spi analog) fuel cmd channo addr len buffer
      d).chip.Released :=
  chip_libradioSendResponse (sends_released spi analog channo) fuel cmd addr len
    buffer d h

end Board

end Libradio
