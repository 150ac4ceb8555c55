import Libradio.Base.Decimal
import Libradio.Control.Enqueue

/-!
# The serial parser and the start of the program

`process_input` of `src/control/input.c`, one character at a time, and the part of
`src/control/main.c` before the main loop, which a reset request goes back to.
-/

namespace Libradio
open Libradio.Base

/-! ### The characters the parser knows -/

abbrev chNewline : UInt8 := 10
abbrev chReturn : UInt8 := 13
abbrev chComma : UInt8 := 44
abbrev chDot : UInt8 := 46
abbrev chZero : UInt8 := 48
abbrev chColon : UInt8 := 58
abbrev chGreater : UInt8 := 62
abbrev chA : UInt8 := 65
abbrev chH : UInt8 := 72
abbrev chR : UInt8 := 82
abbrev chS : UInt8 := 83
abbrev chT : UInt8 := 84

/-- One of the two characters that end a line. -/
def IsLineEnd (ch : UInt8) : Prop := ch = chNewline ∨ ch = chReturn

instance (ch : UInt8) : Decidable (IsLineEnd ch) := inferInstanceAs (Decidable (_ ∨ _))

/-- The characters of a text. -/
def characters (t : String) : List UInt8 := t.toList.map fun c ↦ UInt8.ofNat c.toNat

/-- One decimal digit is added to a number of eight bits; `src/control/input.c:155`. -/
def addDigit (value ch : UInt8) : UInt8 := value * 10 + ch - chZero

/-- A byte behind the data a packet already has. -/
def Packet.push (p : Packet) (v : UInt8) : Packet :=
  { p with data := p.data.setIfInBounds p.len.toNat v, len := p.len + 1 }

namespace Ctl

variable {σ : Type}

/-- The program starts: static storage is set up and `main` runs up to its loop
(`src/control/main.c:59-86`). `_reset`, which belongs to the start-up code of the compiler, is taken
to start it again. The chip, the EEPROM, the memory behind the packets and what
has been printed outlast a reset. -/
def boot (b : Board σ) (s : Ctl σ) : Ctl σ :=
  let blank : Dev σ :=
    { radio := .zero, chip := s.dev.chip, eeprom := s.dev.eeprom, rxchan := .zero
      txchan := .zero, statusbuffer := fun _ ↦ 0, beyondData := s.dev.beyondData }
  let s := Ctl.note .reset
    { dev := blank, channels := Vector.replicate _ .zero, respChp := none, lastModulo := 0
      state := .newline, value := 0, currChp := 0, out := s.out, hist := s.hist }
  let s := localStatus b RADIO_STATUS_STATIC (localStatus b RADIO_STATUS_DYNAMIC s)
  let d := libradioInit b 1 1 1 1 s.dev
  { s with dev := { d with radio := libradioSetState LIBRADIO_STATE_WARM d.radio } }

/-- The controller as it is switched on, with any chip and any EEPROM. -/
def start (b : Board σ) (chip : σ) (eeprom : UInt16 → UInt8) (beyondData : UInt8) : Ctl σ :=
  boot b
    { dev :=
        { radio := .zero, chip := chip, eeprom := eeprom, rxchan := .zero, txchan := .zero
          statusbuffer := fun _ ↦ 0, beyondData := beyondData }
      channels := Vector.replicate _ .zero, respChp := none, lastModulo := 0
      state := .newline, value := 0, currChp := 0, out := [], hist := [] }

/-- A channel letter, `src/control/input.c:84-113`. -/
def claimChannel (ch : UInt8) (s : Ctl σ) : Ctl σ :=
  let s := { s with value := ch - chA }
  if h : s.value.toNat < 6 then
    let c : Fin 6 := ⟨s.value.toNat, h⟩
    let s := { s with currChp := c }
    if ChState.empty.toNat < (s.chan c).state.toNat then s.reply RADIO_CTLERR_BUSY
    else { (s.setState c .adding).note (.claim c) with state := .waitnode, value := 0 }
  else s.reply RADIO_CTLERR_INVALID_CHANNEL

/-- A number read up to a separator, `src/control/input.c:158-192`: the node, the command or
one more data byte. -/
def storeNode (s : Ctl σ) : Ctl σ :=
  { s.modify s.currChp fun chp ↦ { chp with packet := { chp.packet with node := s.value } } with
    state := .waitcmd
    value := 0 }

/-- The command and the cleared length, `src/control/input.c:166-168`. -/
def storeCmd (s : Ctl σ) : Ctl σ :=
  { s.modify s.currChp fun chp ↦
      { chp with packet := { chp.packet with cmd := s.value, len := 0 } } with
    value := 0 }

/-- One more data byte, `src/control/input.c:186-187`. -/
def storeData (s : Ctl σ) : Ctl σ :=
  { s.modify s.currChp fun chp ↦ { chp with packet := chp.packet.push s.value } with
    value := 0 }

/-- The packet is complete: it is handed over and the rest of the line is skipped. -/
def handOver (b : Board σ) (s : Ctl σ) : Ctl σ :=
  { enqueue b s.currChp s with state := .waitnl }

/-- The characters that may follow `>`, `src/control/input.c:84-123`. -/
def inputChan (b : Board σ) (ch : UInt8) (s : Ctl σ) : Ctl σ :=
  if chA ≤ ch ∧ ch ≤ chH then claimChannel ch s
  else if ch = chR then boot b s
  else if ch = chS ∨ ch = chT then { localStatus b (ch - chS) s with state := .newline }
  else s.reply RADIO_CTLERR_NEWLINE

/-- The characters of the node number, `src/control/input.c:125-162`. -/
def inputNode (ch : UInt8) (s : Ctl σ) : Ctl σ :=
  if IsDigit ch then { s with value := addDigit s.value ch }
  else if ch = chColon then storeNode s
  else s.reply RADIO_CTLERR_NEWLINE

/-- The characters of the command number, `src/control/input.c:135-174`. -/
def inputCmd (b : Board σ) (ch : UInt8) (s : Ctl σ) : Ctl σ :=
  if IsDigit ch then { s with value := addDigit s.value ch }
  else if ch = chColon then { storeCmd s with state := .waitdata }
  else if ch = chDot then handOver b (storeCmd s)
  else s.reply RADIO_CTLERR_NEWLINE

/-- The characters of the data, `src/control/input.c:145-192`. -/
def inputData (b : Board σ) (ch : UInt8) (s : Ctl σ) : Ctl σ :=
  if IsDigit ch then { s with value := addDigit s.value ch }
  else if ch = chComma ∨ ch = chDot then
    if (s.chan s.currChp).packet.len ≥ 10 then s.reply RADIO_CTLERR_TOO_BIG
    else if ch = chDot then handOver b (storeData s)
    else storeData s
  else s.reply RADIO_CTLERR_NEWLINE

/-- `process_input`, `src/control/input.c:61-199`, for the character that `getchar` returns. -/
def processInput (b : Board σ) (ch : UInt8) (s : Ctl σ) : Ctl σ :=
  let s := s.note (.input ch)
  if IsLineEnd ch then
    if IoState.waitcmd.toNat ≤ s.state.toNat then
      { enqueue b s.currChp s with state := .newline }
    else { s with state := .newline }
  else
    match s.state with
    | .newline => if ch = chGreater then { s with state := .waitchan }
      else s.reply RADIO_CTLERR_NEWLINE
    | .waitnl => s
    | .waitchan => inputChan b ch s
    | .waitnode => inputNode ch s
    | .waitcmd => inputCmd b ch s
    | .waitdata => inputData b ch s

end Ctl
end Libradio
