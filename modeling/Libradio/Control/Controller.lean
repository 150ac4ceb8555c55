import Libradio.Lib.Command

/-!
# The state of the controller

`src/control/control.h`, the globals of `transmit.c` and `input.c`, the lines the
controller prints, and a record of what it has done. Debug lines, which do not start
with `<`, are left out. The record is not stored by the program; it is what the
properties of a run are stated over.
-/

namespace Libradio

/-- The states of the serial parser, `src/control/input.c:45-50`. -/
inductive IoState
  | newline
  | waitnl
  | waitchan
  | waitnode
  | waitcmd
  | waitdata
  deriving DecidableEq, Repr

namespace IoState

/-- The number the source stores for a parser state. -/
def toNat : IoState → Nat
  | newline => 0
  | waitnl => 1
  | waitchan => 2
  | waitnode => 3
  | waitcmd => 4
  | waitdata => 5

/-- A packet is being assembled: a channel has been claimed and not yet handed over. -/
def IsAssembling (s : IoState) : Prop := waitnode.toNat ≤ s.toNat

instance (s : IoState) : Decidable s.IsAssembling := inferInstanceAs (Decidable (_ ≤ _))

end IoState

/-- The lines printed for the host: `reply` (`src/control/input.c:204-212`), the status and
response reports (`src/control/command.c:202-206`, `src/control/response.c:68-76`) and the
EEPROM report (`src/control/command.c:137-143`). -/
inductive Line
  | reply (code radioState : UInt8)
  | report (chan node : UInt8) (ticks : UInt16) (cmd : UInt8) (data : List UInt8)
  | eeprom (chan node : UInt8) (data : List UInt8)
  deriving DecidableEq, Repr

/-- What a run records, in the order it happens: a start of the program, a character
read, a channel claimed by the parser, a packet handed to `enqueue`, a command executed by
the controller itself and its result, a call of `set_channel`, a channel set to EMPTY after
a command or a refusal, a packet acknowledged for transmission, a time packet built in a
channel, a call of `libradio_send` with the channel's state and packet and its result, and
one pass of the response wait over a channel with the state it leaves. -/
inductive Obs
  | reset
  | input (ch : UInt8)
  | claim (c : Fin 6)
  | handed (c : Fin 6) (p : Packet.Content)
  | exec (p : Packet.Content) (code : UInt8)
  | setChannel (c : Fin 6) (config : UInt8)
  | finish (c : Fin 6)
  | ack (c : Fin 6) (p : Packet.Content)
  | slot (c : Fin 6) (p : Packet.Content)
  | send (c : Fin 6) (state : ChState) (p : Packet.Content) (ok : Bool)
  | wait (c : Fin 6) (after : ChState)
  deriving DecidableEq, Repr

/-- The controller: its radio, the channels, `resp_chp` and `last_modulo` of
`src/control/transmit.c`, the parser's globals of `src/control/input.c:54-56` (`curr_chp` is
only used once it has been set), the printed lines, oldest first, and the record, newest
first. -/
structure Ctl (σ : Type) where
  dev : Dev σ
  channels : Vector Channel 6
  respChp : Option (Fin 6)
  lastModulo : Nat
  state : IoState
  value : UInt8
  currChp : Fin 6
  out : List Line
  hist : List Obs

namespace Ctl

variable {σ : Type}

/-- Channel `c`. -/
def chan (s : Ctl σ) (c : Fin 6) : Channel := s.channels[c]

/-- A change of channel `c`. -/
def modify (c : Fin 6) (f : Channel → Channel) (s : Ctl σ) : Ctl σ :=
  { s with channels := s.channels.set c (f s.channels[c]) }

/-- A new state for channel `c`. -/
def setState (c : Fin 6) (st : ChState) (s : Ctl σ) : Ctl σ :=
  s.modify c fun chp ↦ { chp with state := st }

/-- A line printed for the host. -/
def print (l : Line) (s : Ctl σ) : Ctl σ := { s with out := s.out ++ [l] }

/-- An entry of the record. -/
def note (o : Obs) (s : Ctl σ) : Ctl σ := { s with hist := o :: s.hist }

/-- Changing a channel changes that channel only. -/
theorem chan_modify (c d : Fin 6) (f : Channel → Channel) (s : Ctl σ) :
    (s.modify c f).chan d = if c = d then f (s.chan c) else s.chan d := by
  simp only [modify, chan, Fin.getElem_fin, Vector.getElem_set, Fin.val_inj]

/-- The channel that is changed. -/
@[simp] theorem chan_modify_self (c : Fin 6) (f : Channel → Channel) (s : Ctl σ) :
    (s.modify c f).chan c = f (s.chan c) := by
  rw [chan_modify, if_pos rfl]

/-- The other channels stay. -/
theorem chan_modify_of_ne {c d : Fin 6} (h : c ≠ d) (f : Channel → Channel) (s : Ctl σ) :
    (s.modify c f).chan d = s.chan d := by
  rw [chan_modify, if_neg h]

/-! ### What the small updates leave alone -/

section Frame

variable (c : Fin 6) (f : Channel → Channel) (l : Line) (o : Obs) (s : Ctl σ)

/-- A change of a channel leaves the device alone. -/
@[simp] theorem dev_modify : (s.modify c f).dev = s.dev := rfl

/-- It leaves the response wait alone. -/
@[simp] theorem respChp_modify : (s.modify c f).respChp = s.respChp := rfl

/-- It leaves `last_modulo` alone. -/
@[simp] theorem lastModulo_modify : (s.modify c f).lastModulo = s.lastModulo := rfl

/-- It leaves the parser's state alone. -/
@[simp] theorem state_modify : (s.modify c f).state = s.state := rfl

/-- It leaves the parser's number alone. -/
@[simp] theorem value_modify : (s.modify c f).value = s.value := rfl

/-- It leaves the parser's channel alone. -/
@[simp] theorem currChp_modify : (s.modify c f).currChp = s.currChp := rfl

/-- It prints nothing. -/
@[simp] theorem out_modify : (s.modify c f).out = s.out := rfl

/-- It records nothing. -/
@[simp] theorem hist_modify : (s.modify c f).hist = s.hist := rfl

/-- A record leaves the device alone. -/
@[simp] theorem dev_note : (s.note o).dev = s.dev := rfl

/-- It leaves the channels alone. -/
@[simp] theorem channels_note : (s.note o).channels = s.channels := rfl

/-- It leaves each channel alone. -/
@[simp] theorem chan_note (d : Fin 6) : (s.note o).chan d = s.chan d := rfl

/-- It leaves the response wait alone. -/
@[simp] theorem respChp_note : (s.note o).respChp = s.respChp := rfl

/-- It leaves `last_modulo` alone. -/
@[simp] theorem lastModulo_note : (s.note o).lastModulo = s.lastModulo := rfl

/-- It leaves the parser's state alone. -/
@[simp] theorem state_note : (s.note o).state = s.state := rfl

/-- It leaves the parser's number alone. -/
@[simp] theorem value_note : (s.note o).value = s.value := rfl

/-- It leaves the parser's channel alone. -/
@[simp] theorem currChp_note : (s.note o).currChp = s.currChp := rfl

/-- It prints nothing. -/
@[simp] theorem out_note : (s.note o).out = s.out := rfl

/-- It stands in front of the record. -/
@[simp] theorem hist_note : (s.note o).hist = o :: s.hist := rfl

/-- A line leaves the device alone. -/
@[simp] theorem dev_print : (s.print l).dev = s.dev := rfl

/-- It leaves the channels alone. -/
@[simp] theorem channels_print : (s.print l).channels = s.channels := rfl

/-- It leaves each channel alone. -/
@[simp] theorem chan_print (d : Fin 6) : (s.print l).chan d = s.chan d := rfl

/-- It leaves the response wait alone. -/
@[simp] theorem respChp_print : (s.print l).respChp = s.respChp := rfl

/-- It leaves `last_modulo` alone. -/
@[simp] theorem lastModulo_print : (s.print l).lastModulo = s.lastModulo := rfl

/-- It leaves the parser's state alone. -/
@[simp] theorem state_print : (s.print l).state = s.state := rfl

/-- It leaves the parser's number alone. -/
@[simp] theorem value_print : (s.print l).value = s.value := rfl

/-- It leaves the parser's channel alone. -/
@[simp] theorem currChp_print : (s.print l).currChp = s.currChp := rfl

/-- It stands behind what was printed. -/
@[simp] theorem out_print : (s.print l).out = s.out ++ [l] := rfl

/-- It is not recorded. -/
@[simp] theorem hist_print : (s.print l).hist = s.hist := rfl

end Frame

end Ctl

end Libradio
