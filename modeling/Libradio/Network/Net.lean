import Libradio.Network.Stations

/-!
# The controller, its clients and the air

Any number of clients and the controller, each with its own radio, under every order of their
steps. What a station sends stays on the air for good: a frame of any station can arrive at any
set of the other ones, at any time and any number of times, or at none. Any other sixteen bytes,
such as a frame that is damaged on the way, arrive as noise. The checksum of one byte need not
tell: where a result asks that it does, `Event.Detected` says so.
-/

namespace Libradio
open Libradio.Base

/-- Sixteen bytes that no receiver takes for a packet: the checksum does not come out. -/
def Damaged (bytes : Vector UInt8 16) : Prop := (Packet.ofBytes bytes).clampLen.checksum ≠ 0

instance (bytes : Vector UInt8 16) : Decidable (Damaged bytes) :=
  inferInstanceAs (Decidable (_ ≠ _))

/-- The bytes arrive in the receive FIFO. -/
def Si4463.hear (bytes : List UInt8) (c : Si4463) : Si4463 := { c with rxFifo := c.rxFifo ++ bytes }

/-- The state of all stations. -/
structure Net (ι : Type) where
  ctl : Ctl Si4463
  cli : ι → Member.State

namespace Net

variable {ι : Type}

/-- What can happen: an action of the controller, an event of a client, the arrival of the `k`-th
frame of a station at some of the others, and the arrival of any sixteen bytes. The controller is
`none`. -/
inductive Event (ι : Type)
  | control (a : Ctl.Act)
  | client (i : ι) (e : Client.Event)
  | carry (sender : Option ι) (k : Nat) (reaches : Option ι → Bool)
  | noise (bytes : Vector UInt8 16) (reaches : Option ι → Bool)

/-- If the event is the arrival of noise, the checksum tells. -/
def Event.Detected : Event ι → Prop
  | .noise bytes _ => Damaged bytes
  | _ => True

instance (e : Event ι) : Decidable e.Detected :=
  match e with
  | .noise bytes _ => inferInstanceAs (Decidable (Damaged bytes))
  | .control _ | .client _ _ | .carry _ _ _ => .isTrue trivial

/-- The radio of a station. -/
def chip (s : Net ι) : Option ι → Si4463
  | none => s.ctl.dev.chip
  | some i => (s.cli i).dev.chip

/-- The radios of the stations with which `reaches` holds hear the bytes. -/
def arrive (bytes : List UInt8) (reaches : Option ι → Bool) (s : Net ι) : Net ι where
  ctl := if reaches none then
      { s.ctl with dev := { s.ctl.dev with chip := s.ctl.dev.chip.hear bytes } }
    else s.ctl
  cli i := if reaches (some i) then
      { s.cli i with dev := { (s.cli i).dev with chip := (s.cli i).dev.chip.hear bytes } }
    else s.cli i

variable [DecidableEq ι] (oracle : Nat → Outcome) (m : ι → Member)

/-- One event. -/
def step (s : Net ι) : Event ι → Net ι
  | .control a => { s with ctl := Ctl.step (Si4463.board oracle) s.ctl a }
  | .client i e => { s with cli := Function.update s.cli i ((m i).step (s.cli i) e) }
  | .carry sender k reaches =>
    match (s.chip sender).air[k]? with
    | none => s
    | some f => s.arrive f.2 fun x ↦ reaches x && decide (x ≠ sender)
  | .noise bytes reaches => s.arrive bytes.toList reaches

omit [DecidableEq ι] in
/-- All stations as they are switched on. -/
def start (eeprom : UInt16 → UInt8) (beyondData : UInt8) : Net ι where
  ctl := Ctl.start (Si4463.board oracle) Si4463.fresh eeprom beyondData
  cli i := (m i).start Si4463.fresh

section Chips

omit [DecidableEq ι] in
/-- Only the stations that are reached hear it. -/
theorem chip_arrive (bytes : List UInt8) (reaches : Option ι → Bool) (s : Net ι)
    (x : Option ι) :
    (s.arrive bytes reaches).chip x = if reaches x then (s.chip x).hear bytes else s.chip x := by
  cases x with
  | none =>
    unfold arrive chip
    dsimp only
    split <;> rfl
  | some i =>
    unfold arrive chip
    dsimp only
    split <;> rfl

/-- The client that acts. -/
theorem chip_client (s : Net ι) (i : ι) (e : Client.Event) :
    (step oracle m s (.client i e)).chip (some i) = ((m i).step (s.cli i) e).dev.chip := by
  show (Function.update s.cli i _ i).dev.chip = _
  rw [Function.update_self]

/-- When a client acts the other radios stay. -/
theorem chip_client_of_ne (s : Net ι) {i : ι} (e : Client.Event) {x : Option ι}
    (h : x ≠ some i) : (step oracle m s (.client i e)).chip x = s.chip x := by
  cases x with
  | none => rfl
  | some j =>
    have hj : j ≠ i := fun hji ↦ h (congrArg some hji)
    show (Function.update s.cli i _ j).dev.chip = _
    rw [Function.update_of_ne hj]
    rfl

/-- When the controller acts the clients' radios stay. -/
theorem chip_control_of_ne (s : Net ι) (a : Ctl.Act) {x : Option ι} (h : x ≠ none) :
    (step oracle m s (.control a)).chip x = s.chip x := by
  cases x with
  | none => exact absurd rfl h
  | some i => rfl

end Chips
end Net
end Libradio
