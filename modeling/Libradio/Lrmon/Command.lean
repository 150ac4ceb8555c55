import Libradio.Control.CommandLine

/-!
# The commands lrmond sends

`src/lrmon/command.c` and `sio_send` of `src/lrmon/serial.c`. A command is text for the
controller's parser; the clock of the host is an argument of the two commands that read it.
-/

namespace Libradio
open Libradio.Base

namespace Lrmon

/-- What `gettimeofday`, which may fail, and `time` answer: seconds and microseconds, and
seconds. -/
structure HostClock where
  timeofday : Option (Nat × Nat)
  time : Nat

/-- The data of a command, `src/lrmon/command.c:172-179`. -/
def commandData : List Nat → List UInt8
  | [] => []
  | d :: ds => chColon :: (digits d ++ ds.flatMap fun d ↦ chComma :: digits d)

/-- `send_command`, `src/lrmon/command.c:164-184`, up to the call of `sio_send`. -/
def sendCommand (chan node cmd : Nat) (data : List Nat) : List UInt8 :=
  chGreater :: (chA + UInt8.ofNat chan) ::
    (digits node ++ chColon :: (digits cmd ++ (commandData data ++ [chDot])))

/-- `sio_send`, `src/lrmon/serial.c:137-152`: what is written for a message. -/
def sioSend (msg : List UInt8) : List UInt8 := msg ++ [chReturn, chNewline]

/-- `local_activate`, `src/lrmon/command.c:51-61`. -/
def localActivate : List UInt8 := sendCommand 0 0 RADIO_CMD_ACTIVATE.toNat [0, 1, 0]

/-- `request_local_status`, `src/lrmon/command.c:76-86`. -/
def requestLocalStatus (type : UInt8) : List UInt8 := [chGreater, type + chS]

/-- `request_client_status`, `src/lrmon/command.c:91-101`. -/
def requestClientStatus (chan node type : Nat) : List UInt8 :=
  sendCommand chan node RADIO_CMD_STATUS.toNat [1, 1, type]

/-- `set_time`, `src/lrmon/command.c:106-127`: nothing is sent if the clock cannot be read. -/
def setTime (clock : HostClock) : List (List UInt8) :=
  match clock.timeofday with
  | none => []
  | some (sec, usec) =>
    let ticks := sec % (60 * 60 * 24)
    let tod := ticks / 600
    let ticks := ticks % 600 * 100 + usec / 10000
    [sendCommand 0 1 RADIO_CMD_SET_TIME.toNat [ticks / 256 % 256, ticks % 256, tod]]

/-- `set_date`, `src/lrmon/command.c:132-145`. -/
def setDate (clock : HostClock) : List UInt8 :=
  let date := clock.time / (60 * 60 * 24)
  sendCommand 0 1 RADIO_CMD_SET_DATE.toNat [date / 256 % 256, date % 256]

/-- `set_channel`, `src/lrmon/command.c:150-159`; `RADIO_CMD_USER0` is the controller's
SET_CHANNEL. -/
def setChannel (chan state : Nat) : List UInt8 :=
  sendCommand 0 1 RADIO_CMD_SET_CHANNEL.toNat [chan, state]

/-- `reset_controller`, `src/lrmon/command.c:189-194`. -/
def resetController : List UInt8 := [chGreater, chR]

/-- The command as a line of the controller's parser. -/
def commandLine (c : Fin 6) (node cmd : Nat) (data : List Nat) (h : data.length ≤ 10) :
    CommandLine where
  channel := c
  node := digits node
  cmd := digits cmd
  data := data.map digits
  node_digits := digits_digits node
  cmd_digits := digits_digits cmd
  data_digits := by
    intro ds hds
    obtain ⟨d, -, rfl⟩ := List.mem_map.mp hds
    exact digits_digits d
  data_le := by rwa [List.length_map]

/-- What `send_command` sends on a channel is a command line. -/
theorem sendCommand_eq_text (c : Fin 6) (node cmd : Nat) (data : List Nat)
    (h : data.length ≤ 10) :
    sendCommand c.val node cmd data = (commandLine c node cmd data h).text := by
  have hdata : commandData data = CommandLine.dataText (data.map digits) := by
    cases data with
    | nil => rfl
    | cons d ds =>
      rw [commandData, CommandLine.dataText, if_neg (by simp), List.map_cons,
        CommandLine.intercalate_eq_flatMap, List.flatMap_map]
  rw [sendCommand, CommandLine.text, hdata]
  simp [commandLine, header, letter]

/-- The packet such a line writes carries the numbers sent. -/
theorem writes_commandLine {c : Fin 6} {node cmd : Nat} {data : List Nat} {h : data.length ≤ 10}
    {p : Packet.Content} (hw : (commandLine c node cmd data h).Writes p) :
    p.node = UInt8.ofNat node ∧ p.cmd = UInt8.ofNat cmd ∧ p.len.toNat = data.length ∧
      p.data.toList.take data.length = data.map UInt8.ofNat := by
  obtain ⟨hnode, hcmd, hlen, hdata⟩ := hw
  simp only [commandLine, number, decimal_digits, List.length_map, List.map_map]
    at hnode hcmd hlen hdata
  refine ⟨hnode, hcmd, hlen, hdata.trans ?_⟩
  exact List.map_congr_left fun d _ ↦ by rw [Function.comp, number, decimal_digits]

/-- The fields of the packet that such a line writes. -/
theorem fields_of_writes {c : Fin 6} {node : Nat} {cmd : UInt8} {data : List Nat}
    {h : data.length ≤ 10} {p : Packet.Content}
    (hw : (commandLine c node cmd.toNat data h).Writes p) :
    p.node = UInt8.ofNat node ∧ p.cmd = cmd ∧ p.len = UInt8.ofNat data.length ∧
      ∀ i d, data[i]? = some d → dataByte p.data i = UInt8.ofNat d := by
  obtain ⟨hnode, hcmd, hlen, hdata⟩ := writes_commandLine hw
  refine ⟨hnode, hcmd.trans UInt8.ofNat_toNat, ?_, fun i d hd ↦ ?_⟩
  · rw [← hlen, UInt8.ofNat_toNat]
  · have hget := congrArg (fun xs : List UInt8 ↦ xs[i]?) hdata
    rw [List.getElem?_take_of_lt (List.getElem?_eq_some_iff.mp hd).1, List.getElem?_map, hd,
      Option.map_some, Vector.getElem?_toList] at hget
    rw [dataByte, hget]
    rfl

end Lrmon
end Libradio
