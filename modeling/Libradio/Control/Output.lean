import Libradio.Control.CommandLine

/-!
# The text of the controller's lines

What `printf` makes of the lines for the host: `reply` (`src/control/input.c:204-212`),
`local_status` (`src/control/command.c:202-206`), `txresponse`
(`src/control/response.c:68-76`) and READ_EEPROM (`src/control/command.c:137-143`).
-/

namespace Libradio
open Libradio.Base

abbrev chPlus : UInt8 := 43
abbrev chMinus : UInt8 := 45
abbrev chSlash : UInt8 := 47
abbrev chLess : UInt8 := 60

/-- Bytes as numbers with commas in between. -/
def commaSeparated (data : List UInt8) : List UInt8 :=
  List.intercalate [chComma] (data.map fun d ↦ digits d.toNat)

/-- A line without its newline. -/
def Line.text : Line → List UInt8
  | .reply code radioState =>
    if code = 0 then [chLess, chPlus]
    else chLess :: chMinus :: (digits code.toNat ++ chSlash :: digits radioState.toNat)
  | .report chan node ticks cmd data =>
    chLess :: (chan + chA) :: (digits node.toNat ++ chColon :: (digits ticks.toNat ++
      chColon :: (digits cmd.toNat ++ chColon :: commaSeparated data)))
  | .eeprom chan node data =>
    chLess :: (chan + chA) :: chColon :: (digits node.toNat ++ chColon :: commaSeparated data)

end Libradio
