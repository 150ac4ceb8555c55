import Libradio.Control.Output
import Libradio.Lrmon.StateMachine

/-!
# What lrmond makes of a line

`parse_data` and `crack` of `src/lrmon/main.c`, `src/lrmon/response.c`. A line is a C string
without its line end. The message that is published for third parties is left out here; it is the
subject of `Lrmon.Publish`.
-/

namespace Libradio
open Libradio.Base

namespace Lrmon

/-- `isspace` in the C locale. -/
def IsSpace (ch : UInt8) : Prop := (9 ≤ ch ∧ ch ≤ 13) ∨ ch = 32

instance (ch : UInt8) : Decidable (IsSpace ch) := inferInstanceAs (Decidable (_ ∨ _))

/-- `atoi`: the digits after white space and a sign, up to anything else. -/
def atoi (s : List UInt8) : Int :=
  let number (s : List UInt8) : Int := decimal (s.takeWhile fun ch ↦ IsDigit ch)
  match s.dropWhile fun ch ↦ IsSpace ch with
  | [] => 0
  | ch :: rest =>
    if ch = chMinus then -number rest
    else if ch = chPlus then number rest
    else number (ch :: rest)

/-- `crack`, `src/lrmon/main.c:204-220`: the first `nargs` pieces of a line. -/
def crack (delim : UInt8) : (nargs : Nat) → List UInt8 → List (List UInt8)
  | 0, _ => []
  | nargs + 1, line =>
    let arg := line.takeWhile (· ≠ delim)
    match line.dropWhile (· ≠ delim) with
    | [] => [arg]
    | _ :: rest => arg :: crack delim nargs rest

/-- What a line tells lrmond: nothing, a success, a failure with its code, or a status. -/
inductive Heard
  | ignored
  | good
  | failed (code : Int)
  | status (chan node ticks : Int) (args : List UInt8)
  deriving DecidableEq, Repr

/-- A failure, `src/lrmon/main.c:152-166`. -/
def readFailure (rest : List UInt8) : Heard :=
  let code := atoi (rest.takeWhile (· ≠ chSlash))
  .failed (if code < 1 then 99 else code)

/-- The fields of a response, `src/lrmon/main.c:167-198`. -/
def readResponse (data : List UInt8) : Heard :=
  match crack chColon 8 data with
  | [letter :: node, ticks, cmd, args] =>
    let chan : Int := (letter.toNat : Int) - chA.toNat
    if chan < 0 ∨ chan > 15 then .ignored
    else if atoi node < 0 ∨ atoi node > 255 then .ignored
    else if atoi ticks < 0 then .ignored
    else if atoi cmd = RADIO_STATUS_RESPONSE.toNat then
      .status chan (atoi node) (atoi ticks) args
    else .ignored
  | _ => .ignored

/-- The case analysis of `parse_data`, `src/lrmon/main.c:135-199`. -/
def readLine (data : List UInt8) : Heard :=
  match data with
  | [] => .ignored
  | ch :: rest =>
    if ch ≠ chLess then .ignored
    else
      match rest with
      | [] => readResponse []
      | ch :: more =>
        if ch = chPlus then .good
        else if ch = chMinus then readFailure more
        else readResponse rest

/-- A number of two bytes, high byte first, `src/lrmon/response.c:107-109`. -/
def twoBytes (hi lo : Int) : Int32 := (Int32.ofInt hi <<< 8) ||| Int32.ofInt lo

/-- `local_response`, `src/lrmon/response.c:84-115`. -/
def localResponse (argp : List UInt8) (m : Monitor) : Monitor :=
  match (crack chComma 16 argp).map atoi with
  | [type, c1, c2, n1, n2, fwH, fwL] =>
    if type = 0 then
      { m with sstatus := ⟨Int8.ofInt c1, Int8.ofInt c2, Int8.ofInt n1, Int8.ofInt n2,
          Int8.ofInt fwH, Int8.ofInt fwL⟩ }
    else m
  | [type, st, tens, b1, b0, rx1, rx0, tx1, tx0] =>
    if type = 1 then
      { m with dstatus := ⟨Int8.ofInt st, Int8.ofInt tens, twoBytes b1 b0, twoBytes rx1 rx0,
          twoBytes tx1 tx0⟩ }
    else m
  | _ => m

/-- `response`, `src/lrmon/response.c:55-79`. -/
def response (node : Int) (argp : List UInt8) (m : Monitor) : Monitor :=
  let m := { m with responseReceived := m.responseReceived + 1, responseNode := node }
  if node < 2 then localResponse argp m else m

/-- `parse_data`, `src/lrmon/main.c:135-199`. -/
def parseData (clock : HostClock) (data : List UInt8) (m : Monitor) :
    Monitor × List (List UInt8) :=
  match readLine data with
  | .ignored => (m, [])
  | .good => stateMachine clock { m with failureStatus := 0 }
  | .failed code => stateMachine clock { m with failureStatus := code }
  | .status _ node _ args => stateMachine clock (response node args { m with failureStatus := 0 })

end Lrmon
end Libradio
