import Mathlib.Data.List.Forall2
import Libradio.Control.Received
import Libradio.Lrmon.Command

/-!
# Commands arrive as they were sent

What `send_command` and `sio_send` write, `process_input` reads: the controller is handed the
command that lrmond was asked to send, and answers it once.
-/

namespace Libradio
open Libradio.Base

namespace Lrmon

/-- A command as `send_command` is given it, with at most as much data as a packet holds. -/
structure Command where
  channel : Fin 6
  node : UInt8
  cmd : UInt8
  data : List UInt8
  data_le : data.length ≤ 10

/-- What lrmond writes for a command. -/
def Command.line (k : Command) : List UInt8 :=
  sioSend (sendCommand k.channel.val k.node.toNat k.cmd.toNat (k.data.map UInt8.toNat))

/-- The packet carries the command. -/
structure Command.CarriedBy (k : Command) (p : Packet.Content) : Prop where
  node : p.node = k.node
  cmd : p.cmd = k.cmd
  len : p.len.toNat = k.data.length
  data : p.data.toList.take k.data.length = k.data

variable {σ : Type}

/-- The channel of the command takes a new line: it is DISABLED, READ or EMPTY. -/
def Takes (s : Ctl σ) (k : Command) : Prop :=
  (s.chan k.channel).state = .disabled ∨ (s.chan k.channel).state = .read ∨
    (s.chan k.channel).state = .empty

instance (s : Ctl σ) (k : Command) : Decidable (Takes s k) := inferInstanceAs (Decidable (_ ∨ _))

/-- From `s` to `s'` one packet was handed to `enqueue`, on the channel of the command and with
its node, number and data, one reply was printed, and the parser is at the start of a line. -/
structure Received (k : Command) (s s' : Ctl σ) : Prop where
  state : s'.state = .newline
  handed : ∃ p, k.CarriedBy p ∧ s'.handed = s.handed ++ [(k.channel, p)]
  replies : ∃ code radioState, s'.replies = s.replies ++ [.reply code radioState]

/-- One line after the other. -/
def receive (b : Board σ) (s : Ctl σ) (k : Command) : Ctl σ := Ctl.feed b s k.line

/-- One command. -/
theorem received_of_takes (b : Board σ) {s : Ctl σ} (hs : s.state = .newline) {k : Command}
    (htakes : Takes s k) : Received k s (receive b s k) := by
  have hdata : (k.data.map UInt8.toNat).length ≤ 10 := by
    rw [List.length_map]
    exact k.data_le
  have hline : k.line = (commandLine k.channel k.node.toNat k.cmd.toNat
      (k.data.map UInt8.toNat) hdata).text ++ [chReturn, chNewline] :=
    congrArg sioSend (sendCommand_eq_text k.channel k.node.toNat k.cmd.toNat _ hdata)
  have hfree : (s.chan k.channel).state.toNat ≤ ChState.empty.toNat := by
    rcases htakes with h | h | h <;> rw [h] <;> decide
  obtain ⟨hstate, p, hp, hanswer⟩ := Ctl.feed_line b (commandLine k.channel k.node.toNat
    k.cmd.toNat (k.data.map UInt8.toNat) hdata) hs hfree
  obtain ⟨hnode, hcmd, hlen, htake⟩ := writes_commandLine hp
  rw [List.length_map] at hlen htake
  rw [UInt8.ofNat_toNat] at hnode hcmd
  have hbytes : (k.data.map UInt8.toNat).map UInt8.ofNat = k.data := by
    rw [List.map_map]
    exact (List.map_congr_left fun x _ ↦ UInt8.ofNat_toNat).trans (List.map_id _)
  rw [hbytes] at htake
  rw [receive, hline]
  exact ⟨hstate, ⟨p, ⟨hnode, hcmd, hlen, htake⟩, hanswer.handed⟩, hanswer.replies⟩

/-- Lines in a row are read one after the other. -/
theorem feed_lines (b : Board σ) (s : Ctl σ) (ks : List Command) :
    Ctl.feed b s (ks.flatMap Command.line) = run (receive b) s ks := by
  induction ks generalizing s with
  | nil => rfl
  | cons k ks ih =>
    rw [List.flatMap_cons, Ctl.feed_append, ih]
    rfl

/-- For every channel, node, command and data, and every sequence of them: each line that
finds its channel DISABLED, READ or EMPTY is handed to `enqueue` once, as it was sent, is
answered once and leaves the parser at the start of a line; so the packets handed over are the
commands of the sequence. -/
theorem commands_received (b : Board σ) {s : Ctl σ} (hs : s.state = .newline)
    (ks : List Command) (htakes : Along (receive b) Takes s ks) :
    Along (receive b) (fun s k ↦ Received k s (receive b s k)) s ks ∧
      (Ctl.feed b s (ks.flatMap Command.line)).state = .newline ∧
      ∃ ps, (Ctl.feed b s (ks.flatMap Command.line)).handed = s.handed ++ ps ∧
        List.Forall₂ (fun k cp ↦ cp.1 = k.channel ∧ k.CarriedBy cp.2) ks ps := by
  rw [feed_lines]
  induction ks generalizing s with
  | nil => exact ⟨trivial, hs, [], (List.append_nil _).symm, .nil⟩
  | cons k ks ih =>
    have hk := received_of_takes b hs htakes.1
    obtain ⟨halong, hstate, ps, hps, hall⟩ := ih hk.state htakes.2
    obtain ⟨p, hp, hhanded⟩ := hk.handed
    refine ⟨⟨hk, halong⟩, hstate, (k.channel, p) :: ps, ?_, .cons ⟨rfl, hp⟩ hall⟩
    rw [run_cons, hps, hhanded, List.append_assoc]
    rfl

-- An activation for the controller, its clock, and a command with the most data there can be for a
-- node.
private def threeCommands : List Command :=
  let a : Fin 6 := ⟨0, Nat.zero_lt_succ _⟩
  let b : Fin 6 := ⟨1, Nat.succ_lt_succ (Nat.zero_lt_succ _)⟩
  [⟨a, 0, RADIO_CMD_ACTIVATE, [0, 1, 0], Nat.le_of_ble_eq_true rfl⟩,
    ⟨a, 1, RADIO_CMD_SET_TIME, [11, 183, 0], Nat.le_of_ble_eq_true rfl⟩,
    ⟨b, 255, 20, [0, 9, 10, 99, 100, 255, 1, 2, 3, 4], Nat.le_of_ble_eq_true rfl⟩]

-- A controller that has just been started, with a radio that answers.
private def freshController : Ctl Nat :=
  Ctl.start (.scripted fun _ _ ↦ SI4463_STATE_READY) 0 (fun _ ↦ 0) 0

/-- All three arrive. -/
theorem commands_received_three :
    ∃ ps, (Ctl.feed (.scripted fun _ _ ↦ SI4463_STATE_READY) freshController
        (threeCommands.flatMap Command.line)).handed = freshController.handed ++ ps ∧
      List.Forall₂ (fun k cp ↦ cp.1 = k.channel ∧ k.CarriedBy cp.2) threeCommands ps :=
  (commands_received (.scripted fun _ _ ↦ SI4463_STATE_READY) (s := freshController) rfl
    threeCommands (by decide +kernel)).2.2

end Lrmon
end Libradio
