import Libradio.Client.Answer
import Libradio.Control.ResponseLabel
import Libradio.Lrmon.Command

/-!
# The channel that lrmond asks a client to answer on

`request_client_status` asks for a response on channel 1, whatever channel the request goes out
on (`src/lrmon/command.c:95-99`). The controller listens where it has sent the request.
-/

namespace Libradio
open Libradio.Base

namespace Lrmon

variable {σ τ : Type}

/-- The packet of a request, as the client gets it, asks for a response on channel 1. -/
theorem channel_requestClientStatus {c : Fin 6} {node type : Nat} {l : CommandLine}
    {p : Packet.Content} {q : Packet} (hline : l.text = requestClientStatus c.val node type)
    (hwrites : l.Writes p) (hreaches : p.Reaches q) : dataByte q.data 0 = 1 := by
  have htext := sendCommand_eq_text c node RADIO_CMD_STATUS.toNat [1, 1, type] (by simp)
  obtain rfl := CommandLine.text_inj (hline.trans htext)
  obtain ⟨-, -, hlen, hdata⟩ := fields_of_writes hwrites
  obtain ⟨-, -, hbytes⟩ := hreaches.fields
  have hfirst : 0 < p.len.toNat := by
    rw [hlen]
    exact (by decide : 0 < (UInt8.ofNat 3).toNat)
  rw [hbytes 0 hfirst, hdata 0 1 rfl]
  rfl

/-- A status request is sent on channel `c`, and reaches a client. The client answers, if it
does, on the channel on which the controller listens for the response, exactly if `c` is
channel 1. -/
theorem response_channel_iff {b : Board σ} {channel : σ → UInt8} {listens : σ → Prop}
    (hb : b.Tunes channel listens) {s t u : Ctl σ} {c : Fin 6} {node type : Nat} {l : CommandLine}
    {p : Packet.Content} {between inSend : Nat} {acts : List Ctl.Act}
    (hline : l.text = requestClientStatus c.val node type) (hwrites : l.Writes p)
    (ht : t = Ctl.step b s (.check between inSend))
    (hsend : Ctl.sendingOf s t = some ⟨c, .txrespond, p, true⟩)
    (hu : u = run (Ctl.step b) t acts)
    (hwait : Along (Ctl.step b) (fun s a ↦ (Ctl.step b s a).respChp = some c) t acts)
    {bc : Board τ} {app : App (Logged τ)} (happ : app.LeavesRadio Silent) {fuel ticks : Nat}
    {d : Dev (Logged τ)} (hreaches : p.Reaches (received bc.logged d)) {x : UInt8}
    (hsent : Transmitted x d.chip (libradioHandlePacket bc.logged app fuel ticks d).chip) :
    x = channel u.dev.chip ↔ c = 1 := by
  have hx : x = 1 := by
    rw [(sendsOn_libradioHandlePacket bc happ fuel ticks d).eq hsent]
    exact channel_requestClientStatus hline hwrites hreaches
  obtain ⟨hair, -⟩ := Ctl.onAir_awaiting hb ht hsend hu hwait
  have hone : (1 : UInt8) = UInt8.ofNat c.val ↔ c = 1 := by
    clear hline hsend hwait hair
    revert c
    decide
  rw [hx, hair.tuned]
  exact hone

-- The packet that a request for status 0 of node 7 is read into.
private def statusRequest : Packet.Content :=
  ⟨7, RADIO_CMD_STATUS, 3, .ofFn fun i ↦ if i.val < 2 then 1 else 0⟩

private theorem writes_statusRequest (c : Fin 6) {h : [1, 1, 0].length ≤ 10} :
    (commandLine c 7 RADIO_CMD_STATUS.toNat [1, 1, 0] h).Writes statusRequest := by
  have hdata : statusRequest.data.toList.take 3 = [1, 1, 0] := by decide
  constructor
  · simp [commandLine, number, statusRequest, decimal_digits]
  · simp [commandLine, number, statusRequest, decimal_digits]
  · simp [commandLine, statusRequest]
  · have htake : statusRequest.data.toList.take [digits 1, digits 1, digits 0].length =
        [digits 1, digits 1, digits 0].map number := by
      rw [List.map_cons, List.map_cons, List.map_singleton, number, number, decimal_digits,
        decimal_digits]
      exact hdata
    exact htake

-- The controller is activated as node 1 and has read the request on channel `c`.
private def requesting (c : Fin 6) : Ctl Ctl.Tuner :=
  run (Ctl.step Ctl.tunerRadio) (Ctl.start Ctl.tunerRadio ⟨0, false⟩ (fun _ ↦ 0) 0)
    ((characters ">A0:3:0,1,0.\n" ++ header c (characters "7") ++ characters "2:1,1,0.").map .input)

-- A radio that is always ready and receives an activation as node 7 and then the request.
private def clientRadio : Board Nat :=
  { Client.feed [Client.activation ⟨1, 2, 3, 4⟩ 0 7,
      ⟨0, 7, RADIO_CMD_STATUS, 3, 0, statusRequest.data⟩] true with
    exchange := fun k cmd _ ↦ (k, .ok (Vector.ofFn fun _ ↦
      if cmd.head? = some SI4463_REQUEST_DEVICE_STATE then SI4463_STATE_READY else 16)) }

-- The client, active as node 7.
private def activeClient : Dev (Logged Nat) :=
  run (Client.step clientRadio.logged (Client.reportingApp 2) 0)
    (Client.start clientRadio.logged ⟨1, 2, 3, 4⟩ 0 0 (Client.powerOn ⟨0, []⟩)) Client.hear

private theorem sent_activeClient : Transmitted 1 activeClient.chip
    (libradioHandlePacket clientRadio.logged (Client.reportingApp 2) 0 0 activeClient).chip :=
  ⟨(libradioHandlePacket clientRadio.logged (Client.reportingApp 2) 0 0
    activeClient).chip.log.take 9, by decide +kernel, by decide +kernel⟩

/-- A request on channel B: the answer comes on channel B. -/
theorem response_channel_agrees_on_b :
    (1 : UInt8) = (Ctl.step Ctl.tunerRadio (requesting 1) (.check 0 0)).dev.chip.channel :=
  (response_channel_iff Ctl.tunes_tunerRadio (sendCommand_eq_text 1 7 _ [1, 1, 0] (by simp)).symm
    (writes_statusRequest 1) rfl (by decide +kernel) (run_nil _ _).symm trivial
    (Client.leavesRadio_reportingApp 2) (by decide +kernel) sent_activeClient).mpr rfl

/-- A request on channel A: the answer comes on channel B, and the controller listens on
channel A. -/
theorem response_on_other_channel :
    (∃ l : CommandLine, l.text = requestClientStatus 0 7 0 ∧ l.Writes statusRequest) ∧
      Ctl.sendingOf (requesting 0) (Ctl.step Ctl.tunerRadio (requesting 0) (.check 0 0)) =
        some ⟨0, .txrespond, statusRequest, true⟩ ∧
      (Ctl.step Ctl.tunerRadio (requesting 0) (.check 0 0)).respChp = some 0 ∧
      (Ctl.step Ctl.tunerRadio (requesting 0) (.check 0 0)).dev.chip.channel = 0 ∧
      statusRequest.Reaches (received clientRadio.logged activeClient) ∧
      Transmitted 1 activeClient.chip
        (libradioHandlePacket clientRadio.logged (Client.reportingApp 2) 0 0 activeClient).chip :=
  ⟨⟨_, (sendCommand_eq_text 0 7 _ [1, 1, 0] (by simp)).symm, writes_statusRequest 0⟩,
    by decide +kernel, by decide +kernel, by decide +kernel, by decide +kernel, sent_activeClient⟩

end Lrmon
end Libradio
