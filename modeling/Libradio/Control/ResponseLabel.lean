import Libradio.Client.Commands
import Libradio.Control.Execution
import Libradio.Control.IdlePriority
import Libradio.Control.Priority
import Libradio.Lib.Tuner

/-!
# The channel and the node a response is labelled with

`txresponse` prints the saved channel of the radio and the node of the packet buffer
(`src/control/response.c:62-66`). The saved channel is the one the radio was on before the
START_TX of the request, since `libradio_send` asks for it first and START_TX does not set it;
after the response the radio goes back to RX on that channel.
-/

namespace Libradio
open Libradio.Base

namespace Ctl

variable {σ : Type} {b : Board σ} {channel : σ → UInt8} {listens : σ → Prop} {k channo : UInt8}

/-! ### Characters -/

-- Of the commands that the controller passes on to the library, none reaches the radio.
private theorem onAir_libradioCommand {p : Packet} {d : Dev σ} (cmd : IsLibraryCommand p.cmd)
    (h : d.OnAir channel k channo) : (libradioCommand b app 0 p d).OnAir channel k channo := by
  cases passed_libradioCommand b d cmd with
  | nothing deact eq =>
    rw [eq]
    exact h
  | deactivated deact eq =>
    obtain ⟨hactive, hsaved⟩ := libradioSetState_keeps LIBRADIO_STATE_WARM
      { d.radio with myChannel := 0, myNodeId := 0 }
    rw [eq]
    exact h.of_eq hactive hsaved rfl
  | setDate cmd eq =>
    rw [eq]
    exact h.of_eq rfl rfl rfl
  | writeEeprom cmd eeprom eq =>
    rw [eq]
    exact h.of_eq rfl rfl rfl

section Characters

variable (hb : b.Tunes channel listens)

include hb

private theorem onAir_localStatus (stype : UInt8) {s : Ctl σ} (h : s.dev.OnAir channel k channo) :
    (localStatus b stype s).dev.OnAir channel k channo := by
  unfold localStatus
  dsimp only
  split
  · exact h.of_eq rfl rfl (hb.analogRead s.dev.chip 3)
  · exact h.of_eq rfl rfl rfl

/-- A command of the controller's own finds the radio powered up. -/
theorem onAir_mycommand (p : Packet) {s : Ctl σ} (h : s.dev.OnAir channel k channo) :
    (mycommand b p s).1.dev.OnAir channel k channo := by
  cases obeyed_mycommand b p s with
  | passed cmd eq =>
    rw [eq]
    exact onAir_libradioCommand cmd h
  | ignored config code eq =>
    rw [eq]
    exact h
  | activated cmd len eq =>
    rw [eq]
    unfold activate libradioPowerUp
    dsimp only
    rw [if_pos h.active, if_pos rfl]
    obtain ⟨hactive, hsaved⟩ := libradioSetState_keeps LIBRADIO_STATE_ACTIVE
      { s.dev.radio with myChannel := dataByte p.data 0, myNodeId := dataByte p.data 1 }
    exact h.of_eq hactive hsaved rfl
  | setTime cmd len eq =>
    rw [eq]
    exact h.of_eq rfl rfl rfl
  | status cmd len eq =>
    rw [eq]
    exact onAir_localStatus hb _ h
  | readEeprom cmd len eq =>
    rw [eq]
    exact h
  | configured c config of eq =>
    rw [eq]
    exact h

private theorem onAir_enqueue (c : Fin 6) {s : Ctl σ} (h : s.dev.OnAir channel k channo) :
    (enqueue b c s).dev.OnAir channel k channo := by
  by_cases hown : IsLocal s.dev.radio (s.chan c).packet.content
  · have hexec : (executing c s).dev.OnAir channel k channo := h
    rw [dev_enqueue_of_isLocal b hown]
    exact onAir_mycommand hb _ hexec
  · have hother : ¬ IsLocal ((s.note (.handed c (s.chan c).packet.content)).setState c
        .transmit).dev.radio (s.chan c).packet.content := hown
    unfold enqueue
    dsimp only
    rw [if_neg hother]
    split <;> exact h

/-- A character that does not restart the program. -/
theorem onAir_processInput {ch : UInt8} {s : Ctl σ} (hrestart : ¬ Restarts s ch)
    (h : s.dev.OnAir channel k channo) : (processInput b ch s).dev.OnAir channel k channo := by
  have hnoted : (s.note (.input ch)).dev.OnAir channel k channo := h
  have hstate : (s.note (.input ch)).state = s.state := rfl
  unfold processInput
  dsimp only
  generalize s.note (.input ch) = t at hnoted hstate
  split
  · split
    · exact onAir_enqueue hb t.currChp hnoted
    · exact hnoted
  · split
    · split <;> exact hnoted
    · exact hnoted
    · next hchan =>
      have hno : ch ≠ chR := fun hr ↦ hrestart ⟨hstate.symm.trans hchan, hr⟩
      unfold inputChan
      split
      · unfold claimChannel
        dsimp only
        split
        · split <;> exact hnoted
        · exact hnoted
      · split
        · exact onAir_localStatus hb (ch - chS) hnoted
        · exact hnoted
    · unfold inputNode
      split
      · exact hnoted
      · split <;> exact hnoted
    · unfold inputCmd
      split
      · exact hnoted
      · split
        · exact hnoted
        · split
          · have hfilled : (storeCmd t).dev.OnAir channel k channo := hnoted
            exact onAir_enqueue hb t.currChp hfilled
          · exact hnoted
    · unfold inputData
      split
      · exact hnoted
      · split
        · split
          · exact hnoted
          · split
            · have hfilled : (storeData t).dev.OnAir channel k channo := hnoted
              exact onAir_enqueue hb t.currChp hfilled
            · exact hnoted
        · exact hnoted

end Characters

/-! ### The wait -/

section Wait

variable (hb : b.Tunes channel listens) {s : Ctl σ} {c : Fin 6}

include hb

/-- A pass that sends leaves the radio on the channel of the packet, and the saved channel on the
one it was on before. -/
theorem onAir_check {between inSend : Nat} {x : Sending}
    (h : sendingOf s (step b s (.check between inSend)) = some x) (hok : x.ok = true) :
    (step b s (.check between inSend)).dev.OnAir channel (channel s.dev.chip)
      (UInt8.ofNat x.channel.val) := by
  obtain ⟨u, hfrom⟩ := sendsFrom_of_sending b h
  have hsent := hfrom.ok.trans hok
  have hair := onAir_libradioSend hb inSend (u.chan x.channel) hsent
  rw [hfrom.dev, ← hfrom.chip]
  unfold sendOn
  dsimp only
  generalize libradioSend b inSend u.dev (u.chan x.channel) (UInt8.ofNat x.channel.val) = r
    at hsent hair ⊢
  rw [if_pos hsent]
  unfold sentOn
  split
  · exact hair.of_eq rfl rfl rfl
  · exact hair

/-- While a response is awaited, nothing moves the radio. -/
theorem onAir_wait {a : Act} (h : s.dev.OnAir channel k channo) (hbefore : s.respChp = some c)
    (hafter : (step b s a).respChp = some c) : (step b s a).dev.OnAir channel k channo := by
  cases a with
  | tick =>
    dsimp only [step]
    exact onAir_clockticks 1 h
  | poll =>
    rw [step, poll, hbefore] at hafter ⊢
    dsimp only at hafter ⊢
    split at hafter
    · cases hafter
    · next hfew =>
      split at hafter
      · cases hafter
      · next hlast =>
        rw [if_neg hfew, if_neg hlast]
        exact onAir_libradioGetFifoInfo hb 0 h
  | input ch =>
    by_cases hrestart : Restarts s ch
    · rw [step, processInput_restart b hrestart, (boot_fresh b _).2.1] at hafter
      cases hafter
    · exact onAir_processInput hb hrestart h
  | check between inSend =>
    rw [step, check, if_neg (by rw [hbefore]; simp)]
    exact h

/-- What `txresponse` prints, if anything, and where it leaves the radio: on the saved
channel. -/
theorem label_txresponse (c : Fin 6) (h : s.dev.OnAir channel k channo) :
    ((txresponse b c s).out = s.out ∨ ∃ ticks cmd data, (txresponse b c s).out =
      s.out ++ [.report k (s.chan c).packet.node ticks cmd data]) ∧
      channel (txresponse b c s).dev.chip = k ∧ listens (txresponse b c s).dev.chip := by
  have hrecv := listens_libradioRecv hb h.active (c := k) (s.chan c).packet
  unfold txresponse
  rw [h.saved]
  dsimp only
  generalize libradioRecv b s.dev (s.chan c).packet k = r at hrecv ⊢
  split
  · exact ⟨.inr ⟨r.packet.ticks, r.packet.cmd, _, rfl⟩, hrecv⟩
  · exact ⟨.inl rfl, hrecv⟩

/-- A pass of the wait that prints a line. -/
theorem label_poll {l : Line} (h : s.dev.OnAir channel k channo) (hwaits : s.respChp = some c)
    (hl : (step b s .poll).out = s.out ++ [l]) :
    (∃ ticks cmd data, l = .report k (s.chan c).packet.node ticks cmd data) ∧
      channel (step b s .poll).dev.chip = k ∧ listens (step b s .poll).dev.chip := by
  have hquiet {t : Ctl σ} (hout : t.out = s.out) : t.out ≠ s.out ++ [l] := by
    rw [hout]
    simp
  rw [step] at hl ⊢
  unfold poll at hl ⊢
  split at hl
  · next hnone =>
    rw [hwaits] at hnone
    cases hnone
  · next d hsome =>
    obtain rfl : c = d := Option.some.inj (hwaits.symm.trans hsome)
    dsimp only at hl ⊢
    split at hl
    · next hmany =>
      rw [if_pos hmany]
      have hair : (libradioCheckRx b s.dev).1.OnAir channel k channo :=
        onAir_libradioGetFifoInfo hb 0 h
      obtain ⟨hout, hlabel⟩ :=
        label_txresponse hb (s := { s with dev := (libradioCheckRx b s.dev).1 }) c hair
      rcases hout with hout | ⟨ticks, cmd, data, hout⟩
      · exact absurd hl (hquiet hout)
      · refine ⟨⟨ticks, cmd, data, ?_⟩, hlabel⟩
        exact (List.cons.inj (List.append_cancel_left (hl.symm.trans hout))).1
    · split at hl
      · exact absurd hl (hquiet rfl)
      · exact absurd hl (hquiet rfl)

end Wait

/-- A request that has been sent is waited for. -/
theorem respChp_of_sending (b : Board σ) {s : Ctl σ} {c : Fin 6} {p : Packet.Content}
    {between inSend : Nat}
    (h : sendingOf s (step b s (.check between inSend)) = some ⟨c, .txrespond, p, true⟩) :
    (step b s (.check between inSend)).respChp = some c := by
  rw [step] at h ⊢
  cases effect_check b between inSend s with
  | idle closed chan respChp parser hist =>
    rw [sendingOf_of_quiet (e := []) hist rfl] at h
    cases h
  | sent d st q ok before none source hist own packet others respChp parser =>
    have hsome : sendingOf s (check b between inSend s) = some ⟨d, st, q, ok⟩ := by
      cases source with
      | built due empty state hist' => exact sendingOf_of_send (e := [_]) (hist' ▸ hist)
      | found due busy state packet' hist' => exact sendingOf_of_send (e := []) (hist' ▸ hist)
      | picked due ready state packet' hist' => exact sendingOf_of_send (e := []) (hist' ▸ hist)
    cases Option.some.inj (hsome.symm.trans h)
    rw [respChp, if_pos ⟨rfl, rfl⟩]

/-- From the request to the end of the wait the radio stays on the channel of the request. -/
theorem onAir_awaiting (hb : b.Tunes channel listens) {s t u : Ctl σ} {c : Fin 6}
    {p : Packet.Content} {between inSend : Nat} {acts : List Act}
    (ht : t = step b s (.check between inSend))
    (hsend : sendingOf s t = some ⟨c, .txrespond, p, true⟩) (hu : u = run (step b) t acts)
    (hwait : Along (step b) (fun s a ↦ (step b s a).respChp = some c) t acts) :
    u.dev.OnAir channel (channel s.dev.chip) (UInt8.ofNat c.val) ∧ u.respChp = some c := by
  rw [hu]
  apply run_inv (step b) (I := fun v ↦ v.dev.OnAir channel (channel s.dev.chip)
    (UInt8.ofNat c.val) ∧ v.respChp = some c) (G := fun v a ↦ (step b v a).respChp = some c)
  · rintro v a ⟨hv, hbefore⟩ hafter
    exact ⟨onAir_wait hb hv hbefore hafter, hafter⟩
  · rw [ht] at hsend ⊢
    exact ⟨onAir_check hb hsend rfl, respChp_of_sending b hsend⟩
  · exact hwait

/-- The line names channel `c` and the node, and the radio is in RX on channel `c`. -/
def Labelled (channel : σ → UInt8) (listens : σ → Prop) (c : Fin 6) (node : UInt8) (l : Line)
    (s : Ctl σ) : Prop :=
  (∃ ticks cmd data, l = .report (UInt8.ofNat c.val) node ticks cmd data) ∧
    channel s.dev.chip = UInt8.ofNat c.val ∧ listens s.dev.chip

/-- A STATUS request is sent on channel `c`, and its response comes in during the wait. The line
that is forwarded names channel `c` and the node of the request and the radio is left in RX on
channel `c` exactly if the radio was on channel `c` before the request was sent, and the packet
buffer still names the node when the response has come in. -/
theorem response_labelled_iff (hb : b.Tunes channel listens) {s t u : Ctl σ} {c : Fin 6}
    {p : Packet.Content} {between inSend : Nat} {acts : List Act} {l : Line}
    (ht : t = step b s (.check between inSend))
    (hsend : sendingOf s t = some ⟨c, .txrespond, p, true⟩) (hu : u = run (step b) t acts)
    (hwait : Along (step b) (fun s a ↦ (step b s a).respChp = some c) t acts)
    (hl : (step b u .poll).out = u.out ++ [l]) :
    Labelled channel listens c p.node l (step b u .poll) ↔
      channel s.dev.chip = UInt8.ofNat c.val ∧ (u.chan c).packet.node = p.node := by
  obtain ⟨hair, hheld⟩ := onAir_awaiting hb ht hsend hu hwait
  obtain ⟨⟨ticks, cmd, data, rfl⟩, hchannel, hlistens⟩ := label_poll hb hair hheld hl
  constructor
  · rintro ⟨⟨ticks', cmd', data', heq⟩, -, -⟩
    obtain ⟨hchan, hnode, -, -, -⟩ := Line.report.inj heq
    exact ⟨hchan, hnode⟩
  · rintro ⟨hsame, hnode⟩
    exact ⟨⟨ticks, cmd, data, by rw [hsame, hnode]⟩, hchannel.trans hsame, hlistens⟩

/-! ### A radio that does as it is told -/

/-- The channel of a radio and whether it is in RX. -/
structure Tuner where
  channel : UInt8
  inRx : Bool
  deriving DecidableEq, Repr

/-- What a command does to the tuner. -/
def Tuner.obey (w : Tuner) : List UInt8 → Tuner
  | cmd :: channel :: next :: _ =>
    if cmd = SI4463_START_TX then ⟨channel, next = SI4463_STATE_RX <<< 4⟩
    else if cmd = SI4463_START_RX then ⟨channel, true⟩
    else w
  | _ => w

/-- A radio that is always ready, has room for a packet, and has received the status response
`1, 7` of node 7. -/
def tunerRadio : Board Tuner where
  exchange w cmd _ := (w.obey cmd, .ok (Vector.ofFn fun i ↦
    if cmd.head? = some SI4463_REQUEST_DEVICE_STATE then
      (if i.val = 0 then (if w.inRx then SI4463_STATE_RX else SI4463_STATE_READY) else w.channel)
    else 64))
  writeTxFifo w _ := w
  readRxFifo w _ := (w, Vector.ofFn fun i ↦
    ([0, 0, 7, RADIO_STATUS_RESPONSE, 2, 10, 1, 7] : List UInt8)[i.val]?.getD 0)
  analogRead w _ := (w, 0)

/-- The tuner receives on the channel it was tuned to. -/
theorem tunes_tunerRadio : tunerRadio.Tunes Tuner.channel fun w ↦ w.inRx = true where
  keeps :=
    { refl := fun _ ↦ rfl
      trans := fun huv hvw ↦ hvw.trans huv
      exchange := fun w cmd n htx hrx ↦ by
        change (w.obey cmd).channel = w.channel
        unfold Tuner.obey
        split
        · next c channo next rest =>
          rw [if_neg fun h ↦ htx (by rw [h]; rfl), if_neg fun h ↦ hrx (by rw [h]; rfl)]
        · rfl
      readRxFifo := fun _ _ ↦ rfl }
  writeTxFifo _ _ := rfl
  analogRead _ _ := rfl
  startTx h := by
    obtain rfl := (Prod.mk.inj h).1
    rfl
  startRx _ _ := ⟨rfl, rfl⟩
  reports w := by
    refine ⟨_, _, rfl, rfl, fun h ↦ ?_⟩
    cases hrx : w.inRx with
    | true => exact hrx
    | false =>
      change (if w.inRx then SI4463_STATE_RX else SI4463_STATE_READY) = SI4463_STATE_RX at h
      rw [hrx] at h
      cases h

-- The controller is activated as node 1, gets the lines `before` and asks node 7 for its status on
-- channel A; the last dot has just been read.
private def asking (before : String) : Ctl Tuner :=
  run (step tunerRadio) (start tunerRadio ⟨0, false⟩ (fun _ ↦ 0) 0)
    (typed (">A0:3:0,1,0.\n" ++ before ++ ">A7:2:0,7,0") ++ [.poll, .input chDot])

-- The request that it sends.
private def request : Packet.Content :=
  ⟨7, RADIO_CMD_STATUS, 3, #v[0, 7, 0, 0, 0, 0, 0, 0, 0, 0]⟩

/-- Without a packet on another channel in between the response is labelled with channel A. -/
theorem labelled_on_one_channel :
    Labelled Tuner.channel (fun w ↦ w.inRx = true) 0 7 (.report 0 7 0 RADIO_STATUS_RESPONSE [1, 7])
      (step tunerRadio (step tunerRadio (asking "") (.check 0 0)) .poll) := by
  have hsend : sendingOf (asking "") (step tunerRadio (asking "") (.check 0 0)) =
      some ⟨0, .txrespond, request, true⟩ := by decide +kernel
  have hline : (step tunerRadio (step tunerRadio (asking "") (.check 0 0)) .poll).out =
      (step tunerRadio (asking "") (.check 0 0)).out ++
        [.report 0 7 0 RADIO_STATUS_RESPONSE [1, 7]] := by decide +kernel
  apply (response_labelled_iff tunes_tunerRadio rfl hsend (run_nil _ _).symm trivial hline).mpr
  decide +kernel

/-- After a packet on channel B the response to the request on channel A is labelled with
channel B, and the radio is left on channel B. -/
theorem labelled_with_last_channel :
    sendingOf (asking ">B7:0.\n") (step tunerRadio (asking ">B7:0.\n") (.check 0 0)) =
        some ⟨0, .txrespond, request, true⟩ ∧
      (step tunerRadio (step tunerRadio (asking ">B7:0.\n") (.check 0 0)) .poll).out =
        (step tunerRadio (asking ">B7:0.\n") (.check 0 0)).out ++
          [.report 1 7 0 RADIO_STATUS_RESPONSE [1, 7]] ∧
      ¬ Labelled Tuner.channel (fun w ↦ w.inRx = true) 0 7
        (.report 1 7 0 RADIO_STATUS_RESPONSE [1, 7])
        (step tunerRadio (step tunerRadio (asking ">B7:0.\n") (.check 0 0)) .poll) := by
  refine ⟨by decide +kernel, by decide +kernel, fun h ↦ ?_⟩
  have hchannel := h.2.1
  revert hchannel
  decide +kernel

end Ctl
end Libradio
