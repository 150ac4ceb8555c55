import Libradio.Client.Answer
import Libradio.Control.Execution
import Libradio.Control.IdlePriority

/-!
# Which packets are answered

The controller waits for a response to a packet that waited in TXRESPOND for its transmission:
`enqueue` decides that by the command alone (`src/control/enqueue.c:82-85`). The client decides
by the command, its length, its own state, and what there is to say. The two are compared for
every packet of a line that a run transmits.
-/

namespace Libradio
open Libradio.Base

variable {σ τ : Type}

/-- After a send that succeeds the last thing the radio was told is the START_TX. -/
theorem log_libradioSend (b : Board σ) {ticks : Nat} {d : Dev (Logged σ)} {chp : Channel}
    {channo : UInt8} (hok : (libradioSend b.logged ticks d chp channo).ok = true) :
    (libradioSend b.logged ticks d chp channo).dev.chip.log.head? =
      some (.command (startTx chp.state channo)) := by
  unfold libradioSend at hok ⊢
  dsimp only at hok ⊢
  split at hok
  · next hup =>
    rw [if_pos hup]
    split at hok
    · cases hok
    · next hfree =>
      rw [if_neg hfree]
      split at hok
      · next hroom =>
        rw [if_pos hroom]
        generalize (libradioCheckTx b.logged _).1 = e at hok ⊢
        unfold transmitFrame at hok ⊢
        dsimp only at hok ⊢
        split at hok
        · next hload =>
          rw [if_pos hload]
          split at hok
          · next w v heq =>
            have hlog := congrArg (fun x ↦ x.1.log.head?) heq
            exact hlog.symm
          · cases hok
        · next hload => exact absurd hok hload
      · cases hok
  · cases hok

namespace Ctl

/-! ### The controller's side -/

/-- What is queued in a channel as the packet of a line has been left by the parser, and is in
the state that its command asks for. -/
def QueueInv (s : Ctl σ) (d : Fin 6) : Prop :=
  (s.chan d).state.IsQueued → s.respChp ≠ some d → ∀ p, loaded d s.hist = some (.line p) →
    ¬ Assembles s d ∧ p = (s.chan d).packet.content ∧
      ((s.chan d).state = .txrespond ↔ p.cmd = RADIO_CMD_STATUS)

/-- A channel in which nothing is queued. -/
theorem QueueInv.of_not_isQueued {s : Ctl σ} {d : Fin 6} (h : ¬ (s.chan d).state.IsQueued) :
    QueueInv s d := fun hq ↦ absurd hq h

/-- Nothing has happened to what is queued in the channel. -/
theorem QueueInv.of_same {s s' : Ctl σ} {d : Fin 6} (h : QueueInv s d)
    (state : (s'.chan d).state = (s.chan d).state)
    (content : (s'.chan d).packet.content = (s.chan d).packet.content)
    (resp : s'.respChp = some d ↔ s.respChp = some d) (asm : Assembles s' d → Assembles s d)
    (load : loaded d s'.hist = loaded d s.hist) : QueueInv s' d := by
  intro hq hne p hp
  rw [state] at hq ⊢
  rw [load] at hp
  obtain ⟨hasm, hcontent, hstate⟩ := h hq (fun hs ↦ hne (resp.mpr hs)) p hp
  exact ⟨fun ha ↦ hasm (asm ha), hcontent.trans content.symm, hstate⟩

/-- One action keeps the queue's invariant. -/
theorem queueInv_step (b : Board σ) (s : Ctl σ) (a : Act) (d : Fin 6) (h : QueueInv s d) :
    QueueInv (step b s a) d := by
  have hunqueued {st : ChState} (state : ((step b s a).chan d).state = st) (hst : ¬ st.IsQueued) :
      QueueInv (step b s a) d := .of_not_isQueued (state ▸ hst)
  cases chanEffect_step b s a d with
  | same state content resp asm track =>
    exact h.of_same state content resp asm.mp (by rw [loaded_of_track track, loaded_track])
  | claimed free state resp before after track => exact hunqueued state (by decide)
  | edited before after state resp track =>
    intro hq hne p hp
    rw [state] at hq
    rw [loaded_of_track track, loaded_track] at hp
    exact absurd before (h hq (fun hs ↦ hne (resp.mpr hs)) p hp).1
  | left ch act leaves before after state content resp track =>
    exact h.of_same state content resp (fun ha ↦ absurd ha.1 after)
      (by rw [loaded_of_track track, loaded_track])
  | released p config before after state resp config_set track =>
    exact hunqueued state (by decide)
  | queued ch p act queues before after state content resp track =>
    intro _ _ q hq
    rw [loaded_of_track track, loaded_cons, Load.after_ack, if_pos rfl] at hq
    cases hq
    subst act
    refine ⟨fun ha ↦ after ha.1, content.symm, ?_⟩
    change ((processInput b ch s).chan d).state = .txrespond ↔ _
    rw [state_of_queues b queues]
    split
    · next hcmd => exact iff_of_true rfl hcmd
    · next hcmd => exact iff_of_false nofun hcmd
  | configured ch config act configures before after state content resp track =>
    rcases ChState.getD_ofConfig_cases config (s.chan d).state with ⟨-, hle⟩ | ⟨hge, hsame⟩
    · rw [← state] at hle
      exact .of_not_isQueued (ChState.not_isQueued_of_le (Nat.le_trans hle (by decide)))
    · refine h.of_same (state.trans hsame) content resp (fun ha ↦ absurd ha.1 after) ?_
      rw [loaded_of_track track, loaded_cons, Load.after_setChannel, if_neg fun hc ↦ hge hc.2,
        loaded_track]
  | waited act before early state resp asm track =>
    intro _ hne
    exact absurd resp hne
  | ended act before ends state resp asm track => exact hunqueued state (by decide)
  | built between inSend p ok act free due empty state content resp asm track =>
    cases ok with
    | true => exact hunqueued state (by decide)
    | false =>
      intro _ _ q hq
      rw [loaded_of_track track, loaded_cons, Load.after_send,
        if_neg fun hc ↦ Bool.false_ne_true hc.2, loaded_cons, Load.after_slot, if_pos rfl] at hq
      cases hq
  | sent between inSend ok act free busy adding state content resp asm track =>
    cases ok with
    | true =>
      rw [if_pos rfl] at state
      split at state
      · exact hunqueued state (by decide)
      · exact hunqueued state (by decide)
    | false =>
      have hresp : (step b s a).respChp = some d ↔ s.respChp = some d :=
        iff_of_false (fun hs ↦ Bool.false_ne_true (resp.mp hs).1) (by rw [free]; simp)
      refine h.of_same state content hresp asm.mp ?_
      rw [loaded_of_track track, loaded_cons, Load.after_send,
        if_neg fun hc ↦ Bool.false_ne_true hc.2, loaded_track]
  | reset state resp after track => exact hunqueued state (by decide)

/-- A started controller has nothing queued. -/
theorem queueInv_start (b : Board σ) (chip : σ) (eeprom : UInt16 → UInt8) (beyondData : UInt8)
    (d : Fin 6) : QueueInv (start b chip eeprom beyondData) d := by
  obtain ⟨hst, -⟩ := chan_start b chip eeprom beyondData d
  apply QueueInv.of_not_isQueued
  rw [hst]
  decide

/-- The step has transmitted the packet `p` that a line has queued in channel `c`. -/
def TransmitsQueued (s s' : Ctl σ) (c : Fin 6) (p : Packet.Content) : Prop :=
  ∃ st before, RecordsSend s s' c st p true before ∧ st.IsQueued ∧
    loaded c before = some (.line p)

/-- The controller waits for a response on channel `c`, and the last thing its radio was told is
a transmission on channel `c` with RX after it. -/
def AwaitsResponse (c : Fin 6) (s : Ctl (Logged σ)) : Prop :=
  s.respChp = some c ∧ s.dev.chip.log.head? =
    some (.command [SI4463_START_TX, UInt8.ofNat c.val, SI4463_STATE_RX <<< 4, 0, 16])

instance (c : Fin 6) (s : Ctl (Logged σ)) : Decidable (AwaitsResponse c s) :=
  inferInstanceAs (Decidable (_ ∧ _))

/-- A response is awaited exactly for a packet that was queued as a request. -/
theorem awaits_iff_txrespond (b : Board σ) {s : Ctl (Logged σ)} {between inSend : Nat} {c : Fin 6}
    {st : ChState} {p : Packet.Content} {before : List Obs}
    (h : RecordsSend s (step b.logged s (.check between inSend)) c st p true before)
    (hst : st.IsQueued) :
    AwaitsResponse c (step b.logged s (.check between inSend)) ↔ st = .txrespond := by
  obtain ⟨hhist, e, hsuf⟩ := h
  obtain ⟨u, hfrom⟩ := sendsFrom_of_sending b.logged
    (sendingOf_of_send (e := e) (by rw [hsuf]; exact hhist))
  have hlog := log_libradioSend b hfrom.ok
  have hdev : (step b.logged s (.check between inSend)).dev.chip.log.head? =
      some (.command (startTx st (UInt8.ofNat c.val))) := by
    have hok := hfrom.ok
    have hstate : (u.chan c).state = st := hfrom.state
    rw [hfrom.dev, ← hstate]
    unfold sendOn
    dsimp only
    generalize libradioSend b.logged inSend u.dev (u.chan c) (UInt8.ofNat c.val) = r
      at hlog hok ⊢
    rw [if_pos hok]
    unfold sentOn
    split <;> exact hlog
  have hresp : (step b.logged s (.check between inSend)).respChp =
      if st = .txrespond then some c else none := by
    rw [step] at hhist ⊢
    cases effect_check b.logged between inSend s with
    | idle closed chan respChp parser hist =>
      have := congrArg List.length (hist.symm.trans hhist)
      rw [← hsuf, List.length_cons, List.length_append] at this
      omega
    | sent d st' q ok before' none source hist own packet others respChp parser =>
      cases hist.symm.trans hhist
      rw [respChp]
      simp only [true_and]
  unfold AwaitsResponse
  rw [hdev, hresp]
  rcases hst with rfl | rfl
  · refine iff_of_false (fun hc ↦ ?_) (by decide)
    have hstate := hc.1
    cases hstate
  · exact iff_of_true ⟨rfl, rfl⟩ rfl

/-- A packet of a line is transmitted in the state that its command asks for. -/
theorem txrespond_iff_of_transmits {b : Board σ} {s : Ctl σ} {a : Act} {c : Fin 6} {st : ChState}
    {p : Packet.Content} {before : List Obs} (h : ∀ d, QueueInv s d)
    (hrec : RecordsSend s (step b s a) c st p true before) (hst : st.IsQueued)
    (hload : loaded c before = some (.line p)) :
    st = .txrespond ↔ p.cmd = RADIO_CMD_STATUS := by
  obtain ⟨between, inSend, -, free, source⟩ := sent_of_recordsSend b hrec
  have hne : s.respChp ≠ some c := by rw [free]; simp
  cases source with
  | built due empty state hist =>
    rw [hist, loaded_cons, Load.after_slot, if_pos rfl] at hload
    cases hload
  | found due busy state packet hist =>
    rw [hist] at hload
    rw [state] at hst ⊢
    exact (h c hst hne p hload).2.2
  | picked due ready state packet hist =>
    rw [hist] at hload
    rw [state] at hst ⊢
    exact (h c hst hne p hload).2.2

end Ctl

/-! ### Both sides -/

/-- The packet is a STATUS that the client answers, or another one that it does not answer: a
READ_EEPROM of the right length for a response that fits a packet is neither. -/
def Expected (app : App σ) (p : Packet) (d : Dev σ) : Prop :=
  (p.cmd = RADIO_CMD_STATUS → LIBRADIO_STATE_ACTIVE ≤ d.radio.state ∧ p.len = 3 ∧
      0 < (app.fetchStatus (dataByte p.data 2) d).2 ∧
      UInt8.ofNat (app.fetchStatus (dataByte p.data 2) d).2 ≤ 10) ∧
    (p.cmd = RADIO_CMD_READ_EEPROM →
      ¬ (LIBRADIO_STATE_ACTIVE ≤ d.radio.state ∧ p.len = 4 ∧ dataByte p.data 1 ≤ 10))

instance (app : App σ) (p : Packet) (d : Dev σ) : Decidable (Expected app p d) :=
  inferInstanceAs (Decidable (_ ∧ _))

private theorem expected_iff (app : App σ) (p : Packet) (d : Dev σ) :
    (p.cmd = RADIO_CMD_STATUS ↔ Solicits app p d) ↔ Expected app p d := by
  have hne : RADIO_CMD_READ_EEPROM ≠ RADIO_CMD_STATUS := by decide
  unfold Solicits Expected
  constructor
  · intro h
    constructor
    · intro hcmd
      obtain ⟨hactive, ⟨-, hlen, hsome, hfits⟩ | ⟨hread, -⟩⟩ := h.mp hcmd
      · exact ⟨hactive, hlen, hsome, hfits⟩
      · exact absurd (hread.symm.trans hcmd) hne
    · rintro hread ⟨hactive, hlen, hfits⟩
      exact hne (hread.symm.trans (h.mpr ⟨hactive, .inr ⟨hread, hlen, hfits⟩⟩))
  · rintro ⟨hstatus, hread⟩
    constructor
    · intro hcmd
      obtain ⟨hactive, hrest⟩ := hstatus hcmd
      exact ⟨hactive, .inl ⟨hcmd, hrest⟩⟩
    · rintro ⟨hactive, ⟨hcmd, -⟩ | ⟨hcmd, hlen, hfits⟩⟩
      · exact hcmd
      · exact absurd ⟨hactive, hlen, hfits⟩ (hread hcmd)

namespace Ctl

/-- A packet of a line is transmitted in some run of the controller and reaches a client. That the
controller waits for a response is the same as that the client transmits one, exactly if the
packet is a STATUS that the client answers or another one that it does not answer. -/
theorem awaits_iff_answered (b : Board σ) (chip : Logged σ) (eeprom : UInt16 → UInt8)
    (beyondData : UInt8) (acts : List Act) {s t : Ctl (Logged σ)} {between inSend : Nat}
    {c : Fin 6} {p : Packet.Content}
    (hs : s = run (step b.logged) (start b.logged chip eeprom beyondData) acts)
    (ht : t = step b.logged s (.check between inSend)) (hp : TransmitsQueued s t c p)
    {bc : Board τ} (hbc : bc.Willing) {app : App (Logged τ)} (happ : app.LeavesRadio Silent)
    (fuel : Nat) {q : Packet} (hq : p.Reaches q) (d : Dev (Logged τ)) :
    (AwaitsResponse c t ↔
        ∃ x, Transmitted x d.chip (libradioCommand bc.logged app fuel q d).chip) ↔
      Expected app q d := by
  have hinv : ∀ d, QueueInv s d := by
    rw [hs]
    exact run_inv_of_step (step b.logged) (I := fun s ↦ ∀ d, QueueInv s d)
      (fun s a hs d ↦ queueInv_step b.logged s a d (hs d)) acts
      (queueInv_start b.logged chip eeprom beyondData)
  obtain ⟨st, before, hrec, hst, hload⟩ := hp
  rw [ht] at hrec ⊢
  have hawaits := (awaits_iff_txrespond b hrec hst).trans
    (txrespond_iff_of_transmits hinv hrec hst hload)
  rw [← hq.fields.1] at hawaits
  rw [hawaits, transmitted_libradioCommand_iff hbc happ fuel q d]
  exact expected_iff app q d

private theorem willing_readyBoard : readyBoard.Willing where
  takes _ _ _ := ⟨_, _, rfl⟩
  ready heq := by
    cases heq
    exact .inl rfl
  room heq := by
    cases heq
    show (16 : UInt8) ≤ 64
    decide

-- The controller is activated as node 1, and has read a line for node 7.
private def lineRead (line : String) : Ctl (Logged Nat) :=
  run (step readyBoard.logged) (start readyBoard.logged ⟨0, []⟩ (fun _ ↦ 0) 0)
    ((characters (">A0:3:0,1,0.\n>A7:" ++ line)).map .input)

-- A client that was activated as node 7.
private def client : Dev (Logged Nat) :=
  libradioCommand readyBoard.logged (Client.reportingApp 2) 0
    (Client.activation ⟨1, 2, 3, 4⟩ 0 7)
    (Client.start readyBoard.logged ⟨1, 2, 3, 4⟩ 0 0 (Client.powerOn ⟨0, []⟩))

-- The packet as the client gets it.
private def arrived (p : Packet.Content) : Packet := ⟨0, p.node, p.cmd, p.len, 0, p.data⟩

-- A request for status 0, and one for four bytes of the EEPROM.
private def statusLine : Packet.Content :=
  ⟨7, RADIO_CMD_STATUS, 3, #v[0, 1, 0, 0, 0, 0, 0, 0, 0, 0]⟩

private def eepromLine : Packet.Content :=
  ⟨7, RADIO_CMD_READ_EEPROM, 4, #v[0, 4, 0, 0, 0, 0, 0, 0, 0, 0]⟩

private theorem transmitsQueued_of_send {s t : Ctl (Logged Nat)} (st : ChState)
    (p : Packet.Content) (hist : t.hist = .send 0 st p true :: s.hist) (hst : st.IsQueued)
    (hload : loaded 0 s.hist = some (.line p)) : TransmitsQueued s t 0 p :=
  ⟨st, s.hist, ⟨hist, List.suffix_rfl⟩, hst, hload⟩

/-- A STATUS request is answered, and the controller waits for the answer. -/
theorem awaits_status :
    AwaitsResponse 0 (step readyBoard.logged (lineRead "2:0,1,0.") (.check 0 0)) ↔
      ∃ x, Transmitted x client.chip (libradioCommand readyBoard.logged (Client.reportingApp 2) 0
        (arrived statusLine) client).chip :=
  (awaits_iff_answered readyBoard ⟨0, []⟩ (fun _ ↦ 0) 0 _ rfl rfl
    (transmitsQueued_of_send .txrespond statusLine (by decide +kernel) (.inr rfl)
      (by decide +kernel))
    willing_readyBoard (Client.leavesRadio_reportingApp 2) 0 (by decide +kernel) client).mpr
    (by decide +kernel)

/-- A READ_EEPROM is answered, too, but the controller does not wait for the answer. -/
theorem eeprom_not_awaited :
    TransmitsQueued (lineRead "7:0,4,0,0.")
        (step readyBoard.logged (lineRead "7:0,4,0,0.") (.check 0 0)) 0 eepromLine ∧
      eepromLine.Reaches (arrived eepromLine) ∧
      ¬ (AwaitsResponse 0 (step readyBoard.logged (lineRead "7:0,4,0,0.") (.check 0 0)) ↔
        ∃ x, Transmitted x client.chip (libradioCommand readyBoard.logged (Client.reportingApp 2) 0
          (arrived eepromLine) client).chip) := by
  have hsolicits : Solicits (Client.reportingApp 2) (arrived eepromLine) client := by
    decide +kernel
  have hsent := (transmitted_libradioCommand_iff willing_readyBoard
    (Client.leavesRadio_reportingApp 2) 0 (arrived eepromLine) client).mpr hsolicits
  refine ⟨transmitsQueued_of_send .transmit eepromLine (by decide +kernel) (.inl rfl)
    (by decide +kernel), by decide +kernel, fun h ↦ ?_⟩
  have hawaits := h.mpr hsent
  revert hawaits
  decide +kernel

end Ctl
end Libradio
