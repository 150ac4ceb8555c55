import Libradio.Control.History

/-!
# The priorities of the channels

The priority byte of a channel is set when a packet is queued or a time slot fills the channel,
cleared by a successful send, by SET_CHANNEL and by a start, and raised by the last loop of
`tx_check_queues`. What one action does to it can be read off the entries that the action adds
to the record.
-/

namespace Libradio
open Libradio.Base

/-- What an entry of the record does to the priority of channel `d`. -/
def Obs.rank (d : Fin 6) (o : Obs) (old : UInt8) : UInt8 :=
  match o with
  | .ack c _ => if c = d then Ctl.queuePriority d old else old
  | .setChannel c _ => if c = d then 0 else old
  | .slot c _ => if c = d then 0xff else old
  | .send c _ _ ok => if c = d ∧ ok then 0 else old
  | .reset => 0
  | _ => old

/-- The entry is a call of `libradio_send`. -/
def Obs.isSend : Obs → Bool
  | .send .. => true
  | _ => false

/-- The entry is a start of the program. -/
def Obs.isReset : Obs → Bool
  | .reset => true
  | _ => false

/-- A call of `libradio_send`: the channel, its state, the packet and the result. -/
structure Sending where
  channel : Fin 6
  state : ChState
  packet : Packet.Content
  ok : Bool
  deriving DecidableEq, Repr

/-- The call that an entry records. -/
def Obs.sending : Obs → Option Sending
  | .send c st p ok => some ⟨c, st, p, ok⟩
  | _ => none

section Entries

variable (c d : Fin 6) (p : Packet.Content) (old : UInt8)

/-- An acknowledgement gives its channel the priority of a queued packet. -/
@[simp] theorem Obs.rank_ack :
    (Obs.ack c p).rank d old = if c = d then Ctl.queuePriority d old else old := rfl

/-- A SET_CHANNEL takes the priority of its channel away. -/
@[simp] theorem Obs.rank_setChannel (config : UInt8) :
    (Obs.setChannel c config).rank d old = if c = d then 0 else old := rfl

/-- A time packet gets the highest priority. -/
@[simp] theorem Obs.rank_slot : (Obs.slot c p).rank d old = if c = d then 0xff else old := rfl

/-- A transmission that worked takes the priority of its channel away. -/
@[simp] theorem Obs.rank_send (st : ChState) (ok : Bool) :
    (Obs.send c st p ok).rank d old = if c = d ∧ ok then 0 else old := rfl

/-- A reset takes every priority away. -/
@[simp] theorem Obs.rank_reset : Obs.reset.rank d old = 0 := rfl

/-- A character leaves the priorities alone. -/
@[simp] theorem Obs.rank_input (ch : UInt8) : (Obs.input ch).rank d old = old := rfl

/-- So does a claim. -/
@[simp] theorem Obs.rank_claim : (Obs.claim c).rank d old = old := rfl

/-- So does handing a packet over. -/
@[simp] theorem Obs.rank_handed : (Obs.handed c p).rank d old = old := rfl

/-- So does executing a command. -/
@[simp] theorem Obs.rank_exec (code : UInt8) : (Obs.exec p code).rank d old = old := rfl

/-- So does releasing a channel. -/
@[simp] theorem Obs.rank_finish : (Obs.finish c).rank d old = old := rfl

/-- So does a look for a response. -/
@[simp] theorem Obs.rank_wait (st : ChState) : (Obs.wait c st).rank d old = old := rfl

end Entries

/-- Entries about other channels change nothing. -/
theorem Obs.rank_of_not_concerns {d : Fin 6} {o : Obs} (h : o.concerns d = false) (old : UInt8) :
    o.rank d old = old := by
  cases o with
  | reset => cases h
  | ack c p => rw [Obs.rank_ack, if_neg (by simpa [Obs.concerns] using h)]
  | slot c p => rw [Obs.rank_slot, if_neg (by simpa [Obs.concerns] using h)]
  | setChannel c config => rw [Obs.rank_setChannel, if_neg (by simpa [Obs.concerns] using h)]
  | send c st p ok =>
    have hcd : c ≠ d := by simpa [Obs.concerns] using h
    rw [Obs.rank_send, if_neg fun hc ↦ hcd hc.1]
  | _ => rfl

namespace Ctl

variable {σ : Type}

/-- The priority of a channel after the last loop of `tx_check_queues`,
`src/control/transmit.c:157-158`. -/
def agedPriority (st : ChState) (old : UInt8) : UInt8 :=
  if ChState.transmit.toNat ≤ st.toNat ∧ old < 0xfc then old + 2 else old

private theorem priority_age (chp : Channel) :
    (age chp).priority = agedPriority chp.state chp.priority := by
  unfold age agedPriority
  split <;> rfl

/-- Aging spares the channels that hold no packet. -/
theorem agedPriority_of_le {st : ChState} (h : st.toNat ≤ ChState.adding.toNat) (old : UInt8) :
    agedPriority st old = old :=
  if_neg fun hage ↦ absurd (Nat.le_trans hage.1 h) (by decide)

/-- The call of `libradio_send` that an action has recorded as its last entry. -/
def sendingOf (s s' : Ctl σ) : Option Sending :=
  if s.hist.length < s'.hist.length then s'.hist.head?.bind Obs.sending else none

/-- An action without a send. -/
theorem sendingOf_of_quiet {s s' : Ctl σ} {e : List Obs} (hist : s'.hist = e ++ s.hist)
    (hno : e.any Obs.isSend = false) : sendingOf s s' = none := by
  unfold sendingOf
  cases e with
  | nil =>
    rw [hist]
    exact if_neg (Nat.lt_irrefl _)
  | cons o e =>
    rw [hist, List.cons_append, List.head?_cons, Option.bind_some]
    split
    · cases o with
      | send c st p ok => cases hno
      | _ => rfl
    · rfl

/-- An action whose last entry is a send. -/
theorem sendingOf_of_send {s s' : Ctl σ} {c : Fin 6} {st : ChState} {p : Packet.Content}
    {ok : Bool} {e : List Obs} (hist : s'.hist = .send c st p ok :: (e ++ s.hist)) :
    sendingOf s s' = some ⟨c, st, p, ok⟩ := by
  have hlt : s.hist.length < s'.hist.length := by
    rw [hist, List.length_cons, List.length_append]
    omega
  rw [sendingOf, if_pos hlt, hist]
  rfl

/-- The pass from `s` to `s'` has called `libradio_send` as `x` says. The call starts from `u`:
by then the clock has been read, and a time slot may have filled the channel. -/
structure SendsFrom (b : Board σ) (ticks : Nat) (s s' : Ctl σ) (x : Sending) (u : Ctl σ) :
    Prop where
  chip : u.dev.chip = s.dev.chip
  state : (u.chan x.channel).state = x.state
  packet : (u.chan x.channel).packet.content = x.packet
  ok : (libradioSend b ticks u.dev (u.chan x.channel) (UInt8.ofNat x.channel.val)).ok = x.ok
  dev : s'.dev = (sendOn b ticks x.channel u).dev

private theorem sendsFrom_transmitOn (b : Board σ) (ticks : Nat) (c : Fin 6) {s t : Ctl σ}
    {e : List Obs} {x : Sending} (hist : t.hist = e ++ s.hist) (hno : e.any Obs.isSend = false)
    (chip : t.dev.chip = s.dev.chip) (h : sendingOf s (transmitOn b ticks c t) = some x) :
    SendsFrom b ticks s (transmitOn b ticks c t) x t := by
  unfold transmitOn at h ⊢
  split at h
  · rw [sendingOf_of_quiet hist hno] at h
    cases h
  · next hopen =>
    rw [if_neg hopen]
    have hsent : (sendOn b ticks c t).hist = .send c (t.chan c).state (t.chan c).packet.content
        (libradioSend b ticks t.dev (t.chan c) (UInt8.ofNat c.val)).ok :: (e ++ s.hist) := by
      rw [← hist]
      unfold sendOn sentOn
      dsimp only
      split
      · split <;> rfl
      · rfl
    have hsome : sendingOf s { sendOn b ticks c t with
        channels := (sendOn b ticks c t).channels.map age } = _ := sendingOf_of_send hsent
    obtain rfl := Option.some.inj (hsome.symm.trans h)
    exact ⟨chip, rfl, rfl, rfl, rfl⟩

/-- A pass that sends starts its call somewhere. -/
theorem sendsFrom_of_sending (b : Board σ) {between inSend : Nat} {s : Ctl σ} {x : Sending}
    (h : sendingOf s (step b s (.check between inSend)) = some x) :
    ∃ u, SendsFrom b inSend s (step b s (.check between inSend)) x u := by
  have hquiet {t : Ctl σ} (hist : t.hist = s.hist) : sendingOf s t ≠ some x := by
    rw [sendingOf_of_quiet (e := []) hist rfl]
    simp
  rw [step] at h ⊢
  cases checked_check b between inSend s with
  | awaiting awaited eq => exact absurd h (hquiet (by rw [eq]))
  | deaf free deaf eq => exact absurd h (hquiet (by rw [eq]))
  | slot c free listens due eq =>
    rw [eq] at h ⊢
    unfold fillSlot at h ⊢
    split at h
    · next hempty =>
      rw [if_pos hempty]
      exact ⟨_, sendsFrom_transmitOn b inSend c (e := [.slot _ _]) rfl rfl rfl h⟩
    · next hfull =>
      rw [if_neg hfull]
      exact ⟨_, sendsFrom_transmitOn b inSend c (e := []) rfl rfl rfl h⟩
  | idle free listens due none eq => exact absurd h (hquiet (by rw [eq]; rfl))
  | picked c free listens due some eq =>
    rw [eq] at h ⊢
    exact ⟨_, sendsFrom_transmitOn b inSend c (e := []) rfl rfl rfl h⟩

/-- The entries `new` were added to the record and the priorities follow them. -/
structure Ranks (s s' : Ctl σ) (new : List Obs) : Prop where
  hist : s'.hist = new ++ s.hist
  priority : ∀ d, (s'.chan d).priority = new.foldr (Obs.rank d) (s.chan d).priority

/-- None of the entries is a send or a start of the program. -/
def NoSendOrReset (new : List Obs) : Prop :=
  new.any Obs.isSend = false ∧ new.any Obs.isReset = false

/-- No entry and no priority has changed. -/
theorem Ranks.kept {s s' : Ctl σ} (hist : s'.hist = s.hist)
    (priority : ∀ d, (s'.chan d).priority = (s.chan d).priority) : Ranks s s' [] :=
  ⟨hist, priority⟩

/-- An entry that leaves the priorities alone. -/
theorem Ranks.noted {s s' : Ctl σ} {o : Obs} (ho : ∀ d old, o.rank d old = old)
    (hist : s'.hist = o :: s.hist)
    (priority : ∀ d, (s'.chan d).priority = (s.chan d).priority) : Ranks s s' [o] := by
  refine ⟨hist, fun d ↦ ?_⟩
  rw [List.foldr_cons, List.foldr_nil, ho, priority]

private theorem Ranks.trans {s t u : Ctl σ} {new later : List Obs} (h : Ranks s t new)
    (h' : Ranks t u later) : Ranks s u (later ++ new) := by
  constructor
  · rw [h'.hist, h.hist, List.append_assoc]
  · intro d
    rw [h'.priority, h.priority, List.foldr_append]

/-! ### The hand-over of a packet -/

/-- SET_CHANNEL clears the priority of the channel it names. -/
theorem ranks_applyConfig (p : Packet.Content) (s : Ctl σ) :
    Ranks s (applyConfig p s) (configObs p) := by
  refine ⟨hist_applyConfig p s, fun d ↦ ?_⟩
  unfold applyConfig configObs
  split
  · next c config h =>
    rw [chan_note, chan_modify, List.foldr_cons, List.foldr_nil, Obs.rank_setChannel]
    split <;> rfl
  · rfl

/-- A command of the controller's own. -/
theorem ranks_executeLocal (b : Board σ) (c : Fin 6) (s : Ctl σ) :
    ∃ code, Ranks s (executeLocal b c s) (.finish c :: .exec (s.chan c).packet.content code ::
      configObs (s.chan c).packet.content) := by
  have hal := alike_mycommand b (s.chan c).packet s
  unfold executeLocal
  dsimp only
  generalize mycommand b (s.chan c).packet s = r at hal
  have hconfig := ranks_applyConfig (s.chan c).packet.content s
  refine ⟨r.2, ?_, fun d ↦ ?_⟩
  · show Obs.finish c :: .exec (s.chan c).packet.content r.2 :: r.1.hist = _
    rw [hal.hist, hconfig.hist]
    rfl
  · have hkeep := priority_modify (c := c) (f := fun chp ↦ { chp with state := .empty })
      (s := (r.1.note (.exec (s.chan c).packet.content r.2)).reply r.2) rfl d
    rw [chan_note, setState, hkeep, chan_reply, chan_note, hal.chan, hconfig.priority]
    rfl

/-- The priorities follow entries none of which is a send or a start. -/
def Quietly (s s' : Ctl σ) : Prop := ∃ new, Ranks s s' new ∧ NoSendOrReset new

/-- Only the parser, the output or the packets have changed. -/
theorem Quietly.kept {s s' : Ctl σ} (hist : s'.hist = s.hist)
    (priority : ∀ d, (s'.chan d).priority = (s.chan d).priority) : Quietly s s' :=
  ⟨[], .kept hist priority, rfl, rfl⟩

private theorem Quietly.of_channels {s s' : Ctl σ} (hist : s'.hist = s.hist)
    (channels : s'.channels = s.channels) : Quietly s s' :=
  .kept hist fun d ↦ by simp only [chan, channels]

private theorem Quietly.trans {s t u : Ctl σ} (h : Quietly s t) (h' : Quietly t u) :
    Quietly s u := by
  obtain ⟨new, hranks, hsend, hreset⟩ := h
  obtain ⟨later, hranks', hsend', hreset'⟩ := h'
  refine ⟨later ++ new, hranks.trans hranks', ?_, ?_⟩
  · rw [List.any_append, hsend, hsend']
    rfl
  · rw [List.any_append, hreset, hreset']
    rfl

/-- Only a packet that waits for its transmission gets a priority. -/
theorem quietly_enqueue (b : Board σ) (c : Fin 6) (s : Ctl σ) : Quietly s (enqueue b c s) := by
  have hstate (st : ChState) (s : Ctl σ) : Ranks s (s.setState c st) [] :=
    .kept rfl (priority_modify rfl)
  have hnoted : Ranks s (s.note (.handed c (s.chan c).packet.content))
      [.handed c (s.chan c).packet.content] := .noted (fun _ _ ↦ rfl) rfl fun _ ↦ rfl
  have hbefore := hnoted.trans (hstate .transmit _)
  unfold enqueue
  dsimp only
  generalize (s.note (.handed c (s.chan c).packet.content)).setState c .transmit = t at hbefore
  split
  · obtain ⟨code, hexec⟩ := ranks_executeLocal b c t
    refine ⟨_, hbefore.trans hexec, ?_⟩
    unfold configObs
    split <;> exact ⟨rfl, rfl⟩
  · split
    · have hrefused : Ranks t (((t.setState c .empty).note (.finish c)).reply
          RADIO_CTLERR_NOT_ACTIVE) [.finish c] := by
        refine .noted (fun _ _ ↦ rfl) rfl fun d ↦ ?_
        rw [chan_reply, chan_note]
        exact (hstate .empty t).priority d
      exact ⟨_, hbefore.trans hrefused, rfl, rfl⟩
    · have hqueued : Ranks t (queuePacket c t) [.ack c (t.chan c).packet.content] := by
        refine ⟨rfl, fun d ↦ ?_⟩
        rw [queuePacket, chan_note, chan_reply, chan_modify, List.foldr_cons, List.foldr_nil,
          Obs.rank_ack]
        split
        · next h => rw [h]
        · rfl
      exact ⟨_, hbefore.trans hqueued, rfl, rfl⟩

/-! ### A character -/

private theorem quietly_handOver (b : Board σ) (s : Ctl σ) (st : IoState) :
    Quietly s { enqueue b s.currChp s with state := st } :=
  (quietly_enqueue b s.currChp s).trans (.of_channels rfl rfl)

/-- A part of the packet is stored. -/
theorem quietly_stored (f : Packet → Packet) {s s' : Ctl σ} (hist : s'.hist = s.hist)
    (channels : s'.channels =
      (s.modify s.currChp fun chp ↦ { chp with packet := f chp.packet }).channels) :
    Quietly s s' := by
  refine .kept hist fun d ↦ ?_
  have hchan : s'.chan d =
      (s.modify s.currChp fun chp ↦ { chp with packet := f chp.packet }).chan d := by
    simp only [chan, channels]
  rw [hchan, priority_modify rfl]

private theorem quietly_inputChan (b : Board σ) {ch : UInt8} (s : Ctl σ) (h : ch ≠ chR) :
    Quietly s (inputChan b ch s) := by
  unfold inputChan
  split
  · unfold claimChannel
    dsimp only
    split
    · next hlt =>
      split
      · exact .of_channels rfl rfl
      · refine ⟨[.claim ⟨(ch - chA).toNat, hlt⟩], .noted (fun _ _ ↦ rfl) rfl ?_, rfl, rfl⟩
        exact priority_modify (c := ⟨(ch - chA).toNat, hlt⟩)
          (f := fun chp ↦ { chp with state := .adding }) (s := s) rfl
    · exact .of_channels rfl rfl
  · split <;> exact .of_channels rfl rfl

private theorem quietly_inputNode (ch : UInt8) (s : Ctl σ) : Quietly s (inputNode ch s) := by
  unfold inputNode
  split
  · exact .of_channels rfl rfl
  · split
    · exact quietly_stored (fun p ↦ { p with node := s.value }) rfl rfl
    · exact .of_channels rfl rfl

private theorem quietly_inputCmd (b : Board σ) (ch : UInt8) (s : Ctl σ) :
    Quietly s (inputCmd b ch s) := by
  have hcmd (st : IoState) : Quietly s { storeCmd s with state := st } :=
    quietly_stored (fun p ↦ { p with cmd := s.value, len := 0 }) rfl rfl
  unfold inputCmd
  split
  · exact .of_channels rfl rfl
  · split
    · exact hcmd .waitdata
    · split
      · exact (hcmd s.state).trans (quietly_handOver b (storeCmd s) .waitnl)
      · exact .of_channels rfl rfl

private theorem quietly_inputData (b : Board σ) (ch : UInt8) (s : Ctl σ) :
    Quietly s (inputData b ch s) := by
  have hdata : Quietly s (storeData s) := quietly_stored (fun p ↦ p.push s.value) rfl rfl
  unfold inputData
  split
  · exact .of_channels rfl rfl
  · split
    · split
      · exact .of_channels rfl rfl
      · split
        · exact hdata.trans (quietly_handOver b (storeData s) .waitnl)
        · exact hdata
    · exact .of_channels rfl rfl

/-- The character asks for a restart. -/
def Restarts (s : Ctl σ) (ch : UInt8) : Prop := s.state = .waitchan ∧ ch = chR

instance (s : Ctl σ) (ch : UInt8) : Decidable (Restarts s ch) := inferInstanceAs (Decidable (_ ∧ _))

/-- A character that asks for no restart. -/
theorem quietly_processInput (b : Board σ) {ch : UInt8} {s : Ctl σ} (h : ¬ Restarts s ch) :
    Quietly s (processInput b ch s) := by
  have hinput : Quietly s (s.note (.input ch)) :=
    ⟨[.input ch], .noted (fun _ _ ↦ rfl) rfl fun _ ↦ rfl, rfl, rfl⟩
  apply hinput.trans
  unfold processInput
  dsimp only
  have hstate : (s.note (.input ch)).state = s.state := rfl
  generalize s.note (.input ch) = t at hstate
  split
  · split
    · exact quietly_handOver b t .newline
    · exact .of_channels rfl rfl
  · split
    · split <;> exact .of_channels rfl rfl
    · exact .of_channels rfl rfl
    · next hchan => exact quietly_inputChan b t fun hreset ↦ h ⟨hstate.symm.trans hchan, hreset⟩
    · exact quietly_inputNode ch t
    · exact quietly_inputCmd b ch t
    · exact quietly_inputData b ch t

/-- A restart starts the program. -/
theorem processInput_restart (b : Board σ) {ch : UInt8} {s : Ctl σ} (h : Restarts s ch) :
    processInput b ch s = boot b (s.note (.input ch)) := by
  obtain ⟨hst, rfl⟩ := h
  unfold processInput
  dsimp only
  rw [if_neg (by decide), state_note, hst]
  rfl

/-- A restart clears all priorities. -/
theorem ranks_restart (b : Board σ) {ch : UInt8} {s : Ctl σ} (h : Restarts s ch) :
    Ranks s (processInput b ch s) [.reset, .input ch] := by
  obtain ⟨hchan, -, -, hhist⟩ := boot_fresh b (s.note (.input ch))
  rw [processInput_restart b h]
  refine ⟨hhist, fun d ↦ ?_⟩
  rw [hchan]
  rfl

/-! ### The other actions -/

/-- The response wait changes states only. -/
theorem quietly_poll (b : Board σ) (s : Ctl σ) : Quietly s (poll b s) := by
  have hstate (c : Fin 6) (st : ChState) {t : Ctl σ} (hist : t.hist = s.hist)
      (priority : ∀ d, (t.chan d).priority = (s.chan d).priority) :
      Ranks s ((t.setState c st).note (.wait c st)) [.wait c st] := by
    refine .noted (fun _ _ ↦ rfl) (congrArg (List.cons _) hist) fun d ↦ ?_
    rw [chan_note, setState, priority_modify rfl, priority]
  have hend (c : Fin 6) {t : Ctl σ} (hist : t.hist = s.hist)
      (priority : ∀ d, (t.chan d).priority = (s.chan d).priority) : Quietly s (endWait c t) := by
    have hranks := hstate c .empty hist priority
    exact ⟨[.wait c .empty], ⟨hranks.hist, hranks.priority⟩, rfl, rfl⟩
  unfold poll
  split
  · exact .of_channels rfl rfl
  · next c _ =>
    dsimp only
    split
    · apply hend c
      · exact (txresponse_spec b c _).2.2
      · intro d
        unfold txresponse
        dsimp only
        generalize libradioRecv b _ _ _ = r
        have hkeep := priority_modify (c := c) (f := fun chp ↦ { chp with packet := r.packet })
          (s := s) rfl d
        split <;> exact hkeep
    · split
      · exact hend c rfl fun _ ↦ rfl
      · exact ⟨[.wait c _], hstate c _ rfl fun _ ↦ rfl, rfl, rfl⟩

/-- A successful send clears the priority of its channel. -/
theorem ranks_sendOn (b : Board σ) (ticks : Nat) (c : Fin 6) (s : Ctl σ) :
    ∃ ok, Ranks s (sendOn b ticks c s)
      [.send c (s.chan c).state (s.chan c).packet.content ok] := by
  unfold sendOn
  dsimp only
  generalize libradioSend b ticks s.dev (s.chan c) (UInt8.ofNat c.val) = r
  have hkeep := priority_modify (c := c) (f := fun chp ↦ { chp with packet := r.packet })
    (s := s) rfl
  refine ⟨r.ok, ?_⟩
  cases hok : r.ok with
  | false =>
    rw [if_neg Bool.false_ne_true]
    refine ⟨rfl, fun d ↦ ?_⟩
    rw [List.foldr_cons, List.foldr_nil, Obs.rank_send, if_neg fun h ↦ Bool.false_ne_true h.2]
    exact hkeep d
  | true =>
    rw [if_pos rfl]
    have hcleared (st : ChState) (t : Ctl σ)
        (hchan : ∀ d, (t.chan d).priority = (s.chan d).priority) (d : Fin 6) :
        ((t.modify c fun chp ↦ { chp with state := st, priority := 0 }).chan d).priority =
          if c = d then 0 else (s.chan d).priority := by
      rw [chan_modify]
      split
      · rfl
      · exact hchan d
    unfold sentOn
    split
    · refine ⟨rfl, fun d ↦ ?_⟩
      rw [List.foldr_cons, List.foldr_nil, Obs.rank_send]
      simp only [and_true]
      exact hcleared .rxresponse1 _ hkeep d
    · refine ⟨rfl, fun d ↦ ?_⟩
      rw [List.foldr_cons, List.foldr_nil, Obs.rank_send]
      simp only [and_true]
      exact hcleared .empty _ hkeep d

/-- The time slot fills an EMPTY channel with the highest priority. -/
theorem quietly_fillSlot (c : Fin 6) (s : Ctl σ) : Quietly s (fillSlot c s) := by
  unfold fillSlot
  split
  · refine ⟨[.slot c _], ⟨rfl, fun d ↦ ?_⟩, rfl, rfl⟩
    rw [chan_note, chan_modify, List.foldr_cons, List.foldr_nil, Obs.rank_slot]
    split <;> rfl
  · exact .of_channels rfl rfl

/-- The entries `new` were added; if the last of them is a send, the priorities were aged. -/
structure Rises (s s' : Ctl σ) (new : List Obs) : Prop where
  hist : s'.hist = new ++ s.hist
  sends : new.any Obs.isSend = (sendingOf s s').isSome
  priority : ∀ d, (s'.chan d).priority =
    if (sendingOf s s').isSome then
      agedPriority (s'.chan d).state (new.foldr (Obs.rank d) (s.chan d).priority)
    else new.foldr (Obs.rank d) (s.chan d).priority

private theorem Ranks.rises {s s' : Ctl σ} {new : List Obs} (h : Ranks s s' new)
    (hno : new.any Obs.isSend = false) : Rises s s' new := by
  have hnone := sendingOf_of_quiet h.hist hno
  refine ⟨h.hist, by rw [hno, hnone]; rfl, fun d ↦ ?_⟩
  rw [hnone, if_neg (by simp)]
  exact h.priority d

/-- The transmission of a channel and the loop behind it. -/
theorem rises_transmitOn (b : Board σ) (ticks : Nat) (c : Fin 6) {s t : Ctl σ}
    (h : Quietly s t) : ∃ new, Rises s (transmitOn b ticks c t) new ∧
      new.any Obs.isReset = false := by
  obtain ⟨before, hbefore, hno, hreset⟩ := h
  unfold transmitOn
  split
  · exact ⟨before, hbefore.rises hno, hreset⟩
  · obtain ⟨ok, hsend⟩ := ranks_sendOn b ticks c t
    have hall := hbefore.trans hsend
    dsimp only
    generalize sendOn b ticks c t = u at hall
    have hsome : sendingOf s { u with channels := u.channels.map age } =
        some ⟨c, (t.chan c).state, (t.chan c).packet.content, ok⟩ := sendingOf_of_send hall.hist
    refine ⟨_, ⟨hall.hist, by rw [hsome]; rfl, fun d ↦ ?_⟩, hreset⟩
    have hage : ({ u with channels := u.channels.map age } : Ctl σ).chan d = age (u.chan d) := by
      simp only [chan, Fin.getElem_fin, Vector.getElem_map]
    rw [hsome, Option.isSome_some, if_pos rfl, hage, priority_age, (age_spec _).1, hall.priority]

/-- Every action adds entries to the record that the priorities follow; only the transmissions
send, and only a restart request restarts. -/
theorem rises_step (b : Board σ) (s : Ctl σ) (a : Act) :
    ∃ new, Rises s (step b s a) new ∧
      ((sendingOf s (step b s a)).isSome →
        s.respChp = none ∧ ∃ between inSend, a = .check between inSend) ∧
      (new.any Obs.isReset = true → ∃ ch, a = .input ch ∧ Restarts s ch) := by
  have hquiet {s' : Ctl σ} (h : Quietly s s') : ∃ new, Rises s s' new ∧
      ((sendingOf s s').isSome →
        s.respChp = none ∧ ∃ between inSend, a = .check between inSend) ∧
      (new.any Obs.isReset = true → ∃ ch, a = .input ch ∧ Restarts s ch) := by
    obtain ⟨new, hranks, hno, hreset⟩ := h
    refine ⟨new, hranks.rises hno, fun hsend ↦ ?_, fun h ↦ ?_⟩
    · rw [sendingOf_of_quiet hranks.hist hno] at hsend
      cases hsend
    · rw [hreset] at h
      cases h
  cases a with
  | tick => exact hquiet (.of_channels (alike_tick b s).hist (alike_tick b s).channels)
  | poll => exact hquiet (quietly_poll b s)
  | input ch =>
    by_cases hrestart : Restarts s ch
    · have hranks := ranks_restart b hrestart
      refine ⟨_, hranks.rises rfl, fun hsend ↦ ?_, fun _ ↦ ⟨ch, rfl, hrestart⟩⟩
      rw [step, sendingOf_of_quiet hranks.hist rfl] at hsend
      cases hsend
    · exact hquiet (quietly_processInput b hrestart)
  | check between inSend =>
    have hread : Quietly s (readClock between s) := .of_channels rfl rfl
    have hsent (hfree : s.respChp = none)
        (h : ∃ new, Rises s (step b s (.check between inSend)) new ∧
          new.any Obs.isReset = false) :
        ∃ new, Rises s (step b s (.check between inSend)) new ∧
          ((sendingOf s (step b s (.check between inSend))).isSome → s.respChp = none ∧
            ∃ between' inSend', Act.check between inSend = .check between' inSend') ∧
          (new.any Obs.isReset = true →
            ∃ ch, Act.check between inSend = .input ch ∧ Restarts s ch) := by
      obtain ⟨new, hrises, hreset⟩ := h
      refine ⟨new, hrises, fun _ ↦ ⟨hfree, between, inSend, rfl⟩, fun h ↦ ?_⟩
      rw [hreset] at h
      cases h
    cases checked_check b between inSend s with
    | awaiting awaited eq => exact hquiet (.of_channels (by rw [step, eq]) (by rw [step, eq]))
    | deaf free deaf eq => exact hquiet (.of_channels (by rw [step, eq]) (by rw [step, eq]))
    | slot c free listens due eq =>
      apply hsent free
      rw [step, eq]
      exact rises_transmitOn b inSend c (hread.trans (quietly_fillSlot c _))
    | idle free listens due none eq =>
      apply hquiet
      rw [step, eq]
      exact hread
    | picked c free listens due some eq =>
      apply hsent free
      rw [step, eq]
      exact rises_transmitOn b inSend c hread

/-- The priority of a channel after an action, by the entries that concern it. -/
theorem priority_of_track (b : Board σ) {s : Ctl σ} {a : Act} {d : Fin 6} {e : List Obs}
    (h : (step b s a).track d = e ++ s.track d) :
    (e.any Obs.isSend = true → (sendingOf s (step b s a)).isSome) ∧
      ((sendingOf s (step b s a)).isSome →
        s.respChp = none ∧ ∃ between inSend, a = .check between inSend) ∧
      (e.any Obs.isReset = true → ∃ ch, a = .input ch ∧ Restarts s ch) ∧
      ((step b s a).chan d).priority = if (sendingOf s (step b s a)).isSome then
          agedPriority ((step b s a).chan d).state (e.foldr (Obs.rank d) (s.chan d).priority)
        else e.foldr (Obs.rank d) (s.chan d).priority := by
  obtain ⟨new, hrises, honly, hreset⟩ := rises_step b s a
  have hext : new.filter (Obs.concerns d) = e := by
    rw [track, hrises.hist, List.filter_append] at h
    exact List.append_cancel_right h
  have hmem {f : Obs → Bool} (hany : e.any f = true) : new.any f = true := by
    rw [List.any_eq_true] at hany ⊢
    obtain ⟨o, ho, hf⟩ := hany
    exact ⟨o, (List.mem_filter.mp (hext ▸ ho)).1, hf⟩
  have hfold : e.foldr (Obs.rank d) (s.chan d).priority =
      new.foldr (Obs.rank d) (s.chan d).priority := by
    rw [← hext]
    exact foldr_concerns (fun _ old ho ↦ Obs.rank_of_not_concerns ho old) _ new
  refine ⟨fun hany ↦ ?_, honly, fun hany ↦ hreset (hmem hany), ?_⟩
  · rw [← hrises.sends]
    exact hmem hany
  · rw [hfold]
    exact hrises.priority d

end Ctl
end Libradio
