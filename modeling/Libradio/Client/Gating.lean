import Libradio.Client.Clearance

/-!
# Sending and what the radio has answered

A packet is to be sent only if the radio is in the READY state and its FIFO has space
(`src/lib/rxtx.c:134-139`). A board that is overheard tells what the radio itself has answered
during a call.
-/

namespace Libradio

variable {σ : Type}

/-- What is overheard: a command with the reply or none, and the blocks put into the transmit
FIFO and taken from the receive FIFO. -/
inductive Talk
  | asked (cmd : List UInt8) (reply : Option (List UInt8))
  | filled (bytes : List UInt8)
  | taken (bytes : List UInt8)
  deriving DecidableEq, Repr

/-- A WRITE_TX_FIFO or a START_TX. -/
def Talk.Issues : Talk → Prop
  | asked cmd _ => cmd.head? = some SI4463_START_TX
  | filled _ => True
  | taken _ => False

/-- A chip and the talk with it, the latest first. -/
structure Overheard (σ : Type) where
  chip : σ
  log : List Talk

/-- The board whose talk is overheard. -/
def Board.overheard (b : Board σ) : Board (Overheard σ) where
  exchange w cmd n :=
    let r := b.exchange w.chip cmd n
    (⟨r.1, .asked cmd (r.2.toOption.map Vector.toList) :: w.log⟩, r.2)
  writeTxFifo w bytes := ⟨b.writeTxFifo w.chip bytes, .filled bytes :: w.log⟩
  readRxFifo w n :=
    let r := b.readRxFifo w.chip n
    (⟨r.1, .taken r.2.toList :: w.log⟩, r.2)
  analogRead w channel :=
    let r := b.analogRead w.chip channel
    (⟨r.1, w.log⟩, r.2)

/-- The radio has answered the state `st`. -/
def HeardState (ops : List Talk) (st : UInt8) : Prop :=
  ∃ reply, .asked [SI4463_REQUEST_DEVICE_STATE] (some reply) ∈ ops ∧ reply[0]? = some st

/-- The radio has answered that there are `n` bytes free. -/
def HeardRoom (ops : List Talk) (n : UInt8) : Prop :=
  ∃ clrf reply, .asked [SI4463_FIFO_INFO, clrf] (some reply) ∈ ops ∧ reply[1]? = some n

/-- In between, something was sent only if the radio itself has answered that it may be and that
there is room for it. -/
def Gated (w w' : Overheard σ) : Prop :=
  ∃ ops, w'.log = ops ++ w.log ∧ ((∃ op ∈ ops, op.Issues) →
    (∃ st, MaySend st ∧ HeardState ops st) ∧ ∃ n, 16 ≤ n ∧ HeardRoom ops n)

/-- The packet is sent on what was known before: one of the questions has no answer. -/
def SendsBlind (b : Board σ) (d : Dev σ) (chp : Channel) : Prop :=
  IsClear b d ∧ chp.packet.len ≤ 10 ∧
    ((b.answers d).2.state = none ∨ (b.answers d).2.room = none)

instance (b : Board σ) (d : Dev σ) (chp : Channel) : Decidable (SendsBlind b d chp) :=
  inferInstanceAs (Decidable (_ ∧ _ ∧ _))

private theorem heardState_append {ops ops' : List Talk} {st : UInt8} :
    HeardState (ops ++ ops') st ↔ HeardState ops st ∨ HeardState ops' st := by
  simp only [HeardState, List.mem_append, or_and_right, exists_or]

private theorem heardRoom_append {ops ops' : List Talk} {n : UInt8} :
    HeardRoom (ops ++ ops') n ↔ HeardRoom ops n ∨ HeardRoom ops' n := by
  simp only [HeardRoom, List.mem_append, or_and_right, exists_or]

/-- What was heard is the answer: the value that it has, and nothing where there is none. -/
structure Hears (heard : UInt8 → Prop) (answer : Option UInt8) : Prop where
  value : ∀ v, answer = some v → heard v
  silence : answer = none → ∀ v, ¬heard v

private theorem hears_nothing {heard : UInt8 → Prop} (h : ∀ v, ¬heard v) : Hears heard none :=
  ⟨nofun, fun _ ↦ h⟩

/-- A later answer comes first. -/
theorem Hears.or {heard heard' both : UInt8 → Prop} {x x' : Option UInt8} (h : Hears heard x)
    (h' : Hears heard' x') (hboth : ∀ v, both v ↔ heard' v ∨ heard v) :
    Hears both (x'.or x) := by
  constructor
  · intro v hv
    apply (hboth v).mpr
    rcases Option.or_eq_some_iff.mp hv with hv | ⟨_, hv⟩
    · exact .inl (h'.value v hv)
    · exact .inr (h.value v hv)
  · intro hnone v hv
    obtain ⟨hnone', hnone⟩ := Option.or_eq_none_iff.mp hnone
    rcases (hboth v).mp hv with hv | hv
    · exact h'.silence hnone' v hv
    · exact h.silence hnone v hv

/-- The talk is made of questions, and the answers to them are `a`. -/
structure Conveys (ops : List Talk) (a : Answers) : Prop where
  quiet : ∀ op ∈ ops, ¬op.Issues
  state : Hears (HeardState ops) a.state
  room : Hears (HeardRoom ops) a.room

/-- Two talks one after the other. -/
theorem Conveys.then {ops ops' : List Talk} {a a' : Answers} (h : Conveys ops a)
    (h' : Conveys ops' a') : Conveys (ops' ++ ops) (a.then a') := by
  constructor
  · intro op hop
    rcases List.mem_append.mp hop with hop | hop
    · exact h'.quiet op hop
    · exact h.quiet op hop
  · exact h.state.or h'.state fun _ ↦ heardState_append
  · exact h.room.or h'.room fun _ ↦ heardRoom_append

/-- Talk that asks neither of the two questions and sends nothing conveys nothing. -/
theorem conveys_nothing {ops : List Talk} (h : ∀ op ∈ ops, ∃ cmd reply, op = .asked cmd reply ∧
    cmd.head? ≠ some SI4463_START_TX ∧ cmd.head? ≠ some SI4463_REQUEST_DEVICE_STATE ∧
    cmd.head? ≠ some SI4463_FIFO_INFO) : Conveys ops ⟨none, none⟩ := by
  constructor
  · intro op hop
    obtain ⟨cmd, reply, rfl, htx, _⟩ := h op hop
    exact htx
  · apply hears_nothing
    intro st ⟨reply, hop, _⟩
    obtain ⟨cmd, reply', heq, _, hstate, _⟩ := h _ hop
    cases heq
    exact hstate rfl
  · apply hears_nothing
    intro n ⟨clrf, reply, hop, _⟩
    obtain ⟨cmd, reply', heq, _, _, hroom⟩ := h _ hop
    cases heq
    exact hroom rfl

/-- From one chip to the other there is talk that conveys `a`. -/
def Told (w w' : Overheard σ) (a : Answers) : Prop :=
  ∃ ops, w'.log = ops ++ w.log ∧ Conveys ops a

private theorem Told.then {u v w : Overheard σ} {a a' : Answers} (h : Told u v a)
    (h' : Told v w a') :
    Told u w (a.then a') := by
  obtain ⟨ops, hlog, hops⟩ := h
  obtain ⟨ops', hlog', hops'⟩ := h'
  exact ⟨ops' ++ ops, by rw [hlog', hlog, List.append_assoc], hops.then hops'⟩

-- The reply of the radio as it is overheard, and the byte of it that counts.
private theorem hears_reply {heard : UInt8 → Prop} {x : Except SpiError (Vector UInt8 2)}
    (i : Fin 2)
    (h : ∀ v, heard v ↔ ∃ reply, x.toOption.map Vector.toList = some reply ∧ reply[i]? = some v) :
    Hears heard (x.toOption.map (·.get i)) := by
  cases x with
  | error e =>
    apply hears_nothing
    intro v hv
    obtain ⟨reply, hreply, _⟩ := (h v).mp hv
    cases hreply
  | ok bytes =>
    constructor
    · intro v hv
      refine (h v).mpr ⟨bytes.toList, rfl, ?_⟩
      rw [Fin.getElem?_fin, Vector.getElem?_toList, Vector.getElem?_eq_getElem i.isLt]
      exact hv
    · nofun

private theorem told_askState (b : Board σ) (w : Overheard σ) :
    Told w (b.overheard.askState w).1 ⟨(b.overheard.askState w).2, none⟩ := by
  refine ⟨[.asked [SI4463_REQUEST_DEVICE_STATE]
    ((b.overheard.exchange w [SI4463_REQUEST_DEVICE_STATE] 2).2.toOption.map Vector.toList)],
    rfl, ?_⟩
  constructor
  · simp only [List.mem_singleton, forall_eq, Talk.Issues, List.head?_cons]
    decide
  · apply hears_reply 0
    intro st
    simp [HeardState, eq_comm]
  · apply hears_nothing
    intro n ⟨clrf, reply, hop, _⟩
    simp only [List.mem_singleton, Talk.asked.injEq, List.cons.injEq] at hop
    exact absurd hop.1.1 (by decide)

private theorem told_askRoom (b : Board σ) (clrf : UInt8) (w : Overheard σ) :
    Told w (b.overheard.askRoom clrf w).1 ⟨none, (b.overheard.askRoom clrf w).2⟩ := by
  refine ⟨[.asked [SI4463_FIFO_INFO, clrf]
    ((b.overheard.exchange w [SI4463_FIFO_INFO, clrf] 2).2.toOption.map Vector.toList)], rfl, ?_⟩
  constructor
  · simp only [List.mem_singleton, forall_eq, Talk.Issues, List.head?_cons]
    decide
  · apply hears_nothing
    intro st ⟨reply, hop, _⟩
    simp at hop
  · apply hears_reply 1
    intro n
    constructor
    · intro ⟨clrf', reply, hop, hn⟩
      obtain ⟨_, hreply⟩ := Talk.asked.inj (List.mem_singleton.mp hop)
      exact ⟨reply, hreply.symm, hn⟩
    · intro ⟨reply, hreply, hn⟩
      exact ⟨clrf, reply, by rw [hreply]; exact List.mem_singleton_self _, hn⟩

private theorem told_inquire (b : Board σ) (clrf : UInt8) (w : Overheard σ) :
    Told w (b.overheard.inquire clrf w).1 (b.overheard.inquire clrf w).2 := by
  have h := (told_askState b w).then (told_askRoom b clrf (b.overheard.askState w).1)
  simp only [Answers.then, Option.or_none, Option.none_or] at h
  exact h

/-- Commands that ask neither of the two questions convey nothing. -/
theorem told_tell (b : Board σ) (cmds : List (List UInt8 × Nat)) (w : Overheard σ)
    (h : ∀ cmd ∈ cmds, cmd.1.head? ≠ some SI4463_START_TX ∧
      cmd.1.head? ≠ some SI4463_REQUEST_DEVICE_STATE ∧ cmd.1.head? ≠ some SI4463_FIFO_INFO) :
    Told w (b.overheard.tell w cmds) ⟨none, none⟩ := by
  induction cmds generalizing w with
  | nil => exact ⟨[], rfl, conveys_nothing (by simp)⟩
  | cons cmd cmds ih =>
    have hfirst : Told w (b.overheard.exchange w cmd.1 cmd.2).1 ⟨none, none⟩ := by
      refine ⟨[_], rfl, conveys_nothing ?_⟩
      intro op hop
      rw [List.mem_singleton] at hop
      exact ⟨_, _, hop, h cmd List.mem_cons_self⟩
    exact hfirst.then (ih _ fun c hc ↦ h c (List.mem_cons_of_mem _ hc))

private theorem powerUpCommands_plain : ∀ cmd ∈ powerUpCommands,
    cmd.1.head? ≠ some SI4463_START_TX ∧ cmd.1.head? ≠ some SI4463_REQUEST_DEVICE_STATE ∧
      cmd.1.head? ≠ some SI4463_FIFO_INFO := by decide

/-- All the questions of a send. -/
theorem told_answers (b : Board σ) (d : Dev (Overheard σ)) :
    Told d.chip (b.overheard.answers d).1 (b.overheard.answers d).2 := by
  simp only [Board.answers]
  split
  · exact told_inquire b 0 d.chip
  · have htold := told_tell b powerUpCommands d.chip powerUpCommands_plain
    have hfirst := htold.then (told_inquire b 3 (b.overheard.tell d.chip powerUpCommands))
    have hboth := hfirst.then (told_inquire b 0
      (b.overheard.inquire 3 (b.overheard.tell d.chip powerUpCommands)).1)
    simpa only [Answers.then, Option.or_none] using hboth

/-- A packet that fits goes into the FIFO and is transmitted. -/
theorem overheard_transmitFrame (b : Board σ) (ticks : Nat) (d : Dev (Overheard σ))
    {chp : Channel} (channo : UInt8) (h : chp.packet.len ≤ 10) :
    ∃ reply bytes, (transmitFrame b.overheard ticks d chp channo).dev.chip.log =
      .asked (startTx chp.state channo) reply :: .filled bytes :: d.chip.log := by
  simp only [transmitFrame, libradioTxpacket, if_neg (UInt8.not_lt.mpr h), if_true]
  split
  · next w v he => exact ⟨_, _, congrArg (fun r ↦ Overheard.log r.1) he.symm⟩
  · next w e he => exact ⟨_, _, congrArg (fun r ↦ Overheard.log r.1) he.symm⟩

/-- Another one is left alone. -/
theorem transmitFrame_of_long (b : Board σ) (ticks : Nat) (d : Dev σ) {chp : Channel}
    (channo : UInt8) (h : ¬chp.packet.len ≤ 10) :
    (transmitFrame b ticks d chp channo).dev = d := by
  simp only [transmitFrame, libradioTxpacket, if_pos (UInt8.not_le.mp h), Bool.false_eq_true,
    if_false]

/-- Talk without a transmission. -/
theorem gated_of_quiet {w w' : Overheard σ}
    (h : ∃ ops, w'.log = ops ++ w.log ∧ ∀ op ∈ ops, ¬op.Issues) : Gated w w' := by
  obtain ⟨ops, hlog, hops⟩ := h
  exact ⟨ops, hlog, fun ⟨op, hop, hissues⟩ ↦ absurd hissues (hops op hop)⟩

/-- Questions send nothing. -/
theorem keeps_quiet (b : Board σ) :
    b.overheard.Keeps fun w w' ↦ ∃ ops, w'.log = ops ++ w.log ∧ ∀ op ∈ ops, ¬op.Issues where
  refl w := ⟨[], rfl, by simp⟩
  trans := by
    intro u v w ⟨ops, hlog, hops⟩ ⟨ops', hlog', hops'⟩
    refine ⟨ops' ++ ops, by rw [hlog', hlog, List.append_assoc], fun op hop ↦ ?_⟩
    rcases List.mem_append.mp hop with hop | hop
    · exact hops' op hop
    · exact hops op hop
  exchange w cmd n htx _ := ⟨[_], rfl, by simpa [Talk.Issues] using htx⟩
  readRxFifo w n := ⟨[_], rfl, by simp [Talk.Issues]⟩

/-- What is said after the questions does not count as an answer. -/
theorem heard_of_sent (state : ChState) (channo : UInt8) (reply : Option (List UInt8))
    (bytes : List UInt8) (ops : List Talk) :
    (∀ st, HeardState (.asked (startTx state channo) reply :: .filled bytes :: ops) st ↔
        HeardState ops st) ∧
      ∀ n, HeardRoom (.asked (startTx state channo) reply :: .filled bytes :: ops) n ↔
        HeardRoom ops n := by
  constructor
  · intro st
    simp only [HeardState, startTx, List.mem_cons, Talk.asked.injEq, List.cons.injEq]
    simp
  · intro n
    simp only [HeardRoom, startTx, List.mem_cons, Talk.asked.injEq, List.cons.injEq]
    simp

/-- A packet that was sent is gated if both questions were answered. -/
theorem gated_of_sent {w w' : Overheard σ} {state : ChState} {channo : UInt8}
    {reply : Option (List UInt8)} {bytes : List UInt8} {ops : List Talk}
    (hlog : w'.log = .asked (startTx state channo) reply :: .filled bytes :: ops ++ w.log) :
    Gated w w' ↔
      (∃ st, MaySend st ∧ HeardState ops st) ∧ ∃ n, 16 ≤ n ∧ HeardRoom ops n := by
  obtain ⟨hstate, hroom⟩ := heard_of_sent state channo reply bytes ops
  constructor
  · intro ⟨ops', hlog', hgate⟩
    obtain rfl := List.append_cancel_right (hlog'.symm.trans hlog)
    obtain ⟨⟨st, hmay, hst⟩, n, hn, hroom'⟩ :=
      hgate ⟨_, List.mem_cons_of_mem _ List.mem_cons_self, trivial⟩
    exact ⟨⟨st, hmay, (hstate st).mp hst⟩, n, hn, (hroom n).mp hroom'⟩
  · intro ⟨⟨st, hmay, hst⟩, n, hn, hroom'⟩
    exact ⟨_, hlog, fun _ ↦ ⟨⟨st, hmay, (hstate st).mpr hst⟩, n, hn, (hroom n).mpr hroom'⟩⟩

/-- A send puts a packet into the FIFO and transmits it only if the radio has answered, in the
same call, that it may be sent and that there is room, except where a question has no answer and
what was known before allows it. -/
theorem gated_libradioSend_iff (b : Board σ) (ticks : Nat) (d : Dev (Overheard σ))
    (chp : Channel) (channo : UInt8) :
    Gated d.chip (libradioSend b.overheard ticks d chp channo).dev.chip ↔
      ¬SendsBlind b.overheard d chp := by
  by_cases hclear : IsClear b.overheard d
  · obtain ⟨e, hchip, _, hsend⟩ := libradioSend_of_clear hclear ticks chp channo
    rw [hsend]
    by_cases hlen : chp.packet.len ≤ 10
    · obtain ⟨reply, bytes, hframe⟩ := overheard_transmitFrame b ticks e channo hlen
      obtain ⟨ops, hlog, hops⟩ := told_answers b d
      rw [hchip, hlog] at hframe
      rw [gated_of_sent hframe]
      have ⟨_, hmay, hroom⟩ := hclear
      constructor
      · intro ⟨⟨st, _, hst⟩, n, _, hn⟩ ⟨_, _, hblind⟩
        rcases hblind with hnone | hnone
        · exact hops.state.silence hnone st hst
        · exact hops.room.silence hnone n hn
      · intro hsees
        have hanswered : (b.overheard.answers d).2.state ≠ none ∧
            (b.overheard.answers d).2.room ≠ none :=
          not_or.mp fun hnone ↦ hsees ⟨hclear, hlen, hnone⟩
        obtain ⟨st, hst⟩ := Option.ne_none_iff_exists'.mp hanswered.1
        obtain ⟨n, hn⟩ := Option.ne_none_iff_exists'.mp hanswered.2
        rw [hst, Option.getD_some] at hmay
        rw [hn, Option.getD_some] at hroom
        exact ⟨⟨st, hmay, hops.state.value st hst⟩, n, hroom, hops.room.value n hn⟩
    · rw [transmitFrame_of_long b.overheard ticks e channo hlen]
      constructor
      · intro _ hblind
        exact hlen hblind.2.1
      · intro _
        obtain ⟨ops, hlog, hops⟩ := told_answers b d
        exact gated_of_quiet ⟨ops, by rw [hchip, hlog], hops.quiet⟩
  · constructor
    · intro _ hblind
      exact hclear hblind.1
    · intro _
      exact gated_of_quiet
        (chip_libradioSend_of_not_clear (keeps_quiet b) hclear ticks chp channo)

/-- A radio that is powered up, was last known to be READY with 64 bytes free, and answers
neither question: the packet is sent all the same. -/
theorem not_gated_libradioSend :
    let b : Board Nat :=
      { Board.scripted fun _ _ ↦ 0 with exchange := fun n _ _ ↦ (n + 1, .error .timeout) }
    let d : Dev (Overheard Nat) := { Client.powerOn ⟨0, []⟩ with
      radio := { Radio.zero with
        radioActive := true, currState := SI4463_STATE_READY, txFifo := 64 } }
    ¬Gated d.chip (libradioSend b.overheard 0 d .zero 0).dev.chip := by
  intro b d
  have hlog : (libradioSend b.overheard 0 d .zero 0).dev.chip.log =
      .asked (startTx .disabled 0) none ::
        .filled ((libradioSend b.overheard 0 d .zero 0).packet).frame ::
        [.asked [SI4463_FIFO_INFO, 0] none, .asked [SI4463_REQUEST_DEVICE_STATE] none] ++
          d.chip.log := by rfl
  rw [gated_of_sent hlog]
  intro ⟨⟨st, _, reply, hop, _⟩, _⟩
  simp at hop

end Libradio
