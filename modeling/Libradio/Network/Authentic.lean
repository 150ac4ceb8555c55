import Libradio.Network.Genuine

/-!
# A client obeys only what was acknowledged or what a time slot has built

In every run of the network in which the passes of the controller spare the packet that the parser
is still filling: what a client accepts is the reply of another client, or was sent by the
controller and acknowledged or built by a time slot before.
-/

namespace Libradio
open Libradio.Base Si4463

namespace Net

variable {ι : Type} [DecidableEq ι]

/-- If the event is an action of the controller, it spares the packet under construction. -/
def Spares (oracle : Nat → Outcome) (s : Net ι) : Event ι → Prop
  | .control a => Ctl.SparesAssembly (board oracle) s.ctl a
  | _ => True

instance (oracle : Nat → Outcome) (s : Net ι) (e : Event ι) : Decidable (Spares oracle s e) :=
  match e with
  | .control a => inferInstanceAs (Decidable (Ctl.SparesAssembly (board oracle) s.ctl a))
  | .client _ _ => .isTrue trivial
  | .carry _ _ _ => .isTrue trivial
  | .noise _ _ => .isTrue trivial

/-- Every packet that a client accepts next is a reply that another client has sent, or the
controller has sent it and has a record of it. -/
def AcceptsIssued (m : ι → Member) (s : Net ι) : Prop :=
  ∀ i p, Client.accepted (m i).board (s.cli i).dev = some p →
    (∃ j, j ≠ i ∧ s.HasSent (some j) p ∧ p.IsReply) ∨
      (s.HasSent none p ∧ ∃ q, Issued s.ctl.hist q ∧ q.Reaches p)

/-- An active client has the assignment of an ACTIVATE for its identity that was acknowledged. -/
def ActiveAsAcknowledged (m : ι → Member) (s : Net ι) : Prop :=
  ∀ i, (s.cli i).dev.radio.state = LIBRADIO_STATE_ACTIVE →
    ∃ c q, .ack c q ∈ s.ctl.hist ∧ q.cmd = RADIO_CMD_ACTIVATE ∧ q.len = 6 ∧
      (⟨dataByte q.data 2, dataByte q.data 3, dataByte q.data 4, dataByte q.data 5⟩ :
        Client.Identity) = (m i).id ∧
      (s.cli i).dev.radio.myChannel = dataByte q.data 0 ∧
      (s.cli i).dev.radio.myNodeId = dataByte q.data 1

/-- The line is made of a reply that a client has sent. -/
def MadeOfReply (s : Net ι) (l : Line) : Prop :=
  ∃ i, ∃ f ∈ (s.cli i).dev.chip.air, ∃ q t, q.IsReply ∧ f.2 = (Packet.stamp t q).frame ∧
    ∃ chan node, l = .report chan node t q.cmd (q.data.toList.take q.len.toNat)

/-- What a pass of the response wait prints is made of a reply that a client has sent. -/
def ForwardsReplies (oracle : Nat → Outcome) (s : Net ι) (e : Event ι) : Prop :=
  e = .control .poll →
    ∀ l ∈ Ctl.printed s.ctl (Ctl.step (board oracle) s.ctl .poll), s.MadeOfReply l

omit [DecidableEq ι] in
/-- A client accepts what another station has sent. -/
theorem Genuine.acceptsIssued {m : ι → Member} {s : Net ι} (h : Genuine (Issued s.ctl.hist) s) :
    AcceptsIssued m s := by
  intro i p hp
  have hhears := hears_of_accepted hp
  have hpacket : p = Libradio.received (m i).board (s.cli i).dev := by
    unfold Client.accepted at hp
    split at hp
    · exact (Option.some.inj hp).symm
    · cases hp
  simp only [Client.hears, holdsGood, Bool.and_eq_true, decide_eq_true_eq] at hhears
  obtain ⟨y, hy, f, hf, q, t, hq, hframe, hread⟩ :=
    h.received (x := some i) (d := (s.cli i).dev) rfl (o := (m i).oracle) hhears.2.1 hhears.2.2
  have hsent : s.HasSent y p := ⟨f, hf, q, t, hframe, hpacket ▸ hread⟩
  have hfields : p.received = (q.stamp t).received := hpacket ▸ hread
  have hcmd : p.cmd = q.cmd := congrArg Packet.Received.cmd hfields
  cases y with
  | none =>
    refine .inr ⟨hsent, q.content, hq, ?_⟩
    have hticks : p.ticks = t := congrArg Packet.Received.ticks hfields
    unfold Packet.Content.Reaches
    rw [hticks, hfields]
    rfl
  | some j =>
    refine .inl ⟨j, fun hji ↦ hy (congrArg some hji), hsent, ?_⟩
    unfold Packet.IsReply
    rw [hcmd]
    exact hq

variable (oracle : Nat → Outcome) {m : ι → Member}

/-- The invariant of a run that spares the packets under construction. -/
structure Traced (m : ι → Member) (s : Net ι) : Prop where
  assembly : ∀ d, Ctl.AssemblyInv s.ctl d
  genuine : Genuine (Issued s.ctl.hist) s
  slots : Ctl.SlotsSetTime s.ctl.hist
  fine : ∀ i, (m i).Fine (s.cli i)
  last : ∀ i p, (s.cli i).last = some p →
    (m i).id.ActivatedBy p ∧ ∃ c q, .ack c q ∈ s.ctl.hist ∧ q.Reaches p

omit [DecidableEq ι] in
/-- An activation that a client accepts was acknowledged. -/
theorem Traced.acked {s : Net ι} (h : Traced m s) {i : ι} {p : Packet}
    (hp : Client.accepted (m i).board (s.cli i).dev = some p) (hact : (m i).id.ActivatedBy p) :
    ∃ c q, .ack c q ∈ s.ctl.hist ∧ q.Reaches p := by
  obtain ⟨hcmd, -⟩ := hact
  rcases h.genuine.acceptsIssued i p hp with ⟨j, -, -, hreply⟩ | ⟨-, q, ⟨c, hack | hslot⟩, hq⟩
  · unfold Packet.IsReply at hreply
    rw [hcmd] at hreply
    exact absurd hreply (by decide)
  · exact ⟨c, q, hack, hq⟩
  · have htime := (h.slots c q hslot).2.1
    rw [← hq.fields.1, hcmd] at htime
    exact absurd htime (by decide)

omit [DecidableEq ι] in
/-- The invariant knows the assignments. -/
theorem Traced.activeAsAcknowledged {s : Net ι} (h : Traced m s) : ActiveAsAcknowledged m s := by
  intro i hactive
  obtain ⟨p, hp, hchannel, hnode⟩ := (h.fine i).assigned hactive
  obtain ⟨⟨hcmd, hlen, h2, h3, h4, h5⟩, c, q, hack, hq⟩ := h.last i p hp
  obtain ⟨hqcmd, hqlen, hdata⟩ := hq.fields
  rw [hlen] at hqlen
  have hbyte (n : Nat) (hn : n < 6) : dataByte p.data n = dataByte q.data n := by
    apply hdata n
    rw [← hqlen]
    exact hn
  refine ⟨c, q, hack, hqcmd.symm.trans hcmd, hqlen.symm, ?_, ?_, ?_⟩
  · rw [← hbyte 2 (by omega), ← hbyte 3 (by omega), ← hbyte 4 (by omega), ← hbyte 5 (by omega),
      h2, h3, h4, h5]
  · rw [← hbyte 0 (by omega)]
    exact hchannel
  · rw [← hbyte 1 (by omega)]
    exact hnode

omit [DecidableEq ι] in
/-- It holds when all stations are switched on. -/
theorem traced_start (eeprom : UInt16 → UInt8) (beyondData : UInt8) :
    Traced m (start oracle m eeprom beyondData) where
  assembly := Ctl.assemblyInv_start (board oracle) Si4463.fresh eeprom beyondData
  genuine := genuine_start oracle _ eeprom beyondData
  slots c p hp := by
    have hhist : (start oracle m eeprom beyondData).ctl.hist = [.reset] :=
      (Ctl.chan_start (board oracle) Si4463.fresh eeprom beyondData 0).2.2.2
    rw [hhist, List.mem_singleton] at hp
    cases hp
  fine i := fine_start (m i) Si4463.fresh
  last i p hp := by cases hp

omit [DecidableEq ι] in
/-- An arrival concerns the radios only. -/
theorem Traced.arrive {s : Net ι} (h : Traced m s) {bytes : List UInt8}
    {reaches : Option ι → Bool} (hgenuine : Genuine (Issued s.ctl.hist) (s.arrive bytes reaches)) :
    Traced m (s.arrive bytes reaches) := by
  obtain ⟨dev, hctl⟩ : ∃ dev, (s.arrive bytes reaches).ctl = { s.ctl with dev := dev } := by
    unfold Net.arrive
    dsimp only
    split <;> exact ⟨_, rfl⟩
  have hcli (i : ι) : ((s.arrive bytes reaches).cli i).dev.radio = (s.cli i).dev.radio ∧
      ((s.arrive bytes reaches).cli i).last = (s.cli i).last := by
    unfold Net.arrive
    dsimp only
    split <;> exact ⟨rfl, rfl⟩
  have hhist : (s.arrive bytes reaches).ctl.hist = s.ctl.hist := by rw [hctl]
  refine ⟨fun d ↦ ?_, by rw [hhist]; exact hgenuine, by rw [hhist]; exact h.slots, fun i ↦ ?_,
    fun i p hp ↦ ?_⟩
  · rw [hctl]
    exact ⟨(h.assembly d).pointed, (h.assembly d).assembling, (h.assembly d).load⟩
  · unfold Member.Fine
    rw [(hcli i).1, (hcli i).2]
    exact h.fine i
  · rw [(hcli i).2] at hp
    rw [hhist]
    exact h.last i p hp

/-- One event that spares the packet under construction, and whose noise the checksum detects. -/
theorem traced_step (happ : ∀ i, (m i).app.LeavesRadio SameQueues) {s : Net ι} {e : Event ι}
    (h : Traced m s) (hg : Spares oracle s e) (hdetected : e.Detected) :
    Traced m (step oracle m s e) := by
  have hidle (i : ι) : (m i).app.LeavesRadio fun _ _ ↦ True :=
    ⟨fun p d ↦ ⟨trivial, ((happ i).operate p d).station, ((happ i).operate p d).heard⟩,
      fun x d ↦ ⟨trivial, ((happ i).fetchStatus x d).station, ((happ i).fetchStatus x d).heard⟩⟩
  cases e with
  | control a =>
    have hissued (p : Packet.Content) (hp : Issued s.ctl.hist p) :
        Issued (Ctl.step (board oracle) s.ctl a).hist p := Ctl.issued_step (board oracle) s.ctl a hp
    refine ⟨Ctl.assemblyInv_step (board oracle) s.ctl a h.assembly hg, ?_,
      Ctl.slotsSetTime_step (board oracle) s.ctl a h.slots, h.fine, fun i p hp ↦ ?_⟩
    · apply genuine_step oracle happ (e := .control a) hissued _ hdetected h.genuine
      intro a' ha c st p ok before hrec
      cases ha
      exact Ctl.issued_of_recordsSend (board oracle) h.assembly hg hrec
    · obtain ⟨hid, c, q, hack, hq⟩ := h.last i p hp
      have hkept := Ctl.mem_hist_step (board oracle) s.ctl a (d := c) (by simp [Obs.concerns]) hack
      exact ⟨hid, c, q, hkept, hq⟩
  | client i ev =>
    refine ⟨h.assembly, ?_, h.slots, fun j ↦ ?_, fun j p hp ↦ ?_⟩
    · apply genuine_step oracle happ (e := .client i ev) (fun _ hp ↦ hp) _ hdetected h.genuine
      intro a' ha
      cases ha
    · by_cases hj : j = i
      · subst hj
        show (m j).Fine (Function.update s.cli j _ j)
        rw [Function.update_self]
        exact (fine_step (m j) (hidle j) ev (h.fine j)).1
      · show (m j).Fine (Function.update s.cli i _ j)
        rw [Function.update_of_ne hj]
        exact h.fine j
    · have hcli : (Function.update s.cli i ((m i).step (s.cli i) ev) j).last = some p := hp
      show (m j).id.ActivatedBy p ∧ ∃ c q, .ack c q ∈ s.ctl.hist ∧ q.Reaches p
      by_cases hj : j = i
      · subst hj
        rw [Function.update_self] at hcli
        cases ev with
        | tick => exact h.last j p hcli
        | interrupt => exact h.last j p hcli
        | pass ticks serial =>
          have hor : ((m j).activation (s.cli j)).or (s.cli j).last = some p := hcli
          cases hact : (m j).activation (s.cli j) with
          | none =>
            rw [hact, Option.none_or] at hor
            exact h.last j p hor
          | some p' =>
            rw [hact, Option.some_or] at hor
            cases hor
            obtain ⟨hp', hid⟩ := Option.filter_eq_some_iff.mp hact
            have hid' : (m j).id.ActivatedBy p := of_decide_eq_true hid
            exact ⟨hid', h.acked hp' hid'⟩
      · rw [Function.update_of_ne hj] at hcli
        exact h.last j p hcli
  | carry sender k reaches =>
    have hgenuine : Genuine (Issued s.ctl.hist) (step oracle m s (.carry sender k reaches)) := by
      apply genuine_step oracle happ (fun _ hp ↦ hp) _ hdetected h.genuine
      intro a' ha
      cases ha
    unfold step at hgenuine ⊢
    dsimp only at hgenuine ⊢
    split at hgenuine
    · exact h
    · exact h.arrive hgenuine
  | noise n reaches =>
    apply h.arrive
    apply genuine_step oracle happ (e := .noise n reaches) (fun _ hp ↦ hp) _ hdetected h.genuine
    intro a' ha
    cases ha

/-- Any number of events. -/
theorem traced_run (happ : ∀ i, (m i).app.LeavesRadio SameQueues) (eeprom : UInt16 → UInt8)
    (beyondData : UInt8) {events : List (Event ι)} (hnoise : ∀ e ∈ events, e.Detected)
    (hg : Along (step oracle m) (Spares oracle) (start oracle m eeprom beyondData) events) :
    Traced m (run (step oracle m) (start oracle m eeprom beyondData) events) :=
  run_inv (step oracle m) (I := Traced m) (G := fun s e ↦ Spares oracle s e ∧ e.Detected)
    (fun _ _ h hg ↦ traced_step oracle happ h hg.1 hg.2) (traced_start oracle eeprom beyondData)
    ((along_and _ _ _ _ _).mpr ⟨hg, along_of_forall_mem _ hnoise _⟩)

/-! ### A run of one client -/

/-- A radio chip that answers every command with all its bytes. -/
def readyChip : Nat → Outcome := fun _ ↦ .done fun i ↦ if i = 0 then SI4463_STATE_READY else 64

/-- A sensor with a status of two bytes. -/
def statusSensor : Member :=
  { id := ⟨127, 1, 0, 1⟩, fast := 1, slow := 16, oracle := readyChip
    app := Client.reportingApp 2, fuel := 0 }

/-- The sensor's application leaves the radio alone. -/
theorem leavesRadio_statusSensor : statusSensor.app.LeavesRadio SameQueues :=
  ⟨fun _ _ ↦ ⟨⟨rfl, rfl, rfl⟩, rfl, rfl⟩, fun _ _ ↦ ⟨⟨rfl, rfl, rfl⟩, rfl, rfl⟩⟩

/-- The text is typed on the console. -/
def typed (text : String) : List (Event Unit) :=
  (characters text).map fun ch ↦ .control (.input ch)

/-- The controller is activated, and the activation of the sensor arrives at its radio. -/
def sensorAddressed : List (Event Unit) :=
  typed ">A0:3:0,1,0.\n>A0:3:0,2,127,1,0,1.\n" ++
    [.control (.check 0 0), .carry none 0 fun _ ↦ true, .client () .interrupt]

/-- The sensor is asked for its status, and its response arrives at the controller. -/
def sensorAsked : List (Event Unit) :=
  sensorAddressed ++ [.client () (.pass 0 false)] ++ typed ">A2:2:0,1,4.\n" ++
    [.control (.check 0 0), .carry none 1 fun _ ↦ true, .client () .interrupt,
      .client () (.pass 0 false), .carry (some ()) 0 fun _ ↦ true]

/-- All stations hear noise, and the sensor looks at it. -/
def disturbance : List (Event Unit) :=
  [.noise (Vector.replicate 16 1) fun _ ↦ true, .client () .interrupt, .client () (.pass 0 false)]

/-- The network of the controller and the sensor after some events. -/
def sensorNet (events : List (Event Unit)) : Net Unit :=
  run (step readyChip fun _ ↦ statusSensor) (start readyChip (fun _ ↦ statusSensor) (fun _ ↦ 0) 0)
    events

/-- In every run of the network, whichever frames are lost, delayed or repeated, and whatever noise
arrives that the checksum detects: as long as the passes of the controller spare the packet under
construction, a client accepts only replies of other clients and packets that the controller has
sent and either acknowledged to the host before or built for a time slot. -/
theorem accepts_issued (happ : ∀ i, (m i).app.LeavesRadio SameQueues) (eeprom : UInt16 → UInt8)
    (beyondData : UInt8) (events : List (Event ι)) (hnoise : ∀ e ∈ events, e.Detected)
    (hg : Along (step oracle m) (Spares oracle) (start oracle m eeprom beyondData) events) :
    AcceptsIssued m (run (step oracle m) (start oracle m eeprom beyondData) events) :=
  (traced_run oracle happ eeprom beyondData hnoise hg).genuine.acceptsIssued

/-- The sensor hears noise, and accepts its activation, which has been acknowledged. -/
theorem accepts_issued_sensor :
    Client.accepted statusSensor.board ((sensorNet (disturbance ++ sensorAddressed)).cli ()).dev ≠
        none ∧
      AcceptsIssued (fun _ ↦ statusSensor) (sensorNet (disturbance ++ sensorAddressed)) :=
  ⟨by decide +kernel, accepts_issued readyChip (fun _ ↦ leavesRadio_statusSensor) (fun _ ↦ 0) 0
    (disturbance ++ sensorAddressed) (by decide +kernel) (by decide +kernel)⟩

/-- In these runs an active client has the channel and the node number of an ACTIVATE for its
identity that the controller has acknowledged to the host. -/
theorem active_as_acknowledged (happ : ∀ i, (m i).app.LeavesRadio SameQueues)
    (eeprom : UInt16 → UInt8) (beyondData : UInt8) (events : List (Event ι))
    (hnoise : ∀ e ∈ events, e.Detected)
    (hg : Along (step oracle m) (Spares oracle) (start oracle m eeprom beyondData) events) :
    ActiveAsAcknowledged m (run (step oracle m) (start oracle m eeprom beyondData) events) :=
  (traced_run oracle happ eeprom beyondData hnoise hg).activeAsAcknowledged

/-- The sensor is active. -/
theorem active_as_acknowledged_sensor :
    ((sensorNet sensorAsked).cli ()).dev.radio.state = LIBRADIO_STATE_ACTIVE ∧
      ActiveAsAcknowledged (fun _ ↦ statusSensor) (sensorNet sensorAsked) :=
  ⟨by decide +kernel, active_as_acknowledged readyChip (fun _ ↦ leavesRadio_statusSensor)
    (fun _ ↦ 0) 0 sensorAsked (by decide +kernel) (by decide +kernel)⟩

/-! ### What the controller forwards -/

/-- What a reception of the response wait prints. -/
theorem printed_poll (b : Board Si4463) (s : Ctl Si4463) {l : Line}
    (hl : l ∈ Ctl.printed s (Ctl.poll b s)) :
    ∃ chan node, (libradioCheckRx b (libradioCheckRx b s.dev).1).2 = true ∧
      (Libradio.received b (libradioCheckRx b s.dev).1).checksum = 0 ∧
      l = .report chan node (Libradio.received b (libradioCheckRx b s.dev).1).ticks
        (Libradio.received b (libradioCheckRx b s.dev).1).cmd
        (Libradio.received b (libradioCheckRx b s.dev).1).received.payload := by
  have hnothing {t : Ctl Si4463} (hout : t.out = s.out) : l ∉ Ctl.printed s t := by
    have hnone : Ctl.printed s t = [] := Ctl.printed_of_append (hout.trans (List.append_nil _).symm)
    rw [hnone]
    exact List.not_mem_nil
  unfold Ctl.poll at hl
  split at hl
  · exact absurd hl (hnothing rfl)
  · next c _ =>
    dsimp only at hl
    split at hl
    · generalize ht : ({ s with dev := (libradioCheckRx b s.dev).1 } : Ctl Si4463) = t at hl
      have hdev : t.dev = (libradioCheckRx b s.dev).1 := by rw [← ht]
      have hout : t.out = s.out := by rw [← ht]
      rw [← hdev]
      have hr : Reception (fun _ _ ↦ True) b t.dev (t.chan c).packet
          (libradioRecv b t.dev (t.chan c).packet t.dev.radio.currChannel) :=
        reception_libradioRecv b.keeps_true (fun _ ↦ trivial) t.dev (t.chan c).packet
      unfold Ctl.endWait Ctl.txresponse at hl
      dsimp only at hl
      generalize libradioRecv b t.dev (t.chan c).packet t.dev.radio.currChannel = r at hl hr
      cases hr with
      | nothing ok packet few asked =>
        rw [ok, if_neg Bool.false_ne_true] at hl
        exact absurd hl (hnothing hout)
      | damaged ok many packet sum asked =>
        rw [ok, if_neg Bool.false_ne_true] at hl
        exact absurd hl (hnothing hout)
      | good ok many packet sum asked =>
        rw [ok, if_pos rfl] at hl
        rw [packet] at hl sum
        rw [Ctl.printed_of_append (congrArg (· ++ [_]) hout)] at hl
        exact ⟨_, _, many, sum, List.mem_singleton.mp hl⟩
    · split at hl
      · exact absurd hl (hnothing rfl)
      · exact absurd hl (hnothing rfl)

omit [DecidableEq ι] in
/-- A reception of the response wait is a reply of a client. -/
theorem Genuine.madeOfReply {Q : Packet.Content → Prop} {s : Net ι} (h : Genuine Q s) {l : Line}
    (hl : l ∈ Ctl.printed s.ctl (Ctl.poll (board oracle) s.ctl)) : s.MadeOfReply l := by
  obtain ⟨chan, node, hmany, hsum, rfl⟩ := printed_poll (board oracle) s.ctl hl
  obtain ⟨hchip, -, -⟩ := fifoInfo_count oracle s.ctl.dev
  have hrx : (libradioCheckRx (board oracle) s.ctl.dev).1.chip.rxFifo = (s.chip none).rxFifo := by
    rw [libradioCheckRx, hchip]
    rfl
  obtain ⟨y, hy, f, hf, q, t, hq, hframe, hread⟩ := h.received hrx hmany hsum
  generalize Libradio.received (board oracle) (libradioCheckRx (board oracle) s.ctl.dev).1 = p
    at hread ⊢
  cases y with
  | none => exact absurd rfl hy
  | some i =>
    have hticks : p.ticks = t := congrArg Packet.Received.ticks hread
    have hcmd : p.cmd = q.cmd := congrArg Packet.Received.cmd hread
    refine ⟨i, f, hf, q, t, hq, hframe, chan, node, ?_⟩
    rw [hticks, hcmd, hread]
    rfl

/-- Every frame in the network is one that its station may send. -/
theorem genuine_run (happ : ∀ i, (m i).app.LeavesRadio SameQueues) (eeprom : UInt16 → UInt8)
    (beyondData : UInt8) {events : List (Event ι)} (hnoise : ∀ e ∈ events, e.Detected) :
    Genuine (fun _ ↦ True) (run (step oracle m) (start oracle m eeprom beyondData) events) := by
  have hstep (s : Net ι) (e : Event ι) (h : Genuine (fun _ ↦ True) s) (he : e.Detected) :
      Genuine (fun _ ↦ True) (step oracle m s e) :=
    genuine_step oracle happ (fun _ h ↦ h) (fun _ _ _ _ _ _ _ _ ↦ trivial) he h
  exact run_inv (step oracle m) hstep (genuine_start oracle (fun _ ↦ True) eeprom beyondData)
    (along_of_forall_mem _ hnoise _)

/-- In every run of the network, what the controller forwards to the host from the air was sent
by a client as a reply, and is forwarded with the time stamp, the command and the data of it. -/
theorem forwards_replies (happ : ∀ i, (m i).app.LeavesRadio SameQueues)
    (eeprom : UInt16 → UInt8) (beyondData : UInt8) (events : List (Event ι))
    (hnoise : ∀ e ∈ events, e.Detected) :
    Along (step oracle m) (ForwardsReplies oracle) (start oracle m eeprom beyondData) events := by
  rw [along_iff_split]
  rintro pre e post rfl rfl l hl
  have hpre : ∀ e ∈ pre, e.Detected := fun e he ↦ hnoise e (List.mem_append_left _ he)
  exact (genuine_run oracle happ eeprom beyondData hpre).madeOfReply oracle hl

/-- The response of the sensor is forwarded. -/
theorem forwards_replies_sensor :
    Ctl.printed (sensorNet sensorAsked).ctl
        (Ctl.step (board readyChip) (sensorNet sensorAsked).ctl .poll) ≠ [] ∧
      Along (step readyChip fun _ ↦ statusSensor) (ForwardsReplies readyChip)
        (start readyChip (fun _ ↦ statusSensor) (fun _ ↦ 0) 0)
        (sensorAsked ++ [.control .poll]) :=
  ⟨by decide +kernel, forwards_replies readyChip (fun _ ↦ leavesRadio_statusSensor) (fun _ ↦ 0) 0
    (sensorAsked ++ [.control .poll]) (by decide +kernel)⟩

end Net
end Libradio
