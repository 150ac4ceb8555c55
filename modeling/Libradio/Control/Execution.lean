import Libradio.Client.Commands
import Libradio.Control.Answers
import Libradio.Control.Received
import Libradio.Lib.Questions

/-!
# What the host learns of a command

A character answers the host only when it completes a packet, and then the answer says what
became of the packet: it was executed with a result, refused or queued. Only a command that
was executed with result 0, or a packet that is queued, is answered with success.
-/

namespace Libradio
open Libradio.Base

/-- The line `<+`. -/
def Line.IsAck : Line → Prop
  | .reply code _ => code = 0
  | .report .. => False
  | .eeprom .. => False

instance (l : Line) : Decidable l.IsAck := by
  cases l with
  | reply code radioState => exact inferInstanceAs (Decidable (code = 0))
  | report chan node ticks cmd data => exact .isFalse id
  | eeprom chan node data => exact .isFalse id

/-- A success is a reply. -/
theorem Line.IsAck.isReply {l : Line} (h : l.IsAck) : l.IsReply = true := by
  cases l with
  | reply code radioState => rfl
  | report chan node ticks cmd data => cases h
  | eeprom chan node data => cases h

/-- The entry says nothing about an executed command, a configuration or a start. -/
def Obs.IsIdle : Obs → Prop
  | .exec .. | .setChannel .. | .reset => False
  | _ => True

/-- No record at all is idle. -/
theorem idle_nil : ∀ o ∈ ([] : List Obs), o.IsIdle := nofun

/-- An idle record in front of idle ones. -/
theorem idle_cons {o : Obs} {pre : List Obs} (h : o.IsIdle) (hpre : ∀ o ∈ pre, o.IsIdle) :
    ∀ x ∈ o :: pre, x.IsIdle :=
  List.forall_mem_cons.mpr ⟨h, hpre⟩

variable {σ : Type}

namespace Ctl

/-- The lines printed from `s` to `s'`. -/
def printed (s s' : Ctl σ) : List Line := s'.out.drop s.out.length

/-- The lines that were added are those printed. -/
theorem printed_of_append {s s' : Ctl σ} {news : List Line} (h : s'.out = s.out ++ news) :
    printed s s' = news := by
  rw [printed, h, List.drop_left]

/-- Lines were printed from `s` to `s'`, none of them `<+`. -/
def Unacked (s s' : Ctl σ) : Prop := ∃ news, s'.out = s.out ++ news ∧ ∀ l ∈ news, ¬ l.IsAck

/-- Without a new line nothing is acknowledged. -/
theorem Unacked.of_eq {s s' : Ctl σ} (h : s'.out = s.out) : Unacked s s' :=
  ⟨[], by rw [h, List.append_nil], nofun⟩

private theorem Unacked.of_concat {s s' : Ctl σ} {l : Line} (h : s'.out = s.out ++ [l])
    (hl : ¬ l.IsAck) : Unacked s s' :=
  ⟨[l], h, by simpa using hl⟩

/-- None of the lines printed is a success. -/
theorem Unacked.printed {s s' : Ctl σ} (h : Unacked s s') : ∀ l ∈ printed s s', ¬ l.IsAck := by
  obtain ⟨news, hout, hnews⟩ := h
  rwa [printed_of_append hout]

/-- Two parts without a success. -/
theorem Unacked.trans {s t u : Ctl σ} (h₁ : Unacked s t) (h₂ : Unacked t u) : Unacked s u := by
  obtain ⟨news, hout, hnews⟩ := h₁
  obtain ⟨more, hout', hmore⟩ := h₂
  refine ⟨news ++ more, by rw [hout', hout, List.append_assoc], fun l hl ↦ ?_⟩
  exact (List.mem_append.mp hl).elim (hnews l) (hmore l)

/-- A status report is no `<+`. -/
theorem unacked_localStatus (b : Board σ) (stype : UInt8) (s : Ctl σ) :
    Unacked s (localStatus b stype s) := .of_concat rfl id

/-- A local status prints one report. -/
theorem out_localStatus (b : Board σ) (stype : UInt8) (s : Ctl σ) :
    ∃ bv, (localStatus b stype s).out =
      s.out ++ [.report s.dev.radio.myChannel s.dev.radio.myNodeId s.dev.radio.msTicks
        RADIO_STATUS_RESPONSE (stype :: statusBytes s.dev.radio bv stype)] := ⟨_, rfl⟩

/-- A start prints two status reports. -/
theorem unacked_boot (b : Board σ) (s : Ctl σ) : Unacked s (boot b s) := by
  unfold boot
  dsimp only
  generalize hblank : Ctl.note Obs.reset _ = blank
  have hout : blank.out = s.out := by rw [← hblank]; rfl
  have hreports := (unacked_localStatus b RADIO_STATUS_DYNAMIC blank).trans
    (unacked_localStatus b RADIO_STATUS_STATIC _)
  exact (Unacked.of_eq hout).trans hreports

/-! ### Characters that complete nothing -/

/-- The radio is as before, no command was executed, and there was no `<+`. -/
structure Kept (s s' : Ctl σ) : Prop where
  radio : s'.dev.radio = s.dev.radio
  hist : ∃ pre, s'.hist = pre ++ s.hist ∧ ∀ o ∈ pre, o.IsIdle
  unacked : Unacked s s'

/-- What a character does that completes no packet: it restarts the program, is answered with a
status report or with an error, or has no answer. -/
inductive Aside (b : Board σ) (ch : UInt8) (s s' : Ctl σ) : Prop
  | booted (before : s.state = .waitchan) (reset : ch = chR)
      (eq : s' = boot b (s.note (.input ch)))
  | reported (stype : UInt8) (radio : s'.dev.radio = s.dev.radio)
      (lastModulo : s'.lastModulo = s.lastModulo) (hist : s'.hist = .input ch :: s.hist)
      (out : s'.out = (localStatus b stype s).out)
  | refused (code : UInt8) (error : code ≠ 0) (radio : s'.dev.radio = s.dev.radio)
      (lastModulo : s'.lastModulo = s.lastModulo) (hist : s'.hist = .input ch :: s.hist)
      (out : s'.out = s.out ++ [.reply code s.dev.radio.state])
  | quiet (radio : s'.dev.radio = s.dev.radio) (lastModulo : s'.lastModulo = s.lastModulo)
      (hist : s'.hist = .input ch :: s.hist ∨ ∃ c, s'.hist = .claim c :: .input ch :: s.hist)
      (out : s'.out = s.out)

/-- Every character that completes no packet does one of these things. -/
theorem aside_processInput (b : Board σ) {ch : UInt8} {s : Ctl σ} (h : ¬ Completes s ch) :
    Aside b ch s (processInput b ch s) := by
  unfold processInput
  dsimp only
  by_cases hend : IsLineEnd ch
  · rw [if_pos hend, if_neg]
    · exact .quiet rfl rfl (.inl rfl) rfl
    · intro hcmd
      apply h
      cases hst : s.state with
      | waitcmd => exact .inl ⟨hst, .inl hend⟩
      | waitdata => exact .inr ⟨hst, .inl hend⟩
      | _ => exact absurd hcmd (by rw [state_note, hst]; decide)
  · rw [if_neg hend, state_note]
    cases hst : s.state with
    | newline =>
      dsimp only
      split
      · exact .quiet rfl rfl (.inl rfl) rfl
      · exact .refused _ (by decide) rfl rfl rfl rfl
    | waitnl => exact .quiet rfl rfl (.inl rfl) rfl
    | waitchan =>
      dsimp only
      unfold inputChan
      split
      · unfold claimChannel
        dsimp only
        split
        · split
          · exact .refused _ (by decide) rfl rfl rfl rfl
          · exact .quiet rfl rfl (.inr ⟨_, rfl⟩) rfl
        · exact .refused _ (by decide) rfl rfl rfl rfl
      · split
        · next hr => exact .booted hst hr rfl
        · split
          · exact .reported _ rfl rfl rfl rfl
          · exact .refused _ (by decide) rfl rfl rfl rfl
    | waitnode =>
      dsimp only
      unfold inputNode
      split
      · exact .quiet rfl rfl (.inl rfl) rfl
      · split
        · exact .quiet rfl rfl (.inl rfl) rfl
        · exact .refused _ (by decide) rfl rfl rfl rfl
    | waitcmd =>
      dsimp only
      unfold inputCmd
      split
      · exact .quiet rfl rfl (.inl rfl) rfl
      · split
        · exact .quiet rfl rfl (.inl rfl) rfl
        · split
          · next hdot => exact absurd (.inl ⟨hst, .inr hdot⟩) h
          · exact .refused _ (by decide) rfl rfl rfl rfl
    | waitdata =>
      dsimp only
      unfold inputData
      split
      · exact .quiet rfl rfl (.inl rfl) rfl
      · split
        · split
          · exact .refused _ (by decide) rfl rfl rfl rfl
          · next hlen =>
            split
            · next hdot => exact absurd (.inr ⟨hst, .inr ⟨hdot, UInt8.not_le.mp hlen⟩⟩) h
            · exact .quiet rfl rfl (.inl rfl) rfl
        · exact .refused _ (by decide) rfl rfl rfl rfl

/-- A character that completes no packet restarts the program, or nothing has happened. -/
theorem kept_processInput (b : Board σ) {ch : UInt8} {s : Ctl σ} (h : ¬ Completes s ch) :
    (s.state = .waitchan ∧ ch = chR ∧ processInput b ch s = boot b (s.note (.input ch))) ∨
      Kept s (processInput b ch s) := by
  have hread {t : Ctl σ} (hist : t.hist = .input ch :: s.hist) :
      ∃ pre, t.hist = pre ++ s.hist ∧ ∀ o ∈ pre, o.IsIdle :=
    ⟨[.input ch], hist, idle_cons trivial idle_nil⟩
  cases aside_processInput b h with
  | booted before reset eq => exact .inl ⟨before, reset, eq⟩
  | reported stype radio lastModulo hist out => exact .inr ⟨radio, hread hist, .of_concat out id⟩
  | refused code error radio lastModulo hist out =>
    exact .inr ⟨radio, hread hist, .of_concat out error⟩
  | quiet radio lastModulo hist out =>
    rcases hist with hist | ⟨c, hist⟩
    · exact .inr ⟨radio, hread hist, .of_eq out⟩
    · exact .inr ⟨radio, ⟨[.claim c, .input ch], hist,
        idle_cons trivial (idle_cons trivial idle_nil)⟩, .of_eq out⟩

/-- What one character can do to the radio: it is done by the hand-over of a completed packet,
by a start of the program, or nothing is. -/
theorem radio_processInput (b : Board σ) (ch : UInt8) (s : Ctl σ) :
    (Completes s ch ∧
        (processInput b ch s).dev.radio = (enqueue b s.currChp (filled ch s)).dev.radio) ∨
      processInput b ch s = boot b (s.note (.input ch)) ∨
      (processInput b ch s).dev.radio = s.dev.radio := by
  by_cases h : Completes s ch
  · obtain ⟨st, -, heq⟩ := processInput_of_completes b h
    exact .inl ⟨h, by rw [heq]⟩
  · rcases kept_processInput b h with ⟨-, -, hboot⟩ | hkept
    · exact .inr (.inl hboot)
    · exact .inr (.inr hkept.radio)

/-! ### The commands that the library executes -/

/-- What the library does with a command that the controller passes on. -/
inductive Passed (p : Packet) (d d' : Dev σ) : Prop
  | nothing (deact : ¬ IsDeactivation d.radio p) (eq : d' = d)
  | deactivated (deact : IsDeactivation d.radio p)
      (eq : d' = { d with radio := d.radio.deactivated })
  | setDate (cmd : p.cmd = RADIO_CMD_SET_DATE)
      (eq : d' = { d with radio :=
        { d.radio with date := word (dataByte p.data 0) (dataByte p.data 1) } })
  | writeEeprom (cmd : p.cmd = RADIO_CMD_WRITE_EEPROM) (eeprom : UInt16 → UInt8)
      (eq : d' = { d with eeprom := eeprom })

/-- A command of the library is passed on to it. -/
theorem passed_libradioCommand (b : Board σ) {p : Packet} (d : Dev σ)
    (hlib : IsLibraryCommand p.cmd) : Passed p d (libradioCommand b app 0 p d) := by
  have hne {c : UInt8} (hc : ¬ IsLibraryCommand c) : p.cmd ≠ c := by
    rintro rfl
    exact hc hlib
  cases executed_libradioCommand b app 0 p d with
  | nothing act deact request eq => exact .nothing deact eq
  | activated act eq => exact absurd act.1 (hne (by decide))
  | deactivated deact eq => exact .deactivated deact eq
  | setTime active cmd len eq => exact absurd cmd (hne (by decide))
  | setDate active cmd len eq => exact .setDate cmd eq
  | silent active cmd => exact absurd cmd (hne (by decide))
  | status active cmd => exact absurd cmd (hne (by decide))
  | readEeprom buffer addr active cmd => exact absurd cmd (hne (by decide))
  | writeEeprom eeprom active cmd eq => exact .writeEeprom cmd eeprom eq
  | operate active cmd eq =>
    refine absurd cmd ?_
    rcases hlib with h | h | h | h | h <;>
      · rw [h]
        decide

/-- An active station stores the date. -/
theorem libradioCommand_setDate (b : Board σ) {p : Packet} (d : Dev σ)
    (hcmd : p.cmd = RADIO_CMD_SET_DATE) (hlen : p.len = 2)
    (hactive : LIBRADIO_STATE_ACTIVE ≤ d.radio.state) :
    libradioCommand b app 0 p d = { d with radio :=
      { d.radio with date := word (dataByte p.data 0) (dataByte p.data 1) } } := by
  unfold libradioCommand
  rw [hcmd, if_neg fun h ↦ UInt8.not_lt.mpr hactive h.2, if_neg (by decide), if_neg (by decide),
    if_neg (by decide), if_neg (by decide), if_neg (by decide), if_neg (by decide), if_pos rfl,
    if_neg (not_not_intro hlen)]

/-! ### The commands that set the controller up -/

/-- A start of the radio leaves the controller's channel and number alone. It ends with the radio
in use, or in the state ERROR. -/
theorem setup_libradioPowerUp (b : Board σ) (d : Dev σ) :
    (libradioPowerUp b d).1.radio.myChannel = d.radio.myChannel ∧
      (libradioPowerUp b d).1.radio.myNodeId = d.radio.myNodeId ∧
      if (libradioPowerUp b d).2 then (libradioPowerUp b d).1.radio.radioActive = true
      else (libradioPowerUp b d).1.radio.state = LIBRADIO_STATE_ERROR := by
  have herror (r : Radio) : (libradioSetState LIBRADIO_STATE_ERROR r).myChannel = r.myChannel ∧
      (libradioSetState LIBRADIO_STATE_ERROR r).myNodeId = r.myNodeId := by
    unfold libradioSetState
    split <;> exact ⟨rfl, rfl⟩
  cases poweredUp_libradioPowerUp b.keeps_true d with
  | already active eq =>
    rw [eq]
    exact ⟨rfl, rfl, active⟩
  | done asleep ok asked =>
    rw [if_pos ok]
    have hchannel := congrArg Radio.myChannel asked.radio
    have hnode := congrArg Radio.myNodeId asked.radio
    have hactive := congrArg Radio.radioActive asked.radio
    exact ⟨hchannel, hnode, hactive⟩
  | failed asleep ok asked =>
    rw [if_neg (by rw [ok]; exact Bool.false_ne_true)]
    have hchannel := congrArg Radio.myChannel asked.radio
    have hnode := congrArg Radio.myNodeId asked.radio
    have hstate := congrArg Radio.state asked.radio
    exact ⟨hchannel.trans (herror d.radio).1, hnode.trans (herror d.radio).2,
      hstate.trans (state_libradioSetState _ d.radio)⟩

/-- The controller has been activated as node `node` and its radio is in use. -/
structure IsActive (node : UInt8) (r : Radio) : Prop where
  state : r.state = LIBRADIO_STATE_ACTIVE
  radioActive : r.radioActive = true
  myNodeId : r.myNodeId = node

/-- The state becomes ACTIVE; the use of the radio, the channel and the node number stay. -/
structure Activates (r r' : Radio) : Prop where
  state : r'.state = LIBRADIO_STATE_ACTIVE
  radioActive : r'.radioActive = r.radioActive
  myChannel : r'.myChannel = r.myChannel
  myNodeId : r'.myNodeId = r.myNodeId

/-- What an ACTIVATE does once the radio is powered up. -/
theorem activates_libradioSetState (r : Radio) :
    Activates r (libradioPowerMode true
      (libradioSetDelay 1 (libradioSetState LIBRADIO_STATE_ACTIVE r))) := by
  obtain ⟨timeout, period, hset⟩ := station_libradioSetState_active r
  constructor
  · exact state_libradioSetState LIBRADIO_STATE_ACTIVE r
  · exact congrArg Station.radioActive hset
  · exact congrArg Station.myChannel hset
  · exact congrArg Station.myNodeId hset

private theorem ctlerr_power_fail : RADIO_CTLERR_POWER_FAIL ≠ 0 := by decide

/-- An ACTIVATE with three data bytes succeeds if the radio powers up. -/
theorem mycommand_activate (b : Board σ) {p : Packet} (s : Ctl σ)
    (hcmd : p.cmd = RADIO_CMD_ACTIVATE) (hlen : p.len = 3) :
      ((mycommand b p s).2 = 0 ∧ IsActive (dataByte p.data 1) (mycommand b p s).1.dev.radio) ∨
      ((mycommand b p s).2 ≠ 0 ∧
        (mycommand b p s).1.dev.radio.state = LIBRADIO_STATE_ERROR) := by
  have heq : mycommand b p s = activate b p s := by
    unfold mycommand
    rw [hcmd, if_neg (by decide), if_pos rfl, if_neg (not_not_intro hlen)]
  obtain ⟨-, hnode, hup⟩ := setup_libradioPowerUp b { s.dev with radio := { s.dev.radio with
    myChannel := dataByte p.data 0, myNodeId := dataByte p.data 1 } }
  rw [heq]
  unfold activate
  dsimp only at hnode ⊢
  split
  · next hok =>
    rw [if_pos hok] at hup
    left
    have hactive := activates_libradioSetState (libradioPowerUp b { s.dev with
      radio := { s.dev.radio with
        myChannel := dataByte p.data 0, myNodeId := dataByte p.data 1 } }).1.radio
    refine ⟨rfl, hactive.state, ?_, ?_⟩
    · rw [hactive.radioActive, hup]
    · rw [hactive.myNodeId, hnode]
  · next hok =>
    rw [if_neg hok] at hup
    exact .inr ⟨ctlerr_power_fail, hup⟩

/-- A SET_TIME with three data bytes succeeds. -/
theorem mycommand_setTime (b : Board σ) {p : Packet} (s : Ctl σ)
    (hcmd : p.cmd = RADIO_CMD_SET_TIME) (hlen : p.len = 3) :
    (mycommand b p s).2 = 0 ∧ (mycommand b p s).1.dev.radio.setup = s.dev.radio.setup := by
  unfold mycommand
  rw [hcmd, if_neg (by decide), if_neg (by decide), if_pos rfl, if_neg (not_not_intro hlen)]
  exact ⟨rfl, rfl⟩

/-- A SET_DATE with two data bytes succeeds, and is obeyed if the controller is active. -/
theorem mycommand_setDate (b : Board σ) {p : Packet} (s : Ctl σ)
    (hcmd : p.cmd = RADIO_CMD_SET_DATE) (hlen : p.len = 2) :
    (mycommand b p s).2 = 0 ∧ (mycommand b p s).1.dev.radio.setup =
      { s.dev.radio.setup with
        date := if s.dev.radio.state < LIBRADIO_STATE_ACTIVE then s.dev.radio.date
          else word (dataByte p.data 0) (dataByte p.data 1) } := by
  have heq : mycommand b p s = ({ s with dev := libradioCommand b app 0 p s.dev }, 0) := by
    unfold mycommand
    rw [hcmd, if_pos (by decide)]
  rw [heq]
  refine ⟨rfl, ?_⟩
  dsimp only
  by_cases h : s.dev.radio.state < LIBRADIO_STATE_ACTIVE
  · unfold libradioCommand
    rw [if_pos ⟨by rw [hcmd]; decide, h⟩, if_pos h]
    rfl
  · rw [libradioCommand_setDate b s.dev hcmd hlen (UInt8.not_lt.mp h), if_neg h]
    rfl

/-- A SET_CHANNEL with two data bytes succeeds. -/
theorem mycommand_setChannel (b : Board σ) {p : Packet} (s : Ctl σ)
    (hcmd : p.cmd = RADIO_CMD_SET_CHANNEL) (hlen : p.len = 2) :
    (mycommand b p s).2 = 0 ∧ (mycommand b p s).1.dev.radio.setup = s.dev.radio.setup := by
  have hset (channo config : UInt8) : (setChannel channo config s).dev = s.dev := by
    unfold setChannel
    split <;> rfl
  unfold mycommand
  rw [hcmd, if_neg (by decide), if_neg (by decide), if_neg (by decide), if_neg (by decide),
    if_neg (by decide), if_pos rfl, if_neg (not_not_intro hlen)]
  split
  · exact ⟨rfl, rfl⟩
  · exact ⟨rfl, congrArg (fun d ↦ d.radio.setup) (hset _ _)⟩

/-! ### What becomes of a packet -/

/-- The controller while it executes the packet of channel `c`. -/
def executing (c : Fin 6) (s : Ctl σ) : Ctl σ :=
  (s.note (.handed c (s.chan c).packet.content)).setState c .transmit

/-- A packet that was handed over in channel `c`, and the answer to it. -/
inductive Settled (b : Board σ) (c : Fin 6) (s s' : Ctl σ) : Prop
  | executed (own : IsLocal s.dev.radio (s.chan c).packet.content)
      (radio : s'.dev.radio = (mycommand b (s.chan c).packet (executing c s)).1.dev.radio)
      (hist : s'.hist = .finish c ::
        .exec (s.chan c).packet.content (mycommand b (s.chan c).packet (executing c s)).2 ::
          (configObs (s.chan c).packet.content ++ .handed c (s.chan c).packet.content :: s.hist))
      (acked : (∃ l ∈ printed s s', l.IsAck) →
        (mycommand b (s.chan c).packet (executing c s)).2 = 0)
  | refused (radio : s'.dev.radio = s.dev.radio)
      (hist : s'.hist = .finish c :: .handed c (s.chan c).packet.content :: s.hist)
      (unacked : Unacked s s')
  | queued (own : ¬ IsLocal s.dev.radio (s.chan c).packet.content)
      (active : s.dev.radio.state = LIBRADIO_STATE_ACTIVE) (radio : s'.dev.radio = s.dev.radio)
      (hist : s'.hist = .ack c (s.chan c).packet.content ::
        .handed c (s.chan c).packet.content :: s.hist)

/-- Executing a command prints no `<+`. -/
theorem unacked_mycommand (b : Board σ) (p : Packet) (s : Ctl σ) :
    Unacked s (mycommand b p s).1 := by
  obtain ⟨news, hout, hnews⟩ := out_mycommand b p s
  exact ⟨news, hout, fun l hl hack ↦ Bool.noConfusion (hack.isReply.symm.trans (hnews l hl))⟩

/-- A packet for the controller itself is executed and answered, and its channel is free again. -/
theorem enqueue_of_isLocal (b : Board σ) {c : Fin 6} {s : Ctl σ}
    (own : IsLocal s.dev.radio (s.chan c).packet.content) :
    enqueue b c s =
      ((((mycommand b (s.chan c).packet (executing c s)).1.note
        (.exec (s.chan c).packet.content (mycommand b (s.chan c).packet (executing c s)).2)).reply
          (mycommand b (s.chan c).packet (executing c s)).2).setState c .empty).note
            (.finish c) := by
  have hp : ((executing c s).chan c).packet = (s.chan c).packet := by
    simp [executing]
  have hexec : (s.note (.handed c (s.chan c).packet.content)).setState c .transmit =
    executing c s := rfl
  have hown : IsLocal (executing c s).dev.radio (s.chan c).packet.content := own
  unfold enqueue
  dsimp only
  rw [hexec, if_pos hown]
  unfold executeLocal
  dsimp only
  rw [hp]

/-- The controller about to execute the packet `p` that a character has completed in channel
`c`. -/
structure Started (ch : UInt8) (c : Fin 6) (p : Packet.Content) (s t : Ctl σ) : Prop where
  dev : t.dev = s.dev
  lastModulo : t.lastModulo = s.lastModulo
  out : t.out = s.out
  hist : t.hist = .handed c p :: .input ch :: s.hist
  own : (t.chan c).state = .transmit
  priority : ∀ d, (t.chan d).priority = (s.chan d).priority
  others : ∀ d, c ≠ d → t.chan d = s.chan d

/-- The controller when it has executed a packet of channel `c` with the result `r`, and has
answered. -/
def executed (c : Fin 6) (p : Packet.Content) (r : Ctl σ × UInt8) (st : IoState) : Ctl σ :=
  { (((r.1.note (.exec p r.2)).reply r.2).setState c .empty).note (.finish c) with state := st }

/-- The device is the one the command left. -/
@[simp]
theorem dev_executed (c : Fin 6) (p : Packet.Content) (r : Ctl σ × UInt8) (st : IoState) :
    (executed c p r st).dev = r.1.dev := rfl

/-- `last_modulo` is the one the command left. -/
@[simp]
theorem lastModulo_executed (c : Fin 6) (p : Packet.Content) (r : Ctl σ × UInt8) (st : IoState) :
    (executed c p r st).lastModulo = r.1.lastModulo := rfl

/-- The reply stands behind what the command printed. -/
@[simp]
theorem out_executed (c : Fin 6) (p : Packet.Content) (r : Ctl σ × UInt8) (st : IoState) :
    (executed c p r st).out = r.1.out ++ [.reply r.2 r.1.dev.radio.state] := rfl

/-- The command and the release of the channel are recorded. -/
@[simp]
theorem hist_executed (c : Fin 6) (p : Packet.Content) (r : Ctl σ × UInt8) (st : IoState) :
    (executed c p r st).hist = .finish c :: .exec p r.2 :: r.1.hist := rfl

/-- The channel of the line is released. -/
theorem chan_executed_self (c : Fin 6) (p : Packet.Content) (r : Ctl σ × UInt8) (st : IoState) :
    (executed c p r st).chan c = { r.1.chan c with state := .empty } :=
  chan_setState_self c .empty _

/-- The other channels are as the command left them. -/
theorem chan_executed_of_ne {c d : Fin 6} (hd : c ≠ d) (p : Packet.Content) (r : Ctl σ × UInt8)
    (st : IoState) : (executed c p r st).chan d = r.1.chan d :=
  chan_setState_of_ne hd .empty _

/-- A packet for the controller itself is executed when it is complete. -/
theorem local_of_completed (b : Board σ) {ch : UInt8} {s : Ctl σ} {c : Fin 6} {p : Packet.Content}
    (h : completed ch s = some (c, p)) (hown : IsLocal s.dev.radio p) :
    ∃ P t st, P.content = p ∧ Started ch c p s t ∧
      processInput b ch s = executed c p (mycommand b P t) st := by
  rw [completed] at h
  split at h
  · next hcomp =>
    cases h
    obtain ⟨st, -, heq⟩ := processInput_of_completes b hcomp
    obtain ⟨-, hothers, -, -, hdev, hhist⟩ := filled_spec ch s
    have hpriority := priority_filled ch s
    have hmodulo := lastModulo_filled ch s
    have hout := out_filled ch s
    generalize filled ch s = u at hown heq hothers hdev hhist hpriority hmodulo hout
    have hlocal : IsLocal u.dev.radio (u.chan s.currChp).packet.content := by rwa [hdev]
    rw [enqueue_of_isLocal b hlocal] at heq
    refine ⟨(u.chan s.currChp).packet, executing s.currChp u, st, rfl, ?_, heq⟩
    constructor
    · exact hdev
    · exact hmodulo
    · exact hout
    · rw [← hhist]
      rfl
    · exact congrArg Channel.state (chan_setState_self s.currChp .transmit _)
    · intro d
      rw [← hpriority d]
      exact priority_modify (c := s.currChp) (s := u)
        (f := fun chp ↦ { chp with state := .transmit }) rfl d
    · intro d hd
      rw [← hothers d hd]
      exact chan_setState_of_ne hd .transmit _
  · cases h

/-- A packet for a node that is complete is refused or queued; the answer to it is all that is
printed. -/
structure Foreign (s s' : Ctl σ) : Prop where
  dev : s'.dev = s.dev
  lastModulo : s'.lastModulo = s.lastModulo
  hist : ∃ pre, s'.hist = pre ++ s.hist ∧ ∀ o ∈ pre, o.IsIdle
  out : ∃ code, s'.out = s.out ++ [.reply code s.dev.radio.state]

/-- A packet for others is queued or refused. -/
theorem foreign_of_completed (b : Board σ) {ch : UInt8} {s : Ctl σ} {c : Fin 6}
    {p : Packet.Content} (h : completed ch s = some (c, p)) (hother : ¬ IsLocal s.dev.radio p) :
    Foreign s (processInput b ch s) := by
  have hidle (first : Obs) (hfirst : first.IsIdle) :
      ∀ o ∈ [first, .handed c p, .input ch], o.IsIdle :=
    idle_cons hfirst (idle_cons trivial (idle_cons trivial idle_nil))
  rw [completed] at h
  split at h
  · next hcomp =>
    cases h
    obtain ⟨st, -, heq⟩ := processInput_of_completes b hcomp
    obtain ⟨-, -, -, -, hdev, hhist⟩ := filled_spec ch s
    have hmodulo := lastModulo_filled ch s
    have hout := out_filled ch s
    rw [heq]
    generalize filled ch s = u at hother hidle hdev hhist hmodulo hout ⊢
    rw [← hdev] at hother
    unfold enqueue
    dsimp only
    rw [if_neg (by exact hother)]
    split
    · refine ⟨hdev, hmodulo, ⟨_, ?_, hidle (.finish s.currChp) trivial⟩,
        RADIO_CTLERR_NOT_ACTIVE, ?_⟩
      · rw [List.cons_append, List.cons_append, List.singleton_append, ← hhist]
        rfl
      · rw [← hout, ← hdev]
        rfl
    · refine ⟨hdev, hmodulo,
        ⟨_, ?_, hidle (.ack s.currChp (u.chan s.currChp).packet.content) trivial⟩, 0, ?_⟩
      · rw [List.cons_append, List.cons_append, List.singleton_append, ← hhist]
        simp only [queuePacket, hist_note, packet_setState, chan_note]
        rfl
      · rw [← hout, ← hdev]
        rfl
  · cases h

private theorem ctlerr_not_active : RADIO_CTLERR_NOT_ACTIVE ≠ 0 := by decide

/-- Whatever becomes of a packet, it is settled in one of these ways. -/
theorem settled_enqueue (b : Board σ) (c : Fin 6) (s : Ctl σ) :
    Settled b c s (enqueue b c s) := by
  by_cases hown : IsLocal s.dev.radio (s.chan c).packet.content
  · have hal := (alike_mycommand b (s.chan c).packet (executing c s)).hist
    have hprint := unacked_mycommand b (s.chan c).packet (executing c s)
    rw [hist_applyConfig] at hal
    have hhist : (executing c s).hist = .handed c (s.chan c).packet.content :: s.hist := rfl
    rw [enqueue_of_isLocal b hown]
    refine .executed hown ?_ ?_ ?_ <;>
      generalize mycommand b (s.chan c).packet (executing c s) = r at hal hprint ⊢
    · rfl
    · change Obs.finish c :: Obs.exec (s.chan c).packet.content r.2 :: r.1.hist = _
      rw [hal, hhist]
    · rintro ⟨l, hl, hack⟩
      refine Decidable.byContradiction fun hcode ↦ ?_
      have hreply : Unacked r.1 ((r.1.note (.exec (s.chan c).packet.content r.2)).reply r.2) :=
        .of_concat rfl hcode
      exact (hprint.trans hreply).printed l hl hack
  · have hp : ((executing c s).chan c).packet = (s.chan c).packet := by
      simp [executing]
    have hexec : (s.note (.handed c (s.chan c).packet.content)).setState c .transmit =
      executing c s := rfl
    have hother : ¬ IsLocal (executing c s).dev.radio (s.chan c).packet.content := hown
    unfold enqueue
    dsimp only
    rw [hexec, if_neg hother]
    split
    · exact .refused rfl rfl (.of_concat rfl ctlerr_not_active)
    · next hact =>
      refine .queued hown (Decidable.not_not.mp hact) rfl ?_
      unfold queuePacket
      dsimp only
      rw [hp]
      rfl

/-- A line for the controller itself is executed. -/
theorem dev_enqueue_of_isLocal (b : Board σ) {c : Fin 6} {s : Ctl σ}
    (own : IsLocal s.dev.radio (s.chan c).packet.content) :
    (enqueue b c s).dev = (mycommand b (s.chan c).packet (executing c s)).1.dev := by
  rw [enqueue_of_isLocal b own]
  generalize mycommand b (s.chan c).packet (executing c s) = r
  rfl

/-! ### Nothing is waited for -/

/-- No response is awaited, and no packet is queued that asks for one. -/
def NoWait (s : Ctl σ) : Prop := ∀ d, s.respChp ≠ some d ∧ (s.chan d).state ≠ .txrespond

/-- Without a channel that waits there is no response wait. -/
theorem NoWait.respChp {s : Ctl σ} (h : NoWait s) : s.respChp = none :=
  Option.eq_none_iff_forall_ne_some.mpr fun d ↦ (h d).1

/-- Of the packets that are queued a STATUS waits for its transmission as a request. -/
theorem state_of_queues (b : Board σ) {s : Ctl σ} {ch : UInt8} {d : Fin 6} {p : Packet.Content}
    (h : Queues s ch d p) : ((processInput b ch s).chan d).state =
      if p.cmd = RADIO_CMD_STATUS then .txrespond else .transmit := by
  obtain ⟨hcomp, hother, hactive⟩ := h
  rw [completed] at hcomp
  split at hcomp
  · next hcompletes =>
    cases hcomp
    obtain ⟨st, -, heq⟩ := processInput_of_completes b hcompletes
    obtain ⟨-, -, -, -, hdev, -⟩ := filled_spec ch s
    rw [heq]
    change ((enqueue b s.currChp (filled ch s)).chan s.currChp).state = _
    rw [← hdev] at hother hactive
    generalize filled ch s = t at hother hactive ⊢
    unfold enqueue
    dsimp only
    rw [if_neg (by exact hother), if_neg (by exact not_not_intro hactive)]
    simp only [queuePacket, chan_note, chan_reply, chan_modify_self, packet_setState]
    rfl
  · cases hcomp

/-- As long as no STATUS is handed over, nothing is ever waited for. -/
theorem noWait_step (b : Board σ) {s : Ctl σ} {a : Act} (h : NoWait s)
    (ha : ∀ ch, a = .input ch → ∀ c p, completed ch s = some (c, p) → p.cmd ≠ RADIO_CMD_STATUS) :
    NoWait (step b s a) := by
  intro d
  obtain ⟨hresp, hstate⟩ := h d
  cases chanEffect_step b s a d with
  | same state content resp asm track => exact ⟨mt resp.mp hresp, state ▸ hstate⟩
  | claimed free state resp before after track =>
    exact ⟨mt resp.mp hresp, by rw [state]; exact nofun⟩
  | edited before after state resp track => exact ⟨mt resp.mp hresp, state ▸ hstate⟩
  | left ch act leaves before after state content resp track =>
    exact ⟨mt resp.mp hresp, state ▸ hstate⟩
  | released p config before after state resp config_set track =>
    exact ⟨mt resp.mp hresp, by rw [state]; exact nofun⟩
  | queued ch p act queues before after state content resp track =>
    refine ⟨mt resp.mp hresp, fun hst ↦ ?_⟩
    subst act
    have hstate := (state_of_queues b queues).symm.trans hst
    split at hstate
    · next hcmd => exact ha ch rfl d p queues.1 hcmd
    · cases hstate
  | configured ch config act configures before after state content resp track =>
    refine ⟨mt resp.mp hresp, ?_⟩
    rw [state]
    cases hof : ChState.ofConfig config with
    | none => exact hstate
    | some st =>
      have hle := ChState.toNat_le_of_ofConfig hof
      rintro rfl
      exact absurd hle (by decide)
  | waited act before early state resp asm track => exact absurd before hresp
  | ended act before ends state resp asm track => exact absurd before hresp
  | built between inSend p ok act free due empty state content resp asm track =>
    refine ⟨by rw [resp]; exact nofun, ?_⟩
    rw [state]
    split <;> exact nofun
  | sent between inSend ok act free busy adding state content resp asm track =>
    refine ⟨fun hr ↦ hstate (resp.mp hr).2, ?_⟩
    rw [state, if_neg hstate]
    split
    · exact nofun
    · exact hstate
  | reset state resp after track =>
    exact ⟨by rw [resp]; exact nofun, by rw [state]; exact nofun⟩

/-! ### The parser between two characters -/

/-- The time slot of a pass fills the channel that a line is being read into: an earlier pass
has sent the half of the packet and left the channel empty. -/
def SlotOverwrites (between : Nat) (s : Ctl σ) : Prop :=
  s.state.IsAssembling ∧ (s.chan s.currChp).state = .empty ∧ slotDue between s = some s.currChp

instance (between : Nat) (s : Ctl σ) : Decidable (SlotOverwrites between s) :=
  inferInstanceAs (Decidable (_ ∧ _))

/-- What has been read stays read while the parser and its packet do not change. -/
theorem Reads.of_same {s s' : Ctl σ} {line : List UInt8} (h : Reads s line) (hs : SameParser s s')
    (hp : s.state.IsAssembling →
      (s'.chan s.currChp).packet.content = (s.chan s.currChp).packet.content) :
    Reads s' line := by
  rw [Reads] at h ⊢
  rw [hs.state, hs.currChp, hs.value]
  cases hst : s.state with
  | newline =>
    rw [hst] at h
    exact h
  | waitnl => trivial
  | waitchan =>
    rw [hst] at h
    exact h
  | waitnode =>
    rw [hst] at h
    exact h
  | waitcmd =>
    rw [hst] at h
    dsimp only at h ⊢
    have hnode := congrArg Packet.Content.node (hp (by rw [hst]; decide))
    dsimp only [Packet.content] at hnode
    rw [hnode]
    exact h
  | waitdata =>
    rw [hst] at h
    dsimp only at h ⊢
    rw [hp (by rw [hst]; decide)]
    exact h

/-- A pass whose time slot does not overwrite the packet leaves the parser alone. -/
theorem reads_check (b : Board σ) {between inSend : Nat} {s : Ctl σ} {line : List UInt8}
    (h : Reads s line) (hslot : ¬ SlotOverwrites between s) :
    Reads (check b between inSend s) line := by
  cases effect_check b between inSend s with
  | idle closed chan respChp parser hist =>
    exact h.of_same parser fun _ ↦ by rw [chan]
  | sent c st p ok before none source hist own packet others respChp parser =>
    refine h.of_same parser fun hasm ↦ ?_
    by_cases hc : c = s.currChp
    · rw [← hc, packet]
      cases source with
      | built due empty state hist' => exact absurd ⟨hasm, hc ▸ empty, hc ▸ due⟩ hslot
      | found due busy state packet' hist' => exact packet'
      | picked due ready state packet' hist' => exact packet'
    · rw [(others _ hc).2]

/-- Nothing but a transmission or a time packet is recorded by a pass. -/
theorem hist_check (b : Board σ) (between inSend : Nat) (s : Ctl σ) :
    ∃ pre, (check b between inSend s).hist = pre ++ s.hist ∧ ∀ o ∈ pre, o.IsIdle := by
  cases effect_check b between inSend s with
  | idle closed chan respChp parser hist => exact ⟨[], hist, nofun⟩
  | sent c st p ok before none source hist own packet others respChp parser =>
    cases source with
    | built due empty state hist' =>
      exact ⟨[.send c st p ok, .slot c p], by rw [hist, hist']; rfl,
        idle_cons trivial (idle_cons trivial idle_nil)⟩
    | found due busy state packet' hist' =>
      exact ⟨[.send c st p ok], by rw [hist, hist']; rfl, idle_cons trivial idle_nil⟩
    | picked due ready state packet' hist' =>
      exact ⟨[.send c st p ok], by rw [hist, hist']; rfl, idle_cons trivial idle_nil⟩

end Ctl
end Libradio
