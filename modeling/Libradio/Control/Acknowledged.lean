import Libradio.Control.Execution

/-!
# What an acknowledgement means

`mycommand` returns 0 from all its branches but two, and `enqueue` prints `<+` for it
(`src/control/enqueue.c:66`). Whether the command had an effect is decided elsewhere: by the
checks that leave a branch early, by `libradio_command`, which returns nothing, and by
`set_channel`.
-/

namespace Libradio
open Libradio.Base

variable {σ : Type}

/-- A line `<-`. -/
def Line.IsNack : Line → Prop
  | .reply code _ => code ≠ 0
  | .report .. => False
  | .eeprom .. => False

private theorem Line.IsNack.isReply {l : Line} (h : l.IsNack) : l.IsReply = true := by
  cases l with
  | reply code radioState => rfl
  | report chan node ticks cmd data => cases h
  | eeprom chan node data => cases h

namespace Ctl

/-! ### What the documents say of a command -/

/-- A command with the length it is documented with, for a channel that exists, and, where the
library executes it, given to an active controller. -/
inductive Proper (r : Radio) (p : Packet.Content) : Prop
  | own (cmd : p.cmd = RADIO_CMD_ACTIVATE ∨ p.cmd = RADIO_CMD_SET_TIME ∨ p.cmd = RADIO_CMD_STATUS)
      (len : p.len = 3)
  | readEeprom (cmd : p.cmd = RADIO_CMD_READ_EEPROM) (len : p.len = 5)
  | setChannel (cmd : p.cmd = RADIO_CMD_SET_CHANNEL) (len : p.len = 2)
      (channel : (dataByte p.data 0).toNat < 6)
  | plain (cmd : p.cmd = RADIO_CMD_NOOP ∨ p.cmd = RADIO_CMD_DEACTIVATE) (len : p.len = 0)
      (active : LIBRADIO_STATE_ACTIVE ≤ r.state)
  | setDate (cmd : p.cmd = RADIO_CMD_SET_DATE) (len : p.len = 2)
      (active : LIBRADIO_STATE_ACTIVE ≤ r.state)
  | memory (cmd : p.cmd = RADIO_CMD_FIRMWARE ∨ p.cmd = RADIO_CMD_WRITE_EEPROM)
      (least : 3 ≤ p.len) (most : p.len ≤ 22) (active : LIBRADIO_STATE_ACTIVE ≤ r.state)

/-- What a command asks for has happened between `s` and `s'`. There is nothing for FIRMWARE, which
is not implemented. -/
inductive CarriedOut (p : Packet.Content) (s s' : Ctl σ) : Prop
  | noop (cmd : p.cmd = RADIO_CMD_NOOP)
  | activated (cmd : p.cmd = RADIO_CMD_ACTIVATE)
      (state : s'.dev.radio.state = LIBRADIO_STATE_ACTIVE)
      (myChannel : s'.dev.radio.myChannel = dataByte p.data 0)
      (myNodeId : s'.dev.radio.myNodeId = dataByte p.data 1)
  | deactivated (cmd : p.cmd = RADIO_CMD_DEACTIVATE)
      (state : s'.dev.radio.state = LIBRADIO_STATE_WARM) (myNodeId : s'.dev.radio.myNodeId = 0)
  | setTime (cmd : p.cmd = RADIO_CMD_SET_TIME)
      (msTicks : s'.dev.radio.msTicks = word (dataByte p.data 0) (dataByte p.data 1))
      (tensOfMinutes : s'.dev.radio.tensOfMinutes = dataByte p.data 2)
  | setDate (cmd : p.cmd = RADIO_CMD_SET_DATE)
      (date : s'.dev.radio.date = word (dataByte p.data 0) (dataByte p.data 1))
  | status (cmd : p.cmd = RADIO_CMD_STATUS) (bv : UInt16)
      (line : .report s.dev.radio.myChannel s.dev.radio.myNodeId s.dev.radio.msTicks
        RADIO_STATUS_RESPONSE
        (dataByte p.data 2 :: statusBytes s.dev.radio bv (dataByte p.data 2)) ∈ printed s s')
  | readEeprom (cmd : p.cmd = RADIO_CMD_READ_EEPROM)
      (line : .eeprom (dataByte p.data 0) (dataByte p.data 1)
        ((List.range (dataByte p.data 2).toNat).map fun i ↦
          s.dev.eeprom (word (dataByte p.data 3) (dataByte p.data 4) + UInt16.ofNat i)) ∈
            printed s s')
  | writeEeprom (cmd : p.cmd = RADIO_CMD_WRITE_EEPROM)
      (bytes : ∀ i, i + 2 < p.len.toNat →
        s'.dev.eeprom (word (dataByte p.data 0) (dataByte p.data 1) + UInt16.ofNat i) =
          dataByte p.data (i + 2))
  | setChannel (cmd : p.cmd = RADIO_CMD_SET_CHANNEL) (d : Fin 6)
      (channel : (dataByte p.data 0).toNat = d.val)
      (state : ChState.ofConfig (dataByte p.data 1) = some (s'.chan d).state)

/-- A command line for the controller itself is answered with `<+` only if it was carried out, and
with `<-` if it is not proper. -/
def AckSound (b : Board σ) (s : Ctl σ) (a : Act) : Prop :=
  ∀ ch c p, a = .input ch → completed ch s = some (c, p) → IsLocal s.dev.radio p →
    ((∃ l ∈ printed s (step b s a), l.IsAck) → CarriedOut p s (step b s a)) ∧
      (¬ Proper s.dev.radio p → ∃ l ∈ printed s (step b s a), l.IsNack)

/-- The command is one that the controller does not know, or it is proper, and one of those that
do as they are told: no FIRMWARE; a SET_CHANNEL to one of the three states, and of the channel
that the line came in on to EMPTY only; a WRITE_EEPROM of data whose bytes are all the same, up
to the byte behind the data. -/
inductive Executable (s : Ctl σ) (c : Fin 6) (p : Packet.Content) : Prop
  | unknown (library : ¬ IsLibraryCommand p.cmd) (own : ownLength p.cmd = none)
  | proper (proper : Proper s.dev.radio p) (firmware : p.cmd ≠ RADIO_CMD_FIRMWARE)
      (config : p.cmd = RADIO_CMD_SET_CHANNEL → dataByte p.data 1 < 3 ∧
        ((dataByte p.data 0).toNat = c.val → dataByte p.data 1 = 2))
      (bytes : p.cmd = RADIO_CMD_WRITE_EEPROM → ∀ i, i + 2 < p.len.toNat →
        p.data[i + 3]?.getD s.dev.beyondData = dataByte p.data (i + 2))

/-! ### The library's part -/

section Library

variable (b : Board σ) {p : Packet} {d : Dev σ}

private theorem libradioCommand_deactivate (hcmd : p.cmd = RADIO_CMD_DEACTIVATE) (hlen : p.len = 0)
    (hactive : LIBRADIO_STATE_ACTIVE ≤ d.radio.state) :
    libradioCommand b app 0 p d = { d with radio := d.radio.deactivated } := by
  cases passed_libradioCommand b d (by rw [hcmd]; decide) with
  | nothing deact eq => exact absurd ⟨hcmd, hlen, hactive⟩ deact
  | deactivated deact eq => exact eq
  | setDate cmd eq => exact absurd (cmd.symm.trans hcmd) (by decide)
  | writeEeprom cmd eeprom eq => exact absurd (cmd.symm.trans hcmd) (by decide)

end Library

/-! ### The execution of a line -/

/-- The packet `P` with the content `p` was executed in the state `t`, for a line that came in on
channel `c` from `s` to `s'`. -/
structure Execution (b : Board σ) (c : Fin 6) (p : Packet.Content) (s s' : Ctl σ) (P : Packet)
    (t : Ctl σ) : Prop where
  content : P.content = p
  startDev : t.dev = s.dev
  startOut : t.out = s.out
  dev : s'.dev = (mycommand b P t).1.dev
  out : s'.out = (mycommand b P t).1.out ++
    [.reply (mycommand b P t).2 (mycommand b P t).1.dev.radio.state]
  own : (s'.chan c).state = .empty
  others : ∀ d, c ≠ d → (s'.chan d).state = ((mycommand b P t).1.chan d).state

/-- A line for the controller itself is executed. -/
theorem execution_of_completed (b : Board σ) {ch : UInt8} {s : Ctl σ} {c : Fin 6}
    {p : Packet.Content} (h : completed ch s = some (c, p)) (hown : IsLocal s.dev.radio p) :
    ∃ P t, Execution b c p s (processInput b ch s) P t := by
  obtain ⟨P, t, st, hcontent, hstarted, heq⟩ := local_of_completed b h hown
  refine ⟨P, t, hcontent, hstarted.dev, hstarted.out, ?_, ?_, ?_, fun d hd ↦ ?_⟩
  · rw [heq, dev_executed]
  · rw [heq, out_executed]
  · rw [heq, chan_executed_self]
  · rw [heq, chan_executed_of_ne hd]

section Execution

variable {b : Board σ} {c : Fin 6} {p : Packet.Content} {s s' : Ctl σ} {P : Packet} {t : Ctl σ}

/-- Behind what the command itself prints there is the reply to it. -/
theorem Execution.printed_eq (h : Execution b c p s s' P t) {news : List Line}
    (hnews : (mycommand b P t).1.out = t.out ++ news) : printed s s' =
      news ++ [.reply (mycommand b P t).2 (mycommand b P t).1.dev.radio.state] := by
  refine printed_of_append ?_
  rw [h.out, hnews, h.startOut, List.append_assoc]

private theorem Execution.acked_iff (h : Execution b c p s s' P t) :
    (∃ l ∈ printed s s', l.IsAck) ↔ (mycommand b P t).2 = 0 := by
  obtain ⟨news, hout, hnews⟩ := out_mycommand b P t
  rw [h.printed_eq hout]
  constructor
  · rintro ⟨l, hl, hack⟩
    rcases List.mem_append.mp hl with hl | hl
    · exact absurd hack.isReply (by rw [hnews l hl]; exact Bool.false_ne_true)
    · rwa [List.mem_singleton.mp hl] at hack
  · intro hcode
    exact ⟨_, List.mem_append_right _ (List.mem_singleton.mpr rfl), hcode⟩

private theorem Execution.nacked_iff (h : Execution b c p s s' P t) :
    (∃ l ∈ printed s s', l.IsNack) ↔ (mycommand b P t).2 ≠ 0 := by
  obtain ⟨news, hout, hnews⟩ := out_mycommand b P t
  rw [h.printed_eq hout]
  constructor
  · rintro ⟨l, hl, hnack⟩
    rcases List.mem_append.mp hl with hl | hl
    · exact absurd hnack.isReply (by rw [hnews l hl]; exact Bool.false_ne_true)
    · rwa [List.mem_singleton.mp hl] at hnack
  · intro hcode
    exact ⟨_, List.mem_append_right _ (List.mem_singleton.mpr rfl), hcode⟩

/-- The answer is right if a command whose result is 0 is proper and was carried out. -/
theorem Execution.sound_iff (h : Execution b c p s s' P t) :
    (((∃ l ∈ printed s s', l.IsAck) → CarriedOut p s s') ∧
        (¬ Proper s.dev.radio p → ∃ l ∈ printed s s', l.IsNack)) ↔
      ((mycommand b P t).2 = 0 → Proper s.dev.radio p ∧ CarriedOut p s s') := by
  rw [h.acked_iff, h.nacked_iff]
  constructor
  · rintro ⟨hack, hnack⟩ hcode
    exact ⟨Classical.byContradiction fun hp ↦ hnack hp hcode, hack hcode⟩
  · intro hsound
    exact ⟨fun hcode ↦ (hsound hcode).2, fun hp hcode ↦ hp (hsound hcode).1⟩

end Execution

/-! ### What is proper and what was carried out -/

section Documents

variable {r : Radio} {p : Packet.Content} {s s' : Ctl σ}

private theorem Proper.len_eq (h : Proper r p) {n : UInt8} (hn : ownLength p.cmd = some n) :
    p.len = n := by
  have hne {cmd : UInt8} (hcmd : p.cmd = cmd) (hnone : ownLength cmd = none) : p.len = n := by
    rw [hcmd, hnone] at hn
    cases hn
  cases h with
  | own cmd len =>
    rw [ownLength, if_pos cmd] at hn
    exact len.trans (Option.some.inj hn)
  | readEeprom cmd len | setChannel cmd len =>
    rw [cmd] at hn
    exact len.trans (Option.some.inj hn)
  | plain cmd => rcases cmd with cmd | cmd <;> exact hne cmd rfl
  | setDate cmd => exact hne cmd rfl
  | memory cmd => rcases cmd with cmd | cmd <;> exact hne cmd rfl

/-- What the library wants of a command. -/
structure LibraryProper (r : Radio) (p : Packet.Content) : Prop where
  active : LIBRADIO_STATE_ACTIVE ≤ r.state
  deactivate : p.cmd = RADIO_CMD_DEACTIVATE → p.len = 0
  setDate : p.cmd = RADIO_CMD_SET_DATE → p.len = 2
  writeEeprom : p.cmd = RADIO_CMD_WRITE_EEPROM → 3 ≤ p.len ∧ p.len ≤ 22

private theorem Proper.library (h : Proper r p) (hlib : IsLibraryCommand p.cmd) :
    LibraryProper r p := by
  have hown {cmd : UInt8} (hcmd : p.cmd = cmd) (hnot : ¬ IsLibraryCommand cmd) :
      LibraryProper r p := absurd (hcmd ▸ hlib) hnot
  have hne {c c' : UInt8} (hc : p.cmd = c) (hcc : c ≠ c') {q : Prop} (hc' : p.cmd = c') : q :=
    absurd (hc.symm.trans hc') hcc
  cases h with
  | own cmd => rcases cmd with cmd | cmd | cmd <;> exact hown cmd (by decide)
  | readEeprom cmd | setChannel cmd => exact hown cmd (by decide)
  | plain cmd len active =>
    have hcmd : p.cmd ≠ RADIO_CMD_SET_DATE ∧ p.cmd ≠ RADIO_CMD_WRITE_EEPROM := by
      rcases cmd with cmd | cmd <;> rw [cmd] <;> decide
    exact ⟨active, fun _ ↦ len, fun h ↦ absurd h hcmd.1, fun h ↦ absurd h hcmd.2⟩
  | setDate cmd len active =>
    exact ⟨active, hne cmd (by decide), fun _ ↦ len, hne cmd (by decide)⟩
  | memory cmd least most active =>
    have hcmd : p.cmd ≠ RADIO_CMD_DEACTIVATE ∧ p.cmd ≠ RADIO_CMD_SET_DATE := by
      rcases cmd with cmd | cmd <;> rw [cmd] <;> decide
    exact ⟨active, fun h ↦ absurd h hcmd.1, fun h ↦ absurd h hcmd.2, fun _ ↦ ⟨least, most⟩⟩

private theorem Proper.channel_lt (h : Proper r p) (hcmd : p.cmd = RADIO_CMD_SET_CHANNEL) :
    (dataByte p.data 0).toNat < 6 := by
  have hne {cmd : UInt8} (hc : p.cmd = cmd) (hcc : cmd ≠ RADIO_CMD_SET_CHANNEL) :
      (dataByte p.data 0).toNat < 6 := absurd (hc.symm.trans hcmd) hcc
  cases h with
  | own cmd => rcases cmd with cmd | cmd | cmd <;> exact hne cmd (by decide)
  | setChannel cmd len channel => exact channel
  | plain cmd | memory cmd => rcases cmd with cmd | cmd <;> exact hne cmd (by decide)
  | readEeprom cmd | setDate cmd => exact hne cmd (by decide)

private theorem not_carriedOut_firmware (hcmd : p.cmd = RADIO_CMD_FIRMWARE) :
    ¬ CarriedOut p s s' := by
  intro h
  cases h with
  | noop cmd | activated cmd | deactivated cmd | setTime cmd | setDate cmd | status cmd
  | readEeprom cmd | writeEeprom cmd | setChannel cmd =>
    exact absurd (cmd.symm.trans hcmd) (by decide)

private theorem CarriedOut.bytes (h : CarriedOut p s s') (hcmd : p.cmd = RADIO_CMD_WRITE_EEPROM) :
    ∀ i, i + 2 < p.len.toNat →
      s'.dev.eeprom (word (dataByte p.data 0) (dataByte p.data 1) + UInt16.ofNat i) =
        dataByte p.data (i + 2) := by
  cases h with
  | writeEeprom cmd bytes => exact bytes
  | noop cmd | activated cmd | deactivated cmd | setTime cmd | setDate cmd | status cmd
  | readEeprom cmd | setChannel cmd => exact absurd (cmd.symm.trans hcmd) (by decide)

private theorem CarriedOut.channel (h : CarriedOut p s s') (hcmd : p.cmd = RADIO_CMD_SET_CHANNEL) :
    ∃ d : Fin 6, (dataByte p.data 0).toNat = d.val ∧
      ChState.ofConfig (dataByte p.data 1) = some (s'.chan d).state := by
  cases h with
  | setChannel cmd d channel state => exact ⟨d, channel, state⟩
  | noop cmd | activated cmd | deactivated cmd | setTime cmd | setDate cmd | status cmd
  | readEeprom cmd | writeEeprom cmd => exact absurd (cmd.symm.trans hcmd) (by decide)

end Documents

/-! ### The branches -/

section Branches

variable {b : Board σ} {c : Fin 6} {s s' : Ctl σ} {P : Packet} {t : Ctl σ}

private theorem Executable.proper_of_known {p : Packet.Content} (h : Executable s c p)
    (hknown : IsLibraryCommand p.cmd ∨ ownLength p.cmd ≠ none) : Proper s.dev.radio p := by
  cases h with
  | unknown library own => exact absurd own (hknown.resolve_left library)
  | proper proper firmware config bytes => exact proper

/-- A command that is passed on to the library, and that the library does not drop, is carried
out but for FIRMWARE and for what WRITE_EEPROM writes. -/
theorem carriedOut_library (hlib : IsLibraryCommand P.cmd)
    (hproper : LibraryProper s.dev.radio P.content)
    (hdev : s'.dev = libradioCommand b app 0 P s.dev) :
    CarriedOut P.content s s' ↔ P.cmd ≠ RADIO_CMD_FIRMWARE ∧
      (P.cmd = RADIO_CMD_WRITE_EEPROM → ∀ i, i + 2 < P.len.toNat →
        P.data[i + 3]?.getD s.dev.beyondData = dataByte P.data (i + 2)) := by
  have htrue {cmd : UInt8} (hcmd : P.cmd = cmd) (hf : cmd ≠ RADIO_CMD_FIRMWARE)
      (hw : cmd ≠ RADIO_CMD_WRITE_EEPROM) (hdone : CarriedOut P.content s s') :
      CarriedOut P.content s s' ↔ P.cmd ≠ RADIO_CMD_FIRMWARE ∧
        (P.cmd = RADIO_CMD_WRITE_EEPROM → ∀ i, i + 2 < P.len.toNat →
          P.data[i + 3]?.getD s.dev.beyondData = dataByte P.data (i + 2)) := by
    rw [hcmd]
    exact iff_of_true hdone ⟨hf, fun h ↦ absurd h hw⟩
  rcases hlib with hcmd | hcmd | hcmd | hcmd | hcmd
  · exact htrue hcmd (by decide) (by decide) (.noop hcmd)
  · exact iff_of_false (not_carriedOut_firmware hcmd) fun h ↦ h.1 hcmd
  · have hlen : P.len = 0 := hproper.deactivate hcmd
    rw [libradioCommand_deactivate b hcmd hlen hproper.active] at hdev
    refine htrue hcmd (by decide) (by decide) (.deactivated hcmd ?_ ?_)
    · rw [hdev]
      exact state_libradioSetState _ _
    · rw [hdev]
      dsimp only
      unfold Radio.deactivated libradioSetState
      split <;> rfl
  · have hlen : P.len = 2 := hproper.setDate hcmd
    rw [libradioCommand_setDate b s.dev hcmd hlen hproper.active] at hdev
    exact htrue hcmd (by decide) (by decide) (.setDate hcmd (by rw [hdev]; rfl))
  · obtain ⟨hleast, hmost⟩ := hproper.writeEeprom hcmd
    rw [libradioCommand_writeEeprom b app 0 hcmd hleast hmost hproper.active] at hdev
    have hlen : P.len.toNat ≤ 22 := UInt8.le_iff_toNat_le.mp hmost
    have hwrite (i : Nat) (hi : i + 2 < P.len.toNat) :
        s'.dev.eeprom (word (dataByte P.data 0) (dataByte P.data 1) + UInt16.ofNat i) =
          P.data[i + 3]?.getD s.dev.beyondData := by
      rw [hdev]
      exact (writeEeprom_apply P _ _ (by omega) _ (by omega)).trans (dataAt_eq_getD P _ _)
    constructor
    · intro h
      refine ⟨by rw [hcmd]; decide, fun _ i hi ↦ ?_⟩
      exact (hwrite i hi).symm.trans (h.bytes hcmd i hi)
    · rintro ⟨-, hbytes⟩
      exact .writeEeprom hcmd fun i hi ↦ (hwrite i hi).trans (hbytes hcmd i hi)

/-- The state that SET_CHANNEL leaves a channel in is the one that was asked for, but for the
channel that the line came in on. -/
theorem carriedOut_setChannel (h : Execution b c P.content s s' P t)
    (hcmd : P.cmd = RADIO_CMD_SET_CHANNEL) (hchannel : (dataByte P.data 0).toNat < 6)
    (hr : mycommand b P t = ((t.modify ⟨_, hchannel⟩ (configure (dataByte P.data 1))).note
      (.setChannel ⟨_, hchannel⟩ (dataByte P.data 1)), 0)) :
    CarriedOut P.content s s' ↔ dataByte P.data 1 < 3 ∧
      ((dataByte P.data 0).toNat = c.val → dataByte P.data 1 = 2) := by
  have hempty : ChState.ofConfig (dataByte P.data 1) = some .empty ↔ dataByte P.data 1 = 2 := by
    constructor
    · intro hof
      exact UInt8.toNat_inj.mp (ChState.toNat_ofConfig hof).symm
    · intro hconfig
      rw [hconfig]
      rfl
  have hstate (d : Fin 6) (hd : (dataByte P.data 0).toNat = d.val) :
      (s'.chan d).state = if c = d then .empty
        else (ChState.ofConfig (dataByte P.data 1)).getD (t.chan d).state := by
    by_cases hcd : c = d
    · rw [if_pos hcd, ← hcd]
      exact h.own
    · have hsame : (⟨_, hchannel⟩ : Fin 6) = d := Fin.ext hd
      rw [if_neg hcd, h.others d hcd, hr, hsame, chan_note, chan_modify_self]
      rfl
  constructor
  · intro hdone
    obtain ⟨d, hd, hof⟩ := hdone.channel hcmd
    refine ⟨(ChState.ofConfig_isSome _).mp (Option.isSome_of_mem hof), fun hc ↦ hempty.mp ?_⟩
    have hcd : c = d := Fin.ext (hc.symm.trans hd)
    have hst := hstate d hd
    rw [if_pos hcd] at hst
    exact hof.trans (congrArg some hst)
  · rintro ⟨hlt, hown⟩
    refine .setChannel hcmd ⟨_, hchannel⟩ rfl ?_
    rw [hstate ⟨_, hchannel⟩ rfl]
    split
    · next hcd => exact hempty.mpr (hown (congrArg Fin.val hcd).symm)
    · obtain ⟨st, hst⟩ := Option.isSome_iff_exists.mp ((ChState.ofConfig_isSome _).mpr hlt)
      exact hst.trans (by rw [hst]; rfl)

private theorem carriedOut_activate (hcmd : P.cmd = RADIO_CMD_ACTIVATE)
    (hok : (activate b P t).2 = 0) (hdev : s'.dev = (activate b P t).1.dev) :
    CarriedOut P.content s s' := by
  obtain ⟨hchannel, hnode, -⟩ := setup_libradioPowerUp b { t.dev with radio := { t.dev.radio with
    myChannel := dataByte P.data 0, myNodeId := dataByte P.data 1 } }
  unfold activate at hok hdev
  dsimp only at hok hdev hchannel hnode
  split at hok
  · next hup =>
    rw [if_pos hup] at hdev
    have hactive := activates_libradioSetState (libradioPowerUp b { t.dev with
      radio := { t.dev.radio with
        myChannel := dataByte P.data 0, myNodeId := dataByte P.data 1 } }).1.radio
    refine .activated hcmd ?_ ?_ ?_
    · rw [hdev]
      exact hactive.state
    · rw [hdev]
      exact hactive.myChannel.trans hchannel
    · rw [hdev]
      exact hactive.myNodeId.trans hnode
  · exact absurd hok (by decide : RADIO_CTLERR_POWER_FAIL ≠ 0)

/-- A command that the controller executes itself is executed as it should be, SET_CHANNEL
apart. -/
theorem Executable.of_own {p : Packet.Content} {cmd : UInt8} (hproper : Proper s.dev.radio p)
    (hcmd : p.cmd = cmd) (hlib : ¬ IsLibraryCommand cmd) (hset : cmd ≠ RADIO_CMD_SET_CHANNEL) :
    Executable s c p := by
  refine .proper hproper (fun h ↦ hlib ?_) (fun h ↦ absurd (hcmd.symm.trans h) hset)
    fun h ↦ absurd ?_ hlib
  · rw [← hcmd, h]
    decide
  · rw [← hcmd, h]
    decide

/-- A command is answered right exactly if it is one of the executable ones. -/
theorem Execution.executable_iff {p : Packet.Content} (h : Execution b c p s s' P t) :
    ((mycommand b P t).2 = 0 → Proper s.dev.radio p ∧ CarriedOut p s s') ↔ Executable s c p := by
  have hcontent := h.content
  subst hcontent
  cases reacts_mycommand b P t with
  | passed cmd eq =>
    have hcode : (mycommand b P t).2 = 0 := by rw [eq]
    have hdev : s'.dev = libradioCommand b app 0 P s.dev := by rw [h.dev, eq, h.startDev]
    constructor
    · intro hsound
      obtain ⟨hproper, hdone⟩ := hsound hcode
      obtain ⟨hfirmware, hbytes⟩ :=
        (carriedOut_library cmd (hproper.library cmd) hdev).mp hdone
      refine .proper hproper hfirmware (fun hset ↦ absurd cmd ?_) hbytes
      have hcmd : P.cmd = RADIO_CMD_SET_CHANNEL := hset
      rw [hcmd]
      decide
    · intro hexec _
      have hproper := hexec.proper_of_known (.inl cmd)
      refine ⟨hproper, (carriedOut_library cmd (hproper.library cmd) hdev).mpr ?_⟩
      cases hexec with
      | unknown library own => exact absurd cmd library
      | proper proper firmware config bytes => exact ⟨firmware, bytes⟩
  | misfit n cmd len eq =>
    have hproper : ¬ Proper s.dev.radio P.content := fun hp ↦ len (hp.len_eq cmd)
    have hknown : ownLength P.cmd ≠ none := by
      rw [cmd]
      exact Option.some_ne_none n
    exact iff_of_false (fun hsound ↦ hproper (hsound (by rw [eq])).1)
      fun hexec ↦ hproper (hexec.proper_of_known (.inr hknown))
  | outside cmd len channel eq =>
    have hproper : ¬ Proper s.dev.radio P.content := fun hp ↦ channel (hp.channel_lt cmd)
    have hknown : ownLength P.cmd ≠ none := by
      rw [cmd]
      decide
    exact iff_of_false (fun hsound ↦ hproper (hsound (by rw [eq])).1)
      fun hexec ↦ hproper (hexec.proper_of_known (.inr hknown))
  | activated cmd len eq =>
    have hproper : Proper s.dev.radio P.content := .own (.inl cmd) len
    refine iff_of_true (fun hcode ↦ ⟨hproper, ?_⟩) (.of_own hproper cmd (by decide) (by decide))
    rw [eq] at hcode
    exact carriedOut_activate cmd hcode (by rw [h.dev, eq])
  | setTime cmd len eq =>
    have hproper : Proper s.dev.radio P.content := .own (.inr (.inl cmd)) len
    refine iff_of_true (fun _ ↦ ⟨hproper, .setTime cmd ?_ ?_⟩)
      (.of_own hproper cmd (by decide) (by decide))
    · rw [h.dev, eq]
      rfl
    · rw [h.dev, eq]
      rfl
  | status cmd len eq =>
    have hproper : Proper s.dev.radio P.content := .own (.inr (.inr cmd)) len
    obtain ⟨bv, hline⟩ := out_localStatus b (dataByte P.data 2) t
    refine iff_of_true (fun _ ↦ ⟨hproper, .status cmd bv ?_⟩)
      (.of_own hproper cmd (by decide) (by decide))
    rw [h.printed_eq (by rw [eq]; exact hline), h.startDev]
    exact List.mem_append_left _ (List.mem_singleton.mpr rfl)
  | readEeprom cmd len eq =>
    have hproper : Proper s.dev.radio P.content := .readEeprom cmd len
    refine iff_of_true (fun _ ↦ ⟨hproper, .readEeprom cmd ?_⟩)
      (.of_own hproper cmd (by decide) (by decide))
    rw [h.printed_eq (by rw [eq]; rfl), h.startDev]
    exact List.mem_append_left _ (List.mem_singleton.mpr rfl)
  | configured cmd len channel eq =>
    have hproper : Proper s.dev.radio P.content := .setChannel cmd len channel
    have hdone := carriedOut_setChannel h cmd channel eq
    constructor
    · intro hsound
      refine .proper hproper (fun hf ↦ absurd (cmd.symm.trans hf) (by decide))
        (fun _ ↦ hdone.mp (hsound (by rw [eq])).2) fun hw ↦ absurd (cmd.symm.trans hw) (by decide)
    · intro hexec _
      refine ⟨hproper, hdone.mpr ?_⟩
      cases hexec with
      | unknown library own => exact absurd own (by rw [show P.content.cmd = _ from cmd]; decide)
      | proper proper firmware config bytes => exact config cmd
  | unknown library own eq =>
    refine iff_of_true (fun hcode ↦ ?_) (.unknown library own)
    rw [eq] at hcode
    exact absurd hcode (by decide : RADIO_CTLERR_BAD_CMD ≠ 0)

end Branches

/-! ### Runs -/

/-- The answer to a line is right exactly if the line asks for something executable. -/
theorem ackSound_iff (b : Board σ) (s : Ctl σ) (a : Act) :
    AckSound b s a ↔ ∀ ch c p, a = .input ch → completed ch s = some (c, p) →
      IsLocal s.dev.radio p → Executable s c p := by
  have hline {ch : UInt8} {c : Fin 6} {p : Packet.Content} (hcomp : completed ch s = some (c, p))
      (hown : IsLocal s.dev.radio p) :
      (((∃ l ∈ printed s (processInput b ch s), l.IsAck) →
          CarriedOut p s (processInput b ch s)) ∧
        (¬ Proper s.dev.radio p → ∃ l ∈ printed s (processInput b ch s), l.IsNack)) ↔
          Executable s c p := by
    obtain ⟨P, t, hexec⟩ := execution_of_completed b hcomp hown
    exact hexec.sound_iff.trans hexec.executable_iff
  constructor
  · intro hsound ch c p ha hcomp hown
    have h := hsound ch c p ha hcomp hown
    subst ha
    exact (hline hcomp hown).mp h
  · intro hexec ch c p ha hcomp hown
    have h := (hline hcomp hown).mpr (hexec ch c p ha hcomp hown)
    subst ha
    exact h

/-- In a run every acknowledgement is right exactly if every command line for the controller
itself asks for something executable. -/
theorem acks_sound_iff (b : Board σ) (chip : σ) (eeprom : UInt16 → UInt8) (beyondData : UInt8)
    (acts : List Act) :
    Along (step b) (AckSound b) (start b chip eeprom beyondData) acts ↔
      Along (step b) (fun s a ↦ ∀ ch c p, a = .input ch → completed ch s = some (c, p) →
        IsLocal s.dev.radio p → Executable s c p) (start b chip eeprom beyondData) acts :=
  along_iff_of_inv (step b) (I := fun _ ↦ True) (fun _ _ _ _ ↦ trivial)
    (fun s a _ ↦ ackSound_iff b s a) trivial

private def silentRadio : Board Nat := .scripted fun _ _ ↦ 0

-- The controller is started and reads a line for itself up to the dot.
private def lineTyped (line : String) : Ctl Nat :=
  run (step silentRadio) (start silentRadio 0 (fun _ ↦ 0) 0) ((characters line).map .input)

private theorem not_along_of_dropped (line : String) (c : Fin 6) (p : Packet.Content)
    (hcomp : completed chDot (lineTyped line) = some (c, p))
    (hown : IsLocal (lineTyped line).dev.radio p) (hproper : ¬ Proper (lineTyped line).dev.radio p)
    (hprinted : ∀ l ∈ printed (lineTyped line) (processInput silentRadio chDot (lineTyped line)),
      l.IsAck) :
    ¬ Along (step silentRadio) (AckSound silentRadio) (start silentRadio 0 (fun _ ↦ 0) 0)
      ((characters line ++ [chDot]).map .input) := by
  intro h
  rw [List.map_append, along_append] at h
  obtain ⟨-, hsound, -⟩ := h
  obtain ⟨l, hl, hnack⟩ := (hsound chDot c p rfl hcomp hown).2 hproper
  have hack := hprinted l hl
  cases l with
  | reply code radioState => exact hnack hack
  | report chan node ticks cmd data => exact hnack
  | eeprom chan node data => exact hnack

/-- An ACTIVATE with one data byte, a SET_CHANNEL for channel 6 and a SET_DATE before the
activation are dropped, and not refused. -/
theorem dropped_not_refused :
    ¬ Along (step silentRadio) (AckSound silentRadio) (start silentRadio 0 (fun _ ↦ 0) 0)
        ((characters ">A0:3:0" ++ [chDot]).map .input) ∧
      ¬ Along (step silentRadio) (AckSound silentRadio) (start silentRadio 0 (fun _ ↦ 0) 0)
        ((characters ">A0:16:6,0" ++ [chDot]).map .input) ∧
      ¬ Along (step silentRadio) (AckSound silentRadio) (start silentRadio 0 (fun _ ↦ 0) 0)
        ((characters ">A0:6:1,1" ++ [chDot]).map .input) := by
  refine ⟨?_, ?_, ?_⟩
  · exact not_along_of_dropped ">A0:3:0" 0
      ⟨0, RADIO_CMD_ACTIVATE, 1, #v[0, 0, 0, 0, 0, 0, 0, 0, 0, 0]⟩ (by decide +kernel)
      (by decide +kernel) (fun h ↦ absurd (h.len_eq rfl) (by decide)) (by decide +kernel)
  · exact not_along_of_dropped ">A0:16:6,0" 0
      ⟨0, RADIO_CMD_SET_CHANNEL, 2, #v[6, 0, 0, 0, 0, 0, 0, 0, 0, 0]⟩ (by decide +kernel)
      (by decide +kernel) (fun h ↦ absurd (h.channel_lt rfl) (by decide)) (by decide +kernel)
  · exact not_along_of_dropped ">A0:6:1,1" 0
      ⟨0, RADIO_CMD_SET_DATE, 2, #v[1, 1, 0, 0, 0, 0, 0, 0, 0, 0]⟩ (by decide +kernel)
      (by decide +kernel) (fun h ↦ absurd (h.library (by decide)).active (by decide +kernel))
      (by decide +kernel)

end Ctl
end Libradio
