import Libradio.Control.Loop

/-!
# What one action can do

For each part of the controller one lemma that lists every way it can change the channels,
`resp_chp`, the parser and the record. The properties of runs are derived from these lists
and never look into the functions again.
-/

namespace Libradio

variable {σ : Type}

/-- A send changes nothing of what its packet is made of. -/
theorem content_libradioSend (b : Board σ) (ticks : Nat) (d : Dev σ) (chp : Channel)
    (channo : UInt8) : (libradioSend b ticks d chp channo).packet.content = chp.packet.content := by
  have htx : ∀ d : Dev σ, (transmitFrame b ticks d chp channo).packet.content =
      chp.packet.content := by
    intro d
    unfold transmitFrame libradioTxpacket
    by_cases hlen : chp.packet.len > 10
    · simp only [hlen, if_true, Bool.false_eq_true, if_false]
    · simp only [hlen, if_false, if_true]
      split <;> exact Packet.content_stamp _ _
  unfold libradioSend
  dsimp only
  split
  · split
    · rfl
    · split
      · exact htx _
      · rfl
  · rfl

namespace Ctl

/-! ### Commands the controller executes itself -/

/-- The channel and the configuration that executing a packet sets: SET_CHANNEL with two
data bytes, the first of which names a channel. -/
def configOf (p : Packet.Content) : Option (Fin 6 × UInt8) :=
  if h : p.cmd = RADIO_CMD_SET_CHANNEL ∧ p.len = 2 ∧ (dataByte p.data 0).toNat < 6 then
    some (⟨(dataByte p.data 0).toNat, h.2.2⟩, dataByte p.data 1)
  else none

/-- The effect of executing a packet on the channels and the record. -/
def applyConfig (p : Packet.Content) (s : Ctl σ) : Ctl σ :=
  match configOf p with
  | some (c, config) => (s.modify c (configure config)).note (.setChannel c config)
  | none => s

/-- Everything but the radio, the clock of the transmit queue and the printed lines. -/
structure Alike (s s' : Ctl σ) : Prop where
  channels : s'.channels = s.channels
  respChp : s'.respChp = s.respChp
  state : s'.state = s.state
  value : s'.value = s.value
  currChp : s'.currChp = s.currChp
  hist : s'.hist = s.hist

/-- A controller is alike itself. -/
theorem Alike.refl (s : Ctl σ) : Alike s s := ⟨rfl, rfl, rfl, rfl, rfl, rfl⟩

/-- Alike controllers have the same channels. -/
theorem Alike.chan {s s' : Ctl σ} (h : Alike s s') (c : Fin 6) : s'.chan c = s.chan c := by
  simp only [Ctl.chan, h.channels]

/-- A status report touches nothing else. -/
theorem alike_localStatus (b : Board σ) (stype : UInt8) (s : Ctl σ) :
    Alike s (localStatus b stype s) := ⟨rfl, rfl, rfl, rfl, rfl, rfl⟩

/-- The commands that `mycommand` passes on to the library, `src/control/command.c:71-79`. -/
def IsLibraryCommand (cmd : UInt8) : Prop :=
  cmd = RADIO_CMD_NOOP ∨ cmd = RADIO_CMD_FIRMWARE ∨ cmd = RADIO_CMD_DEACTIVATE ∨
    cmd = RADIO_CMD_SET_DATE ∨ cmd = RADIO_CMD_WRITE_EEPROM

/-- The commands that `mycommand` executes itself, with the length it asks for,
`src/control/command.c:82-161`. -/
def ownLength (cmd : UInt8) : Option UInt8 :=
  if cmd = RADIO_CMD_ACTIVATE ∨ cmd = RADIO_CMD_SET_TIME ∨ cmd = RADIO_CMD_STATUS then some 3
  else if cmd = RADIO_CMD_READ_EEPROM then some 5
  else if cmd = RADIO_CMD_SET_CHANNEL then some 2
  else none

instance (cmd : UInt8) : Decidable (IsLibraryCommand cmd) := inferInstanceAs (Decidable (_ ∨ _))

/-- The branches of `mycommand` with their results. -/
inductive Reacts (b : Board σ) (p : Packet) (s : Ctl σ) (r : Ctl σ × UInt8) : Prop
  | passed (cmd : IsLibraryCommand p.cmd)
      (eq : r = ({ s with dev := libradioCommand b app 0 p s.dev }, 0))
  | misfit (n : UInt8) (cmd : ownLength p.cmd = some n) (len : p.len ≠ n) (eq : r = (s, 0))
  | outside (cmd : p.cmd = RADIO_CMD_SET_CHANNEL) (len : p.len = 2)
      (channel : ¬ (dataByte p.data 0).toNat < 6) (eq : r = (s, 0))
  | activated (cmd : p.cmd = RADIO_CMD_ACTIVATE) (len : p.len = 3) (eq : r = activate b p s)
  | setTime (cmd : p.cmd = RADIO_CMD_SET_TIME) (len : p.len = 3)
      (eq : r = ({ s with dev := { s.dev with radio := { s.dev.radio with
        msTicks := word (dataByte p.data 0) (dataByte p.data 1)
        tensOfMinutes := dataByte p.data 2 } } }, 0))
  | status (cmd : p.cmd = RADIO_CMD_STATUS) (len : p.len = 3)
      (eq : r = (localStatus b (dataByte p.data 2) s, 0))
  | readEeprom (cmd : p.cmd = RADIO_CMD_READ_EEPROM) (len : p.len = 5)
      (eq : r = (readEeprom p s, 0))
  | configured (cmd : p.cmd = RADIO_CMD_SET_CHANNEL) (len : p.len = 2)
      (channel : (dataByte p.data 0).toNat < 6)
      (eq : r = ((s.modify ⟨_, channel⟩ (configure (dataByte p.data 1))).note
        (.setChannel ⟨_, channel⟩ (dataByte p.data 1)), 0))
  | unknown (library : ¬ IsLibraryCommand p.cmd) (own : ownLength p.cmd = none)
      (eq : r = (s, RADIO_CTLERR_BAD_CMD))

/-- Every command takes one of the branches. -/
theorem reacts_mycommand (b : Board σ) (p : Packet) (s : Ctl σ) :
    Reacts b p s (mycommand b p s) := by
  unfold mycommand
  by_cases hlib : IsLibraryCommand p.cmd
  · rw [if_pos (by exact hlib)]
    exact .passed hlib rfl
  rw [if_neg (by exact hlib)]
  by_cases hact : p.cmd = RADIO_CMD_ACTIVATE
  · rw [if_pos hact]
    by_cases hlen : p.len = 3
    · rw [if_neg (not_not_intro hlen)]
      exact .activated hact hlen rfl
    · rw [if_pos hlen]
      exact .misfit 3 (by rw [hact]; rfl) hlen rfl
  rw [if_neg hact]
  by_cases htime : p.cmd = RADIO_CMD_SET_TIME
  · rw [if_pos htime]
    by_cases hlen : p.len = 3
    · rw [if_neg (not_not_intro hlen)]
      exact .setTime htime hlen rfl
    · rw [if_pos hlen]
      exact .misfit 3 (by rw [htime]; rfl) hlen rfl
  rw [if_neg htime]
  by_cases hstatus : p.cmd = RADIO_CMD_STATUS
  · rw [if_pos hstatus]
    by_cases hlen : p.len = 3
    · rw [if_neg (not_not_intro hlen)]
      exact .status hstatus hlen rfl
    · rw [if_pos hlen]
      exact .misfit 3 (by rw [hstatus]; rfl) hlen rfl
  rw [if_neg hstatus]
  by_cases hread : p.cmd = RADIO_CMD_READ_EEPROM
  · rw [if_pos hread]
    by_cases hlen : p.len = 5
    · rw [if_neg (not_not_intro hlen)]
      exact .readEeprom hread hlen rfl
    · rw [if_pos hlen]
      exact .misfit 5 (by rw [hread]; rfl) hlen rfl
  rw [if_neg hread]
  by_cases hchannel : p.cmd = RADIO_CMD_SET_CHANNEL
  · rw [if_pos hchannel]
    by_cases hlen : p.len = 2
    · rw [if_neg (not_not_intro hlen)]
      by_cases hlt : (dataByte p.data 0).toNat < 6
      · have hsmall : ¬ dataByte p.data 0 > 6 := fun h ↦ by
          have := UInt8.lt_iff_toNat_lt.mp h
          simp only [UInt8.reduceToNat] at this
          omega
        rw [if_neg hsmall, setChannel, dif_pos hlt]
        exact .configured hchannel hlen hlt rfl
      · split
        · exact .outside hchannel hlen hlt rfl
        · rw [setChannel, dif_neg hlt]
          exact .outside hchannel hlen hlt rfl
    · rw [if_pos hlen]
      exact .misfit 2 (by rw [hchannel]; rfl) hlen rfl
  · rw [if_neg hchannel]
    refine .unknown hlib ?_ rfl
    rw [ownLength, if_neg (by simp only [hact, htime, hstatus, or_self, not_false_iff]),
      if_neg hread, if_neg hchannel]

/-- What executing a command comes to, with the result: the library executes it, it is ignored
or unknown, or it is one of those that the controller executes in its own way. -/
inductive Obeyed (b : Board σ) (p : Packet) (s : Ctl σ) (r : Ctl σ × UInt8) : Prop
  | passed (cmd : p.cmd = RADIO_CMD_NOOP ∨ p.cmd = RADIO_CMD_FIRMWARE ∨
        p.cmd = RADIO_CMD_DEACTIVATE ∨ p.cmd = RADIO_CMD_SET_DATE ∨ p.cmd = RADIO_CMD_WRITE_EEPROM)
      (eq : r = ({ s with dev := libradioCommand b app 0 p s.dev }, 0))
  | ignored (config : configOf p.content = none) (code : UInt8) (eq : r = (s, code))
  | activated (cmd : p.cmd = RADIO_CMD_ACTIVATE) (len : p.len = 3) (eq : r = activate b p s)
  | setTime (cmd : p.cmd = RADIO_CMD_SET_TIME) (len : p.len = 3)
      (eq : r = ({ s with dev := { s.dev with radio := { s.dev.radio with
        msTicks := word (dataByte p.data 0) (dataByte p.data 1)
        tensOfMinutes := dataByte p.data 2 } } }, 0))
  | status (cmd : p.cmd = RADIO_CMD_STATUS) (len : p.len = 3)
      (eq : r = (localStatus b (dataByte p.data 2) s, 0))
  | readEeprom (cmd : p.cmd = RADIO_CMD_READ_EEPROM) (len : p.len = 5)
      (eq : r = (readEeprom p s, 0))
  | configured (c : Fin 6) (config : UInt8) (of : configOf p.content = some (c, config))
      (eq : r = ((s.modify c (configure config)).note (.setChannel c config), 0))

/-- Only SET_CHANNEL configures. -/
theorem configOf_of_ne {p : Packet.Content} (h : p.cmd ≠ RADIO_CMD_SET_CHANNEL) :
    configOf p = none := dif_neg fun hc ↦ h hc.1

/-- Every command is obeyed in one of these ways. -/
theorem obeyed_mycommand (b : Board σ) (p : Packet) (s : Ctl σ) :
    Obeyed b p s (mycommand b p s) := by
  cases reacts_mycommand b p s with
  | passed cmd eq => exact .passed cmd eq
  | misfit n cmd len eq =>
    refine .ignored (dif_neg fun h ↦ ?_) 0 eq
    have hcmd : p.cmd = RADIO_CMD_SET_CHANNEL := h.1
    rw [hcmd] at cmd
    exact len (h.2.1.trans (Option.some.inj cmd))
  | outside cmd len channel eq => exact .ignored (dif_neg fun h ↦ channel h.2.2) 0 eq
  | activated cmd len eq => exact .activated cmd len eq
  | setTime cmd len eq => exact .setTime cmd len eq
  | status cmd len eq => exact .status cmd len eq
  | readEeprom cmd len eq => exact .readEeprom cmd len eq
  | configured cmd len channel eq =>
    exact .configured ⟨_, channel⟩ _ (dif_pos ⟨cmd, len, channel⟩) eq
  | unknown library own eq =>
    refine .ignored (configOf_of_ne fun h ↦ ?_) _ eq
    have hcmd : p.cmd = RADIO_CMD_SET_CHANNEL := h
    rw [hcmd] at own
    exact absurd own (by decide)

/-- Of all commands only SET_CHANNEL touches the channels, and only the one it names. -/
theorem alike_mycommand (b : Board σ) (p : Packet) (s : Ctl σ) :
    Alike (applyConfig p.content s) (mycommand b p s).1 := by
  have happly (h : configOf p.content = none) : applyConfig p.content s = s := by
    rw [applyConfig, h]
  have hplain {c : UInt8} (hcmd : p.cmd = c) (hc : c ≠ RADIO_CMD_SET_CHANNEL) :
      applyConfig p.content s = s := happly (configOf_of_ne fun h ↦ hc (hcmd.symm.trans h))
  cases obeyed_mycommand b p s with
  | passed cmd eq =>
    have hne : p.cmd ≠ RADIO_CMD_SET_CHANNEL := fun h ↦ by
      rw [h] at cmd
      revert cmd
      decide
    rw [eq, happly (configOf_of_ne hne)]
    exact ⟨rfl, rfl, rfl, rfl, rfl, rfl⟩
  | ignored config code eq =>
    rw [eq, happly config]
    exact Alike.refl s
  | activated cmd len eq =>
    rw [eq, hplain cmd (by decide)]
    unfold activate
    dsimp only
    split <;> exact ⟨rfl, rfl, rfl, rfl, rfl, rfl⟩
  | setTime cmd len eq =>
    rw [eq, hplain cmd (by decide)]
    exact ⟨rfl, rfl, rfl, rfl, rfl, rfl⟩
  | status cmd len eq =>
    rw [eq, hplain cmd (by decide)]
    exact alike_localStatus b _ s
  | readEeprom cmd len eq =>
    rw [eq, hplain cmd (by decide)]
    exact ⟨rfl, rfl, rfl, rfl, rfl, rfl⟩
  | configured c config of eq =>
    rw [eq, applyConfig, of]
    exact Alike.refl _

/-! ### The hand-over of a packet -/

/-- The record of the configuration that executing a packet sets. -/
def configObs (p : Packet.Content) : List Obs :=
  match configOf p with
  | some (c, config) => [.setChannel c config]
  | none => []

/-- A SET_CHANNEL leaves the response wait alone. -/
@[simp] theorem respChp_applyConfig (p : Packet.Content) (s : Ctl σ) :
    (applyConfig p s).respChp = s.respChp := by
  unfold applyConfig
  split <;> rfl

/-- It leaves the parser's channel alone. -/
@[simp] theorem currChp_applyConfig (p : Packet.Content) (s : Ctl σ) :
    (applyConfig p s).currChp = s.currChp := by
  unfold applyConfig
  split <;> rfl

/-- It is recorded if it names a channel. -/
theorem hist_applyConfig (p : Packet.Content) (s : Ctl σ) :
    (applyConfig p s).hist = configObs p ++ s.hist := by
  unfold applyConfig configObs
  split <;> rfl

/-- Configuring changes no packet. -/
theorem packet_applyConfig (p : Packet.Content) (s : Ctl σ) (d : Fin 6) :
    ((applyConfig p s).chan d).packet = (s.chan d).packet := by
  unfold applyConfig
  split
  · next c config h =>
    rw [chan_note, chan_modify]
    split
    · next hcd => rw [hcd]; rfl
    · rfl
  · rfl

/-- The state of a channel after a configuration. -/
def configuredState (p : Packet.Content) (d : Fin 6) (st : ChState) : ChState :=
  match configOf p with
  | some (c, config) => if c = d then (ChState.ofConfig config).getD st else st
  | none => st

private theorem state_applyConfig (p : Packet.Content) (s : Ctl σ) (d : Fin 6) :
    ((applyConfig p s).chan d).state = configuredState p d (s.chan d).state := by
  unfold applyConfig configuredState
  split
  · next c config h =>
    rw [chan_note, chan_modify]
    split
    · next hcd => rw [hcd]; rfl
    · rfl
  · rfl

/-- What can become of a packet handed over in channel `c`. -/
inductive Fate (c : Fin 6) (p : Packet.Content) (s s' : Ctl σ) : Prop
  | executed (code : UInt8) (own : IsLocal s.dev.radio p) (state : (s'.chan c).state = .empty)
      (others : ∀ d, c ≠ d → (s'.chan d).state = configuredState p d (s.chan d).state)
      (hist : s'.hist = .finish c :: .exec p code :: (configObs p ++ .handed c p :: s.hist))
  | refused (own : ¬ IsLocal s.dev.radio p)
      (active : s.dev.radio.state ≠ LIBRADIO_STATE_ACTIVE) (state : (s'.chan c).state = .empty)
      (others : ∀ d, c ≠ d → (s'.chan d).state = (s.chan d).state)
      (hist : s'.hist = .finish c :: .handed c p :: s.hist)
  | queued (own : ¬ IsLocal s.dev.radio p) (active : s.dev.radio.state = LIBRADIO_STATE_ACTIVE)
      (state : (s'.chan c).state.IsQueued)
      (others : ∀ d, c ≠ d → (s'.chan d).state = (s.chan d).state)
      (hist : s'.hist = .ack c p :: .handed c p :: s.hist)

/-- The hand-over of the packet in channel `c`. -/
structure Enqueued (c : Fin 6) (s s' : Ctl σ) : Prop where
  fate : Fate c (s.chan c).packet.content s s'
  packet : ∀ d, (s'.chan d).packet = (s.chan d).packet
  respChp : s'.respChp = s.respChp
  currChp : s'.currChp = s.currChp

/-- The channel whose state is set. -/
@[simp] theorem chan_setState_self (c : Fin 6) (st : ChState) (s : Ctl σ) :
    (s.setState c st).chan c = { s.chan c with state := st } := chan_modify_self c _ s

/-- The other channels stay. -/
theorem chan_setState_of_ne {c d : Fin 6} (h : c ≠ d) (st : ChState) (s : Ctl σ) :
    (s.setState c st).chan d = s.chan d := chan_modify_of_ne h _ s

/-- Setting a state leaves the packets alone. -/
@[simp] theorem packet_setState (c d : Fin 6) (st : ChState) (s : Ctl σ) :
    ((s.setState c st).chan d).packet = (s.chan d).packet := by
  rw [setState, chan_modify]
  split
  · next h => rw [h]
  · rfl

/-- A reply leaves the channels alone. -/
@[simp] theorem chan_reply (code : UInt8) (s : Ctl σ) (d : Fin 6) :
    (s.reply code).chan d = s.chan d := rfl

/-- The controller executes a packet of its own. -/
theorem enqueued_executeLocal (b : Board σ) (c : Fin 6) (s : Ctl σ)
    (h : IsLocal s.dev.radio (s.chan c).packet.content) :
    Enqueued c s (executeLocal b c
      ((s.note (.handed c (s.chan c).packet.content)).setState c .transmit)) := by
  have hal := alike_mycommand b (s.chan c).packet
    ((s.note (.handed c (s.chan c).packet.content)).setState c .transmit)
  have hp : (((s.note (.handed c (s.chan c).packet.content)).setState c .transmit).chan c).packet =
      (s.chan c).packet := by simp
  unfold executeLocal
  dsimp only
  rw [hp]
  generalize mycommand b (s.chan c).packet
    ((s.note (.handed c (s.chan c).packet.content)).setState c .transmit) = r at hal ⊢
  refine ⟨.executed r.2 h ?_ ?_ ?_, ?_, ?_, ?_⟩
  · rw [chan_note, chan_setState_self]
  · intro d hd
    rw [chan_note, chan_setState_of_ne hd, chan_reply, chan_note, hal.chan, state_applyConfig,
      chan_setState_of_ne hd, chan_note]
  · have hh := hal.hist
    rw [hist_applyConfig] at hh
    change Obs.finish c :: Obs.exec (s.chan c).packet.content r.2 :: r.1.hist = _
    rw [hh]
    rfl
  · intro d
    rw [chan_note, packet_setState, chan_reply, chan_note, hal.chan, packet_applyConfig,
      packet_setState, chan_note]
  · exact hal.respChp.trans (respChp_applyConfig _ _)
  · exact hal.currChp.trans (currChp_applyConfig _ _)

/-- A packet for a node is refused or waits for its transmission. -/
theorem enqueued_enqueue (b : Board σ) (c : Fin 6) (s : Ctl σ) :
    Enqueued c s (enqueue b c s) := by
  unfold enqueue
  dsimp only
  split
  · next h => exact enqueued_executeLocal b c s h
  · next h =>
    split
    · next hact =>
      refine ⟨.refused h hact ?_ ?_ rfl, ?_, rfl, rfl⟩
      · rw [chan_reply, chan_note, chan_setState_self]
      · intro d hd
        rw [chan_reply, chan_note, chan_setState_of_ne hd, chan_setState_of_ne hd, chan_note]
      · intro d
        simp
    · next hact =>
      refine ⟨.queued h (Decidable.not_not.mp hact) ?_ ?_ ?_, ?_, rfl, rfl⟩
      · simp only [queuePacket, chan_note, chan_reply, chan_modify_self]
        split
        · exact .inr rfl
        · exact .inl rfl
      · intro d hd
        simp only [queuePacket, chan_note, chan_reply]
        rw [chan_modify_of_ne hd, chan_setState_of_ne hd, chan_note]
      · simp [queuePacket, reply, setState]
      · intro d
        simp only [queuePacket, chan_note, chan_reply]
        rw [chan_modify]
        split
        · next hcd => subst hcd; simp
        · simp

end Ctl
end Libradio
