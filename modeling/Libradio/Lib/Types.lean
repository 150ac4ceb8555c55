/-!
# Packets, channels and the published constants

`src/libradio.h`: the operational states, the built-in commands, the controller's
error codes, `struct packet` and `struct channel`. A channel's state byte only ever
holds one of the ten `LIBRADIO_CHSTATE_*` values, so it is an inductive type here;
the source's numeric comparisons go through `ChState.toNat`.
-/

namespace Libradio

/-- Size of the data array of a packet; `src/libradio.h:39-40`. -/
abbrev MAX_PAYLOAD_SIZE : Nat := 10

/-- Bytes in front of the data array; `src/libradio.h:39`. -/
abbrev PACKET_HEADER_LEN : Nat := 6

/-- Bytes of a frame on the air and of `struct packet`; `src/libradio.h:38`,
`src/lib/internal.h:41`. -/
abbrev SI4463_PACKET_LEN : Nat := 16

/-! ### Operational states, `src/libradio.h:48-55` -/

abbrev LIBRADIO_STATE_STARTUP : UInt8 := 0
abbrev LIBRADIO_STATE_ERROR : UInt8 := 1
abbrev LIBRADIO_STATE_LOW_BATTERY : UInt8 := 2
abbrev LIBRADIO_STATE_COLD : UInt8 := 3
abbrev LIBRADIO_STATE_WARM : UInt8 := 4
abbrev LIBRADIO_STATE_LISTEN : UInt8 := 5
abbrev LIBRADIO_STATE_ACTIVE : UInt8 := 6

/-! ### Commands, `src/libradio.h:57-69`, `src/control/command.c:57` -/

abbrev RADIO_CMD_NOOP : UInt8 := 0
abbrev RADIO_CMD_FIRMWARE : UInt8 := 1
abbrev RADIO_CMD_STATUS : UInt8 := 2
abbrev RADIO_CMD_ACTIVATE : UInt8 := 3
abbrev RADIO_CMD_DEACTIVATE : UInt8 := 4
abbrev RADIO_CMD_SET_TIME : UInt8 := 5
abbrev RADIO_CMD_SET_DATE : UInt8 := 6
abbrev RADIO_CMD_READ_EEPROM : UInt8 := 7
abbrev RADIO_CMD_WRITE_EEPROM : UInt8 := 8
abbrev RADIO_STATUS_RESPONSE : UInt8 := 9
abbrev RADIO_EEPROM_RESPONSE : UInt8 := 10
abbrev RADIO_CMD_SET_CHANNEL : UInt8 := 16

abbrev RADIO_STATUS_STATIC : UInt8 := 0
abbrev RADIO_STATUS_DYNAMIC : UInt8 := 1

/-! ### Error codes of the controller, `src/libradio.h:95-102` -/

abbrev RADIO_CTLERR_INVALID_CHANNEL : UInt8 := 1
abbrev RADIO_CTLERR_BUSY : UInt8 := 2
abbrev RADIO_CTLERR_TOO_BIG : UInt8 := 4
abbrev RADIO_CTLERR_NEWLINE : UInt8 := 5
abbrev RADIO_CTLERR_NOT_ACTIVE : UInt8 := 6
abbrev RADIO_CTLERR_POWER_FAIL : UInt8 := 7
abbrev RADIO_CTLERR_BAD_CMD : UInt8 := 8

/-- `data[i]` of a packet, for `i` below ten. -/
def dataByte (data : Vector UInt8 10) (i : Nat) : UInt8 := data[i]?.getD 0

/-- `struct packet`, `src/libradio.h:116-124`. The AVR compiler lays it out without gaps
and the low byte of `ticks` first. -/
@[ext] structure Packet where
  ticks : UInt16
  node : UInt8
  cmd : UInt8
  len : UInt8
  csum : UInt8
  data : Vector UInt8 10
  deriving DecidableEq, Repr

namespace Packet

/-- Static storage: all bytes zero. -/
def zero : Packet := ⟨0, 0, 0, 0, 0, Vector.replicate _ 0⟩

/-- What a sender puts into a packet: everything but the time stamp and the checksum. -/
structure Content where
  node : UInt8
  cmd : UInt8
  len : UInt8
  data : Vector UInt8 10
  deriving DecidableEq, Repr

/-- The fields that neither the time stamp nor the checksum is part of. -/
def content (p : Packet) : Content := ⟨p.node, p.cmd, p.len, p.data⟩

end Packet

/-- The channel states `LIBRADIO_CHSTATE_*`, `src/libradio.h:142-151`. -/
inductive ChState
  | disabled
  | read
  | empty
  | adding
  | transmit
  | txrespond
  | rxresponse1
  | rxresponse2
  | rxresponse3
  | rxresponse4
  deriving DecidableEq, Repr

namespace ChState

/-- The byte the source stores for a state. -/
def toNat : ChState → Nat
  | disabled => 0
  | read => 1
  | empty => 2
  | adding => 3
  | transmit => 4
  | txrespond => 5
  | rxresponse1 => 6
  | rxresponse2 => 7
  | rxresponse3 => 8
  | rxresponse4 => 9

/-- `state++` in the response wait, `src/control/main.c:110`. The source leaves the wait
at `rxresponse4` and never steps past it. -/
def next : ChState → ChState
  | disabled => read
  | read => empty
  | empty => adding
  | adding => transmit
  | transmit => txrespond
  | txrespond => rxresponse1
  | rxresponse1 => rxresponse2
  | rxresponse2 => rxresponse3
  | rxresponse3 => rxresponse4
  | rxresponse4 => rxresponse4

/-- One of the states a channel is in while its response is awaited. -/
def IsRxResponse (s : ChState) : Prop := rxresponse1.toNat ≤ s.toNat

instance (s : ChState) : Decidable s.IsRxResponse := inferInstanceAs (Decidable (_ ≤ _))

/-- One of the two states in which a complete packet waits for its transmission. -/
def IsQueued (s : ChState) : Prop := s = transmit ∨ s = txrespond

instance (s : ChState) : Decidable s.IsQueued := inferInstanceAs (Decidable (_ ∨ _))

/-- The configuration values of SET_CHANNEL, `src/control/enqueue.c:118-119`: a value of
three or more names no configuration. -/
def ofConfig (config : UInt8) : Option ChState :=
  if config = 0 then some disabled
  else if config = 1 then some read
  else if config = 2 then some empty
  else none

/-- Stepping counts the stored byte up by one, short of the last state. -/
theorem toNat_next (s : ChState) (h : s ≠ rxresponse4) : s.next.toNat = s.toNat + 1 := by
  cases s <;> first | rfl | exact absurd rfl h

/-- The stored byte determines the state. -/
theorem toNat_inj {s t : ChState} : s.toNat = t.toNat ↔ s = t := by
  cases s <;> cases t <;> simp [toNat]

/-- Up to ADDING nothing is queued. -/
theorem not_isQueued_of_le {s : ChState} (h : s.toNat ≤ adding.toNat) : ¬ s.IsQueued := by
  rintro (rfl | rfl) <;> exact absurd h (by decide)

/-- What is queued is not awaited. -/
theorem IsQueued.not_isRxResponse {s : ChState} (h : s.IsQueued) : ¬ s.IsRxResponse := by
  rcases h with rfl | rfl <;> decide

/-- From ADDING on, a channel that is neither filled nor awaited is queued. -/
theorem isQueued_of_ge {s : ChState} (hge : adding.toNat ≤ s.toNat) (hadd : s ≠ .adding)
    (hrx : ¬ s.IsRxResponse) : s.IsQueued := by
  cases s with
  | disabled | empty | read => exact absurd hge (by decide)
  | adding => exact absurd rfl hadd
  | transmit => exact .inl rfl
  | txrespond => exact .inr rfl
  | rxresponse1 | rxresponse2 | rxresponse3 | rxresponse4 => exact absurd (by decide) hrx

/-- Up to TXRESPOND nothing is awaited. -/
theorem not_isRxResponse_of_le {s : ChState} (h : s.toNat ≤ txrespond.toNat) :
    ¬ s.IsRxResponse := fun hr ↦ Nat.not_lt.mpr h (Nat.lt_of_lt_of_le (by decide) hr)

/-- A configuration is accepted exactly below three. -/
theorem ofConfig_isSome (config : UInt8) : (ofConfig config).isSome = true ↔ config < 3 := by
  grind [ofConfig]

/-- A configured state is stored as the configuration byte itself. -/
theorem toNat_ofConfig {config : UInt8} {s : ChState} (h : ofConfig config = some s) :
    s.toNat = config.toNat := by
  simp only [ofConfig] at h
  split at h
  · next hc => cases h; rw [hc]; rfl
  · split at h
    · next hc => cases h; rw [hc]; rfl
    · split at h
      · next hc => cases h; rw [hc]; rfl
      · cases h

/-- A configuration is one of the three lowest states. -/
theorem toNat_le_of_ofConfig {config : UInt8} {st : ChState} (h : ofConfig config = some st) :
    st.toNat ≤ empty.toNat := by
  have hlt : config < 3 := (ofConfig_isSome config).mp (by rw [h]; rfl)
  have hn := UInt8.lt_iff_toNat_lt.mp hlt
  rw [toNat_ofConfig h]
  simp only [toNat, UInt8.reduceToNat] at hn ⊢
  omega

/-- A value below three sets one of the three lowest states, any other leaves the state. -/
theorem getD_ofConfig_cases (config : UInt8) (st : ChState) :
    (config < 3 ∧ ((ofConfig config).getD st).toNat ≤ empty.toNat) ∨
      (¬ config < 3 ∧ (ofConfig config).getD st = st) := by
  cases h : ofConfig config with
  | some st' =>
    exact .inl ⟨(ofConfig_isSome config).mp (by rw [h]; rfl), toNat_le_of_ofConfig h⟩
  | none =>
    refine .inr ⟨fun hlt ↦ ?_, rfl⟩
    have := (ofConfig_isSome config).mpr hlt
    rw [h] at this
    cases this

end ChState

/-- `struct channel`, `src/libradio.h:130-134`. -/
structure Channel where
  state : ChState
  priority : UInt8
  packet : Packet
  deriving DecidableEq, Repr

namespace Channel

/-- Static storage: all bytes zero, so the channel is disabled. -/
def zero : Channel := ⟨.disabled, 0, .zero⟩

end Channel

end Libradio
