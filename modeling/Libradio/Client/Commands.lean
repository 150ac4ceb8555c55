import Libradio.Client.Loop

/-!
# What a command can do to a client

The cases of `libradio_command`, each with its guard, and the filters in front of them. The
properties of clients are derived from this list and never look into the function again.
-/

namespace Libradio

variable {σ : Type}

/-- The address filter of `libradio_handle_packet`, `src/lib/handle.c:58`. -/
def IsAddressed (r : Radio) (p : Packet) : Prop := p.node = 0 ∨ p.node = r.myNodeId

/-- The packet carries the client's identity, `src/lib/command.c:100-103`. -/
def CarriesIdentity (r : Radio) (p : Packet) : Prop :=
  dataByte p.data 2 = r.cat1 ∧ dataByte p.data 3 = r.cat2 ∧ dataByte p.data 4 = r.num1 ∧
    dataByte p.data 5 = r.num2

/-- An ACTIVATE of six bytes with the client's identity. -/
def IsActivation (r : Radio) (p : Packet) : Prop :=
  p.cmd = RADIO_CMD_ACTIVATE ∧ p.len = 6 ∧ CarriesIdentity r p

/-- A DEACTIVATE that is executed. -/
def IsDeactivation (r : Radio) (p : Packet) : Prop :=
  p.cmd = RADIO_CMD_DEACTIVATE ∧ p.len = 0 ∧ LIBRADIO_STATE_ACTIVE ≤ r.state

/-- A command that asks for a response, with the length it has to have. -/
def IsRequest (p : Packet) : Prop :=
  (p.cmd = RADIO_CMD_STATUS ∧ p.len = 3) ∨ (p.cmd = RADIO_CMD_READ_EEPROM ∧ p.len = 4)

instance (r : Radio) (p : Packet) : Decidable (IsAddressed r p) :=
  inferInstanceAs (Decidable (_ ∨ _))

instance (r : Radio) (p : Packet) : Decidable (CarriesIdentity r p) :=
  inferInstanceAs (Decidable (_ ∧ _))

instance (r : Radio) (p : Packet) : Decidable (IsActivation r p) :=
  inferInstanceAs (Decidable (_ ∧ _))

instance (r : Radio) (p : Packet) : Decidable (IsDeactivation r p) :=
  inferInstanceAs (Decidable (_ ∧ _))

/-- The activation, `src/lib/command.c:106-110`. -/
def Radio.activated (p : Packet) (r : Radio) : Radio :=
  libradioSetState LIBRADIO_STATE_ACTIVE
    { r with myChannel := dataByte p.data 0, myNodeId := dataByte p.data 1 }

/-- The deactivation, `src/lib/command.c:119-121`. -/
def Radio.deactivated (r : Radio) : Radio :=
  libradioSetState LIBRADIO_STATE_WARM { r with myChannel := 0, myNodeId := 0 }

/-- What the command of a packet does: nothing, one of the changes of the station, a change of
its clock or its date, a response, a change of the EEPROM, or what the application does. -/
inductive Executed (b : Board σ) (app : App σ) (fuel : Nat) (p : Packet) (d d' : Dev σ) : Prop
  | nothing (act : ¬ IsActivation d.radio p) (deact : ¬ IsDeactivation d.radio p)
      (request : LIBRADIO_STATE_ACTIVE ≤ d.radio.state → ¬ IsRequest p) (eq : d' = d)
  | activated (act : IsActivation d.radio p)
      (eq : d' = { d with radio := d.radio.activated p })
  | deactivated (deact : IsDeactivation d.radio p)
      (eq : d' = { d with radio := d.radio.deactivated })
  | setTime (active : LIBRADIO_STATE_ACTIVE ≤ d.radio.state) (cmd : p.cmd = RADIO_CMD_SET_TIME)
      (len : p.len = 1)
      (eq : d' = { d with radio := { d.radio with tensOfMinutes := dataByte p.data 0 } })
  | setDate (active : LIBRADIO_STATE_ACTIVE ≤ d.radio.state) (cmd : p.cmd = RADIO_CMD_SET_DATE)
      (len : p.len = 2)
      (eq : d' = { d with radio :=
        { d.radio with date := word (dataByte p.data 0) (dataByte p.data 1) } })
  | silent (active : LIBRADIO_STATE_ACTIVE ≤ d.radio.state) (cmd : p.cmd = RADIO_CMD_STATUS)
      (len : p.len = 3) (none : (app.fetchStatus (dataByte p.data 2) d).2 = 0)
      (eq : d' = (app.fetchStatus (dataByte p.data 2) d).1)
  | status (active : LIBRADIO_STATE_ACTIVE ≤ d.radio.state) (cmd : p.cmd = RADIO_CMD_STATUS)
      (len : p.len = 3) (some : 0 < (app.fetchStatus (dataByte p.data 2) d).2)
      (eq : d' = libradioSendResponse b fuel RADIO_STATUS_RESPONSE (dataByte p.data 0)
        (dataByte p.data 1) (UInt8.ofNat (app.fetchStatus (dataByte p.data 2) d).2)
        (app.fetchStatus (dataByte p.data 2) d).1.statusbuffer
        (app.fetchStatus (dataByte p.data 2) d).1)
  | readEeprom (buffer : Nat → UInt8) (addr : UInt8)
      (active : LIBRADIO_STATE_ACTIVE ≤ d.radio.state) (cmd : p.cmd = RADIO_CMD_READ_EEPROM)
      (len : p.len = 4)
      (eq : d' = libradioSendResponse b fuel RADIO_EEPROM_RESPONSE (dataByte p.data 0) addr
        (dataByte p.data 1) buffer { d with statusbuffer := buffer })
  | writeEeprom (eeprom : UInt16 → UInt8) (active : LIBRADIO_STATE_ACTIVE ≤ d.radio.state)
      (cmd : p.cmd = RADIO_CMD_WRITE_EEPROM) (eq : d' = { d with eeprom := eeprom })
  | operate (active : LIBRADIO_STATE_ACTIVE ≤ d.radio.state) (cmd : RADIO_EEPROM_RESPONSE < p.cmd)
      (eq : d' = app.operate p d)

-- A command that is none of the first sixteen that the library executes goes to the application.
private theorem application_of_not {cmd : UInt8}
    (h₀ : ¬ (cmd = RADIO_CMD_NOOP ∨ cmd = RADIO_STATUS_RESPONSE ∨ cmd = RADIO_EEPROM_RESPONSE))
    (h₁ : ¬ cmd = RADIO_CMD_FIRMWARE) (h₂ : ¬ cmd = RADIO_CMD_STATUS)
    (h₃ : ¬ cmd = RADIO_CMD_ACTIVATE) (h₄ : ¬ cmd = RADIO_CMD_DEACTIVATE)
    (h₅ : ¬ cmd = RADIO_CMD_SET_TIME) (h₆ : ¬ cmd = RADIO_CMD_SET_DATE)
    (h₇ : ¬ cmd = RADIO_CMD_READ_EEPROM) (h₈ : ¬ cmd = RADIO_CMD_WRITE_EEPROM) :
    RADIO_EEPROM_RESPONSE < cmd := by
  simp only [RADIO_CMD_NOOP, RADIO_STATUS_RESPONSE, RADIO_EEPROM_RESPONSE, RADIO_CMD_FIRMWARE,
    RADIO_CMD_STATUS, RADIO_CMD_ACTIVATE, RADIO_CMD_DEACTIVATE, RADIO_CMD_SET_TIME,
    RADIO_CMD_SET_DATE, RADIO_CMD_READ_EEPROM, RADIO_CMD_WRITE_EEPROM, UInt8.lt_iff_toNat_lt,
    ← UInt8.toNat_inj, UInt8.reduceToNat] at *
  omega

/-- Every command does one of these. -/
theorem executed_libradioCommand (b : Board σ) (app : App σ) (fuel : Nat) (p : Packet)
    (d : Dev σ) : Executed b app fuel p d (libradioCommand b app fuel p d) := by
  have hnone {c : UInt8} (hcmd : p.cmd = c) (hact : c ≠ RADIO_CMD_ACTIVATE)
      (hdeact : c ≠ RADIO_CMD_DEACTIVATE) (hreq : ¬ IsRequest p) : Executed b app fuel p d d :=
    .nothing (fun h ↦ hact (hcmd ▸ h.1)) (fun h ↦ hdeact (hcmd ▸ h.1)) (fun _ ↦ hreq) rfl
  have hplain {c : UInt8} (hcmd : p.cmd = c) (hs : c ≠ RADIO_CMD_STATUS)
      (hr : c ≠ RADIO_CMD_READ_EEPROM) : ¬ IsRequest p := by
    rintro (h | h)
    · exact hs (hcmd ▸ h.1)
    · exact hr (hcmd ▸ h.1)
  unfold libradioCommand
  by_cases hguard : p.cmd ≠ RADIO_CMD_ACTIVATE ∧ d.radio.state < LIBRADIO_STATE_ACTIVE
  · rw [if_pos hguard]
    have hlow : ¬ LIBRADIO_STATE_ACTIVE ≤ d.radio.state := UInt8.not_le.mpr hguard.2
    exact .nothing (fun hc ↦ hguard.1 hc.1) (fun hc ↦ hlow hc.2.2) (fun hc ↦ absurd hc hlow) rfl
  rw [if_neg hguard]
  have hactive (h : p.cmd ≠ RADIO_CMD_ACTIVATE) : LIBRADIO_STATE_ACTIVE ≤ d.radio.state :=
    UInt8.not_lt.mp fun hlt ↦ hguard ⟨h, hlt⟩
  by_cases hquiet : p.cmd = RADIO_CMD_NOOP ∨ p.cmd = RADIO_STATUS_RESPONSE ∨
      p.cmd = RADIO_EEPROM_RESPONSE
  · rw [if_pos hquiet]
    rcases hquiet with h | h | h <;>
      exact hnone h (by decide) (by decide) (hplain h (by decide) (by decide))
  rw [if_neg hquiet]
  by_cases hfirm : p.cmd = RADIO_CMD_FIRMWARE
  · rw [if_pos hfirm]
    exact hnone hfirm (by decide) (by decide) (hplain hfirm (by decide) (by decide))
  rw [if_neg hfirm]
  by_cases hstatus : p.cmd = RADIO_CMD_STATUS
  · rw [if_pos hstatus]
    have ha := hactive (by rw [hstatus]; decide)
    by_cases hlen : p.len = 3
    · rw [if_neg (not_not_intro hlen)]
      dsimp only
      by_cases hsome : 0 < (app.fetchStatus (dataByte p.data 2) d).2
      · rw [if_pos hsome]
        exact .status ha hstatus hlen hsome rfl
      · rw [if_neg hsome]
        exact .silent ha hstatus hlen (by omega) rfl
    · rw [if_pos hlen]
      refine hnone hstatus (by decide) (by decide) ?_
      rintro (h | h)
      · exact hlen h.2
      · exact absurd (hstatus.symm.trans h.1) (by decide)
  rw [if_neg hstatus]
  by_cases hact : p.cmd = RADIO_CMD_ACTIVATE
  · rw [if_pos hact]
    have hdeact : ¬ IsDeactivation d.radio p := fun hc ↦ absurd (hact.symm.trans hc.1) (by decide)
    have hreq : LIBRADIO_STATE_ACTIVE ≤ d.radio.state → ¬ IsRequest p :=
      fun _ ↦ hplain hact (by decide) (by decide)
    by_cases hlen : p.len = 6
    · rw [if_neg (not_not_intro hlen)]
      by_cases hid : dataByte p.data 2 ≠ d.radio.cat1 ∨ dataByte p.data 3 ≠ d.radio.cat2 ∨
          dataByte p.data 4 ≠ d.radio.num1 ∨ dataByte p.data 5 ≠ d.radio.num2
      · rw [if_pos hid]
        refine .nothing (fun hc ↦ ?_) hdeact hreq rfl
        obtain ⟨h2, h3, h4, h5⟩ := hc.2.2
        rcases hid with hid | hid | hid | hid <;> contradiction
      · rw [if_neg hid]
        simp only [not_or, Decidable.not_not] at hid
        exact .activated ⟨hact, hlen, hid⟩ rfl
    · rw [if_pos hlen]
      exact .nothing (fun hc ↦ hlen hc.2.1) hdeact hreq rfl
  rw [if_neg hact]
  have ha := hactive hact
  have hno : ¬ IsActivation d.radio p := fun hc ↦ hact hc.1
  by_cases hdeact : p.cmd = RADIO_CMD_DEACTIVATE
  · rw [if_pos hdeact]
    by_cases hlen : p.len = 0
    · rw [if_neg (not_not_intro hlen)]
      exact .deactivated ⟨hdeact, hlen, ha⟩ rfl
    · rw [if_pos hlen]
      exact .nothing hno (fun hc ↦ hlen hc.2.1)
        (fun _ ↦ hplain hdeact (by decide) (by decide)) rfl
  rw [if_neg hdeact]
  have hnd : ¬ IsDeactivation d.radio p := fun hc ↦ hdeact hc.1
  by_cases htime : p.cmd = RADIO_CMD_SET_TIME
  · rw [if_pos htime]
    by_cases hlen : p.len = 1
    · rw [if_neg (not_not_intro hlen)]
      exact .setTime ha htime hlen rfl
    · rw [if_pos hlen]
      exact .nothing hno hnd (fun _ ↦ hplain htime (by decide) (by decide)) rfl
  rw [if_neg htime]
  by_cases hdate : p.cmd = RADIO_CMD_SET_DATE
  · rw [if_pos hdate]
    by_cases hlen : p.len = 2
    · rw [if_neg (not_not_intro hlen)]
      exact .setDate ha hdate hlen rfl
    · rw [if_pos hlen]
      exact .nothing hno hnd (fun _ ↦ hplain hdate (by decide) (by decide)) rfl
  rw [if_neg hdate]
  by_cases hread : p.cmd = RADIO_CMD_READ_EEPROM
  · rw [if_pos hread]
    by_cases hlen : p.len = 4
    · rw [if_neg (not_not_intro hlen)]
      exact .readEeprom _ _ ha hread hlen rfl
    · rw [if_pos hlen]
      refine .nothing hno hnd (fun _ ↦ ?_) rfl
      rintro (h | h)
      · exact absurd (hread.symm.trans h.1) (by decide)
      · exact hlen h.2
  rw [if_neg hread]
  by_cases hwrite : p.cmd = RADIO_CMD_WRITE_EEPROM
  · rw [if_pos hwrite]
    by_cases hlen : p.len < 3 ∨ p.len > 22
    · rw [if_pos hlen]
      exact .nothing hno hnd (fun _ ↦ hplain hwrite (by decide) (by decide)) rfl
    · rw [if_neg hlen]
      exact .writeEeprom _ ha hwrite rfl
  rw [if_neg hwrite]
  exact .operate ha
    (application_of_not hquiet hfirm hstatus hact hdeact htime hdate hread hwrite) rfl

/-- An activation is executed in every state. -/
theorem libradioCommand_activate (b : Board σ) (app : App σ) (fuel : Nat) {p : Packet} {d : Dev σ}
    (h : IsActivation d.radio p) :
    libradioCommand b app fuel p d = { d with radio := d.radio.activated p } := by
  have hcmd {c : UInt8} (hother : c ≠ RADIO_CMD_ACTIVATE) : p.cmd ≠ c := fun hc ↦
    hother (hc.symm.trans h.1)
  cases executed_libradioCommand b app fuel p d with
  | nothing act deact request eq => exact absurd h act
  | activated act eq => exact eq
  | deactivated deact eq => exact absurd deact.1 (hcmd (by decide))
  | setTime active cmd len eq => exact absurd cmd (hcmd (by decide))
  | setDate active cmd len eq => exact absurd cmd (hcmd (by decide))
  | silent active cmd len none eq => exact absurd cmd (hcmd (by decide))
  | status active cmd len some eq => exact absurd cmd (hcmd (by decide))
  | readEeprom buffer addr active cmd len eq => exact absurd cmd (hcmd (by decide))
  | writeEeprom eeprom active cmd eq => exact absurd cmd (hcmd (by decide))
  | operate active cmd eq =>
    rw [h.1] at cmd
    exact absurd cmd (by decide)

/-! ### The EEPROM -/

/-- A WRITE_EEPROM of a permitted length changes the EEPROM and nothing else. -/
theorem libradioCommand_writeEeprom (b : Board σ) (app : App σ) (fuel : Nat) {p : Packet}
    {d : Dev σ} (hcmd : p.cmd = RADIO_CMD_WRITE_EEPROM) (hleast : 3 ≤ p.len)
    (hmost : p.len ≤ 22) (hactive : LIBRADIO_STATE_ACTIVE ≤ d.radio.state) :
    libradioCommand b app fuel p d = { d with
      eeprom := writeEeprom p d.beyondData (word (dataByte p.data 0) (dataByte p.data 1))
        (p.len.toNat - 2) d.eeprom } := by
  have hlen : ¬ (p.len < 3 ∨ p.len > 22) := by
    rintro (h | h)
    · exact UInt8.not_lt.mpr hleast h
    · exact UInt8.not_lt.mpr hmost h
  unfold libradioCommand
  rw [hcmd, if_neg fun h ↦ UInt8.not_lt.mpr hactive h.2, if_neg (by decide), if_neg (by decide),
    if_neg (by decide), if_neg (by decide), if_neg (by decide), if_neg (by decide),
    if_neg (by decide), if_neg (by decide), if_pos rfl, if_neg hlen]

/-- A READ_EEPROM of the right length fills the status buffer from the EEPROM and sends it. -/
theorem libradioCommand_readEeprom (b : Board σ) (app : App σ) (fuel : Nat) {p : Packet}
    {d : Dev σ} (hcmd : p.cmd = RADIO_CMD_READ_EEPROM) (hlen : p.len = 4)
    (hactive : LIBRADIO_STATE_ACTIVE ≤ d.radio.state) :
    ∃ addr buffer, libradioCommand b app fuel p d =
        libradioSendResponse b fuel RADIO_EEPROM_RESPONSE (dataByte p.data 0) addr
          (dataByte p.data 1) buffer { d with statusbuffer := buffer } ∧
      buffer = fillStatus d.eeprom (word (dataByte p.data 2) (dataByte p.data 3))
        (dataByte p.data 1).toNat d.statusbuffer := by
  unfold libradioCommand
  rw [hcmd, if_neg fun h ↦ UInt8.not_lt.mpr hactive h.2, if_neg (by decide), if_neg (by decide),
    if_neg (by decide), if_neg (by decide), if_neg (by decide), if_neg (by decide),
    if_neg (by decide), if_pos rfl, if_neg (not_not_intro hlen)]
  exact ⟨_, _, rfl, rfl⟩

/-- A byte of a packet, or of the memory behind its data. -/
theorem dataAt_eq_getD (p : Packet) (beyond : UInt8) (i : Nat) :
    dataAt p beyond i = p.data[i]?.getD beyond := by
  unfold dataAt
  split
  · next h => rw [Vector.getElem?_eq_getElem h, Option.getD_some]
  · next h => rw [Vector.getElem?_eq_none (Nat.le_of_not_lt h), Option.getD_none]

/-- The loop of WRITE_EEPROM, cell by cell: the `n` cells from `addr` on are written. -/
theorem writeEeprom_eq (p : Packet) (beyond : UInt8) (addr : UInt16) {n : Nat}
    (hn : n ≤ 65536) (eeprom : UInt16 → UInt8) (a : UInt16) :
    writeEeprom p beyond addr n eeprom a =
      if (a - addr).toNat < n then dataAt p beyond ((a - addr).toNat + 3) else eeprom a := by
  induction n with
  | zero => rw [writeEeprom, if_neg (Nat.not_lt_zero _)]
  | succ n ih =>
    have hlast : a = addr + UInt16.ofNat n ↔ (a - addr).toNat = n := by
      rw [← UInt16.toNat_inj, UInt16.toNat_add, UInt16.toNat_sub, UInt16.toNat_ofNat']
      have ha := a.toNat_lt
      have haddr := addr.toNat_lt
      omega
    rw [writeEeprom]
    dsimp only
    rw [ih (by omega)]
    by_cases heq : a = addr + UInt16.ofNat n
    · have hnat := hlast.mp heq
      rw [if_pos heq, if_pos (by omega), hnat]
    · have hne := mt hlast.mpr heq
      rw [if_neg heq]
      by_cases hlt : (a - addr).toNat < n
      · rw [if_pos hlt, if_pos (by omega)]
      · rw [if_neg hlt, if_neg (by omega)]

/-- The byte `writeEeprom` takes for place `i`. -/
theorem writeEeprom_apply (p : Packet) (beyond : UInt8) (addr : UInt16) {n : Nat}
    (hn : n ≤ 65536) (eeprom : UInt16 → UInt8) {i : Nat} (hi : i < n) :
    writeEeprom p beyond addr n eeprom (addr + UInt16.ofNat i) = dataAt p beyond (i + 3) := by
  have hoffset : (addr + UInt16.ofNat i - addr).toNat = i := by
    rw [UInt16.toNat_sub, UInt16.toNat_add, UInt16.toNat_ofNat']
    have haddr := addr.toNat_lt
    omega
  rw [writeEeprom_eq p beyond addr hn, hoffset, if_pos hi]

end Libradio
