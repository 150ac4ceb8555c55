import Libradio.Control.Execution
import Libradio.Control.Received
import Libradio.Lrmon.Upstream

/-!
# The controller's own status

`local_status` of `src/control/command.c` prints the status of the controller as one report, and
`local_response` of `src/lrmon/response.c` keeps it in `dstatus` or `sstatus`. The bytes of a
number are put together again; the fields of type `char` keep a byte up to 127 only.
-/

namespace Libradio
open Libradio.Base

namespace Lrmon

/-! ### The state machine keeps the statuses -/

/-- The two statuses that lrmond keeps. -/
def Monitor.statuses (m : Monitor) : SStatus × DStatus := (m.sstatus, m.dstatus)

private theorem statuses_onActivateCh (i : Fin 4) (m : Monitor) :
    (onActivateCh i m).mon.statuses = m.statuses := by
  unfold onActivateCh
  dsimp only
  split
  · rfl
  · split <;> rfl

private theorem statuses_onSetDate (clock : HostClock) (m : Monitor) :
    (onSetDate clock m).mon.statuses = m.statuses := by
  unfold onSetDate
  split
  · rfl
  · exact statuses_onActivateCh _ _

private theorem statuses_onSetTime (clock : HostClock) (m : Monitor) :
    (onSetTime clock m).mon.statuses = m.statuses := by
  unfold onSetTime
  split
  · rfl
  · exact statuses_onSetDate _ _

private theorem statuses_onActivate (clock : HostClock) (m : Monitor) :
    (onActivate clock m).mon.statuses = m.statuses := by
  unfold onActivate
  split
  · rfl
  · exact statuses_onSetTime _ _

private theorem statuses_onDrequest (clock : HostClock) (m : Monitor) :
    (onDrequest clock m).mon.statuses = m.statuses := by
  unfold onDrequest
  dsimp only
  split
  · rfl
  · split
    · rfl
    · exact statuses_onActivate _ _

private theorem statuses_onSrequest (clock : HostClock) (m : Monitor) :
    (onSrequest clock m).mon.statuses = m.statuses := by
  unfold onSrequest
  split
  · rfl
  · exact statuses_onDrequest _ _

/-- A call of `state_machine` changes neither status. -/
theorem statuses_stateMachine (clock : HostClock) (m : Monitor) :
    (stateMachine clock m).1.statuses = m.statuses := by
  have hstate (m : Monitor) : (onState clock m).mon.statuses = m.statuses := by
    unfold onState
    split
    · rfl
    · exact statuses_onSrequest _ _
    · exact statuses_onSrequest _ _
    · exact statuses_onDrequest _ _
    · exact statuses_onActivate _ _
    · exact statuses_onSetTime _ _
    · exact statuses_onSetDate _ _
    · exact statuses_onActivateCh _ _
    · rfl
  unfold stateMachine
  split
  · rfl
  · refine (hstate _).trans ?_
    split <;> rfl

/-! ### Numbers of the report -/

/-- The data of a report are taken apart at the commas. -/
theorem crack_commaSeparated {data : List UInt8} (hne : data ≠ []) {n : Nat}
    (hn : data.length ≤ n) :
    crack chComma n (commaSeparated data) = data.map fun d ↦ digits d.toNat := by
  have hcomma (d : UInt8) : chComma ∉ digits d.toNat := notMem_digits (by decide) _
  induction data generalizing n with
  | nil => exact absurd rfl hne
  | cons d ds ih =>
    obtain ⟨n, rfl⟩ : ∃ m, n = m + 1 := ⟨n - 1, by rw [List.length_cons] at hn; omega⟩
    cases ds with
    | nil =>
      rw [commaSeparated, List.map_cons, List.map_nil, List.intercalate_singleton,
        crack_of_notMem (hcomma d)]
    | cons e ds =>
      have hrest := ih (List.cons_ne_nil e ds) (n := n) (by
        rw [List.length_cons] at hn
        omega)
      have htext : commaSeparated (d :: e :: ds) =
          digits d.toNat ++ chComma :: commaSeparated (e :: ds) := by
        rw [commaSeparated, List.map_cons, List.map_cons, List.intercalate_cons_cons,
          List.append_assoc, commaSeparated, List.map_cons]
        rfl
      rw [htext, crack_append_cons (hcomma d), hrest]
      rfl

/-- The arguments of a report, as numbers. -/
theorem atoi_commaSeparated {l : List UInt8} (hne : l ≠ []) (hlen : l.length ≤ 16) :
    (crack chComma 16 (commaSeparated l)).map atoi = l.map fun d ↦ (d.toNat : Int) := by
  rw [crack_commaSeparated hne hlen, List.map_map]
  exact List.map_congr_left fun d _ ↦ atoi_digits d.toNat

/-- A byte is kept by a `char` if it is below 128. -/
theorem toInt_ofInt_byte (d : UInt8) : (Int8.ofInt d.toNat).toInt = d.toNat ↔ d < 128 := by
  have hlt := d.toNat_lt
  have hsize : Int8.size = 256 := rfl
  rw [UInt8.lt_iff_toNat_lt, Int8.toInt_ofInt, hsize]
  change _ ↔ d.toNat < 128
  constructor
  · intro h
    have := Int.bmod_lt (x := (d.toNat : Int)) (m := 256) (by decide)
    omega
  · intro h
    exact Int.bmod_eq_of_le (by omega) (by omega)

/-- Two bytes are put together to the number they are the halves of. -/
theorem toInt_twoBytes (hi lo : UInt8) :
    (twoBytes hi.toNat lo.toNat).toInt = 256 * hi.toNat + lo.toNat := by
  have hhi := hi.toNat_lt
  have hlo := lo.toNat_lt
  have hcount : (8 : Int32).toBitVec.smod 32 = 8#32 := by decide
  have hshift : (BitVec.ofNat 32 hi.toNat <<< 8#32).toNat = hi.toNat <<< 8 := by
    rw [BitVec.shiftLeft_eq', BitVec.toNat_shiftLeft, BitVec.toNat_ofNat, Nat.shiftLeft_eq,
      Nat.shiftLeft_eq]
    simp only [BitVec.toNat_ofNat, Nat.reduceMod, Nat.reducePow]
    omega
  have hlow : (BitVec.ofNat 32 lo.toNat).toNat = lo.toNat := by
    rw [BitVec.toNat_ofNat]
    exact Nat.mod_eq_of_lt (by omega)
  have hval : (twoBytes hi.toNat lo.toNat).toBitVec.toNat = 256 * hi.toNat + lo.toNat := by
    rw [twoBytes, Int32.toBitVec_or, Int32.toBitVec_shiftLeft, Int32.toBitVec_ofInt,
      Int32.toBitVec_ofInt, hcount, BitVec.ofInt_natCast, BitVec.ofInt_natCast, BitVec.toNat_or,
      hshift, hlow, ← Nat.shiftLeft_add_eq_or_of_lt hlo, Nat.shiftLeft_eq]
    omega
  rw [← Int32.toInt_toBitVec, BitVec.toInt_eq_toNat_of_lt (by omega), hval]
  omega

/-- A counter is kept as it is. -/
theorem toInt_twoBytes_split (n : UInt16) :
    (twoBytes (n >>> 8).toUInt8.toNat n.toUInt8.toNat).toInt = n.toNat := by
  have hlt := n.toNat_lt
  have hhigh : (n >>> 8).toUInt8.toNat = n.toNat / 256 := by
    rw [UInt16.toNat_toUInt8, UInt16.toNat_shiftRight, Nat.shiftRight_eq_div_pow]
    change n.toNat / 256 % 256 = n.toNat / 256
    omega
  rw [toInt_twoBytes, hhigh, UInt16.toNat_toUInt8]
  omega

/-! ### What lrmond keeps of a report -/

/-- A status report on a channel below 16, from node 0 or 1, goes to `local_response`. -/
theorem statuses_parseData (clock : HostClock) (m : Monitor) {chan node : UInt8}
    (hchan : chan < 16) (hnode : node < 2) (ticks : UInt16) (data : List UInt8) :
    (parseData clock (Line.report chan node ticks RADIO_STATUS_RESPONSE data).text m).1.statuses =
      (localResponse (commaSeparated data) m).statuses := by
  have hlt : (node.toNat : Int) < 2 := by
    have : node.toNat < 2 := UInt8.lt_iff_toNat_lt.mp hnode
    omega
  have hheard : readLine (Line.report chan node ticks RADIO_STATUS_RESPONSE data).text =
      .status chan.toNat node.toNat ticks.toNat (commaSeparated data) := by
    rw [readLine_eq, readUpstream_report hchan]
    rfl
  have hlocal (m₁ m₂ : Monitor) (h : m₁.statuses = m₂.statuses) :
      (localResponse (commaSeparated data) m₁).statuses =
        (localResponse (commaSeparated data) m₂).statuses := by
    have hs : m₁.sstatus = m₂.sstatus := congrArg Prod.fst h
    have hd : m₁.dstatus = m₂.dstatus := congrArg Prod.snd h
    unfold localResponse Monitor.statuses
    split
    · split
      · dsimp only
        rw [hd]
      · rw [hs, hd]
    · split
      · dsimp only
        rw [hs]
      · rw [hs, hd]
    · rw [hs, hd]
  unfold parseData
  rw [hheard]
  dsimp only
  rw [statuses_stateMachine, response, if_pos hlt]
  exact hlocal _ _ rfl

variable {σ : Type}

/-- The line that `local_status` prints. -/
def statusLine (b : Board σ) (stype : UInt8) (s : Ctl σ) : List UInt8 :=
  (Ctl.printed s (Ctl.localStatus b stype s)).flatMap Line.text

/-- The dynamic status is kept as it was reported. -/
structure KeepsDynamic (r : Radio) (battery : UInt16) (d : DStatus) : Prop where
  radioState : d.radioState.toInt = r.state.toNat
  tensOfMinutes : d.tensOfMinutes.toInt = r.tensOfMinutes.toNat
  batteryVoltage : d.batteryVoltage.toInt = battery.toNat
  npacketRx : d.npacketRx.toInt = r.npacketRx.toNat
  npacketTx : d.npacketTx.toInt = r.npacketTx.toNat

/-- The static status is kept as it was reported: category 1.1, instance 1.1, firmware 3.1. -/
structure KeepsStatic (s : SStatus) : Prop where
  category : s.c1.toInt = 1 ∧ s.c2.toInt = 1
  number : s.n1.toInt = 1 ∧ s.n2.toInt = 1
  firmware : s.fwH.toInt = 3 ∧ s.fwL.toInt = 1

private theorem statusLine_eq (b : Board σ) (stype : UInt8) (s : Ctl σ) :
    statusLine b stype s = (Line.report s.dev.radio.myChannel s.dev.radio.myNodeId
      s.dev.radio.msTicks RADIO_STATUS_RESPONSE (stype :: Ctl.statusBytes s.dev.radio
        (if stype = RADIO_STATUS_DYNAMIC then (b.analogRead s.dev.chip 3).2 else 0)
        stype)).text := by
  have hconv : (if stype = RADIO_STATUS_DYNAMIC then b.analogRead s.dev.chip 3
      else (s.dev.chip, 0)).2 =
        if stype = RADIO_STATUS_DYNAMIC then (b.analogRead s.dev.chip 3).2 else 0 := by
    split <;> rfl
  have hprinted : Ctl.printed s (Ctl.localStatus b stype s) =
      [.report s.dev.radio.myChannel s.dev.radio.myNodeId s.dev.radio.msTicks
        RADIO_STATUS_RESPONSE (stype :: Ctl.statusBytes s.dev.radio
          (if stype = RADIO_STATUS_DYNAMIC then b.analogRead s.dev.chip 3
            else (s.dev.chip, 0)).2 stype)] := Ctl.printed_of_append rfl
  rw [statusLine, hprinted, hconv, List.flatMap_singleton]

/-- The dynamic status: all five values are kept exactly if the two bytes that go into a `char`
are below 128. -/
theorem keepsDynamic_iff (b : Board σ) (clock : HostClock) (m : Monitor) {s : Ctl σ}
    (hchan : s.dev.radio.myChannel < 6) (hnode : s.dev.radio.myNodeId < 2) :
    KeepsDynamic s.dev.radio (b.analogRead s.dev.chip 3).2
        (parseData clock (statusLine b RADIO_STATUS_DYNAMIC s) m).1.dstatus ↔
      s.dev.radio.state < 128 ∧ s.dev.radio.tensOfMinutes < 128 := by
  have hlow : s.dev.radio.myChannel < 16 := UInt8.lt_trans hchan (by decide)
  have hkept := congrArg Prod.snd (statuses_parseData clock m hlow hnode s.dev.radio.msTicks
    (RADIO_STATUS_DYNAMIC :: Ctl.statusBytes s.dev.radio (b.analogRead s.dev.chip 3).2
      RADIO_STATUS_DYNAMIC))
  rw [statusLine_eq, if_pos rfl]
  generalize s.dev.radio = r at hkept ⊢
  generalize (b.analogRead s.dev.chip 3).2 = battery at hkept ⊢
  have hargs := atoi_commaSeparated (l := RADIO_STATUS_DYNAMIC ::
    Ctl.statusBytes r battery RADIO_STATUS_DYNAMIC) (List.cons_ne_nil _ _)
    (Nat.le_of_ble_eq_true rfl)
  have hlocal : (localResponse (commaSeparated (RADIO_STATUS_DYNAMIC ::
      Ctl.statusBytes r battery RADIO_STATUS_DYNAMIC)) m).dstatus =
        ⟨Int8.ofInt r.state.toNat, Int8.ofInt r.tensOfMinutes.toNat,
          twoBytes (battery >>> 8).toUInt8.toNat battery.toUInt8.toNat,
          twoBytes (r.npacketRx >>> 8).toUInt8.toNat r.npacketRx.toUInt8.toNat,
          twoBytes (r.npacketTx >>> 8).toUInt8.toNat r.npacketTx.toUInt8.toNat⟩ := by
    unfold localResponse
    rw [hargs]
    rfl
  have hd : (parseData clock (Line.report r.myChannel r.myNodeId r.msTicks RADIO_STATUS_RESPONSE
      (RADIO_STATUS_DYNAMIC :: Ctl.statusBytes r battery RADIO_STATUS_DYNAMIC)).text m).1.dstatus =
        _ := Eq.trans hkept hlocal
  rw [hd]
  constructor
  · intro h
    exact ⟨(toInt_ofInt_byte r.state).mp h.radioState,
      (toInt_ofInt_byte r.tensOfMinutes).mp h.tensOfMinutes⟩
  · rintro ⟨hstate, htens⟩
    exact ⟨(toInt_ofInt_byte r.state).mpr hstate, (toInt_ofInt_byte r.tensOfMinutes).mpr htens,
      toInt_twoBytes_split battery, toInt_twoBytes_split r.npacketRx,
      toInt_twoBytes_split r.npacketTx⟩

/-- The static status is always kept. -/
theorem keepsStatic_parseData (b : Board σ) (clock : HostClock) (m : Monitor) {s : Ctl σ}
    (hchan : s.dev.radio.myChannel < 6) (hnode : s.dev.radio.myNodeId < 2) :
    KeepsStatic (parseData clock (statusLine b RADIO_STATUS_STATIC s) m).1.sstatus := by
  have hlow : s.dev.radio.myChannel < 16 := UInt8.lt_trans hchan (by decide)
  have hkept := congrArg Prod.fst (statuses_parseData clock m hlow hnode s.dev.radio.msTicks
    (RADIO_STATUS_STATIC :: Ctl.statusBytes s.dev.radio 0 RADIO_STATUS_STATIC))
  have hargs := atoi_commaSeparated (l := RADIO_STATUS_STATIC ::
    Ctl.statusBytes s.dev.radio 0 RADIO_STATUS_STATIC) (List.cons_ne_nil _ _)
    (Nat.le_of_ble_eq_true rfl)
  have hlocal : (localResponse (commaSeparated (RADIO_STATUS_STATIC ::
      Ctl.statusBytes s.dev.radio 0 RADIO_STATUS_STATIC)) m).sstatus = ⟨1, 1, 1, 1, 3, 1⟩ := by
    unfold localResponse
    rw [hargs]
    rfl
  rw [statusLine_eq, if_neg (by decide)]
  have hs : (parseData clock (Line.report s.dev.radio.myChannel s.dev.radio.myNodeId
      s.dev.radio.msTicks RADIO_STATUS_RESPONSE (RADIO_STATUS_STATIC ::
        Ctl.statusBytes s.dev.radio 0 RADIO_STATUS_STATIC)).text m).1.sstatus = _ :=
    Eq.trans hkept hlocal
  rw [hs]
  exact ⟨by decide, by decide, by decide⟩

/-- For every controller with its own channel below 6 and its number below 2, every reading of
the battery and every count: both statuses are kept as they were reported exactly if the
operational state and the tens of minutes are below 128. -/
theorem status_round_trip_iff (b : Board σ) (clock : HostClock) (m : Monitor) {s : Ctl σ}
    (hchan : s.dev.radio.myChannel < 6) (hnode : s.dev.radio.myNodeId < 2) :
    (KeepsDynamic s.dev.radio (b.analogRead s.dev.chip 3).2
        (parseData clock (statusLine b RADIO_STATUS_DYNAMIC s) m).1.dstatus ∧
      KeepsStatic (parseData clock (statusLine b RADIO_STATUS_STATIC s) m).1.sstatus) ↔
      s.dev.radio.state < 128 ∧ s.dev.radio.tensOfMinutes < 128 := by
  rw [keepsDynamic_iff b clock m hchan hnode]
  exact and_iff_left (keepsStatic_parseData b clock m hchan hnode)

private def quietRadio : Board Nat := .scripted fun _ _ ↦ SI4463_STATE_READY

-- The controller right after its start, and once its clock has been set to 16:40.
private def unsetClock : Ctl Nat := Ctl.start quietRadio 0 (fun _ ↦ 0) 0

private def setClock : Ctl Nat :=
  Ctl.feed quietRadio unsetClock (sioSend (sendCommand 0 0 RADIO_CMD_SET_TIME.toNat [0, 0, 100]))

/-- A set clock comes back; its tens of minutes fit a signed byte. -/
theorem status_round_trip_afternoon :
    (KeepsDynamic setClock.dev.radio (quietRadio.analogRead setClock.dev.chip 3).2
        (parseData ⟨none, 0⟩ (statusLine quietRadio RADIO_STATUS_DYNAMIC setClock)
          .init).1.dstatus ∧
      KeepsStatic (parseData ⟨none, 0⟩ (statusLine quietRadio RADIO_STATUS_STATIC setClock)
        .init).1.sstatus) ↔
      setClock.dev.radio.state < 128 ∧ setClock.dev.radio.tensOfMinutes < 128 :=
  status_round_trip_iff quietRadio ⟨none, 0⟩ .init (s := setClock) (by decide +kernel)
    (by decide +kernel)

/-- The tens of minutes of a clock that has not been set, 255, are not kept. -/
theorem unset_clock_not_kept :
    unsetClock.dev.radio.myChannel < 6 ∧ unsetClock.dev.radio.myNodeId < 2 ∧
      (quietRadio.analogRead unsetClock.dev.chip 3).2 ≤ 1023 ∧
      unsetClock.dev.radio.tensOfMinutes = 255 ∧
      ¬ KeepsDynamic unsetClock.dev.radio (quietRadio.analogRead unsetClock.dev.chip 3).2
        (parseData ⟨none, 0⟩ (statusLine quietRadio RADIO_STATUS_DYNAMIC unsetClock)
          .init).1.dstatus := by
  have hchan : unsetClock.dev.radio.myChannel < 6 := by decide +kernel
  have hnode : unsetClock.dev.radio.myNodeId < 2 := by decide +kernel
  have htens : unsetClock.dev.radio.tensOfMinutes = 255 := by decide +kernel
  refine ⟨hchan, hnode, by decide, htens, fun h ↦ ?_⟩
  have hlt := ((keepsDynamic_iff quietRadio ⟨none, 0⟩ .init hchan hnode).mp h).2
  rw [htens] at hlt
  exact absurd hlt (by decide)

end Lrmon
end Libradio
