import Libradio.Client.Pass
import Libradio.Clock.Stamp

/-!
# The time that a controller sends and a client takes over

A time slot puts the tens of minutes into a packet when it builds it
(`src/control/transmit.c:99-108`), the ticks are stamped in when the packet is sent
(`src/lib/packet.c:187-190`), and a client stores the ticks when it reads the frame
(`src/lib/packet.c:154-161`) and the tens when it executes the command
(`src/lib/command.c:123-131`). The clock interrupt carries from one half to the other, so each
of the pairs is put together right as long as no interrupt between its two halves carries. The
ticks of every other command are stored, too, without any tens: they belong to the tens that the
client has.
-/

namespace Libradio
open Libradio.Base

variable {σ τ : Type}

/-! ### The pair in a frame -/

/-- The time that a frame carries: the ticks of its header and its first data byte. -/
def frameTime (f : List UInt8) : Time :=
  ⟨f.getD 6 0, UInt16.ofNat ((f.getD 0 0).toNat + 256 * (f.getD 1 0).toNat)⟩

/-- The time in a packet. -/
def Packet.time (p : Packet) : Time := ⟨dataByte p.data 0, p.ticks⟩

/-- The frame of a packet with one data byte carries its time. -/
theorem frameTime_frame {p : Packet} (h : p.len = 1) : frameTime p.frame = p.time := by
  have hframe : p.frame = [p.ticks.toUInt8, (p.ticks >>> 8).toUInt8, p.node, p.cmd, p.len, p.csum,
      dataByte p.data 0] ++ List.replicate 9 0xff := by
    have hlen : p.len.toNat = 1 := by rw [h]; rfl
    have hdata : p.data.toList.take 1 = [dataByte p.data 0] := by
      apply List.ext_getElem
      · simp
      · intro i hi _
        obtain rfl : i = 0 := by simpa using hi
        simp [dataByte]
    rw [Packet.frame, Packet.sent, Packet.bytes, hlen, List.take_append,
      List.take_of_length_le (by simp), List.length_cons]
    simp [hdata]
  have hticks : UInt16.ofNat (p.ticks.toUInt8.toNat + 256 * (p.ticks >>> 8).toUInt8.toNat) =
      p.ticks := by
    apply UInt16.toNat_inj.mp
    have := p.ticks.toNat_lt
    simp only [UInt16.toNat_toUInt8, UInt16.toNat_ofNat', UInt16.toNat_shiftRight,
      Nat.shiftRight_eq_div_pow]
    simp
    omega
  unfold frameTime Packet.time
  rw [hframe]
  exact congrArg (Time.mk _) hticks

/-! ### The controller -/

/-- A time packet. -/
def Load.isTime : Load → Bool
  | .line _ => false
  | .time _ => true

namespace Ctl

/-- A time packet waits in channel `c` to be sent. -/
def TimeWaitsIn (s : Ctl σ) (c : Fin 6) : Prop := (loaded c s.hist).any Load.isTime = true

/-- A time packet waits to be sent. -/
def TimeWaits (s : Ctl σ) : Prop := ∃ c, TimeWaitsIn s c

instance (s : Ctl σ) (c : Fin 6) : Decidable (TimeWaitsIn s c) :=
  inferInstanceAs (Decidable (_ = _))

instance (s : Ctl σ) : Decidable (TimeWaits s) := inferInstanceAs (Decidable (∃ _, _))

private theorem timeWaitsIn_of_loaded {s : Ctl σ} {c : Fin 6} {q : Packet.Content}
    (h : loaded c s.hist = some (.time q)) : TimeWaitsIn s c := by
  rw [TimeWaitsIn, h]
  rfl

/-- While a time packet waits, no clock interrupt carries, no command sets the clock and the
parser does not fill the packet's channel; and when a pass builds a time packet, none of the
clock interrupts up to its time stamp carries. -/
def KeepsTens (s : Ctl σ) : Act → Prop
  | .tick => TimeWaits s → ¬ Time.Carries s.dev.radio.period s.dev.radio.time
  | .poll => True
  | .input ch => (TimeWaits s → ¬ SetsClock s ch) ∧ ∀ c, TimeWaitsIn s c → ¬ Assembles s c
  | .check between inSend =>
    (TimeWaits s → Time.Steady s.dev.radio.period (between + inSend) s.dev.radio.time) ∧
    ∀ c, slotDue between s = some c → (s.chan c).state = .empty →
      Time.Steady s.dev.radio.period inSend
        (Time.after s.dev.radio.period between s.dev.radio.time)

instance (s : Ctl σ) : ∀ a, Decidable (KeepsTens s a)
  | .tick => inferInstanceAs (Decidable (_ → _))
  | .poll => .isTrue trivial
  | .input _ => inferInstanceAs (Decidable (_ ∧ _))
  | .check _ _ => inferInstanceAs (Decidable (_ ∧ _))

/-- What the response wait reads, if it is a good packet of a controller, has the ticks that the
clock shows. -/
def KeepsTicks (b : Board σ) (s : Ctl σ) : Act → Prop
  | .poll => s.respChp ≠ none → (libradioCheckRx b s.dev).2 = true →
      holdsGood b (libradioCheckRx b s.dev).1 = true →
      (received b (libradioCheckRx b s.dev).1).cmd < RADIO_STATUS_RESPONSE →
      (received b (libradioCheckRx b s.dev).1).ticks = s.dev.radio.msTicks
  | _ => True

instance (b : Board σ) (s : Ctl σ) : ∀ a, Decidable (KeepsTicks b s a)
  | .poll => inferInstanceAs (Decidable (_ → _))
  | .tick | .input _ | .check _ _ => .isTrue trivial

/-- The time packet `q` waits in channel `d` with the tens that the clock has. -/
structure TimeHeld (s : Ctl σ) (d : Fin 6) (q : Packet.Content) : Prop where
  state : (s.chan d).state = .transmit
  content : (s.chan d).packet.content = q
  free : s.respChp ≠ some d
  len : q.len = 1
  tens : dataByte q.data 0 = s.dev.radio.tensOfMinutes

/-- Every time packet that waits in channel `d` is held there. -/
def TimeInv (s : Ctl σ) (d : Fin 6) : Prop :=
  ∀ q, loaded d s.hist = some (.time q) → TimeHeld s d q

/-- A pass without a carry leaves the tens alone. -/
theorem Timed.tens {between inSend : Nat} {s s' : Ctl σ} (h : Timed between inSend s s')
    (hsteady : Time.Steady s.dev.radio.period (between + inSend) s.dev.radio.time) :
    s'.dev.radio.tensOfMinutes = s.dev.radio.tensOfMinutes := by
  have hafter (n : Nat) (hn : n ≤ between + inSend) :
      (s.dev.radio.dial.after n).time.tens = s.dev.radio.tensOfMinutes :=
    Time.tens_after_of_steady (hsteady.of_le hn)
  have htens : s'.dev.radio.tensOfMinutes = s'.dev.radio.dial.time.tens := rfl
  cases h with
  | quiet n le dial hist =>
    rw [htens, dial]
    exact hafter n (Nat.le_trans le (Nat.le_add_right _ _))
  | sent c st p ok before hist n le dial stamped built =>
    have hsum : (s.dev.radio.dial.after between).after n =
        s.dev.radio.dial.after (between + n) := by
      simp only [Dial.after, Time.after_add]
    rw [htens, dial, hsum]
    exact hafter _ (Nat.add_le_add_left le _)

/-- A pass that builds a time packet and does not carry up to its time stamp. -/
theorem Timed.tens_built {between inSend : Nat} {s s' : Ctl σ} {c : Fin 6} {st : ChState}
    {q : Packet.Content} {ok : Bool} (h : Timed between inSend s s')
    (hist : s'.hist = .send c st q ok :: .slot c q :: s.hist)
    (hsteady : Time.Steady s.dev.radio.period inSend
      (Time.after s.dev.radio.period between s.dev.radio.time)) :
    q.len = 1 ∧ dataByte q.data 0 = s'.dev.radio.tensOfMinutes := by
  have htens : s'.dev.radio.tensOfMinutes = s'.dev.radio.dial.time.tens := rfl
  cases h with
  | quiet n le dial hist' =>
    have := congrArg List.length (hist'.symm.trans hist)
    simp only [List.length_cons] at this
    omega
  | sent c' st' p' ok' before hist' n le dial stamped built =>
    cases hist'.symm.trans hist
    obtain ⟨hlen, hdata⟩ := built q rfl
    refine ⟨hlen, ?_⟩
    rw [hdata, htens, dial]
    exact (Time.tens_after_of_steady (hsteady.of_le le)).symm

/-- The clock and the packet of a successful send. -/
theorem Timed.stamped {between inSend : Nat} {s s' : Ctl σ} {c : Fin 6} {st : ChState}
    {p : Packet.Content} {before : List Obs} (h : Timed between inSend s s')
    (hist : s'.hist = .send c st p true :: before) (hsuf : s.hist <:+ before) :
    (s'.chan c).packet.ticks = s'.dev.radio.msTicks := by
  cases h with
  | quiet n le dial hist' =>
    have := hsuf.length_le
    have hlen := congrArg List.length (hist'.symm.trans hist)
    simp only [List.length_cons] at hlen
    omega
  | sent c' st' p' ok' before' hist' n le dial stamped built =>
    cases hist'.symm.trans hist
    exact stamped rfl

/-- A time packet is held as before if its channel and the tens are as before. -/
theorem TimeHeld.of_same {s s' : Ctl σ} {d : Fin 6} {q : Packet.Content} (h : TimeHeld s d q)
    (state : (s'.chan d).state = (s.chan d).state)
    (content : (s'.chan d).packet.content = (s.chan d).packet.content)
    (free : s'.respChp ≠ some d)
    (tens : s'.dev.radio.tensOfMinutes = s.dev.radio.tensOfMinutes) : TimeHeld s' d q :=
  ⟨state.trans h.state, content.trans h.content, free, h.len, h.tens.trans tens.symm⟩

/-- A clock interrupt that does not carry keeps the time packets. -/
theorem timeInv_tick (b : Board σ) (s : Ctl σ) (h : ∀ d, TimeInv s d) (hg : KeepsTens s .tick)
    (d : Fin 6) : TimeInv (step b s .tick) d := by
  have halike := alike_tick b s
  have hstep : step b s .tick = { s with dev := { s.dev with radio := clocktick s.dev.radio } } :=
    rfl
  have hdial := dial_clocktick s.dev.radio
  intro q hq
  rw [halike.hist] at hq
  have hcarry := hg ⟨d, timeWaitsIn_of_loaded hq⟩
  refine (h d q hq).of_same ?_ ?_ ?_ ?_
  · rw [halike.chan]
  · rw [halike.chan]
  · rw [halike.respChp]
    exact (h d q hq).free
  · rw [hstep]
    have htens (r : Radio) : r.tensOfMinutes = r.dial.time.tens := rfl
    rw [htens, htens, hdial]
    exact Time.tens_tick_of_not_carries hcarry

/-- A look for a response keeps the time packets. -/
theorem timeInv_poll (b : Board σ) (s : Ctl σ) (h : ∀ d, TimeInv s d) (d : Fin 6) :
    TimeInv (step b s .poll) d := by
  have htens := tens_poll b s
  intro q hq
  rw [step] at hq ⊢
  cases effect_poll b s with
  | idle none eq =>
    rw [eq] at hq ⊢
    exact h d q hq
  | waiting c some going own others respChp parser hist =>
    rw [hist] at hq
    have hd := h d q hq
    have hne : c ≠ d := fun hc ↦ hd.free (hc ▸ some)
    exact hd.of_same (by rw [others d hne]) (by rw [others d hne]) (by rw [respChp]; exact hd.free)
      htens
  | ended c some ends own others respChp parser hist =>
    rw [hist] at hq
    have hd := h d q hq
    have hne : c ≠ d := fun hc ↦ hd.free (hc ▸ some)
    exact hd.of_same (by rw [others d hne]) (by rw [others d hne]) (by rw [respChp]; simp) htens

/-- A character keeps the time packets that it does not touch. -/
theorem timeInv_input (b : Board σ) (s : Ctl σ) (ch : UInt8) (h : ∀ d, TimeInv s d)
    (hg : KeepsTens s (.input ch)) (d : Fin 6) : TimeInv (step b s (.input ch)) d := by
  have hchan := chanEffect_processInput b ch s d
  have htens := tens_processInput b ch s
  intro q hq
  rw [step] at hq ⊢
  -- what waits afterwards has waited before, and the parser does not fill its channel
  have hkept (hload : loaded d s.hist = some (.time q)) :
      TimeHeld s d q ∧ ¬ Assembles s d ∧
        (processInput b ch s).dev.radio.tensOfMinutes = s.dev.radio.tensOfMinutes := by
    have hwaits := timeWaitsIn_of_loaded hload
    refine ⟨h d q hload, hg.2 d hwaits, (htens (hg.1 ⟨d, hwaits⟩)).resolve_right fun hboot ↦ ?_⟩
    rw [hboot, (boot_fresh b (s.note (.input ch))).2.2.2] at hq
    cases hq
  cases hchan with
  | same state content resp asm track =>
    rw [loaded_of_track track, loaded_track] at hq
    obtain ⟨hd, -, ht⟩ := hkept hq
    exact hd.of_same state content (fun hc ↦ hd.free (resp.mp hc)) ht
  | claimed free state resp before after track =>
    rw [loaded_of_track track] at hq
    obtain ⟨hd, -, -⟩ := hkept ((loaded_track s d).symm.trans hq)
    rw [hd.state] at free
    exact absurd free (by decide)
  | edited before after state resp track =>
    rw [loaded_of_track track, loaded_track] at hq
    exact absurd before (hkept hq).2.1
  | left ch act leaves before after state content resp track =>
    rw [loaded_of_track track, loaded_track] at hq
    exact absurd before (hkept hq).2.1
  | released p config before after state resp config_set track =>
    rw [loaded_of_track track, loaded_cons] at hq
    have hq' : loaded d (config ++ .handed d p :: s.track d) = some (.time q) := hq
    rcases loaded_config (h := .handed d p :: s.track d) config_set with hl | hl
    · exact absurd before (hkept ((loaded_track s d).symm.trans (hl.symm.trans hq'))).2.1
    · rw [hl] at hq'
      cases hq'
  | queued ch p act queues before after state content resp track =>
    rw [loaded_of_track track, loaded_cons, Load.after_ack, if_pos rfl] at hq
    cases hq
  | configured ch config act configures before after state content resp track =>
    rw [loaded_of_track track, loaded_cons, Load.after_setChannel] at hq
    split at hq
    · cases hq
    · next hsmall =>
      obtain ⟨hd, -, ht⟩ := hkept ((loaded_track s d).symm.trans hq)
      rcases ChState.getD_ofConfig_cases config (s.chan d).state with ⟨hconf, -⟩ | ⟨-, hsame⟩
      · exact absurd ⟨rfl, hconf⟩ hsmall
      · exact hd.of_same (state.trans hsame) content (fun hc ↦ hd.free (resp.mp hc)) ht
  | waited act => cases act
  | ended act => cases act
  | built between inSend p ok act => cases act
  | sent between inSend ok act => cases act
  | reset state resp after track =>
    rw [loaded_of_track track] at hq
    cases hq

/-- A pass keeps the time packets, and builds new ones. -/
theorem timeInv_check (b : Board σ) (s : Ctl σ) (between inSend : Nat) (h : ∀ d, TimeInv s d)
    (hg : KeepsTens s (.check between inSend)) (d : Fin 6) :
    TimeInv (step b s (.check between inSend)) d := by
  have htimed := timed_check b between inSend s
  have htens {d : Fin 6} {q : Packet.Content} (hq : loaded d s.hist = some (.time q)) :
      (check b between inSend s).dev.radio.tensOfMinutes = s.dev.radio.tensOfMinutes :=
    htimed.tens (hg.1 ⟨d, timeWaitsIn_of_loaded hq⟩)
  intro q hq
  rw [step] at hq ⊢
  cases effect_check b between inSend s with
  | idle closed chan respChp parser hist =>
    rw [hist] at hq
    exact (h d q hq).of_same (by rw [chan]) (by rw [chan]) (by rw [respChp]; exact (h d q hq).free)
      (htens hq)
  | sent c st p ok before none source hist own packet others respChp parser =>
    have hfree (hfail : ok ≠ true ∨ c ≠ d) : (check b between inSend s).respChp ≠ some d := by
      rw [respChp]
      split
      · next hsent => exact fun hc ↦ hfail.elim (· hsent.1) (· (Option.some.inj hc))
      · simp
    rw [hist, loaded_cons, Load.after_send] at hq
    by_cases hcd : c = d
    · subst hcd
      split at hq
      · cases hq
      · next hfail =>
        have hok : ok ≠ true := fun hok ↦ hfail ⟨rfl, hok⟩
        rw [if_neg hok] at own
        have hkept (hstate : st = (s.chan c).state) (hpacket : p = (s.chan c).packet.content)
            (hload : loaded c s.hist = some (.time q)) :
            TimeHeld (check b between inSend s) c q :=
          (h c q hload).of_same (own.trans hstate) (packet.trans hpacket) (hfree (.inl hok))
            (htens hload)
        cases source with
        | built due empty state before =>
          subst before
          rw [loaded_cons, Load.after_slot, if_pos rfl] at hq
          cases hq
          obtain ⟨hlen, hdata⟩ := htimed.tens_built hist (hg.2 c due empty)
          exact ⟨own.trans state, packet, hfree (.inl hok), hlen, hdata⟩
        | found due busy state hpacket before => exact hkept state hpacket (before ▸ hq)
        | picked due ready state hpacket before => exact hkept state hpacket (before ▸ hq)
    · rw [if_neg fun hc ↦ hcd hc.1] at hq
      have hload : loaded d s.hist = some (.time q) := by
        cases source with
        | built due empty state before =>
          subst before
          rwa [loaded_cons, Load.after_slot, if_neg hcd] at hq
        | found due busy state hpacket before => exact before ▸ hq
        | picked due ready state hpacket before => exact before ▸ hq
      obtain ⟨hstate, hpacket⟩ := others d hcd
      exact (h d q hload).of_same hstate (by rw [hpacket]) (hfree (.inr hcd)) (htens hload)

/-- Every action that keeps the tens of the waiting packets keeps the invariant. -/
theorem timeInv_step (b : Board σ) (s : Ctl σ) (a : Act) (h : ∀ d, TimeInv s d)
    (hg : KeepsTens s a) (d : Fin 6) : TimeInv (step b s a) d := by
  cases a with
  | tick => exact timeInv_tick b s h hg d
  | poll => exact timeInv_poll b s h d
  | input ch => exact timeInv_input b s ch h hg d
  | check between inSend => exact timeInv_check b s between inSend h hg d

/-- The frame of a time packet that is sent carries the time of the clock. -/
theorem frameTime_of_sent (b : Board σ) {s : Ctl σ} {a : Act} (h : ∀ d, TimeInv s d)
    (hg : KeepsTens s a) {c : Fin 6} {st : ChState} {p q : Packet.Content} {before : List Obs}
    (hsend : RecordsSend s (step b s a) c st p true before)
    (hload : loaded c before = some (.time q)) :
    frameTime ((step b s a).chan c).packet.frame = (step b s a).dev.radio.time := by
  obtain ⟨between, inSend, rfl, -, -⟩ := sent_of_recordsSend b hsend
  obtain ⟨hist, hsuf⟩ := hsend
  rw [step] at hist ⊢
  have htimed := timed_check b between inSend s
  have hticks := htimed.stamped hist hsuf
  have hpacket : ((check b between inSend s).chan c).packet.content = q ∧ q.len = 1 ∧
      dataByte q.data 0 = (check b between inSend s).dev.radio.tensOfMinutes := by
    have heffect := effect_check b between inSend s
    cases heffect with
    | idle closed chan respChp parser hist' =>
      have := hsuf.length_le
      have hlen := congrArg List.length (hist'.symm.trans hist)
      simp only [List.length_cons] at hlen
      omega
    | sent c' st' p' ok' before' none source hist' own packet others respChp parser =>
      cases hist'.symm.trans hist
      have hkept (hp : p = (s.chan c).packet.content) (hq : loaded c s.hist = some (.time q)) :
          p = q ∧ q.len = 1 ∧
            dataByte q.data 0 = (check b between inSend s).dev.radio.tensOfMinutes := by
        obtain ⟨-, hcontent, -, hlen, hdata⟩ := h c q hq
        exact ⟨hp.trans hcontent, hlen,
          hdata.trans (htimed.tens (hg.1 ⟨c, timeWaitsIn_of_loaded hq⟩)).symm⟩
      rw [packet]
      cases source with
      | built due empty state before =>
        subst before
        rw [loaded_cons, Load.after_slot, if_pos rfl] at hload
        cases hload
        exact ⟨rfl, htimed.tens_built hist (hg.2 c due empty)⟩
      | found due busy state hp before => exact hkept hp (before ▸ hload)
      | picked due ready state hp before => exact hkept hp (before ▸ hload)
  obtain ⟨hcontent, hlen, hdata⟩ := hpacket
  have hlen' : ((check b between inSend s).chan c).packet.len = 1 := by
    rw [← hlen, ← hcontent]
    rfl
  have hdata' : dataByte ((check b between inSend s).chan c).packet.data 0 = dataByte q.data 0 := by
    rw [← hcontent]
    rfl
  rw [frameTime_frame hlen', Packet.time, hticks, hdata', hdata]
  rfl

/-- Nothing waits in a controller that has just been started. -/
theorem timeInv_start (b : Board σ) (chip : σ) (eeprom : UInt16 → UInt8) (beyondData : UInt8)
    (d : Fin 6) : TimeInv (start b chip eeprom beyondData) d := by
  intro q hq
  rw [(chan_start b chip eeprom beyondData d).2.2.2] at hq
  cases hq

end Ctl

/-! ### The client -/

namespace Client

/-- There is a time packet in the radio's FIFO for this station, which is active. -/
def TakesTime (b : Board τ) (d : Dev τ) : Prop :=
  holdsGood b d = true ∧ IsAddressed d.radio (received b d) ∧
    LIBRADIO_STATE_ACTIVE ≤ d.radio.state ∧ (received b d).cmd = RADIO_CMD_SET_TIME ∧
    (received b d).len = 1

/-- No clock interrupt falls between the reception of the packet and its command; or the
station's clock runs before exactly if it does afterwards, and none of them carries. -/
def KeepsPair (b : Board τ) (ticks : Nat) (d : Dev τ) : Prop :=
  ticks = 0 ∨ ((d.radio.time.Runs ↔ (received b d).time.Runs) ∧
    Time.Steady d.radio.period ticks (received b d).time)

/-- There is a good packet of a controller in the radio's FIFO, whose ticks are stored when it is
read, but which is not a time packet that the station takes. -/
def TakesTicks (b : Board τ) (d : Dev τ) : Prop :=
  holdsGood b d = true ∧ (received b d).cmd < RADIO_STATUS_RESPONSE ∧ ¬ TakesTime b d

instance (b : Board τ) (d : Dev τ) : Decidable (TakesTime b d) :=
  inferInstanceAs (Decidable (_ ∧ _))

instance (b : Board τ) (d : Dev τ) : Decidable (TakesTicks b d) :=
  inferInstanceAs (Decidable (_ ∧ _))

instance (b : Board τ) (ticks : Nat) (d : Dev τ) : Decidable (KeepsPair b ticks d) :=
  inferInstanceAs (Decidable (_ ∨ _))

end Client

/-- A SET_TIME with one byte sets the tens. -/
theorem libradioCommand_setTime (b : Board τ) (app : App τ) (fuel : Nat) {p : Packet} {d : Dev τ}
    (active : LIBRADIO_STATE_ACTIVE ≤ d.radio.state) (cmd : p.cmd = RADIO_CMD_SET_TIME)
    (len : p.len = 1) :
    libradioCommand b app fuel p d =
      { d with radio := { d.radio with tensOfMinutes := dataByte p.data 0 } } := by
  unfold libradioCommand
  rw [if_neg fun h ↦ UInt8.not_lt.mpr active h.2, if_neg (by rw [cmd]; decide),
    if_neg (by rw [cmd]; decide), if_neg (by rw [cmd]; decide), if_neg (by rw [cmd]; decide),
    if_neg (by rw [cmd]; decide), if_pos cmd, if_neg (not_not_intro len)]

/-- The clock after a reception, in which a good packet of a controller sets the ticks. -/
theorem Reception.dial {R : σ → σ → Prop} {b : Board σ} {d : Dev σ} {p : Packet} {r : Transfer σ}
    (h : Reception R b d p r) :
    r.dev.radio.dial =
      if holdsGood b d = true ∧ (received b d).cmd < RADIO_STATUS_RESPONSE then
        ⟨⟨d.radio.tensOfMinutes, (received b d).ticks⟩, d.radio.period⟩
      else d.radio.dial := by
  have hrearm (r : Radio) : r.rearm.dial = r.dial := by
    unfold Radio.rearm
    split <;> rfl
  have hgood : holdsGood b d = true ↔
      (libradioCheckRx b d).2 = true ∧ (received b d).checksum = 0 := by
    rw [holdsGood, Bool.and_eq_true, decide_eq_true_iff]
  cases h with
  | nothing ok packet few asked =>
    rw [asked.dial, if_neg]
    rintro ⟨h, -⟩
    exact absurd (few.symm.trans (hgood.mp h).1) Bool.false_ne_true
  | damaged ok many packet sum asked =>
    rw [asked.dial, if_neg]
    · exact hrearm d.radio
    · rintro ⟨h, -⟩
      rw [packet] at sum
      exact sum (hgood.mp h).2
  | good ok many packet sum asked =>
    rw [packet] at sum
    rw [asked.dial, packet]
    refine (hrearm _).trans ?_
    unfold Radio.accept Radio.hear
    by_cases hcmd : (received b d).cmd < RADIO_STATUS_RESPONSE
    · rw [if_pos hcmd, if_pos ⟨hgood.mpr ⟨many, sum⟩, hcmd⟩]
      rfl
    · rw [if_neg hcmd, if_neg fun h ↦ hcmd h.2]
      rfl

/-- The clock when the command of a good packet of a controller begins. -/
theorem dial_afterRecv {b : Board τ} {d : Dev τ} (ticks : Nat) (good : holdsGood b d = true)
    (cmd : (received b d).cmd < RADIO_STATUS_RESPONSE) :
    (afterRecv b ticks d).radio.dial = Dial.after ticks
      ⟨⟨d.radio.tensOfMinutes, (received b d).ticks⟩, d.radio.period⟩ := by
  have hrecv : Reception (fun _ _ ↦ True) b d d.rxchan.packet
      (libradioRecv b d d.rxchan.packet d.radio.myChannel) :=
    reception_libradioRecv b.keeps_true (fun _ ↦ trivial) d d.rxchan.packet
  have hdial := hrecv.dial
  rw [if_pos ⟨good, cmd⟩] at hdial
  rw [← hdial]
  exact dial_clockticks ticks _

/-- What a client's clock shows when it has processed a time packet: the packet's tens, and the
packet's ticks counted on with the tens that it had before. -/
theorem time_libradioHandlePacket (b : Board τ) (app : App τ) (fuel ticks : Nat) {d : Dev τ}
    (h : Client.TakesTime b d) :
    (libradioHandlePacket b app fuel ticks d).radio.time =
      ⟨dataByte (received b d).data 0, (Time.after d.radio.period ticks
        ⟨d.radio.tensOfMinutes, (received b d).ticks⟩).ms⟩ := by
  obtain ⟨good, addressed, active, cmd, len⟩ := h
  cases taken_libradioHandlePacket b.keeps_true app fuel ticks d fun _ ↦ trivial with
  | dropped not => exact absurd ⟨good, addressed⟩ not
  | passed _ _ e handed station sawRx chip eq =>
    have hstate : e.radio.state = d.radio.state := congrArg Station.state station
    have hdial : e.radio.dial = Dial.after ticks
        ⟨⟨d.radio.tensOfMinutes, (received b d).ticks⟩, d.radio.period⟩ := by
      rw [handed]
      exact dial_afterRecv ticks good (by rw [cmd]; decide)
    have hms : e.radio.msTicks = e.radio.dial.time.ms := rfl
    rw [eq, libradioCommand_setTime b app fuel (hstate ▸ active) cmd len]
    unfold Radio.time
    dsimp only
    rw [hms, hdial]
    rfl

/-- The pair is taken over whole if the two halves are. -/
theorem time_of_keepsPair (b : Board τ) (app : App τ) (fuel : Nat) {ticks : Nat} {d : Dev τ}
    (h : Client.TakesTime b d) (hkeeps : Client.KeepsPair b ticks d) :
    (libradioHandlePacket b app fuel ticks d).radio.time =
      Time.after d.radio.period ticks (received b d).time := by
  rw [time_libradioHandlePacket b app fuel ticks h]
  rcases hkeeps with rfl | ⟨hruns, hsteady⟩
  · rfl
  · have hms := Time.ms_after_of_alike (t := ⟨d.radio.tensOfMinutes, (received b d).ticks⟩)
      (u := (received b d).time) rfl hruns hsteady
    have htens := Time.tens_after_of_steady hsteady
    rw [hms]
    exact congrArg (fun x ↦ (⟨x, _⟩ : Time)) htens.symm

/-- A response wait that reads no ticks but its own leaves the clock alone. -/
theorem Ctl.time_poll (b : Board σ) {s : Ctl σ} (h : s.KeepsTicks b .poll) :
    (Ctl.poll b s).dev.radio.time = s.dev.radio.time := by
  have havail : (libradioCheckRx b s.dev).1.radio.dial = s.dev.radio.dial :=
    (asked_libradioGetFifoInfo b.keeps_true 0 s.dev).dial
  have htime : (libradioCheckRx b s.dev).1.radio.time = s.dev.radio.time :=
    congrArg Dial.time havail
  unfold Ctl.poll
  split
  · rfl
  · next c hc =>
    dsimp only
    split
    · next hmany =>
      have hrecv (p : Packet) (channo : UInt8) :
          Reception (fun _ _ ↦ True) b (libradioCheckRx b s.dev).1 p
            (libradioRecv b (libradioCheckRx b s.dev).1 p channo) :=
        reception_libradioRecv b.keeps_true (fun _ ↦ trivial) _ p
      have hkept (p : Packet) (channo : UInt8) :
          (libradioRecv b (libradioCheckRx b s.dev).1 p channo).dev.radio.time =
            s.dev.radio.time := by
        have hdial := congrArg Dial.time (hrecv p channo).dial
        refine hdial.trans ?_
        split
        · next hgood =>
          have hticks := h (by rw [hc]; exact Option.some_ne_none c) hmany hgood.1 hgood.2
          rw [hticks]
          exact congrArg (Time.mk · s.dev.radio.msTicks) (congrArg Time.tens htime)
        · exact htime
      unfold Ctl.endWait Ctl.txresponse
      dsimp only
      split <;> exact hkept _ _
    · split <;> exact htime

/-! ### The ticks of other commands -/

/-- The application's `fetch_status` leaves the clock alone. -/
def App.KeepsClock (app : App τ) : Prop :=
  ∀ i d, (app.fetchStatus i d).1.radio.time = d.radio.time

-- The time is part of what a station has heard.
private theorem time_of_heard {r r' : Radio} (h : r'.heard = r.heard) : r'.time = r.time := by
  have htens := congrArg Heard.tensOfMinutes h
  have hticks := congrArg Heard.msTicks h
  unfold Radio.time
  rw [show r'.tensOfMinutes = r.tensOfMinutes from htens,
    show r'.msTicks = r.msTicks from hticks]

/-- A response leaves the clock alone. -/
theorem time_libradioSendResponse (b : Board τ) (fuel : Nat) (cmd chan addr len : UInt8)
    (buffer : Nat → UInt8) (d : Dev τ) :
    (libradioSendResponse b fuel cmd chan addr len buffer d).radio.time = d.radio.time := by
  cases responded_libradioSendResponse b.carries_true fuel cmd chan addr len buffer d with
  | listening works listening => exact time_of_heard listening.heard
  | late fails listening => exact time_of_heard listening.heard
  | failed fails settled => exact time_of_heard settled.heard

/-- A command of a controller that is not a SET_TIME of one byte leaves the clock alone, or stops
it. -/
theorem time_libradioCommand (b : Board τ) {app : App τ} (happ : app.KeepsClock) (fuel : Nat)
    {p : Packet} {d : Dev τ} (hcmd : p.cmd < RADIO_STATUS_RESPONSE)
    (hno : ¬ (LIBRADIO_STATE_ACTIVE ≤ d.radio.state ∧ p.cmd = RADIO_CMD_SET_TIME ∧ p.len = 1)) :
    (libradioCommand b app fuel p d).radio.time = d.radio.time ∨
      ¬ (libradioCommand b app fuel p d).radio.time.Runs := by
  cases executed_libradioCommand b app fuel p d with
  | nothing act deact request eq =>
    rw [eq]
    exact .inl rfl
  | activated act eq =>
    have hactive (r : Radio) : (libradioSetState LIBRADIO_STATE_ACTIVE r).time = r.time := by
      unfold libradioSetState
      split <;> rfl
    rw [eq]
    exact .inl (hactive _)
  | deactivated deact eq =>
    have hwarm (r : Radio) (h : r.state ≠ LIBRADIO_STATE_WARM) :
        (libradioSetState LIBRADIO_STATE_WARM r).time.tens = 0xff := by
      unfold libradioSetState
      rw [if_neg fun hc ↦ h hc.2]
      rfl
    have hstate : d.radio.state ≠ LIBRADIO_STATE_WARM := by
      intro h
      have hle := deact.2.2
      rw [h] at hle
      exact absurd hle (by decide)
    rw [eq]
    exact .inr (not_not_intro (hwarm _ hstate))
  | setTime active cmd len eq => exact absurd ⟨active, cmd, len⟩ hno
  | setDate active cmd len eq =>
    rw [eq]
    exact .inl rfl
  | silent active cmd len none eq =>
    rw [eq]
    exact .inl (happ _ d)
  | status active cmd len some eq =>
    rw [eq, time_libradioSendResponse]
    exact .inl (happ _ d)
  | readEeprom buffer addr active cmd len eq =>
    rw [eq, time_libradioSendResponse]
    exact .inl rfl
  | writeEeprom eeprom active cmd eq =>
    rw [eq]
    exact .inl rfl
  | operate active cmd eq =>
    have horder : RADIO_STATUS_RESPONSE < RADIO_EEPROM_RESPONSE := by decide
    exact absurd (UInt8.lt_trans (UInt8.lt_trans hcmd horder) cmd) (UInt8.lt_irrefl _)

/-- If the client's clock runs after another packet of a controller, it shows the packet's ticks
with the tens that it had before. -/
theorem time_of_takesTicks (b : Board τ) {app : App τ} (happ : app.KeepsClock) (fuel : Nat)
    {ticks : Nat} {d : Dev τ} (h : Client.TakesTicks b d)
    (hruns : (libradioHandlePacket b app fuel ticks d).radio.time.Runs) :
    (libradioHandlePacket b app fuel ticks d).radio.time = Time.after d.radio.period ticks
      ⟨d.radio.tensOfMinutes, (received b d).ticks⟩ := by
  obtain ⟨good, cmd, hno⟩ := h
  have hdial := dial_afterRecv ticks good cmd
  have htime : (afterRecv b ticks d).radio.time = Time.after d.radio.period ticks
      ⟨d.radio.tensOfMinutes, (received b d).ticks⟩ := congrArg Dial.time hdial
  obtain ⟨hstation, -, -⟩ := afterRecv_spec b.keeps_true ticks d fun _ ↦ trivial
  have hstate : (afterRecv b ticks d).radio.state = d.radio.state :=
    congrArg Station.state hstation
  rw [libradioHandlePacket_eq] at hruns ⊢
  by_cases htaken : holdsGood b d = true ∧ IsAddressed d.radio (received b d)
  · rw [if_pos htaken] at hruns ⊢
    have hother : ¬ (LIBRADIO_STATE_ACTIVE ≤ (afterRecv b ticks d).radio.state ∧
        (received b d).cmd = RADIO_CMD_SET_TIME ∧ (received b d).len = 1) := by
      rw [hstate]
      exact fun h ↦ hno ⟨good, htaken.2, h⟩
    rcases time_libradioCommand b happ fuel cmd hother with hsame | hstopped
    · exact hsame.trans htime
    · exact absurd hruns hstopped
  · rw [if_neg htaken]
    exact htime

/-! ### The two together -/

/-- A controller and a client, and the times that the controller's clock has shown, the latest
first. -/
structure Clocks (σ τ : Type) where
  ctl : Ctl σ
  cli : Dev τ
  shown : List Time

namespace Clocks

/-- What can happen: an action of the controller; a clock interrupt of the client; and the
handling of what is in its radio, which may be in any state by then, with the clock interrupts
between the reception and the command. A packet has been stamped by some controller, whose clock
showed the tens `sender` then. -/
inductive Event (τ : Type)
  | control (a : Ctl.Act)
  | tick
  | packet (chip : τ) (ticks : Nat) (sender : UInt8)

/-- The times that the controller's clock can show on the way through an action. -/
def shownDuring (r : Radio) : Ctl.Act → List Time
  | .check between inSend =>
    (List.range (between + inSend)).map fun n ↦ Time.after r.period n r.time
  | _ => []

/-- The client with its radio in a state. -/
def hearing (w : Clocks σ τ) (chip : τ) : Dev τ := { w.cli with chip := chip }

variable (b : Board σ) (b' : Board τ) (app : App τ) (fuel : Nat)

/-- One event. -/
def step (w : Clocks σ τ) : Event τ → Clocks σ τ
  | .control a =>
    let s := Ctl.step b w.ctl a
    { w with ctl := s, shown := s.dev.radio.time :: (shownDuring w.ctl.dev.radio a ++ w.shown) }
  | .tick => { w with cli := { w.cli with radio := clocktick w.cli.radio } }
  | .packet chip ticks _ =>
    { w with cli := libradioHandlePacket b' app fuel ticks (w.hearing chip) }

/-- If the event sends a time packet, its frame carries a time that the controller's clock has
shown; a reception of the controller leaves its clock alone; and if the event is the client's
handling of a packet that sets its ticks, the client's clock shows the time of the packet and the
clock interrupts since, as far as it runs: the time that is in a time packet, and the time that the
sender's clock showed when it stamped another one. -/
def Coherent (w : Clocks σ τ) : Event τ → Prop
  | .control a => (∀ c st p q before, w.ctl.RecordsSend (Ctl.step b w.ctl a) c st p true before →
      loaded c before = some (.time q) →
      frameTime ((Ctl.step b w.ctl a).chan c).packet.frame ∈
        (step b b' app fuel w (.control a)).shown) ∧
      (a = .poll → (Ctl.step b w.ctl a).dev.radio.time = w.ctl.dev.radio.time)
  | .tick => True
  | .packet chip ticks sender => (Client.TakesTime b' (w.hearing chip) →
      (step b b' app fuel w (.packet chip ticks sender)).cli.radio.time =
        Time.after w.cli.radio.period ticks (received b' (w.hearing chip)).time) ∧
      (Client.TakesTicks b' (w.hearing chip) →
        (step b b' app fuel w (.packet chip ticks sender)).cli.radio.time.Runs →
        (step b b' app fuel w (.packet chip ticks sender)).cli.radio.time =
          Time.after w.cli.radio.period ticks ⟨sender, (received b' (w.hearing chip)).ticks⟩)

/-- No clock interrupt carries from one half of a pair to the other, and the ticks of a packet
without tens find the tens of its sender's clock, or a clock that does not run. -/
def Steady (w : Clocks σ τ) : Event τ → Prop
  | .control a => w.ctl.KeepsTens a ∧ w.ctl.KeepsTicks b a
  | .tick => True
  | .packet chip ticks sender => (Client.TakesTime b' (w.hearing chip) →
      Client.KeepsPair b' ticks (w.hearing chip)) ∧
      (Client.TakesTicks b' (w.hearing chip) → w.cli.radio.time.Runs →
        w.cli.radio.tensOfMinutes = sender)

instance (w : Clocks σ τ) : ∀ e, Decidable (Steady b b' w e)
  | .control a => inferInstanceAs (Decidable (w.ctl.KeepsTens a ∧ w.ctl.KeepsTicks b a))
  | .tick => .isTrue trivial
  | .packet _ _ _ => inferInstanceAs (Decidable (_ ∧ _))

/-- The controller after its start, and a client in any state. -/
def start (chip : σ) (eeprom : UInt16 → UInt8) (beyondData : UInt8) (d : Dev τ) : Clocks σ τ :=
  ⟨Ctl.start b chip eeprom beyondData, d,
    [(Ctl.start b chip eeprom beyondData).dev.radio.time]⟩

/-- A steady event keeps the controller's time packets as they should be. -/
theorem timeInv_ctl_step {w : Clocks σ τ} {e : Event τ} (h : ∀ d, w.ctl.TimeInv d)
    (hg : Steady b b' w e) : ∀ d, (step b b' app fuel w e).ctl.TimeInv d := by
  cases e with
  | control a => exact Ctl.timeInv_step b w.ctl a h hg.1
  | tick =>
    have hctl : (step b b' app fuel w .tick).ctl = w.ctl := by rw [step]
    rw [hctl]
    exact h
  | packet chip ticks sender =>
    have hctl : (step b b' app fuel w (.packet chip ticks sender)).ctl = w.ctl := by rw [step]
    rw [hctl]
    exact h

/-- A steady event is coherent. -/
theorem coherent_of_steady (happ : app.KeepsClock) {w : Clocks σ τ} {e : Event τ}
    (h : ∀ d, w.ctl.TimeInv d) (hg : Steady b b' w e) : Coherent b b' app fuel w e := by
  cases e with
  | control a =>
    refine ⟨fun c st p q before hsend hload ↦ ?_, fun ha ↦ ?_⟩
    · rw [Ctl.frameTime_of_sent b h hg.1 hsend hload]
      exact List.mem_cons_self
    · subst ha
      exact Ctl.time_poll b hg.2
  | tick => trivial
  | packet chip ticks sender =>
    refine ⟨fun htakes ↦ time_of_keepsPair b' app fuel htakes (hg.1 htakes),
      fun htakes hruns ↦ ?_⟩
    have htime := time_of_takesTicks b' happ fuel htakes hruns
    have hbefore : w.cli.radio.time.Runs := by
      intro hstopped
      refine hruns ?_
      have htens : (w.hearing chip).radio.tensOfMinutes = 0xff := hstopped
      show (libradioHandlePacket b' app fuel ticks (w.hearing chip)).radio.time.tens = 0xff
      rw [htime, htens]
      exact Time.tens_after_of_stopped rfl
    have hsender : (w.hearing chip).radio.tensOfMinutes = sender := hg.2 htakes hbefore
    rw [hsender] at htime
    exact htime

/-- In every run of a controller and a client in which no clock interrupt carries between the
two halves of a pair, and the ticks of each packet without tens find the tens of its sender's
clock: every time packet that is sent carries a time that the controller's clock has shown, and
a clock that takes a packet's ticks shows the time of the packet and the clock interrupts since. -/
theorem times_coherent (happ : app.KeepsClock) (chip : σ) (eeprom : UInt16 → UInt8)
    (beyondData : UInt8) (d : Dev τ) (events : List (Event τ))
    (h : Along (step b b' app fuel) (Steady b b') (start b chip eeprom beyondData d) events) :
    Along (step b b' app fuel) (Coherent b b' app fuel) (start b chip eeprom beyondData d)
      events :=
  along_of_inv _ (I := fun w ↦ ∀ d, w.ctl.TimeInv d)
    (fun _ _ hw hg ↦ timeInv_ctl_step b b' app fuel hw hg)
    (fun _ _ hw hg ↦ coherent_of_steady b b' app fuel happ hw hg)
    (Ctl.timeInv_start b chip eeprom beyondData) h

-- A radio with room for every frame.
private def slotRadio : Board Nat :=
  .scripted fun _ i ↦ if i = 0 then SI4463_STATE_READY else 64

-- A radio with a frame in its FIFO: an activation as node 7, or a SET_TIME for ten minutes to the
-- hour with the ticks that number the state of the chip, or behind these a NOOP with the ticks from
-- 0 on.
private def timeRadio : Board Nat where
  exchange := (Client.feed [] true).exchange
  writeTxFifo := (Client.feed [] true).writeTxFifo
  readRxFifo k _ := (k, Vector.ofFn fun i ↦
    (if k = 0 then (Client.activation ⟨127, 1, 0, 1⟩ 1 7).stamp 0
      else if 60000 ≤ k then Packet.zero.stamp (UInt16.ofNat (k - 60000))
      else { Packet.zero with
        cmd := RADIO_CMD_SET_TIME, len := 1
        data := #v[5, 0, 0, 0, 0, 0, 0, 0, 0, 0] }.stamp (UInt16.ofNat k)).frame.getD i.val 0)
  analogRead := (Client.feed [] true).analogRead

-- The client on that radio.
private def timeClient : Dev Nat :=
  Client.start timeRadio ⟨127, 1, 0, 1⟩ 1 16 (Client.powerOn 0)

private def typed (t : String) : List (Event Nat) :=
  (characters t).flatMap fun ch ↦ [.control .poll, .control (.input ch), .control (.check 0 0)]

-- On channel F the controller is activated as node 1 and its clock is set to 59,499 in the last ten
-- minutes of the hour.
private def lateClock : List (Event Nat) := typed ">F0:3:0,1,0.\n>F1:5:232,107,5.\n"

private theorem keepsClock_idleApp : (Client.idleApp : App Nat).KeepsClock := fun _ _ ↦ rfl

/-- The slot sends a time packet in time, and an active client takes over two, and the ticks of a
NOOP. -/
theorem times_coherent_in_time :
    Along (step slotRadio timeRadio Client.idleApp 0)
      (Coherent slotRadio timeRadio Client.idleApp 0) (start slotRadio 0 (fun _ ↦ 0) 0 timeClient)
      (lateClock ++ [.control .tick, .control (.check 0 2), .packet 0 0 5, .packet 59502 0 5, .tick,
        .packet 59510 3 5, .packet 60000 1 5]) :=
  times_coherent slotRadio timeRadio Client.idleApp 0 keepsClock_idleApp 0 (fun _ ↦ 0) 0
    timeClient _ (by decide +kernel)

-- The clock is set again, to two interrupts before the full hour.
private def lastMoment : List (Event Nat) :=
  lateClock ++ typed ">F1:5:234,94,5" ++ [.control (.input chDot)]

-- The packet that the slot then builds.
private def builtPacket : Packet.Content :=
  ⟨0, RADIO_CMD_SET_TIME, 1, #v[5, 94, 5, 0, 0, 0, 0, 0, 0, 0]⟩

private theorem not_coherent_of_built (c : Fin 6) (q : Packet.Content) {w : Clocks σ τ}
    {a : Ctl.Act}
    (hist : (Ctl.step b w.ctl a).hist = .send c .transmit q true :: .slot c q :: w.ctl.hist)
    (hshown : frameTime ((Ctl.step b w.ctl a).chan c).packet.frame ∉
      (step b b' app fuel w (.control a)).shown) :
    ¬ Coherent b b' app fuel w (.control a) := by
  intro h
  refine hshown (h.1 c .transmit q q _ ⟨hist, List.suffix_cons _ _⟩ ?_)
  rw [loaded_cons, Load.after_slot, if_pos rfl]

/-- With two clock interrupts before the time stamp, the slot sends the last tens of the hour
and the ticks of the next, which the controller's clock has never shown together. With one
between the reception of the last tick of the hour and its command, a client that knew the time
falls back by ten minutes. So does a client at the last tick of the hour that hears a NOOP stamped
with the first tick of the next. -/
theorem rollover_between_halves :
    ¬ Along (step slotRadio timeRadio Client.idleApp 0)
        (Coherent slotRadio timeRadio Client.idleApp 0)
        (start slotRadio 0 (fun _ ↦ 0) 0 timeClient) (lastMoment ++ [.control (.check 0 2)]) ∧
      ¬ Along (step slotRadio timeRadio Client.idleApp 0)
        (Coherent slotRadio timeRadio Client.idleApp 0)
        (start slotRadio 0 (fun _ ↦ 0) 0 timeClient)
        [.packet 0 0 5, .packet 59000 0 5, .packet 59999 1 5] ∧
      ¬ Along (step slotRadio timeRadio Client.idleApp 0)
        (Coherent slotRadio timeRadio Client.idleApp 0)
        (start slotRadio 0 (fun _ ↦ 0) 0 timeClient)
        [.packet 0 0 5, .packet 59999 0 5, .packet 60000 0 6] := by
  refine ⟨?_, ?_, ?_⟩
  · intro h
    have hlast := ((along_append _ _ _ _ _).mp h).2.1
    refine not_coherent_of_built slotRadio timeRadio Client.idleApp 0 5 builtPacket ?_ ?_ hlast
    · decide +kernel
    · decide +kernel
  · intro h
    have hlast := h.2.2.1.1 (by decide +kernel)
    revert hlast
    decide +kernel
  · intro h
    have hlast := h.2.2.1.2 (by decide +kernel) (by decide +kernel)
    revert hlast
    decide +kernel

end Clocks
end Libradio
