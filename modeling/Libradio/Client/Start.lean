import Libradio.Client.Loop
import Libradio.Client.Response

/-!
# Where a client starts

`libradio_init`, `libradio_set_clock` and `libradio_recv_start` as the runs of a client begin
with them: unassigned, on channel 0, and listening unless the radio does not power up.
-/

namespace Libradio

variable {σ : Type}

/-- The station of a client after `libradio_init` and `libradio_set_clock`. -/
def Client.Identity.station (id : Client.Identity) (fast slow : UInt8) : Station :=
  { state := LIBRADIO_STATE_STARTUP, myChannel := 0, myNodeId := 0, cat1 := id.cat1
    cat2 := id.cat2, num1 := id.num1, num2 := id.num2, timeout := 6000, date := 0
    radioActive := false, period := fast, fastPeriod := fast, slowPeriod := slow }

/-- The client before `libradio_recv_start`. -/
def Client.prepared (b : Board σ) (id : Client.Identity) (fast slow : UInt8) (d : Dev σ) :
    Dev σ :=
  let d := libradioInit b id.cat1 id.cat2 id.num1 id.num2 d
  { d with radio := libradioSetClock fast slow d.radio }

/-- A prepared station has its identity and its clock periods. -/
theorem Client.station_prepared (b : Board σ) (id : Client.Identity) (fast slow : UInt8)
    (d : Dev σ) : (Client.prepared b id fast slow d).radio.station = id.station fast slow := by
  have hclock (r : Radio) : (libradioSetClock fast slow r).station =
      { r.station with period := fast, fastPeriod := fast, slowPeriod := slow } := rfl
  have hinit : (libradioInit b id.cat1 id.cat2 id.num1 id.num2 d).radio.station =
      { id.station 1 16 with period := 1 } := by
    unfold libradioInit
    dsimp only
    generalize he : ({ d with radio := _ } : Dev σ) = e
    have hask := congrArg Radio.station (asked_libradioGetFifoInfo b.keeps_true 3 e).radio
    exact hask.trans (by rw [← he]; rfl)
  unfold Client.prepared
  dsimp only
  rw [hclock, hinit]
  rfl

/-- Until then the radio was only asked. -/
theorem Client.chip_prepared {b : Board σ} {R : σ → σ → Prop} (hb : b.Keeps R)
    (id : Client.Identity) (fast slow : UInt8) (d : Dev σ) :
    R d.chip (Client.prepared b id fast slow d).chip := by
  unfold Client.prepared libradioInit
  dsimp only
  generalize he : ({ d with radio := _ } : Dev σ) = e
  have hask := (asked_libradioGetFifoInfo hb 3 e).chip
  have hchip : e.chip = d.chip := by rw [← he]
  rw [hchip] at hask
  exact hask

/-- The start from there on. -/
theorem Client.start_eq (b : Board σ) (id : Client.Identity) (fast slow : UInt8) (d : Dev σ) :
    Client.start b id fast slow d =
      let e := (libradioRecvStart b (Client.prepared b id fast slow d)).1
      { e with radio := libradioIrqEnable 1 e.radio } := rfl

/-- A client starts listening on channel 0, or in ERROR if its radio does not power up. -/
theorem Client.start_spec {b : Board σ} {R : σ → σ → Prop} (hb : b.Keeps R)
    (id : Client.Identity) (fast slow : UInt8) (d : Dev σ) :
    let e := Client.prepared b id fast slow d
    let d' := Client.start b id fast slow d
    (¬ PowerFails b e ∧ Listening b R { id.station fast slow with radioActive := true } e d') ∨
      (PowerFails b e ∧
        Settled R { id.station fast slow with state := LIBRADIO_STATE_ERROR } e d') := by
  intro e d'
  have hspec := recvStart_spec hb e
  rw [Client.station_prepared] at hspec
  have hd : d' = { (libradioRecvStart b e).1 with
      radio := libradioIrqEnable 1 (libradioRecvStart b e).1.radio } :=
    Client.start_eq b id fast slow d
  rcases hspec with ⟨hno, -, h⟩ | ⟨hfails, -, h⟩
  · refine .inl ⟨hno, ?_⟩
    rw [hd]
    exact ⟨h.chip, h.station, h.heard⟩
  · refine .inr ⟨hfails, ?_⟩
    rw [hd]
    exact ⟨h.chip, h.station, h.heard⟩

end Libradio
