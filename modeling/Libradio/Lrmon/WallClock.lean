import Libradio.Control.Execution
import Libradio.Control.Received
import Libradio.Lrmon.Command

/-!
# The host's clock becomes the radio's

`set_time` of `src/lrmon/command.c` splits the time of day into tens of minutes and ticks of
ten milliseconds and writes three bytes as text; the controller reads them back into the two
variables of its clock. Nothing is lost on the way.
-/

namespace Libradio
open Libradio.Base

namespace Lrmon

/-- The whole units of ten milliseconds since midnight UTC, for a time in seconds and
microseconds since the epoch. -/
def sinceMidnight (sec usec : Nat) : Nat :=
  (sec * 1000000 + usec) % (24 * 60 * 60 * 1000000) / 10000

/-- The split that `set_time` makes, and its ranges. -/
theorem set_time_split (sec : Nat) {usec : Nat} (husec : usec < 1000000) :
    let ticks := sec % (60 * 60 * 24)
    ticks / 600 ≤ 143 ∧ ticks % 600 * 100 + usec / 10000 ≤ 59999 ∧
      60000 * (ticks / 600) + (ticks % 600 * 100 + usec / 10000) = sinceMidnight sec usec := by
  intro ticks
  have hlt : ticks < 60 * 60 * 24 := Nat.mod_lt _ (by decide)
  have hday : (sec * 1000000 + usec) % (24 * 60 * 60 * 1000000) = ticks * 1000000 + usec := by
    have hsec : sec = 60 * 60 * 24 * (sec / (60 * 60 * 24)) + ticks := (Nat.div_add_mod _ _).symm
    generalize sec / (60 * 60 * 24) = days at hsec
    omega
  refine ⟨by omega, by omega, ?_⟩
  rw [sinceMidnight, hday]
  omega

variable {σ : Type}

/-- The controller sets its clock to the three bytes of a SET_TIME. -/
theorem clock_mycommand_setTime (b : Board σ) {p : Packet} (s : Ctl σ)
    (hcmd : p.cmd = RADIO_CMD_SET_TIME) (hlen : p.len = 3) :
    (Ctl.mycommand b p s).1.dev.radio.msTicks = word (dataByte p.data 0) (dataByte p.data 1) ∧
      (Ctl.mycommand b p s).1.dev.radio.tensOfMinutes = dataByte p.data 2 := by
  unfold Ctl.mycommand
  rw [hcmd, if_neg (by decide), if_neg (by decide), if_pos rfl, if_neg (not_not_intro hlen)]
  exact ⟨rfl, rfl⟩

/-- A command line for the controller itself is executed as the packet it writes. -/
theorem radio_feed_text (b : Board σ) (l : CommandLine) {s : Ctl σ} (hs : s.state = .newline)
    (hfree : (s.chan l.channel).state.toNat ≤ ChState.empty.toNat)
    (hown : number l.node = s.dev.radio.myNodeId) :
    ∃ (p : Packet) (t : Ctl σ), l.Writes p.content ∧ t.dev = s.dev ∧
      (Ctl.feed b s (l.text ++ [chReturn, chNewline])).dev.radio =
        (Ctl.mycommand b p t).1.dev.radio := by
  obtain ⟨p, hp, hover⟩ := Ctl.feed_text b l hs hfree
  obtain ⟨t, hquiet, hcurr, rfl, heq⟩ := hover.filled
  have hlocal : Ctl.IsLocal t.dev.radio (t.chan l.channel).packet.content := by
    left
    rw [hquiet.dev, hp.node, hown]
  obtain ⟨-, hend, -⟩ := Ctl.feed_lineEnd b hover.state
  refine ⟨(t.chan l.channel).packet, Ctl.executing l.channel t, hp, hquiet.dev, ?_⟩
  have hover : (Ctl.handOver b t).dev = (Ctl.enqueue b t.currChp t).dev := rfl
  rw [Ctl.feed_append, (hend l.channel).dev, heq, hover, hcurr, Ctl.dev_enqueue_of_isLocal b hlocal]

/-- For every time of the host: the command line of `set_time`, read by a controller with number
1 whose channel A is free, sets the radio's clock to the time since midnight, with the tens of
minutes up to 143 and the ticks up to 59999. -/
theorem set_time_exact (b : Board σ) {s : Ctl σ} (hs : s.state = .newline)
    (hnode : s.dev.radio.myNodeId = 1) (hfree : (s.chan 0).state.toNat ≤ ChState.empty.toNat)
    {clock : HostClock} {sec usec : Nat} (hclock : clock.timeofday = some (sec, usec))
    (husec : usec < 1000000) :
    ∃ msg, setTime clock = [msg] ∧
      let r := (Ctl.feed b s (sioSend msg)).dev.radio
      r.tensOfMinutes.toNat ≤ 143 ∧ r.msTicks.toNat ≤ 59999 ∧
        60000 * r.tensOfMinutes.toNat + r.msTicks.toNat = sinceMidnight sec usec := by
  obtain ⟨htod, hticks, hsplit⟩ := set_time_split sec husec
  generalize hday : sec % (60 * 60 * 24) = day at htod hticks hsplit
  generalize htime : day % 600 * 100 + usec / 10000 = ticks at hticks hsplit
  let data := [ticks / 256 % 256, ticks % 256, day / 600]
  refine ⟨sendCommand 0 1 RADIO_CMD_SET_TIME.toNat data, ?_, ?_⟩
  · rw [setTime, hclock]
    dsimp only
    rw [hday, htime]
  · have hline := sendCommand_eq_text 0 1 RADIO_CMD_SET_TIME.toNat data (Nat.le_add_left 3 7)
    obtain ⟨p, t, hw, -, hradio⟩ := radio_feed_text b
      (commandLine 0 1 RADIO_CMD_SET_TIME.toNat data (Nat.le_add_left 3 7)) hs hfree
      (by rw [hnode, commandLine, number, decimal_digits]; rfl)
    obtain ⟨-, hcmd, hlen, hdata⟩ := fields_of_writes hw
    obtain ⟨hticks', htens'⟩ := clock_mycommand_setTime b t hcmd hlen
    rw [← hradio, ← hline] at hticks' htens'
    have hbyte (i d : Nat) (h : data[i]? = some d) : dataByte p.data i = UInt8.ofNat d :=
      hdata i d h
    intro r
    have htens : r.tensOfMinutes.toNat = day / 600 := by
      have hr : r.tensOfMinutes = dataByte p.data 2 := htens'
      rw [hr, hbyte 2 _ rfl, UInt8.toNat_ofNat']
      omega
    have hms : r.msTicks.toNat = ticks := by
      have hr : r.msTicks = word (dataByte p.data 0) (dataByte p.data 1) := hticks'
      rw [hr, hbyte 0 _ rfl, hbyte 1 _ rfl]
      exact toNat_word_split (by omega)
    rw [htens, hms]
    exact ⟨htod, hticks, hsplit⟩

private def answers : Board Nat := .scripted fun _ _ ↦ SI4463_STATE_READY

-- A controller that lrmond has activated.
private def activated : Ctl Nat :=
  Ctl.feed answers (Ctl.start answers 0 (fun _ ↦ 0) 0) (sioSend localActivate)

/-- The last ten milliseconds of a day. -/
theorem set_time_exact_late :
    ∃ msg, setTime ⟨some (86399, 999999), 86399⟩ = [msg] ∧
      let r := (Ctl.feed answers activated (sioSend msg)).dev.radio
      r.tensOfMinutes.toNat ≤ 143 ∧ r.msTicks.toNat ≤ 59999 ∧
        60000 * r.tensOfMinutes.toNat + r.msTicks.toNat = sinceMidnight 86399 999999 :=
  set_time_exact answers (s := activated) (by decide +kernel) (by decide +kernel)
    (by decide +kernel) rfl (by decide)

end Lrmon
end Libradio
