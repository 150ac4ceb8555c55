import Libradio.Client.Answer
import Libradio.Client.Reception
import Libradio.Client.Start
import Libradio.Lib.ReceiveStream
import Libradio.Monitor.Loop

/-!
# What the monitor shows

Frames arrive in chunks while the monitor runs, with failing questions, clock and radio interrupts
and characters on its console in between. The dumps that it prints are those of the frames, one for
one and in order, and a turn of a radio that answers prints every whole frame it finds.
-/

namespace Libradio
open Libradio.Base Si4463

/-- The bytes of a transmission in front of its padding. -/
def Sent.bytes (s : Sent) : List UInt8 := (s.packet.stamp s.ticks).sent

/-- A character that leaves the receive FIFO to the program: it is neither `h` nor `G`. -/
def LeavesFifo (ch : UInt8) : Prop := ch ≠ 104 ∧ ch ≠ 71

instance (ch : UInt8) : Decidable (LeavesFifo ch) := inferInstanceAs (Decidable (_ ∧ _))

/-! ### Questions leave the receive FIFO alone -/

section Questions

variable (oracle : Nat → Outcome)

private theorem index_exchange (c : Si4463) (cmd : List UInt8) (n : Nat) :
    c.index ≤ (exchange oracle c cmd n).1.index := by
  have hexec (c : Si4463) : (c.execute cmd).index = c.index := by
    unfold execute
    split <;> rfl
  unfold exchange
  dsimp only
  split
  · rw [hexec]
    exact Nat.le_succ c.index
  · rw [hexec]
    exact Nat.le_succ c.index
  · exact Nat.le_succ c.index

/-- The number of the next exchange only grows. -/
theorem keeps_index : (board oracle).Keeps fun w w' ↦ w.index ≤ w'.index where
  refl w := Nat.le_refl w.index
  trans huv hvw := Nat.le_trans huv hvw
  exchange w cmd n _ _ := index_exchange oracle w cmd n
  readRxFifo w _ := Nat.le_refl w.index

/-- The FIFO is the same, and the radio was asked, if anything. -/
structure Looked (d d' : Dev Si4463) : Prop where
  rxFifo : d'.chip.rxFifo = d.chip.rxFifo
  index : d.chip.index ≤ d'.chip.index

private theorem Looked.of_eq {d d' : Dev Si4463} (h : d'.chip = d.chip) : Looked d d' :=
  ⟨by rw [h], Nat.le_of_eq (by rw [h])⟩

private theorem Looked.trans {d e f : Dev Si4463} (h₁ : Looked d e) (h₂ : Looked e f) :
    Looked d f :=
  ⟨h₂.rxFifo.trans h₁.rxFifo, Nat.le_trans h₁.index h₂.index⟩

private theorem looked_storeOnly {cmd : List UInt8} (h : Plain cmd) (n : Nat) (d : Dev Si4463) :
    Looked d (storeOnly (board oracle) cmd n d) := by
  have hx := exchange_of_plain oracle d.chip n h
  refine ⟨?_, index_exchange oracle d.chip cmd n⟩
  simp only [storeOnly, board, hx]

private theorem looked_libradioGetFifoInfo (d : Dev Si4463) :
    Looked d (libradioGetFifoInfo (board oracle) 0 d).1 := by
  have hchip := (fifoInfo_count oracle d).1
  refine ⟨by rw [hchip], ?_⟩
  rw [hchip]
  exact Nat.le_succ d.chip.index

private theorem looked_libradioGetIntStatus (d : Dev Si4463) :
    Looked d (libradioGetIntStatus (board oracle) d) :=
  looked_storeOnly oracle (by decide) 8 d

private theorem looked_libradioRequestDeviceStatus (d : Dev Si4463) :
    Looked d (libradioRequestDeviceStatus (board oracle) d).1 :=
  ⟨(sameRx_requestDeviceStatus oracle d).rxFifo,
    (asked_libradioRequestDeviceStatus (keeps_index oracle) d).chip⟩

-- The console tries one character after the other.
private theorem of_ite_some {P : Dev Si4463 → Prop} {c : Prop} [Decidable c] {d : Dev Si4463}
    {x : Option (Dev Si4463)} (hd : c → P d) (hx : ∃ e, x = some e ∧ P e) :
    ∃ e, (if c then some d else x) = some e ∧ P e := by
  split
  · next hc => exact ⟨d, rfl, hd hc⟩
  · exact hx

/-- The console, but for two of its characters, leaves the FIFO alone, and but for one of them it
goes on. -/
theorem looked_libradioDebug (fuel : Nat) {ch : UInt8} (h : LeavesFifo ch) (hr : ch ≠ 114)
    (d : Dev Si4463) : ∃ e, libradioDebug (board oracle) fuel ch d = some e ∧ Looked d e := by
  have hchip : Plain [SI4463_GET_CHIP_STATUS, 0x7f] := by
    simp only [Plain, List.head?_cons]
    decide
  have hproperty : Plain [SI4463_GET_PROPERTY, 1, 4, 0] := by
    simp only [Plain, List.head?_cons]
    decide
  unfold libradioDebug
  rw [if_neg hr]
  refine of_ite_some (fun _ ↦ .of_eq rfl) (of_ite_some (fun _ ↦ .of_eq rfl) ?_)
  refine of_ite_some (fun _ ↦ .of_eq rfl) (of_ite_some (fun _ ↦ .of_eq rfl) ?_)
  refine of_ite_some (fun hh ↦ absurd hh h.1) ?_
  refine of_ite_some (fun _ ↦ looked_storeOnly oracle (by decide) 8 d) ?_
  refine of_ite_some (fun _ ↦ looked_storeOnly oracle (by decide) 6 d) ?_
  refine of_ite_some (fun _ ↦ looked_storeOnly oracle hchip 3 d) ?_
  refine of_ite_some (fun _ ↦ looked_libradioRequestDeviceStatus oracle d) ?_
  refine of_ite_some (fun _ ↦ looked_libradioGetIntStatus oracle d) ?_
  refine of_ite_some (fun hG ↦ absurd hG h.2) ?_
  refine of_ite_some (fun _ ↦ looked_libradioGetFifoInfo oracle d) ?_
  refine of_ite_some (fun _ ↦ looked_storeOnly oracle hproperty 6 d) ?_
  exact ⟨d, rfl, .of_eq rfl⟩

end Questions

namespace RadioMonitor

/-- What can happen to the monitor. -/
inductive Event
  | arrive (bytes : List UInt8)
  | tick
  | interrupt
  | proceed (key : Option UInt8)
  deriving DecidableEq, Repr

/-- One event. -/
def step (oracle : Nat → Outcome) (fuel : Nat) (s : RadioMonitor Si4463) :
    Event → RadioMonitor Si4463
  | .arrive bytes =>
    { s with
      dev := { s.dev with chip := { s.dev.chip with rxFifo := s.dev.chip.rxFifo ++ bytes } } }
  | .tick => { s with dev := { s.dev with radio := clocktick s.dev.radio } }
  | .interrupt =>
    if s.dev.radio.int0Enabled then
      { s with dev := { s.dev with radio := radioIrq s.dev.radio } }
    else s
  | .proceed key => s.proceed (board oracle) fuel key

/-- The bytes that an event brings in. -/
def arrivals : Event → List UInt8
  | .arrive bytes => bytes
  | .tick => []
  | .interrupt => []
  | .proceed _ => []

/-- The console does not touch the receive FIFO. -/
def Event.Watches : Event → Prop
  | .proceed (some ch) => LeavesFifo ch
  | _ => True

instance : ∀ e : Event, Decidable e.Watches
  | .proceed (some ch) => inferInstanceAs (Decidable (LeavesFifo ch))
  | .proceed none => .isTrue trivial
  | .arrive _ => .isTrue trivial
  | .tick => .isTrue trivial
  | .interrupt => .isTrue trivial

/-- The two monitors have the same FIFO and have printed the same lines. -/
structure SameShown (s s' : RadioMonitor Si4463) : Prop where
  dev : Looked s.dev s'.dev
  out : s'.out = s.out

/-- The oldest transmission was taken out of the FIFO and shown. -/
structure Shows (t : Sent) (s s' : RadioMonitor Si4463) : Prop where
  rxFifo : s.dev.chip.rxFifo = t.frame ++ s'.dev.chip.rxFifo
  out : s'.out.map readDump = s.out.map readDump ++ [t.bytes]

section Steps

variable (oracle : Nat → Outcome) (fuel : Nat)

/-- The signal strengths are read without anything else. -/
theorem libradioGetModemStatus_spec (s : RadioMonitor Si4463) :
    let s' := libradioGetModemStatus (board oracle) s
    s'.dev = { s.dev with chip := { s.dev.chip with index := s.dev.chip.index + 1 } } ∧
      s'.out = s.out := by
  have hx := exchange_of_plain oracle s.dev.chip 6
    (by simp only [Plain, List.head?_cons]; decide : Plain [SI4463_GET_MODEM_STATUS])
  unfold libradioGetModemStatus
  split
  · next w v he =>
    have hw : (exchange oracle s.dev.chip [SI4463_GET_MODEM_STATUS] 6).1 = w := by
      simpa [board] using congrArg Prod.fst he
    rw [← hw, hx]
    exact ⟨rfl, rfl⟩
  · next w e he =>
    have hw : (exchange oracle s.dev.chip [SI4463_GET_MODEM_STATUS] 6).1 = w := by
      simpa [board] using congrArg Prod.fst he
    rw [← hw, hx]
    exact ⟨rfl, rfl⟩

/-- The questions of a turn leave the count as the first of them has found it. -/
theorem question_spec (s : RadioMonitor Si4463) :
    let s' := question (board oracle) s
    SameShown s s' ∧ s'.place = .drain ∧
      s'.dev.radio.rxFifo = (libradioGetFifoInfo (board oracle) 0 s.dev).1.radio.rxFifo := by
  have hcount := looked_libradioGetFifoInfo oracle s.dev
  unfold question
  dsimp only
  generalize (libradioGetFifoInfo (board oracle) 0 s.dev).1 = d at hcount ⊢
  have hlook := hcount.trans (looked_libradioGetIntStatus oracle d)
  have hradio : (libradioGetIntStatus (board oracle) d).radio = d.radio := rfl
  generalize libradioGetIntStatus (board oracle) d = d' at hlook hradio ⊢
  obtain ⟨hdev, hout⟩ := libradioGetModemStatus_spec oracle { s with dev := d' }
  rw [hdev, hout, ← hradio]
  exact ⟨⟨⟨hlook.rxFifo, Nat.le_succ_of_le hlook.index⟩, rfl⟩, rfl, rfl⟩

/-- A turn that wakes up goes on to the questions, unless it jumps to the boot loader. -/
theorem turn_spec {key : Option UInt8} (h : (Event.proceed key).Watches)
    {s : RadioMonitor Si4463} (hwakes : Wakes key.isSome s.dev.radio) (hr : key ≠ some 114) :
    ∃ d, Looked s.dev d ∧ turn (board oracle) fuel key s = question (board oracle)
      { s with dev := d } := by
  obtain ⟨woken, hwoken⟩ : ∃ woken, woken =
      ({ s.dev with radio := { s.dev.radio with threadOk := false } } : Dev Si4463) := ⟨_, rfl⟩
  have hlook : Looked s.dev woken := .of_eq (by rw [hwoken])
  have hdebug : ∃ d, key.elim (some woken) (fun ch ↦ libradioDebug (board oracle) fuel ch woken) =
      some d ∧ Looked woken d := by
    cases key with
    | none => exact ⟨woken, rfl, .of_eq rfl⟩
    | some ch => exact looked_libradioDebug oracle fuel h (fun hch ↦ hr (by rw [hch])) woken
  obtain ⟨d, hd, hnext⟩ := hdebug
  refine ⟨{ d with radio := wrapDay d.radio }, ?_, ?_⟩
  · exact (hlook.trans hnext).trans (.of_eq rfl)
  · unfold turn
    rw [if_pos hwakes]
    dsimp only
    rw [← hwoken, hd]

private theorem sameShown_turn {key : Option UInt8} (h : (Event.proceed key).Watches)
    (s : RadioMonitor Si4463) : SameShown s (turn (board oracle) fuel key s) := by
  by_cases hwakes : Wakes key.isSome s.dev.radio
  · by_cases hr : key = some 114
    · have hjump : turn (board oracle) fuel key s = { s with place := .bootstrap } := by
        rw [hr] at hwakes ⊢
        exact if_pos hwakes
      rw [hjump]
      exact ⟨.of_eq rfl, rfl⟩
    · obtain ⟨d, hlook, hturn⟩ := turn_spec oracle fuel h hwakes hr
      rw [hturn]
      have hsame := (question_spec oracle { s with dev := d }).1
      exact ⟨hlook.trans hsame.dev, hsame.out⟩
  · have hstay : turn (board oracle) fuel key s = s := if_neg hwakes
    rw [hstay]
    exact ⟨.of_eq rfl, rfl⟩

private theorem sameShown_ask (s : RadioMonitor Si4463) : SameShown s (ask (board oracle) s) :=
  ⟨looked_libradioGetFifoInfo oracle s.dev, rfl⟩

/-- A reception may only ask the radio. -/
theorem index_libradioRecv (d : Dev Si4463) (p : Packet) (channo : UInt8) :
    d.chip.index ≤ (libradioRecv (board oracle) d p channo).dev.chip.index := by
  have hcase : Reception _ (board oracle) d p (libradioRecv (board oracle) d p channo) :=
    reception_libradioRecv (keeps_index oracle) (fun w ↦ index_exchange oracle w _ 0) d p
  cases hcase with
  | nothing ok packet few asked => exact asked.chip
  | damaged ok many packet sum asked => exact asked.chip
  | good ok many packet sum asked => exact asked.chip

/-- Without a whole packet in the FIFO, or without an answer, nothing is taken. -/
theorem sameShown_drain {s : RadioMonitor Si4463}
    (h : ¬ (Si4463.Answers oracle s.dev.chip ∧ 16 ≤ s.dev.chip.rxFifo.length)) :
    SameShown s (drain (board oracle) s) := by
  obtain ⟨hok, hsame⟩ := libradioRecv_none oracle s.dev s.recvchan.packet s.dev.radio.myChannel h
  have hindex := index_libradioRecv oracle s.dev s.recvchan.packet s.dev.radio.myChannel
  unfold drain
  split
  · dsimp only
    rw [hok]
    exact ⟨⟨hsame.rxFifo, hindex⟩, rfl⟩
  · exact ⟨.of_eq rfl, rfl⟩

/-- A frame at the front of the FIFO is taken and shown. -/
theorem shows_drain {s : RadioMonitor Si4463} {t : Sent} {rest : List UInt8}
    (hlen : t.packet.len ≤ 10) (hans : Si4463.Answers oracle s.dev.chip)
    (hrx : s.dev.chip.rxFifo = t.frame ++ rest) (hcount : 16 ≤ s.dev.radio.rxFifo) :
    Shows t s (drain (board oracle) s) := by
  obtain ⟨hret, hrest⟩ := libradioRecv_frame oracle s.dev s.recvchan.packet s.dev.radio.myChannel t
    rest hlen hans hrx
  have hsum : (libradioRecv (board oracle) s.dev s.recvchan.packet
      s.dev.radio.myChannel).packet.checksum = 0 := by
    cases reception_libradioRecv (board oracle).keeps_true (fun _ ↦ trivial) s.dev
      s.recvchan.packet with
    | nothing ok => exact absurd (ok.symm.trans hret.ok) (by decide)
    | damaged ok => exact absurd (ok.symm.trans hret.ok) (by decide)
    | good ok many packet sum => exact sum
  unfold drain
  rw [if_pos hcount]
  dsimp only
  rw [hret.ok, if_pos rfl]
  generalize libradioRecv (board oracle) s.dev s.recvchan.packet s.dev.radio.myChannel = r
    at hret hrest hsum
  have hsent : r.packet.sent = t.bytes :=
    Packet.sent_eq hret.received (hsum.trans (Packet.xorSum_sent_stamp t.ticks t.packet).symm)
  have hclamp : r.packet.len = t.packet.len := congrArg Packet.Received.len hret.received
  refine ⟨?_, ?_⟩
  · rw [hrest]
    exact hrx
  · rw [List.map_append, List.map_singleton,
      readDump_displayPacket _ _ _ (by rw [hclamp]; exact hlen), hsent]

/-- A step of the program takes nothing, or takes and shows the oldest transmission. -/
theorem proceed_cases {s : RadioMonitor Si4463} {key : Option UInt8} {todo : List Sent}
    (hkey : (Event.proceed key).Watches) (hlen : ∀ t ∈ todo, t.packet.len ≤ 10)
    (hfront : s.dev.chip.rxFifo <+: stream todo) :
    SameShown s (proceed (board oracle) fuel key s) ∨
      ∃ t rest, todo = t :: rest ∧ Shows t s (proceed (board oracle) fuel key s) := by
  unfold proceed
  split
  · exact .inl (sameShown_turn oracle fuel hkey s)
  · by_cases hr : Si4463.Answers oracle s.dev.chip ∧ 16 ≤ s.dev.chip.rxFifo.length
    · obtain ⟨t, rest, more, rfl, hrx⟩ := Receiver.front_of_stream hlen hfront hr.2
      by_cases hcount : 16 ≤ s.dev.radio.rxFifo
      · exact .inr ⟨t, rest, rfl, shows_drain oracle (hlen t List.mem_cons_self) hr.1 hrx hcount⟩
      · have hstay : drain (board oracle) s = { s with place := .waiting } := if_neg hcount
        rw [hstay]
        exact .inl ⟨.of_eq rfl, rfl⟩
    · exact .inl (sameShown_drain oracle hr)
  · exact .inl (sameShown_ask oracle s)
  · exact .inl ⟨.of_eq rfl, rfl⟩

end Steps

/-! ### Whole runs -/

/-- The lines are those of a first part of the transmissions, and what has come in is that part and
what the FIFO holds. -/
def Aligned (sends : List Sent) (arrived : List UInt8) (s : RadioMonitor Si4463) : Prop :=
  ∃ done todo, sends = done ++ todo ∧ s.out.map readDump = done.map Sent.bytes ∧
    arrived = stream done ++ s.dev.chip.rxFifo

section Runs

variable (oracle : Nat → Outcome) (fuel : Nat) {sends : List Sent}

/-- One event keeps the dumps in step with the frames. -/
theorem aligned_step (hlen : ∀ t ∈ sends, t.packet.len ≤ 10) {arrived : List UInt8}
    {s : RadioMonitor Si4463} {e : Event} (hwatch : e.Watches) (hpre : arrived <+: stream sends)
    (h : Aligned sends arrived s) :
    Aligned sends (arrived ++ arrivals e) (step oracle fuel s e) := by
  obtain ⟨done, todo, hsends, hout, harr⟩ := h
  cases e with
  | arrive bytes =>
    refine ⟨done, todo, hsends, hout, ?_⟩
    rw [harr, List.append_assoc]
    rfl
  | tick => exact ⟨done, todo, hsends, hout, by rw [arrivals, List.append_nil]; exact harr⟩
  | interrupt =>
    refine ⟨done, todo, hsends, ?_, ?_⟩
    · rw [step]
      split <;> exact hout
    · rw [arrivals, List.append_nil, step]
      split <;> exact harr
  | proceed key =>
    have hfront : s.dev.chip.rxFifo <+: stream todo := by
      rw [harr, hsends, stream, stream, List.flatMap_append] at hpre
      exact (List.prefix_append_right_inj _).mp hpre
    have htodo : ∀ t ∈ todo, t.packet.len ≤ 10 := by
      intro t ht
      apply hlen t
      rw [hsends]
      exact List.mem_append_right done ht
    rw [arrivals, List.append_nil]
    rcases proceed_cases oracle fuel hwatch htodo hfront with hsame | ⟨t, rest, rfl, hshow⟩
    · refine ⟨done, todo, hsends, ?_, ?_⟩
      · rw [step, hsame.out, hout]
      · rw [step, hsame.dev.rxFifo, harr]
    · refine ⟨done ++ [t], rest, ?_, ?_, ?_⟩
      · rw [hsends, List.append_assoc, List.singleton_append]
      · rw [step, hshow.out, hout, List.map_append, List.map_singleton]
      · rw [step, harr, hshow.rxFifo, stream, stream, List.flatMap_append, List.flatMap_singleton,
          List.append_assoc]

/-- So do any number of events. -/
theorem aligned_run (hlen : ∀ t ∈ sends, t.packet.len ≤ 10) {arrived : List UInt8}
    {s : RadioMonitor Si4463} {events : List Event} (hwatch : ∀ e ∈ events, e.Watches)
    (hpre : arrived ++ events.flatMap arrivals <+: stream sends) (h : Aligned sends arrived s) :
    Aligned sends (arrived ++ events.flatMap arrivals) (run (step oracle fuel) s events) := by
  induction events generalizing arrived s with
  | nil =>
    rw [List.flatMap_nil, List.append_nil]
    exact h
  | cons e events ih =>
    rw [List.forall_mem_cons] at hwatch
    rw [List.flatMap_cons, ← List.append_assoc] at hpre ⊢
    have hnow : arrived <+: stream sends :=
      (List.prefix_append arrived _).trans ((List.prefix_append _ _).trans hpre)
    exact ih hwatch.2 hpre (aligned_step oracle fuel hlen hwatch.1 hnow h)

/-- The start leaves an empty FIFO empty. -/
theorem aligned_start {d : Dev Si4463} (hempty : d.chip.rxFifo = []) (sends : List Sent) :
    Aligned sends [] (start (board oracle) d) := by
  have hexchange (w : Si4463) (cmd : List UInt8) (n : Nat) (hw : w.rxFifo = []) :
      (exchange oracle w cmd n).1.rxFifo = [] := by
    have hexec (c : Si4463) (hc : c.rxFifo = []) : (c.execute cmd).rxFifo = [] := by
      unfold execute
      split <;> simp [hc]
    unfold exchange
    dsimp only
    split
    · exact hexec _ hw
    · exact hexec _ hw
    · exact hw
  have hb : (board oracle).Keeps fun w w' ↦ w.rxFifo = [] → w'.rxFifo = [] := {
    refl := fun w h ↦ h
    trans := fun huv hvw h ↦ hvw (huv h)
    exchange := fun w cmd n _ _ hw ↦ hexchange w cmd n hw
    readRxFifo := by
      intro w n hw
      show w.rxFifo.drop n = []
      rw [hw, List.drop_nil] }
  have hinit : (libradioInit (board oracle) 0 0 0 0 d).chip.rxFifo = [] :=
    Client.chip_prepared hb ⟨0, 0, 0, 0⟩ 1 1 d hempty
  have hstart := chip_libradioRecvStart hb fun w channo hw ↦ hexchange w (startRx channo) 0 hw
  refine ⟨[], sends, rfl, rfl, ?_⟩
  unfold start
  dsimp only
  generalize he : ({ libradioInit (board oracle) 0 0 0 0 d with radio := _ } : Dev Si4463) = e
  have hchip : e.chip = (libradioInit (board oracle) 0 0 0 0 d).chip := by rw [← he]
  rw [← hchip] at hinit
  exact (hstart e hinit).symm

/-- Frames arrive in any chunks, among clock and radio interrupts, failing questions and characters
on the console. The dumps that the monitor has printed, read back, are the frames up to the first
that is still waiting, each once and in order. -/
theorem shows_traffic {d : Dev Si4463} (hempty : d.chip.rxFifo = []) {events : List Event}
    (hlen : ∀ t ∈ sends, t.packet.len ≤ 10) (hwatch : ∀ e ∈ events, e.Watches)
    (harr : events.flatMap arrivals <+: stream sends) :
    let s := run (step oracle fuel) (start (board oracle) d) events
    ∃ done todo, sends = done ++ todo ∧ s.out.map readDump = done.map Sent.bytes ∧
      events.flatMap arrivals = stream done ++ s.dev.chip.rxFifo := by
  have hrun := aligned_run oracle fuel hlen hwatch (by rw [List.nil_append]; exact harr)
    (aligned_start oracle hempty sends)
  rw [List.nil_append] at hrun
  exact hrun

private def answering : Nat → Outcome := fun _ ↦ .done fun _ ↦ 8

private def setTime : Sent :=
  ⟨{ Packet.zero with cmd := RADIO_CMD_SET_TIME, len := 1 }, 1234, fun _ ↦ 0xff⟩

private def statusReply : Sent :=
  ⟨{ Packet.zero with node := 7, cmd := RADIO_STATUS_RESPONSE, len := 10 }, 1300, fun _ ↦ 0⟩

private def quietRadio : Dev Si4463 := Client.powerOn ⟨[], [], [], 0, 0⟩

-- Two frames in chunks of 21 and 11 bytes, with the character `p` and a radio interrupt.
private def traffic : List Event :=
  [.arrive ((stream [setTime, statusReply]).take 21), .proceed (some 112), .proceed none,
    .proceed none, .proceed none, .tick, .arrive ((stream [setTime, statusReply]).drop 21),
    .interrupt]

/-- Two frames come in, and one of them was shown. -/
theorem shows_traffic_two :
    ∃ done todo, [setTime, statusReply] = done ++ todo ∧
      (run (step answering 0) (start (board answering) quietRadio) traffic).out.map readDump =
        done.map Sent.bytes ∧
      traffic.flatMap arrivals = stream done ++
        (run (step answering 0) (start (board answering) quietRadio) traffic).dev.chip.rxFifo :=
  shows_traffic answering 0 rfl (by decide) (by decide) (by decide)

/-- With less than a frame left, every whole frame was shown. -/
theorem Aligned.shown {arrived : List UInt8} {s : RadioMonitor Si4463}
    (hlen : ∀ t ∈ sends, t.packet.len ≤ 10) (h : Aligned sends arrived s)
    (hless : s.dev.chip.rxFifo.length < 16) :
    s.out.map readDump = (sends.take (arrived.length / 16)).map Sent.bytes := by
  obtain ⟨done, todo, hsends, hout, harr⟩ := h
  have hdone : ∀ t ∈ done, t.packet.len ≤ 10 := by
    intro t ht
    apply hlen t
    rw [hsends]
    exact List.mem_append_left todo ht
  have hcount : arrived.length / 16 = done.length := by
    rw [harr, List.length_append, length_stream done hdone]
    simp only [SI4463_PACKET_LEN]
    omega
  rw [hout, hcount, hsends, List.take_left]

end Runs

/-! ### A radio that answers -/

/-- From exchange number `k` on the radio answers. -/
def Responsive (oracle : Nat → Outcome) (k : Nat) : Prop :=
  ∀ n, k ≤ n → ∃ reply, oracle n = .done reply

/-- The count that the program holds is that of the FIFO. -/
def Counted (s : RadioMonitor Si4463) : Prop :=
  s.dev.radio.rxFifo = UInt8.ofNat (min s.dev.chip.rxFifo.length 255)

section Answering

variable (oracle : Nat → Outcome) (fuel : Nat)

variable {oracle}

private theorem Responsive.mono {k n : Nat} (h : Responsive oracle k) (hkn : k ≤ n) :
    Responsive oracle n := fun m hm ↦ h m (Nat.le_trans hkn hm)

private theorem counted_libradioGetFifoInfo {d : Dev Si4463} (h : Responsive oracle d.chip.index) :
    (libradioGetFifoInfo (board oracle) 0 d).1.radio.rxFifo =
      UInt8.ofNat (min (libradioGetFifoInfo (board oracle) 0 d).1.chip.rxFifo.length 255) := by
  obtain ⟨-, -, hcount⟩ := fifoInfo_count oracle d
  obtain ⟨-, hn, hstore⟩ := hcount.resolve_right fun hno ↦ hno.1 (h _ (Nat.le_refl _))
  rw [hstore, hn, (looked_libradioGetFifoInfo oracle d).rxFifo]

private theorem ask_of_responsive {s : RadioMonitor Si4463}
    (h : Responsive oracle s.dev.chip.index) :
    Counted (ask (board oracle) s) ∧
      Responsive oracle (ask (board oracle) s).dev.chip.index :=
  ⟨counted_libradioGetFifoInfo h, h.mono (sameShown_ask oracle s).dev.index⟩

private theorem question_of_responsive {s : RadioMonitor Si4463}
    (h : Responsive oracle s.dev.chip.index) :
    (question (board oracle) s).place = .drain ∧ Counted (question (board oracle) s) ∧
      Responsive oracle (question (board oracle) s).dev.chip.index := by
  obtain ⟨hsame, hplace, hcount⟩ := question_spec oracle s
  refine ⟨hplace, ?_, h.mono hsame.dev.index⟩
  rw [Counted, hcount, hsame.dev.rxFifo, counted_libradioGetFifoInfo h,
    (looked_libradioGetFifoInfo oracle s.dev).rxFifo]

/-- A whole frame is shown, and the question behind it is answered. -/
theorem drain_of_responsive {s : RadioMonitor Si4463} {t : Sent} {rest : List UInt8}
    (hplace : s.place = .drain) (hcounted : Counted s) (h : Responsive oracle s.dev.chip.index)
    (hlen : t.packet.len ≤ 10) (hrx : s.dev.chip.rxFifo = t.frame ++ rest) :
    let s' := run (step oracle fuel) s [.proceed none, .proceed none]
    s'.place = .drain ∧ Counted s' ∧ Responsive oracle s'.dev.chip.index ∧
      s'.dev.chip.rxFifo = rest := by
  have hlong : 16 ≤ s.dev.chip.rxFifo.length := by
    rw [hrx, List.length_append, t.length_frame hlen]
    exact Nat.le_add_right 16 rest.length
  have hcount : 16 ≤ s.dev.radio.rxFifo := by
    rw [hcounted, UInt8.le_iff_toNat_le, UInt8.toNat_ofNat']
    simp only [UInt8.reduceToNat]
    omega
  have hans : Si4463.Answers oracle s.dev.chip := h _ (Nat.le_refl _)
  have hshow := shows_drain oracle hlen hans hrx hcount
  have hindex : s.dev.chip.index ≤ (drain (board oracle) s).dev.chip.index := by
    unfold drain
    rw [if_pos hcount]
    exact index_libradioRecv oracle s.dev s.recvchan.packet s.dev.radio.myChannel
  have hfirst : step oracle fuel s (.proceed none) = drain (board oracle) s := by
    rw [step, proceed, hplace]
  have hsecond : step oracle fuel (drain (board oracle) s) (.proceed none) =
      ask (board oracle) (drain (board oracle) s) := by
    have hask : (drain (board oracle) s).place = .ask := by
      unfold drain
      rw [if_pos hcount]
    rw [step, proceed, hask]
  obtain ⟨hcounted', hlater⟩ := ask_of_responsive (h.mono hindex)
  rw [run_cons, run_cons, run_nil, hfirst, hsecond]
  refine ⟨rfl, hcounted', hlater, ?_⟩
  rw [(sameShown_ask oracle _).dev.rxFifo]
  exact List.append_cancel_left (hshow.rxFifo.symm.trans hrx)

/-- The inner loop ends, after two steps for each whole frame and one more. -/
theorem drained_run {s : RadioMonitor Si4463} {todo : List Sent} {n : Nat}
    (hplace : s.place = .drain) (hcounted : Counted s) (h : Responsive oracle s.dev.chip.index)
    (hlen : ∀ t ∈ todo, t.packet.len ≤ 10) (hfront : s.dev.chip.rxFifo <+: stream todo)
    (hn : s.dev.chip.rxFifo.length / 16 = n) :
    let s' := run (step oracle fuel) s (List.replicate (2 * n + 1) (.proceed none))
    s'.place = .waiting ∧ s'.dev.chip.rxFifo.length < 16 := by
  induction n generalizing s todo with
  | zero =>
    have hfew : ¬ 16 ≤ s.dev.radio.rxFifo := by
      rw [hcounted, UInt8.le_iff_toNat_le, UInt8.toNat_ofNat']
      simp only [UInt8.reduceToNat]
      omega
    have hstay : step oracle fuel s (.proceed none) = { s with place := .waiting } := by
      rw [step, proceed, hplace]
      exact if_neg hfew
    rw [List.replicate_one, run_cons, run_nil, hstay]
    refine ⟨rfl, ?_⟩
    show s.dev.chip.rxFifo.length < 16
    omega
  | succ n ih =>
    obtain ⟨t, rest, more, rfl, hrx⟩ := Receiver.front_of_stream hlen hfront (by omega)
    have ht := hlen t List.mem_cons_self
    obtain ⟨hplace', hcounted', hresp', hrx'⟩ :=
      drain_of_responsive fuel hplace hcounted h ht hrx
    have hsteps : List.replicate (2 * (n + 1) + 1) (Event.proceed none) =
        [.proceed none, .proceed none] ++ List.replicate (2 * n + 1) (.proceed none) := rfl
    rw [hsteps, run_append]
    generalize run (step oracle fuel) s [.proceed none, .proceed none] = s'
      at hplace' hcounted' hresp' hrx' ⊢
    apply ih hplace' hcounted' hresp' fun u hu ↦ hlen u (List.mem_cons_of_mem t hu)
    · rw [hrx, stream, List.flatMap_cons] at hfront
      rw [hrx']
      exact (List.prefix_append_right_inj _).mp hfront
    · rw [hrx, List.length_append, t.length_frame ht] at hn
      rw [hrx']
      simp only [SI4463_PACKET_LEN] at hn
      omega

/-- Wherever a run has come to `libradio_wait` with a reason to wake up, if the radio answers from
there on: after one turn and two steps for each whole frame the program is back, less than a frame
is left, and every whole frame that has come in so far was shown. -/
theorem turn_shows_all {d : Dev Si4463} (hempty : d.chip.rxFifo = []) {events : List Event}
    {sends : List Sent} (hlen : ∀ t ∈ sends, t.packet.len ≤ 10) (hwatch : ∀ e ∈ events, e.Watches)
    (harr : events.flatMap arrivals <+: stream sends) {key : Option UInt8}
    (hkey : (Event.proceed key).Watches) (hstay : key ≠ some 114) :
    let s := run (step oracle fuel) (start (board oracle) d) events
    s.place = .waiting → Wakes key.isSome s.dev.radio → Responsive oracle s.dev.chip.index →
      let s' := run (step oracle fuel) s (.proceed key ::
        List.replicate (2 * (s.dev.chip.rxFifo.length / 16) + 1) (.proceed none))
      s'.place = .waiting ∧ s'.dev.chip.rxFifo.length < 16 ∧
        s'.out.map readDump =
          (sends.take ((events.flatMap arrivals).length / 16)).map Sent.bytes := by
  intro s hplace hwakes hresp s'
  have hal : Aligned sends (events.flatMap arrivals) s :=
    shows_traffic oracle fuel hempty hlen hwatch harr
  -- the turn
  obtain ⟨e, hlook, hturn⟩ := turn_spec oracle fuel hkey hwakes hstay
  have hfirst :
      step oracle fuel s (.proceed key) = question (board oracle) { s with dev := e } := by
    have hproceed : proceed (board oracle) fuel key s = turn (board oracle) fuel key s := by
      rw [proceed, hplace]
    exact hproceed.trans hturn
  obtain ⟨hdrain, hcounted, hlater⟩ :=
    question_of_responsive (s := { s with dev := e }) (hresp.mono hlook.index)
  have hrx : (question (board oracle) { s with dev := e }).dev.chip.rxFifo = s.dev.chip.rxFifo :=
    (question_spec oracle { s with dev := e }).1.dev.rxFifo.trans hlook.rxFifo
  -- the inner loop
  obtain ⟨done, todo, hsends, -, hin⟩ := id hal
  have hfront : s.dev.chip.rxFifo <+: stream todo := by
    rw [hin, hsends, stream, stream, List.flatMap_append] at harr
    exact (List.prefix_append_right_inj _).mp harr
  have htodo : ∀ t ∈ todo, t.packet.len ≤ 10 := by
    intro t ht
    apply hlen t
    rw [hsends]
    exact List.mem_append_right done ht
  have hend := drained_run fuel hdrain hcounted hlater htodo (by rw [hrx]; exact hfront)
    (by rw [hrx])
  rw [← hfirst, ← run_cons] at hend
  refine ⟨hend.1, hend.2, ?_⟩
  -- the lines
  have hsteps : ∀ e ∈ Event.proceed key ::
      List.replicate (2 * (s.dev.chip.rxFifo.length / 16) + 1) (.proceed none), e.Watches := by
    intro e he
    rcases List.mem_cons.mp he with rfl | he
    · exact hkey
    · rw [List.eq_of_mem_replicate he]
      trivial
  have hquiet : (Event.proceed key :: List.replicate (2 * (s.dev.chip.rxFifo.length / 16) + 1)
      (.proceed none)).flatMap arrivals = [] := by
    simp [arrivals]
  have hrun := aligned_run oracle fuel hlen hsteps (by rw [hquiet, List.append_nil]; exact harr) hal
  rw [hquiet, List.append_nil] at hrun
  exact hrun.shown hlen hend.2

/-- The second of the two frames is shown in the next turn. -/
theorem turn_shows_all_two :
    (run (step answering 0) (run (step answering 0) (start (board answering) quietRadio) traffic)
      [.proceed none, .proceed none, .proceed none, .proceed none]).out.map readDump =
        [setTime.bytes, statusReply.bytes] := by
  have hresp : Responsive answering
      (run (step answering 0) (start (board answering) quietRadio) traffic).dev.chip.index :=
    fun n _ ↦ ⟨fun _ ↦ 8, rfl⟩
  have hplace : (run (step answering 0) (start (board answering) quietRadio) traffic).place =
      .waiting := by decide +kernel
  have hwakes : Wakes false
      (run (step answering 0) (start (board answering) quietRadio) traffic).dev.radio := by
    decide +kernel
  have hone : (run (step answering 0)
      (start (board answering) quietRadio) traffic).dev.chip.rxFifo.length / 16 = 1 := by
    decide +kernel
  have hturn := @turn_shows_all answering 0 quietRadio rfl traffic [setTime, statusReply]
    (by decide) (by decide) (by decide) none trivial (by decide) hplace hwakes hresp
  rw [hone] at hturn
  exact hturn.2.2

end Answering

/-! ### A radio that does not answer -/

/-- From exchange number `k` on no exchange succeeds. -/
def Dead (oracle : Nat → Outcome) (k : Nat) : Prop := ∀ n, k ≤ n → ∃ e executed,
  oracle n = .failed e executed

/-- The program is in its inner loop, with the count of a whole packet, and the radio is dead. -/
structure Trapped (oracle : Nat → Outcome) (s : RadioMonitor Si4463) : Prop where
  place : s.place = .drain ∨ s.place = .ask
  count : 16 ≤ s.dev.radio.rxFifo
  dead : Dead oracle s.dev.chip.index

section Trapped

variable {oracle : Nat → Outcome}

private theorem Dead.mono {k n : Nat} (h : Dead oracle k) (hkn : k ≤ n) : Dead oracle n :=
  fun m hm ↦ h m (Nat.le_trans hkn hm)

private theorem Dead.not_answers {d : Dev Si4463} (h : Dead oracle d.chip.index) :
    ¬ Si4463.Answers oracle d.chip := by
  rintro ⟨reply, hreply⟩
  obtain ⟨e, executed, hfailed⟩ := h d.chip.index (Nat.le_refl _)
  rw [hreply] at hfailed
  cases hfailed

/-- A failed question about the FIFOs leaves the count of the last one. -/
theorem Dead.libradioGetFifoInfo {d : Dev Si4463} (h : Dead oracle d.chip.index) :
    (libradioGetFifoInfo (board oracle) 0 d).1.radio = d.radio := by
  obtain ⟨e, executed, hfailed⟩ := h d.chip.index (Nat.le_refl _)
  unfold Libradio.libradioGetFifoInfo
  simp only [board, exchange, hfailed]
  cases executed <;> rfl

private theorem rxFifo_listenAgain (channo : UInt8) (d : Dev Si4463) :
    (listenAgain (board oracle) channo d).radio.rxFifo = d.radio.rxFifo := by
  have hstatus : (libradioRequestDeviceStatus (board oracle) d).1.radio.rxFifo =
      d.radio.rxFifo := by
    unfold libradioRequestDeviceStatus
    split <;> rfl
  unfold listenAgain
  dsimp only
  split
  · exact hstatus
  · exact hstatus

/-- A reception without an answer ends at the question for the count. -/
theorem Dead.libradioRecv {d : Dev Si4463} (h : Dead oracle d.chip.index) (p : Packet)
    (channo : UInt8) :
    (libradioRecv (board oracle) d p channo).dev.radio.rxFifo = d.radio.rxFifo ∧
      (libradioRecv (board oracle) d p channo).ok = false := by
  have hnone := libradioRecv_none oracle d p channo fun hr ↦ h.not_answers hr.1
  have hfew : (libradioCheckRx (board oracle) d).2 = false := by
    obtain ⟨-, -, hcount⟩ := fifoInfo_count oracle d
    obtain ⟨-, hzero⟩ := hcount.resolve_left fun hyes ↦ h.not_answers hyes.1
    rw [libradioCheckRx, hzero]
    rfl
  refine ⟨?_, hnone.1⟩
  unfold Libradio.libradioRecv
  dsimp only
  rw [if_neg (by rw [hfew]; decide)]
  dsimp only
  rw [rxFifo_listenAgain, libradioCheckRx, h.libradioGetFifoInfo]

/-- Whatever happens, the program stays there and shows nothing. -/
theorem trapped_step (fuel : Nat) {s : RadioMonitor Si4463} (e : Event) (h : Trapped oracle s) :
    Trapped oracle (step oracle fuel s e) ∧ (step oracle fuel s e).out = s.out := by
  obtain ⟨hplace, hcount, hdead⟩ := h
  cases e with
  | arrive bytes => exact ⟨⟨hplace, hcount, hdead⟩, rfl⟩
  | tick =>
    have hsame {r r' : Radio} (hr : r'.untimed = r.untimed) : r'.rxFifo = r.rxFifo := by
      have huntimed : r'.untimed.rxFifo = r.untimed.rxFifo := by rw [hr]
      exact huntimed
    refine ⟨⟨hplace, ?_, hdead⟩, rfl⟩
    rw [step, hsame (untimed_clocktick s.dev.radio)]
    exact hcount
  | interrupt =>
    rw [step]
    split
    · exact ⟨⟨hplace, hcount, hdead⟩, rfl⟩
    · exact ⟨⟨hplace, hcount, hdead⟩, rfl⟩
  | proceed key =>
    rw [step, proceed]
    rcases hplace with hdrain | hask
    · obtain ⟨hsame, hok⟩ := hdead.libradioRecv s.recvchan.packet s.dev.radio.myChannel
      have hindex := index_libradioRecv oracle s.dev s.recvchan.packet s.dev.radio.myChannel
      rw [hdrain]
      dsimp only
      unfold drain
      rw [if_pos hcount]
      dsimp only
      rw [hok]
      exact ⟨⟨.inr rfl, hsame ▸ hcount, hdead.mono hindex⟩, rfl⟩
    · rw [hask]
      refine ⟨⟨.inl rfl, ?_, hdead.mono (sameShown_ask oracle s).dev.index⟩, rfl⟩
      show 16 ≤ (Libradio.libradioGetFifoInfo (board oracle) 0 s.dev).1.radio.rxFifo
      rw [hdead.libradioGetFifoInfo]
      exact hcount

/-- A radio that stops answering while the program counts a whole packet keeps it in its inner loop:
whatever happens, it receives and asks in turn and gets nowhere else, so it never waits, reads its
console or resets the watchdog again, and it shows nothing more. -/
theorem trapped_run (fuel : Nat) {s : RadioMonitor Si4463} (events : List Event)
    (h : Trapped oracle s) :
    ((run (step oracle fuel) s events).place = .drain ∨
      (run (step oracle fuel) s events).place = .ask) ∧
      (run (step oracle fuel) s events).out = s.out := by
  have hrun : Trapped oracle (run (step oracle fuel) s events) ∧
      (run (step oracle fuel) s events).out = s.out := by
    apply run_inv_of_step (I := fun u ↦ Trapped oracle u ∧ u.out = s.out) (step oracle fuel)
    · rintro u e ⟨hu, hout⟩
      obtain ⟨hstep, hsame⟩ := trapped_step fuel e hu
      exact ⟨hstep, hsame.trans hout⟩
    · exact ⟨h, rfl⟩
  exact ⟨hrun.1.place, hrun.2⟩

private def dying : Nat → Outcome := fun n ↦
  if n < 47 then .done fun _ ↦ 8 else .failed .timeout false

private def lastTurn : RadioMonitor Si4463 :=
  run (step dying 0) (start (board dying) quietRadio)
    [.arrive (stream [setTime, statusReply]), .interrupt, .proceed none, .proceed none,
      .proceed none]

/-- The radio dies while the second of two frames is still in its FIFO. -/
theorem trapped_run_frame :
    let s := run (step dying 0) lastTurn [.tick, .proceed (some 114), .interrupt, .proceed none]
    (s.place = .drain ∨ s.place = .ask) ∧ s.out = lastTurn.out := by
  have hindex : lastTurn.dev.chip.index = 47 := by decide +kernel
  have hdead : Dead dying lastTurn.dev.chip.index := by
    intro n hn
    rw [hindex] at hn
    exact ⟨.timeout, false, if_neg (Nat.not_lt.mpr hn)⟩
  have htrapped : Trapped dying lastTurn := ⟨by decide +kernel, by decide +kernel, hdead⟩
  exact trapped_run 0 [.tick, .proceed (some 114), .interrupt, .proceed none] htrapped

end Trapped
end RadioMonitor
end Libradio
