import Mathlib.Logic.Function.Basic
import Libradio.Client.Pass
import Libradio.Client.Start
import Libradio.Lib.Si4463

/-!
# A population of clients

Any number of clients, each with its own identity, radio and application. A frame is delivered
to some of the radios, in whatever order; each client takes its own clock interrupts, radio
interrupts and passes. The population keeps a record of the last activation each client has
read, which the program does not.
-/

namespace Libradio
open Libradio.Base

/-- An ACTIVATE of six bytes for the identity. -/
def Client.Identity.ActivatedBy (id : Client.Identity) (p : Packet) : Prop :=
  p.cmd = RADIO_CMD_ACTIVATE ∧ p.len = 6 ∧ dataByte p.data 2 = id.cat1 ∧
    dataByte p.data 3 = id.cat2 ∧ dataByte p.data 4 = id.num1 ∧ dataByte p.data 5 = id.num2

instance (id : Client.Identity) (p : Packet) : Decidable (id.ActivatedBy p) :=
  inferInstanceAs (Decidable (_ ∧ _))

/-- What is fixed for a client: its identity, its periods, how its radio answers, and its
application. -/
structure Member where
  id : Client.Identity
  fast : UInt8
  slow : UInt8
  oracle : Nat → Outcome
  app : App Si4463
  fuel : Nat

/-- The board of a member. -/
def Member.board (m : Member) : Board Si4463 := Si4463.board m.oracle

/-- A member and the last valid activation it has read. -/
structure Member.State where
  dev : Dev Si4463
  last : Option Packet

/-- A member as it is started. -/
def Member.start (m : Member) (chip : Si4463) : Member.State :=
  ⟨Client.start m.board m.id m.fast m.slow (Client.powerOn chip), none⟩

/-- A frame arrives at the end of the receive FIFO. -/
def Member.State.arrive (frame : Vector UInt8 16) (s : Member.State) : Member.State :=
  { s with dev := { s.dev with chip :=
    { s.dev.chip with rxFifo := s.dev.chip.rxFifo ++ frame.toList } } }

/-- The activation that the next pass reads, if it is for this member. -/
def Member.activation (m : Member) (s : Member.State) : Option Packet :=
  (Client.accepted m.board s.dev).filter m.id.ActivatedBy

/-- One event of a member. -/
def Member.step (m : Member) (s : Member.State) (e : Client.Event) : Member.State :=
  { dev := Client.step m.board m.app m.fuel s.dev e
    last := match e with
      | .tick => s.last
      | .interrupt => s.last
      | .pass _ _ => (m.activation s).or s.last }

namespace Population

variable {ι : Type} [DecidableEq ι]

/-- An event of the population: a frame for the radios in a set, or an event of one client. -/
inductive Event (ι : Type)
  | frame (bytes : Vector UInt8 16) (reaches : ι → Bool)
  | client (i : ι) (e : Client.Event)

/-- One event. -/
def step (m : ι → Member) (s : ι → Member.State) : Event ι → ι → Member.State
  | .frame bytes reaches => fun i ↦ if reaches i then (s i).arrive bytes else s i
  | .client i e => Function.update s i ((m i).step (s i) e)

/-- The population as it is started, with anything in the radios. -/
def start (m : ι → Member) (chip : ι → Si4463) : ι → Member.State := fun i ↦ (m i).start (chip i)

end Population

/-- An active member has the assignment of the last activation it has read. -/
def Member.State.AsAssigned (s : Member.State) : Prop :=
  s.dev.radio.state = LIBRADIO_STATE_ACTIVE → ∃ p ∈ s.last,
    s.dev.radio.myChannel = dataByte p.data 0 ∧ s.dev.radio.myNodeId = dataByte p.data 1

/-- If the event makes client `i` active, it is a pass that reads an activation with the
identity of `i` and of no other client. -/
def ActivatesOwnOnly {ι : Type} [DecidableEq ι] (m : ι → Member) (s : ι → Member.State)
    (e : Population.Event ι) : Prop :=
  ∀ i, (s i).dev.radio.state ≠ LIBRADIO_STATE_ACTIVE →
    (Population.step m s e i).dev.radio.state = LIBRADIO_STATE_ACTIVE →
    ∃ ticks serial p, e = .client i (.pass ticks serial) ∧
      Client.accepted (m i).board (s i).dev = some p ∧ (m i).id.ActivatedBy p ∧
      ∀ j, j ≠ i → ¬ (m j).id.ActivatedBy p

/-- A packet activates one identity at most. -/
theorem Client.Identity.eq_of_activatedBy {id id' : Client.Identity} {p : Packet}
    (h : id.ActivatedBy p) (h' : id'.ActivatedBy p) : id = id' := by
  obtain ⟨-, -, h1, h2, h3, h4⟩ := h
  obtain ⟨-, -, h1', h2', h3', h4'⟩ := h'
  cases id
  cases id'
  simp only at h1 h2 h3 h4 h1' h2' h3' h4'
  rw [← h1, ← h2, ← h3, ← h4, ← h1', ← h2', ← h3', ← h4']

/-! ### One client -/

/-- The identity that a station goes by. -/
def Station.identity (s : Station) : Client.Identity := ⟨s.cat1, s.cat2, s.num1, s.num2⟩

/-- A station with the identity `id` that has the assignment of `last` if it is active. -/
structure Holds (id : Client.Identity) (last : Option Packet) (s : Station) : Prop where
  identity : s.identity = id
  assigned : s.state = LIBRADIO_STATE_ACTIVE → ∃ p ∈ last,
    s.myChannel = dataByte p.data 0 ∧ s.myNodeId = dataByte p.data 1

/-- Below ACTIVE there is nothing to hold but the identity. -/
theorem holds_of_ne {id : Client.Identity} {last : Option Packet} {s : Station}
    (hid : s.identity = id) (hs : s.state ≠ LIBRADIO_STATE_ACTIVE) : Holds id last s :=
  ⟨hid, fun h ↦ absurd h hs⟩

/-- The `switch` activates nobody. -/
theorem holds_rxloopSwitch {id : Client.Identity} {last : Option Packet} {r : Radio}
    (h : Holds id last r.station) :
    Holds id last (rxloopSwitch r).station ∧
      ((rxloopSwitch r).station.state = LIBRADIO_STATE_ACTIVE →
        r.station.state = LIBRADIO_STATE_ACTIVE) := by
  have hwarm : LIBRADIO_STATE_WARM ≠ LIBRADIO_STATE_ACTIVE := by decide
  have hlisten : LIBRADIO_STATE_LISTEN ≠ LIBRADIO_STATE_ACTIVE := by decide
  cases switched_rxloopSwitch r with
  | recovered error period station =>
    rw [station]
    exact ⟨holds_of_ne h.identity hwarm, fun hc ↦ absurd hc hwarm⟩
  | woken asleep timeout period station =>
    rw [station]
    exact ⟨holds_of_ne h.identity hlisten, fun hc ↦ absurd hc hlisten⟩
  | listening listen eq =>
    rw [eq]
    exact ⟨h, fun hc ↦ hc⟩
  | waiting error asleep seen timeout station =>
    rw [station]
    exact ⟨⟨h.identity, h.assigned⟩, fun hc ↦ hc⟩
  | silent error asleep listen unseen expired timeout period station =>
    rw [station]
    exact ⟨holds_of_ne h.identity hwarm, fun hc ↦ absurd hc hwarm⟩

/-- A command that is not an activation with the client's identity does not activate it. -/
theorem holds_commanded {id : Client.Identity} {last : Option Packet} {b : Board Si4463}
    {app : App Si4463} {R : Si4463 → Si4463 → Prop} {p : Packet} {d d' : Dev Si4463}
    (h : Holds id last d.radio.station) (hc : Commanded b app R p d d') :
    Holds id (if id.ActivatedBy p then some p else last) d'.radio.station ∧
      (d'.radio.station.state = LIBRADIO_STATE_ACTIVE →
        d.radio.station.state = LIBRADIO_STATE_ACTIVE ∨ id.ActivatedBy p) := by
  have hact : IsActivation d.radio p ↔ id.ActivatedBy p := by
    rw [← h.identity]
    rfl
  have hwarm : LIBRADIO_STATE_WARM ≠ LIBRADIO_STATE_ACTIVE := by decide
  have herror : LIBRADIO_STATE_ERROR ≠ LIBRADIO_STATE_ACTIVE := by decide
  cases hc with
  | kept act deact works date station sawRx chip =>
    rw [if_neg fun hc ↦ act (hact.mpr hc), station]
    exact ⟨⟨h.identity, h.assigned⟩, .inl⟩
  | activated act eq =>
    obtain ⟨timeout, period, hs⟩ := station_activated p d.radio
    rw [if_pos (hact.mp act), eq, hs]
    exact ⟨⟨h.identity, fun _ ↦ ⟨p, rfl, rfl, rfl⟩⟩, fun _ ↦ .inr (hact.mp act)⟩
  | deactivated deact eq =>
    obtain ⟨period, hs⟩ := station_deactivated d.radio
    rw [eq, hs]
    exact ⟨holds_of_ne h.identity hwarm, fun hc ↦ absurd hc hwarm⟩
  | responded act deact active e settled fails responded =>
    rw [← settled.station] at h ⊢
    rw [if_neg fun hc ↦ act (hact.mpr hc)]
    cases responded with
    | listening works listening =>
      rw [listening.station]
      exact ⟨⟨h.identity, h.assigned⟩, .inl⟩
    | late fails' listening =>
      rw [listening.station]
      exact ⟨holds_of_ne h.identity herror, fun hc ↦ absurd hc herror⟩
    | failed fails' lost =>
      rw [lost.station]
      exact ⟨holds_of_ne h.identity herror, fun hc ↦ absurd hc herror⟩

/-- A pass activates the client only by an activation with its identity. -/
theorem holds_libradioRxloop {id : Client.Identity} {last : Option Packet} {b : Board Si4463}
    {app : App Si4463} (happ : app.LeavesRadio fun _ _ ↦ True) (fuel ticks : Nat) (serial : Bool)
    {d : Dev Si4463} (h : Holds id last d.radio.station) :
    Holds id (((Client.accepted b d).filter id.ActivatedBy).or last)
        (libradioRxloop b app fuel ticks serial d).radio.station ∧
      ((libradioRxloop b app fuel ticks serial d).radio.station.state = LIBRADIO_STATE_ACTIVE →
        d.radio.station.state = LIBRADIO_STATE_ACTIVE ∨
          ∃ p ∈ Client.accepted b d, id.ActivatedBy p) := by
  by_cases hwakes : Wakes serial d.radio
  · have hh := handled_rxloopHandle b.carries_true happ fuel ticks d fun _ ↦ trivial
    rw [libradioRxloop_of_wakes b app fuel ticks hwakes]
    dsimp only
    generalize rxloopHandle b app fuel ticks d = e at hh ⊢
    cases hh with
    | quiet none station sawRx chip =>
      rw [← station] at h ⊢
      obtain ⟨hholds, hactive⟩ := holds_rxloopSwitch h
      rw [none, Option.filter_none, Option.none_or]
      exact ⟨hholds, fun hc ↦ .inl (hactive hc)⟩
    | command p some e' f handed station sawRx chip command station' sawRx' chip' =>
      rw [← station] at h ⊢
      obtain ⟨hf, hfactive⟩ := holds_commanded h command
      rw [← station'] at hf hfactive
      obtain ⟨hholds, hactive⟩ := holds_rxloopSwitch hf
      rw [some]
      refine ⟨?_, fun hc ↦ ?_⟩
      · by_cases hid : id.ActivatedBy p
        · rw [if_pos hid] at hholds
          have hfilter : (Option.some p).filter (fun q ↦ id.ActivatedBy q) = Option.some p := by
            rw [Option.filter, decide_eq_true hid, if_pos rfl]
          rw [hfilter, Option.some_or]
          exact hholds
        · rw [if_neg hid] at hholds
          have hfilter : (Option.some p).filter (fun q ↦ id.ActivatedBy q) = Option.none := by
            rw [Option.filter, decide_eq_false hid, if_neg Bool.false_ne_true]
          rw [hfilter, Option.none_or]
          exact hholds
      · rcases hfactive (hactive hc) with hs | hid
        · exact .inl hs
        · exact .inr ⟨p, rfl, hid⟩
  · have hirq : ¬ d.radio.irqFired ≠ 0 := fun hc ↦ hwakes (.inl hc)
    rw [libradioRxloop_of_not_wakes b app fuel ticks hwakes, (accepted_of_not_irq hirq).1,
      Option.filter_none, Option.none_or]
    exact ⟨h, .inl⟩

/-! ### All clients -/

/-- What is known of a member all the time. -/
def Member.Fine (m : Member) (s : Member.State) : Prop := Holds m.id s.last s.dev.radio.station

/-- A member is started with its identity and not active. -/
theorem fine_start (m : Member) (chip : Si4463) : m.Fine (m.start chip) := by
  have hstartup : LIBRADIO_STATE_STARTUP ≠ LIBRADIO_STATE_ACTIVE := by decide
  have herror : LIBRADIO_STATE_ERROR ≠ LIBRADIO_STATE_ACTIVE := by decide
  have hdev : (m.start chip).dev = Client.start m.board m.id m.fast m.slow (Client.powerOn chip) :=
    rfl
  unfold Member.Fine
  rw [hdev]
  rcases Client.start_spec m.board.keeps_true m.id m.fast m.slow (Client.powerOn chip) with
    ⟨-, h⟩ | ⟨-, h⟩
  · rw [h.station]
    exact holds_of_ne rfl hstartup
  · rw [h.station]
    exact holds_of_ne rfl herror

/-- An event of a member keeps what is known, and activates it only by its own activation. -/
theorem fine_step (m : Member) (happ : m.app.LeavesRadio fun _ _ ↦ True) {s : Member.State}
    (e : Client.Event) (h : m.Fine s) :
    m.Fine (m.step s e) ∧ ((m.step s e).dev.radio.state = LIBRADIO_STATE_ACTIVE →
      s.dev.radio.state = LIBRADIO_STATE_ACTIVE ∨ ∃ ticks serial p, e = .pass ticks serial ∧
        Client.accepted m.board s.dev = some p ∧ m.id.ActivatedBy p) := by
  have hsame (he : e = .tick ∨ e = .interrupt) (hlast : (m.step s e).last = s.last) :
      m.Fine (m.step s e) ∧ (m.step s e).dev.radio.state = s.dev.radio.state := by
    have hdev : (m.step s e).dev.radio.station = s.dev.radio.station :=
      (Client.step_of_not_pass m.board m.app m.fuel s.dev he).1
    have hstate := congrArg Station.state hdev
    unfold Member.Fine
    rw [hlast, hdev]
    exact ⟨h, hstate⟩
  cases e with
  | tick =>
    obtain ⟨hfine, hstate⟩ := hsame (.inl rfl) (by simp only [Member.step])
    exact ⟨hfine, fun hc ↦ .inl (hstate.symm.trans hc)⟩
  | interrupt =>
    obtain ⟨hfine, hstate⟩ := hsame (.inr rfl) (by simp only [Member.step])
    exact ⟨hfine, fun hc ↦ .inl (hstate.symm.trans hc)⟩
  | pass ticks serial =>
    have hdev : m.step s (.pass ticks serial) =
        ⟨libradioRxloop m.board m.app m.fuel ticks serial s.dev, (m.activation s).or s.last⟩ := rfl
    unfold Member.Fine at h ⊢
    obtain ⟨hholds, hactive⟩ := holds_libradioRxloop (b := m.board) happ m.fuel ticks serial h
    rw [hdev]
    refine ⟨hholds, fun hc ↦ ?_⟩
    rcases hactive hc with hs | ⟨p, hp, hid⟩
    · exact .inl hs
    · exact .inr ⟨ticks, serial, p, rfl, hp, hid⟩

section Population

variable {ι : Type} [DecidableEq ι] {m : ι → Member}

/-- An event of the population keeps what is known of every member; with distinct identities it
activates at most the client it is for. -/
theorem population_step (happ : ∀ i, (m i).app.LeavesRadio fun _ _ ↦ True)
    (hid : Function.Injective fun i ↦ (m i).id) {s : ι → Member.State}
    (h : ∀ i, (m i).Fine (s i)) (e : Population.Event ι) :
    (∀ i, (m i).Fine (Population.step m s e i)) ∧ ActivatesOwnOnly m s e := by
  cases e with
  | frame bytes reaches =>
    have harrive (i : ι) : (Population.step m s (.frame bytes reaches) i).dev.radio =
        (s i).dev.radio ∧ (Population.step m s (.frame bytes reaches) i).last = (s i).last := by
      unfold Population.step
      dsimp only
      split <;> exact ⟨rfl, rfl⟩
    refine ⟨fun i ↦ ?_, fun i hbefore hafter ↦ ?_⟩
    · unfold Member.Fine
      rw [(harrive i).1, (harrive i).2]
      exact h i
    · rw [(harrive i).1] at hafter
      exact absurd hafter hbefore
  | client i ev =>
    have hself : Population.step m s (.client i ev) i = (m i).step (s i) ev :=
      Function.update_self i _ s
    have hother {j : ι} (hj : j ≠ i) : Population.step m s (.client i ev) j = s j :=
      Function.update_of_ne hj _ s
    obtain ⟨hfine, hactive⟩ := fine_step (m i) (happ i) ev (h i)
    refine ⟨fun j ↦ ?_, fun j hbefore hafter ↦ ?_⟩
    · by_cases hj : j = i
      · rw [hj, hself]
        exact hfine
      · rw [hother hj]
        exact h j
    · by_cases hj : j = i
      · subst hj
        rw [hself] at hafter
        rcases hactive hafter with hs | ⟨ticks, serial, p, hev, hp, hown⟩
        · exact absurd hs hbefore
        · refine ⟨ticks, serial, p, by rw [hev], hp, hown, fun k hk hthird ↦ hk ?_⟩
          exact hid (Client.Identity.eq_of_activatedBy hthird hown)
      · rw [hother hj] at hafter
        exact absurd hafter hbefore

/-- In every run of a population of clients with distinct identities, whatever frames are
delivered to whichever of them, an active client has the assignment of the last valid
activation it has read, and a client is activated only by a frame that carries its identity and
that of no other client. -/
theorem population_agrees (happ : ∀ i, (m i).app.LeavesRadio fun _ _ ↦ True)
    (hid : Function.Injective fun i ↦ (m i).id) (chip : ι → Si4463)
    (events : List (Population.Event ι)) :
    (∀ pre, pre <+: events → ∀ i,
      (run (Population.step m) (Population.start m chip) pre i).AsAssigned) ∧
      Along (Population.step m) (ActivatesOwnOnly m) (Population.start m chip) events := by
  have hstart : ∀ i, (m i).Fine (Population.start m chip i) := fun i ↦ fine_start (m i) (chip i)
  have hstep (s : ι → Member.State) (e : Population.Event ι) (h : ∀ i, (m i).Fine (s i)) :
      ∀ i, (m i).Fine (Population.step m s e i) := (population_step happ hid h e).1
  have hrun (pre : List (Population.Event ι)) :=
    run_inv_of_step (Population.step m) hstep pre hstart
  refine ⟨fun pre _ i ↦ (hrun pre i).assigned, ?_⟩
  rw [along_iff_split]
  exact fun pre e post _ ↦ (population_step happ hid (hrun pre) e).2

end Population

-- Two sensors that differ in their last byte, with radios that answer every question.
private def twoSensors (second : Bool) : Member :=
  { id := ⟨127, 1, 0, if second then 2 else 1⟩, fast := 1, slow := 16
    oracle := fun _ ↦ .done fun _ ↦ 16, app := Client.idleApp, fuel := 0 }

-- The activation of the first sensor is heard by both.
private def bothHear : List (Population.Event Bool) :=
  [.frame (.ofFn fun i ↦ (((Client.activation ⟨127, 1, 0, 1⟩ 2 5).stamp 0).frame).getD i.val 0)
      fun _ ↦ true,
    .client true .interrupt, .client false .interrupt,
    .client true (.pass 0 false), .client false (.pass 0 false)]

/-- Afterwards both have what was assigned to them. -/
theorem population_agrees_two :
    (run (Population.step twoSensors) (Population.start twoSensors fun _ ↦ ⟨[], [], [], 0, 0⟩)
        bothHear true).AsAssigned ∧
      (run (Population.step twoSensors) (Population.start twoSensors fun _ ↦ ⟨[], [], [], 0, 0⟩)
        bothHear false).AsAssigned := by
  have h := (population_agrees (m := twoSensors)
    (fun _ ↦ Client.leavesRadio_idleApp fun _ ↦ trivial)
    (fun i j h ↦ by cases i <;> cases j <;> first | rfl | exact absurd h (by decide))
    (fun _ ↦ ⟨[], [], [], 0, 0⟩) bothHear).1 bothHear (List.prefix_refl _)
  exact ⟨h true, h false⟩

end Libradio
