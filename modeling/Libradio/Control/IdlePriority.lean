import Libradio.Control.Priority

/-!
# Idle channels carry no priority

A channel that holds no packet should have priority 0, so that the next packet queued in it
starts with the priority of its channel (`src/control/enqueue.c:93-102`). Two ways of going
idle leave a priority behind: the end of a response wait, since the loop that ages "the
remaining channels" (`src/control/transmit.c:153-159`) also ages the one whose request was just
sent, and a line completed on a channel that a time slot has filled under it.
-/

namespace Libradio
open Libradio.Base

/-- Whether SET_CHANNEL was the last to touch the priority of channel `d`, after one more entry
of the record. -/
def Obs.configures (d : Fin 6) (o : Obs) (last : Bool) : Bool :=
  match o with
  | .setChannel c _ => c = d || last
  | .ack c _ | .slot c _ | .send c _ _ _ => c ≠ d && last
  | .reset => false
  | _ => last

section Entries

variable (c d : Fin 6) (p : Packet.Content) (last : Bool)

/-- A SET_CHANNEL configures its channel. -/
@[simp] theorem Obs.configures_setChannel (config : UInt8) :
    (Obs.setChannel c config).configures d last = (c = d || last) := rfl

/-- An acknowledgement ends that. -/
@[simp] theorem Obs.configures_ack : (Obs.ack c p).configures d last = (c ≠ d && last) := rfl

/-- A time packet ends that. -/
@[simp] theorem Obs.configures_slot : (Obs.slot c p).configures d last = (c ≠ d && last) := rfl

/-- A transmission ends that. -/
@[simp] theorem Obs.configures_send (st : ChState) (ok : Bool) :
    (Obs.send c st p ok).configures d last = (c ≠ d && last) := rfl

/-- A reset ends that. -/
@[simp] theorem Obs.configures_reset : Obs.reset.configures d last = false := rfl

/-- A character changes nothing of it. -/
@[simp] theorem Obs.configures_input (ch : UInt8) : (Obs.input ch).configures d last = last := rfl

/-- A claim changes nothing of it. -/
@[simp] theorem Obs.configures_claim : (Obs.claim c).configures d last = last := rfl

/-- Handing a packet over changes nothing of it. -/
@[simp] theorem Obs.configures_handed : (Obs.handed c p).configures d last = last := rfl

/-- Executing a command changes nothing of it. -/
@[simp] theorem Obs.configures_exec (code : UInt8) :
    (Obs.exec p code).configures d last = last := rfl

/-- Releasing a channel changes nothing of it. -/
@[simp] theorem Obs.configures_finish : (Obs.finish c).configures d last = last := rfl

/-- A look for a response changes nothing of it. -/
@[simp] theorem Obs.configures_wait (st : ChState) : (Obs.wait c st).configures d last = last := rfl

end Entries

/-- The last thing that touched the priority of channel `d` was a SET_CHANNEL for it, after a
record, newest entry first. -/
def configuredLast (d : Fin 6) (h : List Obs) : Bool := h.foldr (Obs.configures d) false

private theorem configuredLast_cons (d : Fin 6) (o : Obs) (h : List Obs) :
    configuredLast d (o :: h) = o.configures d (configuredLast d h) := rfl

/-- It can be read off the part of the record that concerns the channel. -/
theorem configuredLast_filter (d : Fin 6) (h : List Obs) :
    configuredLast d (h.filter (Obs.concerns d)) = configuredLast d h := by
  refine foldr_concerns (fun o x ho ↦ ?_) false h
  cases o <;> simp_all [Obs.concerns]

namespace Ctl

variable {σ : Type}

private theorem configuredLast_track (s : Ctl σ) (d : Fin 6) :
    configuredLast d (s.track d) = configuredLast d s.hist := configuredLast_filter d s.hist

private theorem configuredLast_of_track {s : Ctl σ} {d : Fin 6} {h : List Obs}
    (ht : s.track d = h) :
    configuredLast d s.hist = configuredLast d h := by
  rw [← configuredLast_track, ht]

/-- A queued packet always has a priority. -/
theorem queuePriority_ne_zero (c : Fin 6) (old : UInt8) : queuePriority c old ≠ 0 := by
  unfold queuePriority
  split
  · revert c
    decide
  · split
    · next hne hlt =>
      intro h
      have hsum := congrArg UInt8.toNat h
      rw [UInt8.lt_iff_toNat_lt] at hlt
      rw [UInt8.toNat_add] at hsum
      simp only [UInt8.reduceToNat] at hlt hsum
      omega
    · next hne hlt => exact hne

/-- Only the completion of a packet records a hand-over. -/
theorem completes_of_handed (b : Board σ) {s : Ctl σ} {a : Act} {d : Fin 6}
    {p : Packet.Content} {e : List Obs} (track : (step b s a).track d = e ++ s.track d)
    (hmem : .handed d p ∈ e) : ∃ ch, a = .input ch ∧ Completes s ch ∧ s.currChp = d := by
  have hnew {l : List Obs} (hist : (step b s a).hist = l ++ s.hist) : .handed d p ∈ l := by
    have hext : l.filter (Obs.concerns d) = e := by
      rw [Ctl.track, hist, List.filter_append] at track
      exact List.append_cancel_right track
    exact (List.mem_filter.mp (hext ▸ hmem)).1
  cases a with
  | tick => cases hnew (l := []) (alike_tick b s).hist
  | poll =>
    cases effect_poll b s with
    | idle none eq => cases hnew (l := []) (congrArg Ctl.hist eq)
    | waiting c some going own others respChp parser hist =>
      cases List.mem_singleton.mp (hnew (l := [_]) hist)
    | ended c some ends own others respChp parser hist =>
      cases List.mem_singleton.mp (hnew (l := [_]) hist)
  | check between inSend =>
    cases effect_check b between inSend s with
    | idle closed chan respChp parser hist => cases hnew (l := []) hist
    | sent c st q ok before none source hist own packet others respChp parser =>
      cases source with
      | built due empty state hist' =>
        rw [hist'] at hist
        rcases List.mem_cons.mp (hnew (l := [_, _]) hist) with h | h
        · cases h
        · cases List.mem_singleton.mp h
      | found due busy state packet' hist' =>
        rw [hist'] at hist
        cases List.mem_singleton.mp (hnew (l := [_]) hist)
      | picked due ready state packet' hist' =>
        rw [hist'] at hist
        cases List.mem_singleton.mp (hnew (l := [_]) hist)
  | input ch =>
    cases effect_processInput b ch s with
    | idle before after chan respChp hist => cases List.mem_singleton.mp (hnew (l := [_]) hist)
    | claimed before free own others after respChp hist =>
      rcases List.mem_cons.mp (hnew (l := [_, _]) hist) with h | h
      · cases h
      · cases List.mem_singleton.mp h
    | stored before after currChp state others respChp hist =>
      cases List.mem_singleton.mp (hnew (l := [_]) hist)
    | left before leaves after chan respChp hist =>
      cases List.mem_singleton.mp (hnew (l := [_]) hist)
    | handed before completes enqueued after =>
      refine ⟨ch, rfl, completes, ?_⟩
      have hfilled := (filled_spec ch s).2.2.2.2.2
      have hlast {o : Obs} (h : Obs.handed d p ∈ [o, .input ch]) : Obs.handed d p = o := by
        rcases List.mem_cons.mp h with h | h
        · exact h
        · cases List.mem_singleton.mp h
      cases enqueued.fate with
      | executed code own state others hist =>
        rw [hfilled] at hist
        have hmem := hnew (l := .finish s.currChp ::
          .exec ((filled ch s).chan s.currChp).packet.content code ::
          (configObs ((filled ch s).chan s.currChp).packet.content ++
            [.handed s.currChp ((filled ch s).chan s.currChp).packet.content, .input ch])) (by
              rw [step, hist, List.cons_append, List.cons_append, List.append_assoc]
              rfl)
        rcases List.mem_cons.mp hmem with h | hmem
        · cases h
        rcases List.mem_cons.mp hmem with h | hmem
        · cases h
        rcases List.mem_append.mp hmem with h | h
        · unfold configObs at h
          split at h
          · cases List.mem_singleton.mp h
          · cases h
        · cases hlast h
          rfl
      | refused own active state others hist =>
        rw [hfilled] at hist
        rcases List.mem_cons.mp (hnew (l := [_, _, _]) hist) with h | h
        · cases h
        · cases hlast h
          rfl
      | queued own active state others hist =>
        rw [hfilled] at hist
        rcases List.mem_cons.mp (hnew (l := [_, _, _]) hist) with h | h
        · cases h
        · cases hlast h
          rfl
    | reset eq =>
      have hist := (boot_fresh b (s.note (.input ch))).2.2.2
      rw [← eq] at hist
      rcases List.mem_cons.mp (hnew (l := [_, _]) hist) with h | h
      · cases h
      · cases List.mem_singleton.mp h

/-! ### What becomes of the priority -/

/-- Nothing is aged while a channel is idle, while a response is awaited, or by an action that
is not a transmission. -/
theorem priority_unaged (b : Board σ) {s : Ctl σ} {a : Act} {d : Fin 6} {e : List Obs}
    (track : (step b s a).track d = e ++ s.track d)
    (h : ((step b s a).chan d).state.toNat ≤ ChState.adding.toNat ∨ s.respChp ≠ none ∨
      ∀ between inSend, a ≠ .check between inSend) :
    ((step b s a).chan d).priority = e.foldr (Obs.rank d) (s.chan d).priority := by
  obtain ⟨-, honly, -, hpriority⟩ := priority_of_track b track
  rw [hpriority]
  split
  · next hsends =>
    obtain ⟨hfree, between, inSend, hact⟩ := honly hsends
    rcases h with hidle | hbusy | hother
    · exact agedPriority_of_le hidle _
    · exact absurd hfree hbusy
    · exact absurd hact (hother between inSend)
  · rfl

/-- A send is followed by the aging. -/
theorem priority_aged (b : Board σ) {s : Ctl σ} {a : Act} {d : Fin 6} {e : List Obs}
    (track : (step b s a).track d = e ++ s.track d) (h : e.any Obs.isSend = true) :
    ((step b s a).chan d).priority = agedPriority ((step b s a).chan d).state
      (e.foldr (Obs.rank d) (s.chan d).priority) := by
  obtain ⟨hany, -, -, hpriority⟩ := priority_of_track b track
  rw [hpriority, if_pos (hany h)]

/-- What an action does to the priority of channel `d`. What becomes of a packet that is completed
is another list, `Completion`. -/
inductive PriorityEffect (b : Board σ) (a : Act) (d : Fin 6) (s s' : Ctl σ) : Prop
  | same (state : (s'.chan d).state = (s.chan d).state)
      (resp : s'.respChp = some d ↔ s.respChp = some d) (asm : Assembles s' d → Assembles s d)
      (priority : (s'.chan d).priority = (s.chan d).priority ∨
        s.respChp = none ∧ (sendingOf s s').isSome = true ∧
          (s'.chan d).priority = agedPriority (s.chan d).state (s.chan d).priority)
      (last : configuredLast d s'.hist = configuredLast d s.hist)
  | claimed (free : (s.chan d).state.toNat ≤ ChState.adding.toNat)
      (state : (s'.chan d).state = .adding) (resp : s'.respChp = some d ↔ s.respChp = some d)
      (priority : (s'.chan d).priority = (s.chan d).priority)
      (last : configuredLast d s'.hist = configuredLast d s.hist)
  | completed (ch : UInt8) (act : a = .input ch) (completes : Completes s ch)
      (curr : s.currChp = d)
  | configured (after : ¬ s'.state.IsAssembling) (priority : (s'.chan d).priority = 0)
      (last : configuredLast d s'.hist = true)
  | waited (before : s.respChp = some d)
      (state : (s'.chan d).state.toNat = (s.chan d).state.toNat + 1)
      (resp : s'.respChp = some d) (asm : Assembles s' d → Assembles s d)
      (priority : (s'.chan d).priority = (s.chan d).priority)
      (last : configuredLast d s'.hist = configuredLast d s.hist)
  | ended (act : a = .poll) (before : s.respChp = some d) (ends : WaitEnds b s d)
      (state : (s'.chan d).state = .empty) (resp : s'.respChp ≠ some d)
      (priority : (s'.chan d).priority = (s.chan d).priority)
  | built (ok : Bool) (state : (s'.chan d).state = if ok then .empty else .transmit)
      (resp : s'.respChp ≠ some d) (sends : (sendingOf s s').isSome = true)
      (priority : (s'.chan d).priority =
        agedPriority (s'.chan d).state (if ok then 0 else 0xff))
  | sent (ok : Bool) (free : s.respChp ≠ some d)
      (state : (s'.chan d).state = if ok then
        (if (s.chan d).state = .txrespond then .rxresponse1 else .empty) else (s.chan d).state)
      (resp : s'.respChp = some d ↔ ok = true ∧ (s.chan d).state = .txrespond)
      (asm : Assembles s' d → Assembles s d) (sends : (sendingOf s s').isSome = true)
      (priority : (s'.chan d).priority =
        agedPriority (s'.chan d).state (if ok then 0 else (s.chan d).priority))
      (last : configuredLast d s'.hist = false)
  | reset (state : (s'.chan d).state = .disabled) (resp : s'.respChp ≠ some d)
      (priority : (s'.chan d).priority = 0)

/-- Every action has one of these effects. -/
theorem priorityEffect_step (b : Board σ) (s : Ctl σ) (a : Act) (d : Fin 6) :
    PriorityEffect b a d s (step b s a) := by
  have hnone {s : Ctl σ} (h : s.respChp = none) : s.respChp ≠ some d := by
    rw [h]
    simp
  have hsame (state : ((step b s a).chan d).state = (s.chan d).state)
      (resp : (step b s a).respChp = some d ↔ s.respChp = some d)
      (asm : Assembles (step b s a) d → Assembles s d)
      (track : (step b s a).track d = s.track d) : PriorityEffect b a d s (step b s a) := by
    obtain ⟨-, honly, -, hpriority⟩ := priority_of_track b (e := []) track
    rw [List.foldr_nil, state] at hpriority
    refine .same state resp asm ?_ ?_
    · split at hpriority
      · next hsends => exact .inr ⟨(honly hsends).1, hsends, hpriority⟩
      · exact .inl hpriority
    · rw [configuredLast_of_track track, configuredLast_track]
  have hcompleted {p : Packet.Content} {e : List Obs}
      (track : (step b s a).track d = e ++ s.track d) (hmem : .handed d p ∈ e) :
      PriorityEffect b a d s (step b s a) := by
    obtain ⟨ch, hact, hcomp, hcurr⟩ := completes_of_handed b track hmem
    exact .completed ch hact hcomp hcurr
  have hwaiting {st : ChState} (before : s.respChp = some d)
      (track : (step b s a).track d = .wait d st :: s.track d) :
      ((step b s a).chan d).priority = (s.chan d).priority :=
    priority_unaged b (e := [_]) track (.inr (.inl (by rw [before]; simp)))
  cases chanEffect_step b s a d with
  | same state content resp asm track => exact hsame state resp asm.mp track
  | claimed free state resp before after track =>
    refine .claimed (Nat.le_trans free (by decide)) state resp ?_ ?_
    · exact priority_unaged b (e := [_]) track (.inl (Nat.le_of_eq (congrArg ChState.toNat state)))
    · rw [configuredLast_of_track track, configuredLast_cons, configuredLast_track]
      rfl
  | edited before after state resp track => exact hsame state resp (fun _ ↦ before) track
  | left ch act leaves before after state content resp track =>
    exact hsame state resp (fun _ ↦ before) track
  | released p config before after state resp config_set track =>
    refine hcompleted (p := p) (e := .finish d :: (config ++ [.handed d p])) ?_ (by simp)
    rw [track, List.cons_append, List.append_assoc]
    rfl
  | queued ch p act queues before after state content resp track =>
    exact hcompleted (p := p) (e := [.ack d p, .handed d p]) track (by simp)
  | configured ch config act configures before after state content resp track =>
    refine .configured after ?_ ?_
    · rw [priority_unaged b (e := [.setChannel d config]) track
        (.inr (.inr fun _ _ h ↦ by rw [act] at h; cases h)), List.foldr_cons,
        Obs.rank_setChannel, if_pos rfl]
    · rw [configuredLast_of_track track]
      simp [configuredLast_cons]
  | waited act before early state resp asm track =>
    refine .waited before ?_ resp asm.mp (hwaiting before track) ?_
    · rw [state, ChState.toNat_next _ early]
    · rw [configuredLast_of_track track, configuredLast_cons, configuredLast_track]
      rfl
  | ended act before ends state resp asm track =>
    exact .ended act before ends state (hnone resp) (hwaiting before track)
  | built between inSend p ok act free due empty state content resp asm track =>
    have hsends := (priority_of_track b (e := [.send d .transmit p ok, .slot d p]) track).1 rfl
    refine .built ok state (hnone resp) hsends ?_
    rw [priority_aged b (e := [.send d .transmit p ok, .slot d p]) track rfl,
      List.foldr_cons, List.foldr_cons, List.foldr_nil, Obs.rank_slot, Obs.rank_send]
    simp only [true_and, if_true]
  | sent between inSend ok act free busy adding state content resp asm track =>
    have hsends := (priority_of_track b
      (e := [.send d (s.chan d).state (s.chan d).packet.content ok]) track).1 rfl
    refine .sent ok (hnone free) state resp asm.mp hsends ?_ ?_
    · rw [priority_aged b (e := [.send d (s.chan d).state (s.chan d).packet.content ok]) track
        rfl, List.foldr_cons, List.foldr_nil, Obs.rank_send]
      simp only [true_and]
    · rw [configuredLast_of_track track]
      simp [configuredLast_cons]
  | reset state resp after track =>
    refine .reset state (hnone resp) ?_
    exact priority_unaged b (e := [.reset]) track (.inl (by rw [state]; decide))

/-- A time slot has filled the channel the parser is filling. -/
def Overfilled (s : Ctl σ) (d : Fin 6) : Prop :=
  (s.chan d).state = .transmit ∧ s.respChp ≠ some d

instance (s : Ctl σ) (d : Fin 6) : Decidable (Overfilled s d) :=
  inferInstanceAs (Decidable (_ ∧ _))

/-- The channel that executing a packet sets. -/
def configured (p : Packet.Content) : Option (Fin 6) := (configOf p).map Prod.fst

/-- No response wait ends unless the channel that was waited for has been configured by
SET_CHANNEL and nothing was queued in it since, and no line is completed on a channel that a
time slot has filled, other than a SET_CHANNEL of the controller's own that names this
channel. -/
def ClearsPriority (b : Board σ) (s : Ctl σ) (a : Act) : Prop :=
  (a = .poll → ∀ c, s.respChp = some c → WaitEnds b s c → configuredLast c s.hist = true) ∧
    ∀ ch, a = .input ch → Completes s ch → Overfilled s s.currChp →
      IsLocal s.dev.radio ((filled ch s).chan s.currChp).packet.content ∧
        configured ((filled ch s).chan s.currChp).packet.content = some s.currChp

/-- A channel in DISABLED, READ, EMPTY or ADDING has priority 0. -/
def IdleZero (s : Ctl σ) : Prop :=
  ∀ d, (s.chan d).state.toNat ≤ ChState.adding.toNat → (s.chan d).priority = 0

/-- The priority that a packet should start with on channel `c`. -/
def startPriority (c : Fin 6) : Nat := (6 - c.val) * 8

/-- A packet that the action queues starts with the priority of its channel. -/
def StartsFresh (b : Board σ) (s : Ctl σ) (a : Act) : Prop :=
  ∀ ch c p, a = .input ch → Queues s ch c p →
    ((step b s a).chan c).priority.toNat = startPriority c

/-- One channel between two steps. -/
structure IdleInv (s : Ctl σ) (d : Fin 6) : Prop where
  idle : (s.chan d).state.toNat ≤ ChState.adding.toNat → (s.chan d).priority = 0
  filling : Assembles s d → (s.chan d).priority = if Overfilled s d then 0xff else 0
  low : Assembles s d → s.respChp ≠ some d →
    (s.chan d).state.toNat ≤ ChState.transmit.toNat
  waiting : s.respChp = some d → ((s.chan d).priority = 0 ↔ configuredLast d s.hist = true)

/-- What becomes of the channel whose packet is completed. -/
inductive Completion (s s' : Ctl σ) (ch : UInt8) (p : Packet.Content) : Prop
  | executed (own : IsLocal s.dev.radio p) (state : (s'.chan s.currChp).state = .empty)
      (priority : (s'.chan s.currChp).priority =
        if configured p = some s.currChp then 0 else (s.chan s.currChp).priority)
      (last : configuredLast s.currChp s'.hist =
        (decide (configured p = some s.currChp) || configuredLast s.currChp s.hist))
  | refused (own : ¬ IsLocal s.dev.radio p)
      (active : s.dev.radio.state ≠ LIBRADIO_STATE_ACTIVE)
      (state : (s'.chan s.currChp).state = .empty)
      (priority : (s'.chan s.currChp).priority = (s.chan s.currChp).priority)
      (last : configuredLast s.currChp s'.hist = configuredLast s.currChp s.hist)
  | queued (queues : Queues s ch s.currChp p) (state : (s'.chan s.currChp).state.IsQueued)
      (priority : (s'.chan s.currChp).priority =
        queuePriority s.currChp (s.chan s.currChp).priority)
      (last : configuredLast s.currChp s'.hist = false)

/-- Every character that completes a packet is a completion. -/
theorem completion_of_completes (b : Board σ) {s : Ctl σ} {ch : UInt8} (h : Completes s ch) :
    Completion s (step b s (.input ch)) ch ((filled ch s).chan s.currChp).packet.content := by
  obtain ⟨enqueued, -⟩ := enqueued_of_completes b h
  obtain ⟨-, -, -, -, hdev, hfilled⟩ := filled_spec ch s
  obtain ⟨p, hp⟩ : ∃ p, ((filled ch s).chan s.currChp).packet.content = p := ⟨_, rfl⟩
  have hrank {e : List Obs} (track : (step b s (.input ch)).track s.currChp =
      e ++ s.track s.currChp) := priority_unaged b track (.inr (.inr fun _ _ h ↦ by cases h))
  rw [hp]
  cases hp ▸ enqueued.fate with
  | executed code own state others hist =>
    have htrack : (step b s (.input ch)).track s.currChp = (.finish s.currChp ::
        ((configObs p).filter (Obs.concerns s.currChp) ++ [.handed s.currChp p])) ++
          s.track s.currChp := by
      rw [track, step, hist, hfilled, track]
      simp [Obs.concerns, List.filter_append]
    have hpriority := hrank htrack
    have hlast := configuredLast_of_track htrack
    rw [List.cons_append, List.append_assoc, configuredLast_cons] at hlast
    refine .executed (hdev ▸ own) state (hpriority.trans ?_) (hlast.trans ?_)
    · unfold configObs configured
      cases configOf p with
      | none => rfl
      | some cc =>
        by_cases hc : cc.1 = s.currChp
        · simp [Obs.concerns, hc]
        · simp [Obs.concerns, hc]
    · rw [← configuredLast_track s s.currChp]
      unfold configObs configured
      cases configOf p with
      | none => rfl
      | some cc =>
        by_cases hc : cc.1 = s.currChp
        · simp [Obs.concerns, configuredLast_cons, hc]
        · simp [Obs.concerns, configuredLast_cons, hc]
  | refused own active state others hist =>
    have htrack : (step b s (.input ch)).track s.currChp =
        [.finish s.currChp, .handed s.currChp p] ++ s.track s.currChp := by
      rw [track, step, hist, hfilled, track]
      simp [Obs.concerns]
    refine .refused (hdev ▸ own) (hdev ▸ active) state (hrank htrack)
      ((configuredLast_of_track htrack).trans ?_)
    exact configuredLast_track s s.currChp
  | queued own active state others hist =>
    have htrack : (step b s (.input ch)).track s.currChp =
        [.ack s.currChp p, .handed s.currChp p] ++ s.track s.currChp := by
      rw [track, step, hist, hfilled, track]
      simp [Obs.concerns]
    refine .queued ⟨by rw [completed, if_pos h, hp], hdev ▸ own, hdev ▸ active⟩ state ?_
      ((configuredLast_of_track htrack).trans ?_)
    · rw [hrank htrack, List.foldr_cons, Obs.rank_ack, if_pos rfl]
      rfl
    · simp [configuredLast_cons]

/-! ### One action -/

/-- A full priority is not aged. -/
theorem agedPriority_full (st : ChState) : agedPriority st 0xff = 0xff :=
  if_neg fun h ↦ absurd h.2 (by decide)

-- Aging leaves the channel that the parser is filling as it is.
private theorem IdleInv.aged {s : Ctl σ} {d : Fin 6} (h : IdleInv s d) (hasm : Assembles s d)
    (hresp : s.respChp ≠ some d) :
    agedPriority (s.chan d).state (s.chan d).priority = (s.chan d).priority := by
  rw [h.filling hasm]
  by_cases hover : Overfilled s d
  · rw [if_pos hover]
    exact agedPriority_full _
  · have hlow := h.low hasm hresp
    have hne : (s.chan d).state ≠ .transmit := fun hst ↦ hover ⟨hst, hresp⟩
    have hle : (s.chan d).state.toNat ≤ ChState.adding.toNat := by
      rcases Nat.lt_or_eq_of_le hlow with hlt | heq
      · exact Nat.le_of_lt_succ hlt
      · exact absurd (ChState.toNat_inj.mp heq) hne
    exact agedPriority_of_le hle _

-- A channel that is idle, or is being filled, and has priority 0.
private theorem IdleInv.of_zero {s : Ctl σ} {d : Fin 6}
    (hle : (s.chan d).state.toNat ≤ ChState.adding.toNat) (hzero : (s.chan d).priority = 0)
    (hwait : s.respChp = some d → configuredLast d s.hist = true) : IdleInv s d := by
  have hnot : ¬ Overfilled s d := fun hover ↦ by
    rw [hover.1] at hle
    exact absurd hle (by decide)
  constructor
  · intro _
    exact hzero
  · intro _
    rw [if_neg hnot]
    exact hzero
  · intro _ _
    exact Nat.le_trans hle (by decide)
  · intro hr
    exact iff_of_true hzero (hwait hr)

-- An action that leaves the state of a channel as it is, and its priority or ages it.
private theorem IdleInv.of_same {s s' : Ctl σ} {d : Fin 6} (h : IdleInv s d)
    (state : (s'.chan d).state = (s.chan d).state)
    (resp : s'.respChp = some d ↔ s.respChp = some d) (asm : Assembles s' d → Assembles s d)
    (priority : (s'.chan d).priority = (s.chan d).priority ∨ (s.respChp ≠ some d ∧
      (s'.chan d).priority = agedPriority (s.chan d).state (s.chan d).priority))
    (last : s.respChp = some d → configuredLast d s'.hist = configuredLast d s.hist) :
    IdleInv s' d := by
  have hover : Overfilled s' d ↔ Overfilled s d := by
    rw [Overfilled, Overfilled, state, Ne, Ne, resp]
  constructor
  · intro hle
    rw [state] at hle
    rcases priority with hkept | ⟨-, haged⟩
    · rw [hkept]
      exact h.idle hle
    · rw [haged, agedPriority_of_le hle]
      exact h.idle hle
  · intro ha
    simp only [hover]
    rcases priority with hkept | ⟨hfree, haged⟩
    · rw [hkept]
      exact h.filling (asm ha)
    · rw [haged, h.aged (asm ha) hfree]
      exact h.filling (asm ha)
  · intro ha hne
    rw [state]
    exact h.low (asm ha) fun hs ↦ hne (resp.mpr hs)
  · intro hr
    have hr' := resp.mp hr
    rw [priority.resolve_right fun haged ↦ haged.1 hr', last hr']
    exact h.waiting hr'

/-- A packet that is completed was being assembled. -/
theorem assembles_of_completes {s : Ctl σ} {ch : UInt8} (h : Completes s ch) :
    Assembles s s.currChp := by
  rcases h with ⟨hst, -⟩ | ⟨hst, -⟩ <;> exact ⟨by rw [hst]; decide, rfl⟩

-- The completion of a packet.
private theorem IdleInv.of_completes {b : Board σ} {s : Ctl σ} {ch : UInt8}
    (h : IdleInv s s.currChp) (hcomp : Completes s ch)
    (hg : ClearsPriority b s (.input ch)) : IdleInv (step b s (.input ch)) s.currChp := by
  have hasm := assembles_of_completes hcomp
  obtain ⟨enqueued, hafter⟩ := enqueued_of_completes b hcomp
  have hresp : (step b s (.input ch)).respChp = s.respChp :=
    enqueued.respChp.trans (filled_spec ch s).2.2.1
  have hfill := h.filling hasm
  have hguard := hg.2 ch rfl hcomp
  refine ⟨?_, fun ha ↦ absurd ha.1 hafter, fun ha ↦ absurd ha.1 hafter, ?_⟩
  · intro hle
    cases completion_of_completes b hcomp with
    | executed own state priority last =>
      rw [priority, hfill]
      split
      · rfl
      · next hno => exact if_neg fun hover ↦ hno (hguard hover).2
    | refused own active state priority last =>
      rw [priority, hfill]
      exact if_neg fun hover ↦ own (hguard hover).1
    | queued queues state priority last => exact absurd state (ChState.not_isQueued_of_le hle)
  · intro hr
    rw [hresp] at hr
    have hnot : ¬ Overfilled s s.currChp := fun hover ↦ hover.2 hr
    rw [if_neg hnot] at hfill
    have hlast := (h.waiting hr).mp hfill
    cases completion_of_completes b hcomp with
    | executed own state priority last =>
      rw [priority, last, hfill, hlast, ite_self, Bool.or_true]
      exact iff_of_true rfl rfl
    | refused own active state priority last =>
      rw [priority, last, hfill, hlast]
      exact iff_of_true rfl rfl
    | queued queues state priority last =>
      rw [priority, last]
      exact iff_of_false (queuePriority_ne_zero _ _) Bool.false_ne_true

/-- Every action that clears the priorities keeps the invariant. -/
theorem idleInv_step (b : Board σ) (s : Ctl σ) (a : Act) (h : ∀ d, IdleInv s d)
    (hg : ClearsPriority b s a) (d : Fin 6) : IdleInv (step b s a) d := by
  obtain ⟨hidle, hfill, hlow, hwait⟩ := id (h d)
  have hle {st : ChState} (state : ((step b s a).chan d).state = st)
      (hst : st.toNat ≤ ChState.adding.toNat) :
      ((step b s a).chan d).state.toNat ≤ ChState.adding.toNat := by
    rw [state]
    exact hst
  cases priorityEffect_step b s a d with
  | same state resp asm priority last =>
    refine (h d).of_same state resp asm (priority.imp_right fun haged ↦ ⟨?_, haged.2.2⟩)
      fun _ ↦ last
    rw [haged.1]
    simp
  | claimed free state resp priority last =>
    have hzero := hidle free
    refine .of_zero (hle state (by decide)) (priority.trans hzero) fun hr ↦ ?_
    rw [last]
    exact (hwait (resp.mp hr)).mp hzero
  | completed ch act completes curr =>
    subst act curr
    exact (h s.currChp).of_completes completes hg
  | configured after priority last =>
    exact ⟨fun _ ↦ priority, fun ha ↦ absurd ha.1 after, fun ha ↦ absurd ha.1 after,
      fun _ ↦ iff_of_true priority last⟩
  | waited before state resp asm priority last =>
    have hnot : ¬ Overfilled s d := fun hover ↦ hover.2 before
    have hnot' : ¬ Overfilled (step b s a) d := fun hover ↦ hover.2 resp
    refine ⟨fun hlow ↦ ?_, fun ha ↦ ?_, fun _ hne ↦ absurd resp hne, fun _ ↦ ?_⟩
    · rw [priority]
      apply hidle
      rw [state] at hlow
      exact Nat.le_of_succ_le hlow
    · have hzero := hfill (asm ha)
      rw [if_neg hnot] at hzero
      rw [if_neg hnot', priority, hzero]
    · rw [priority, last]
      exact hwait before
  | ended act before ends state resp priority =>
    have hzero : (s.chan d).priority = 0 := (hwait before).mpr (hg.1 act d before ends)
    exact .of_zero (hle state (by decide)) (priority.trans hzero) fun hr ↦ absurd hr resp
  | built ok state resp sends priority =>
    rw [state] at priority
    cases ok with
    | true => exact .of_zero (hle state (by decide)) priority fun hr ↦ absurd hr resp
    | false =>
      have hover : Overfilled (step b s a) d := ⟨state, resp⟩
      refine ⟨fun hle ↦ ?_, fun _ ↦ ?_, fun _ _ ↦ ?_, fun hr ↦ absurd hr resp⟩
      · rw [state] at hle
        exact absurd hle (by decide)
      · rw [if_pos hover]
        exact priority
      · exact Nat.le_of_eq (congrArg ChState.toNat state)
  | sent ok free state resp asm sends priority last =>
    rw [state] at priority
    cases ok with
    | false =>
      have hnone : (step b s a).respChp ≠ some d := fun hr ↦ Bool.false_ne_true (resp.mp hr).1
      exact (h d).of_same state (iff_of_false hnone free) asm (.inr ⟨free, priority⟩)
        fun hr ↦ absurd hr free
    | true =>
      rw [if_pos rfl] at state
      rw [if_pos rfl, if_pos rfl] at priority
      by_cases htx : (s.chan d).state = .txrespond
      · have hidle' : ¬ Assembles (step b s a) d := fun ha ↦ by
          have hle := hlow (asm ha) free
          rw [htx] at hle
          exact absurd hle (by decide)
        rw [if_pos htx] at state priority
        refine ⟨fun hle ↦ ?_, fun ha ↦ absurd ha hidle', fun ha ↦ absurd ha hidle', fun _ ↦ ?_⟩
        · rw [state] at hle
          exact absurd hle (by decide)
        · rw [priority, last]
          exact iff_of_false (by decide) Bool.false_ne_true
      · rw [if_neg htx] at state priority
        exact .of_zero (hle state (by decide)) priority fun hr ↦ absurd (resp.mp hr).2 htx
  | reset state resp priority =>
    exact .of_zero (hle state (by decide)) priority fun hr ↦ absurd hr resp

private theorem completed_eq {s : Ctl σ} {ch : UInt8} {c : Fin 6} {p : Packet.Content}
    (h : completed ch s = some (c, p)) :
    Completes s ch ∧ s.currChp = c ∧ ((filled ch s).chan s.currChp).packet.content = p := by
  unfold completed at h
  split at h
  · next hcomp =>
    cases h
    exact ⟨hcomp, rfl, rfl⟩
  · cases h

/-- The priority of a channel that had none. -/
theorem toNat_queuePriority_zero (c : Fin 6) :
    (queuePriority c 0).toNat = startPriority c := by
  revert c
  decide

/-- A full priority is not one to start with. -/
theorem full_ne_startPriority (c : Fin 6) : (queuePriority c 0xff).toNat ≠ startPriority c := by
  revert c
  decide

/-- A queued packet starts on a channel without a priority, if the priorities are cleared. -/
theorem startsFresh_of_clears (b : Board σ) {s : Ctl σ} {a : Act} (h : ∀ d, IdleInv s d)
    (hg : ClearsPriority b s a) : StartsFresh b s a := by
  rintro ch c p rfl hq
  obtain ⟨hcomp, rfl, hp⟩ := completed_eq hq.1
  have hfill := (h s.currChp).filling (assembles_of_completes hcomp)
  cases completion_of_completes b hcomp with
  | executed own state priority last => exact absurd own (hp ▸ hq.2.1)
  | refused own active state priority last => exact absurd hq.2.2 active
  | queued queues state priority last =>
    have hnot : ¬ Overfilled s s.currChp := fun hover ↦
      absurd (hg.2 ch rfl hcomp hover).1 queues.2.1
    rw [priority, hfill, if_neg hnot]
    exact toNat_queuePriority_zero s.currChp

/-- The priorities are cleared by an action that leaves the idle channels without one and
queues no packet over another priority. -/
theorem clears_of_idleZero (b : Board σ) {s : Ctl σ} {a : Act} (h : ∀ d, IdleInv s d)
    (hidle : IdleZero (step b s a)) (hfresh : StartsFresh b s a) : ClearsPriority b s a := by
  constructor
  · rintro rfl c hresp hends
    cases effect_poll b s with
    | idle none eq =>
      rw [hresp] at none
      cases none
    | waiting d some going own others respChp parser hist =>
      obtain rfl : c = d := Option.some.inj (hresp.symm.trans some)
      exact absurd hends going
    | ended d some ends own others respChp parser hist =>
      obtain rfl : c = d := Option.some.inj (hresp.symm.trans some)
      have htrack : (step b s .poll).track c = [.wait c .empty] ++ s.track c := by
        rw [track, step, hist, track]
        simp [Obs.concerns]
      have hkept : ((step b s .poll).chan c).priority = (s.chan c).priority :=
        priority_unaged b htrack (.inr (.inl (by rw [hresp]; simp)))
      have hzero := hidle c (by rw [step, own]; decide)
      exact ((h c).waiting hresp).mp (hkept.symm.trans hzero)
  · rintro ch rfl hcomp hover
    have hfill := (h s.currChp).filling (assembles_of_completes hcomp)
    rw [if_pos hover] at hfill
    cases completion_of_completes b hcomp with
    | executed own state priority last =>
      refine ⟨own, Decidable.byContradiction fun hno ↦ ?_⟩
      have hzero := hidle s.currChp (by rw [state]; decide)
      rw [priority, if_neg hno, hfill] at hzero
      cases hzero
    | refused own active state priority last =>
      have hzero := hidle s.currChp (by rw [state]; decide)
      rw [priority, hfill] at hzero
      cases hzero
    | queued queues state priority last =>
      have hstart := hfresh ch s.currChp _ rfl queues
      rw [priority, hfill] at hstart
      exact absurd hstart (full_ne_startPriority s.currChp)

/-- For every run of the controller: in every state reached the idle channels have priority 0,
and every packet queued on the way started with the priority of its channel, exactly if no
step of the run leaves a priority behind. A lower channel starts ahead of a higher one. -/
theorem idle_priority_iff (b : Board σ) (chip : σ) (eeprom : UInt16 → UInt8)
    (beyondData : UInt8) (acts : List Act) :
    (((∀ pre, pre <+: acts → IdleZero (run (step b) (start b chip eeprom beyondData) pre)) ∧
        Along (step b) (StartsFresh b) (start b chip eeprom beyondData) acts) ↔
      Along (step b) (ClearsPriority b) (start b chip eeprom beyondData) acts) ∧
    ∀ c d : Fin 6, c < d → startPriority d < startPriority c := by
  have hinit (d : Fin 6) : IdleInv (start b chip eeprom beyondData) d := by
    obtain ⟨-, hresp, hasm, -⟩ := chan_start b chip eeprom beyondData d
    refine ⟨fun _ ↦ ?_, fun ha ↦ absurd ha.1 hasm, fun ha ↦ absurd ha.1 hasm, fun hr ↦ ?_⟩
    · rw [start, (boot_fresh b _).1 d]
      rfl
    · rw [hresp] at hr
      cases hr
  have hzero : IdleZero (start b chip eeprom beyondData) := fun d ↦ (hinit d).idle
  constructor
  · rw [forall_prefix_iff, and_iff_right hzero, ← along_and]
    apply along_iff_of_inv (step b) (I := fun s ↦ ∀ d, IdleInv s d)
    · exact fun s a h hg d ↦ idleInv_step b s a h hg d
    · intro s a h
      constructor
      · rintro ⟨hidle, hfresh⟩
        exact clears_of_idleZero b h hidle hfresh
      · intro hg
        exact ⟨fun d ↦ (idleInv_step b s a h hg d).idle, startsFresh_of_clears b h hg⟩
    · exact hinit
  · intro c d h
    have hc := c.isLt
    have hd := d.isLt
    have hlt : c.val < d.val := h
    simp only [startPriority]
    omega

/-- A radio that is ready and has room for a packet. -/
def readyBoard : Board Nat := .scripted fun _ i ↦ if i = 0 then SI4463_STATE_READY else 64

/-- The characters of a text, each in a pass of its own. -/
def typed (t : String) : List Act :=
  (characters t).flatMap fun ch ↦ [.poll, .input ch, .check 0 0]

/-- The controller is activated as node 1 and sends a STATUS request to node 7 on channel A,
which nobody answers: four passes later channel A is EMPTY with priority 2. -/
theorem wait_leaves_priority :
    ¬ IdleZero (run (step readyBoard) (start readyBoard 0 (fun _ ↦ 0) 0)
      (typed ">A0:3:0,1,0.\n>A7:2:0,7,0.\n" ++
        (List.replicate 4 [.poll, .check 0 0]).flatten)) := by
  intro h
  have hzero := h 0 (by decide +kernel)
  revert hzero
  decide +kernel

end Ctl
end Libradio
