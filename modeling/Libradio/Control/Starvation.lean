import Libradio.Base.Aging
import Libradio.Control.IdlePriority
import Libradio.Control.ResponseWait

/-!
# No channel starves

The priority scan of `tx_check_queues` serves a channel with the highest priority and raises the
others (`src/control/transmit.c:116-159`). A packet that waits is overtaken only a bounded
number of times, since whoever is sent starts again with a low priority. What can keep a packet
from being sent is the response wait: a packet queued on the channel `resp_chp` still points to
is stepped away by the main loop (`src/control/main.c:104-110`).
-/

namespace Libradio
open Libradio.Base

namespace Ctl

variable {σ : Type}

/-! ### The priorities do not wrap around -/

/-- What an entry does to a priority that is not bounded. -/
def unboundedRank (d : Fin 6) (o : Obs) (old : Nat) : Nat :=
  match o with
  | .ack c _ => if c = d then
      (if old = 0 then startPriority d else if old < 0xfc then old + 1 else old) else old
  | .setChannel c _ => if c = d then 0 else old
  | .slot c _ => if c = d then 0xff else old
  | .send c _ _ ok => if c = d ∧ ok then 0 else old
  | .reset => 0
  | _ => old

/-- The last loop of `tx_check_queues` over a priority that is not bounded. -/
def unboundedAge (st : ChState) (old : Nat) : Nat :=
  if ChState.transmit.toNat ≤ st.toNat ∧ old < 0xfc then old + 2 else old

private theorem toNat_add_of_lt {x y : UInt8} (h : x.toNat + y.toNat < 256) :
    (x + y).toNat = x.toNat + y.toNat := by
  rw [UInt8.toNat_add]
  exact Nat.mod_eq_of_lt h

private theorem toNat_agedPriority (st : ChState) (old : UInt8) :
    (agedPriority st old).toNat = unboundedAge st old.toNat := by
  have hlt : old < 0xfc ↔ old.toNat < 0xfc := UInt8.lt_iff_toNat_lt
  unfold agedPriority unboundedAge
  simp only [hlt]
  split
  · next h => exact toNat_add_of_lt (Nat.lt_of_lt_of_le (Nat.add_lt_add_right h.2 2) (by decide))
  · rfl

private theorem toNat_queuePriority (d : Fin 6) (old : UInt8) :
    (queuePriority d old).toNat =
      if old.toNat = 0 then startPriority d
      else if old.toNat < 0xfc then old.toNat + 1 else old.toNat := by
  have hlt : old < 0xfc ↔ old.toNat < 0xfc := UInt8.lt_iff_toNat_lt
  have hzero : old = 0 ↔ old.toNat = 0 := UInt8.toNat_inj.symm
  by_cases h : old = 0
  · rw [if_pos (hzero.mp h), h]
    exact toNat_queuePriority_zero d
  · rw [if_neg (mt hzero.mpr h), queuePriority, if_neg h]
    simp only [hlt]
    split
    · next h => exact toNat_add_of_lt (Nat.lt_of_lt_of_le (Nat.add_lt_add_right h 1) (by decide))
    · rfl

private theorem toNat_rank (d : Fin 6) (o : Obs) (old : UInt8) :
    (o.rank d old).toNat = unboundedRank d o old.toNat := by
  cases o with
  | ack c p =>
    rw [Obs.rank_ack, apply_ite UInt8.toNat, toNat_queuePriority]
    rfl
  | setChannel c config => exact apply_ite UInt8.toNat (c = d) 0 old
  | slot c p => exact apply_ite UInt8.toNat (c = d) 0xff old
  | send c st p ok => exact apply_ite UInt8.toNat (c = d ∧ ok) 0 old
  | _ => rfl

private theorem toNat_foldr_rank (d : Fin 6) (new : List Obs) (old : UInt8) :
    (new.foldr (Obs.rank d) old).toNat = new.foldr (unboundedRank d) old.toNat := by
  induction new with
  | nil => rfl
  | cons o new ih => rw [List.foldr_cons, List.foldr_cons, toNat_rank, ih]

/-- The priorities after an action are those of unbounded numbers. -/
def NoWrap (s s' : Ctl σ) : Prop :=
  ∃ new, s'.hist = new ++ s.hist ∧ ∀ d, (s'.chan d).priority.toNat =
    if new.any Obs.isSend then
      unboundedAge (s'.chan d).state (new.foldr (unboundedRank d) (s.chan d).priority.toNat)
    else new.foldr (unboundedRank d) (s.chan d).priority.toNat

/-- No action makes a priority wrap around. -/
theorem noWrap_step (b : Board σ) (s : Ctl σ) (a : Act) : NoWrap s (step b s a) := by
  obtain ⟨new, hrises, -⟩ := rises_step b s a
  refine ⟨new, hrises.hist, fun d ↦ ?_⟩
  rw [hrises.priority, hrises.sends, ← toNat_foldr_rank, apply_ite UInt8.toNat, toNat_agedPriority]

/-! ### Priorities that are left behind -/

/-- One channel between two steps: while it is waited for, and while it is idle, its priority is
low, unless a time slot has filled it under the parser. -/
structure LevelInv (s : Ctl σ) (d : Fin 6) : Prop where
  waited : s.respChp = some d → (s.chan d).priority.toNat ≤ 48 ∧
    ((s.chan d).state.toNat ≤ ChState.adding.toNat ∨ Assembles s d →
      (s.chan d).priority.toNat ≤ 2)
  idle : (s.chan d).state.toNat ≤ ChState.adding.toNat →
    (s.chan d).priority.toNat ≤ 48 ∨ (s.chan d).priority = 0xff
  filling : Assembles s d → s.respChp ≠ some d →
    ChState.adding.toNat < (s.chan d).state.toNat → (s.chan d).priority = 0xff

/-- The channel a line is being read into. -/
theorem LevelInv.assembled {s : Ctl σ} {d : Fin 6} (h : LevelInv s d) (ha : Assembles s d) :
    (s.chan d).priority.toNat ≤ 48 ∨ (s.chan d).priority = 0xff := by
  by_cases hr : s.respChp = some d
  · exact .inl (h.waited hr).1
  · rcases Nat.lt_or_ge ChState.adding.toNat (s.chan d).state.toNat with hlt | hle
    · exact .inr (h.filling ha hr hlt)
    · exact h.idle hle

private theorem startPriority_le (d : Fin 6) : startPriority d ≤ 48 := by
  unfold startPriority
  omega

-- An action that leaves the state of a channel as it is, and its priority or ages it.
private theorem LevelInv.of_same {s s' : Ctl σ} {d : Fin 6} (h : LevelInv s d)
    (state : (s'.chan d).state = (s.chan d).state)
    (resp : s'.respChp = some d ↔ s.respChp = some d) (asm : Assembles s' d → Assembles s d)
    (priority : (s'.chan d).priority = (s.chan d).priority ∨ (s.respChp ≠ some d ∧
      (s'.chan d).priority = agedPriority (s.chan d).state (s.chan d).priority)) :
    LevelInv s' d := by
  refine ⟨fun hr ↦ ?_, fun hle ↦ ?_, fun ha hne hlt ↦ ?_⟩
  · have hr' := resp.mp hr
    obtain ⟨hlow, hidle⟩ := h.waited hr'
    rw [priority.resolve_right fun haged ↦ haged.1 hr', state]
    exact ⟨hlow, fun hor ↦ hidle (hor.imp_right asm)⟩
  · rw [state] at hle
    rcases priority with hkept | ⟨-, haged⟩
    · rw [hkept]
      exact h.idle hle
    · rw [haged, agedPriority_of_le hle]
      exact h.idle hle
  · rw [state] at hlt
    have hfull := h.filling (asm ha) (fun hr ↦ hne (resp.mpr hr)) hlt
    rcases priority with hkept | ⟨-, haged⟩
    · rw [hkept, hfull]
    · rw [haged, hfull, agedPriority_full]

-- An action after which the channel is idle or queued, nobody waits for it and the parser is not on
-- it.
private theorem LevelInv.of_idle {s : Ctl σ} {d : Fin 6}
    (idle : (s.chan d).priority.toNat ≤ 48 ∨ (s.chan d).priority = 0xff)
    (low : (s.chan d).state.toNat ≤ ChState.adding.toNat)
    (waited : s.respChp = some d → (s.chan d).priority.toNat ≤ 2) : LevelInv s d :=
  ⟨fun hr ↦ ⟨Nat.le_trans (waited hr) (by decide), fun _ ↦ waited hr⟩, fun _ ↦ idle,
    fun _ _ hlt ↦ absurd low (Nat.not_le.mpr hlt)⟩

-- The completion of a packet.
private theorem LevelInv.of_completes {b : Board σ} {s : Ctl σ} {ch : UInt8}
    (h : LevelInv s s.currChp) (hcomp : Completes s ch) :
    LevelInv (step b s (.input ch)) s.currChp := by
  have hasm := assembles_of_completes hcomp
  obtain ⟨enqueued, hafter⟩ := enqueued_of_completes b hcomp
  have hresp : (step b s (.input ch)).respChp = s.respChp :=
    enqueued.respChp.trans (filled_spec ch s).2.2.1
  have hidle := h.assembled hasm
  have hwaited : (step b s (.input ch)).respChp = some s.currChp →
      (s.chan s.currChp).priority.toNat ≤ 2 := fun hr ↦
    (h.waited (hresp ▸ hr)).2 (.inr hasm)
  cases completion_of_completes b hcomp with
  | executed own state priority last =>
    apply LevelInv.of_idle
    · rw [priority]
      split
      · exact .inl (by decide)
      · exact hidle
    · rw [state]
      decide
    · intro hr
      rw [priority]
      split
      · decide
      · exact hwaited hr
  | refused own active state priority last =>
    apply LevelInv.of_idle
    · rw [priority]
      exact hidle
    · rw [state]
      decide
    · intro hr
      rw [priority]
      exact hwaited hr
  | queued queues state priority last =>
    have hqueued : ¬ ((step b s (.input ch)).chan s.currChp).state.toNat ≤ ChState.adding.toNat :=
      fun hle ↦ ChState.not_isQueued_of_le hle state
    refine ⟨fun hr ↦ ⟨?_, fun hor ↦ ?_⟩, fun hle ↦ absurd hle hqueued, fun ha ↦ absurd ha.1 hafter⟩
    · have hlow := hwaited hr
      have hstart := startPriority_le s.currChp
      rw [priority, toNat_queuePriority]
      split
      · exact hstart
      · split <;> omega
    · rcases hor with hle | ha
      · exact absurd hle hqueued
      · exact absurd ha.1 hafter

/-- Every action keeps the priorities that are left behind low. -/
theorem levelInv_step (b : Board σ) (s : Ctl σ) (a : Act) (d : Fin 6) (h : LevelInv s d) :
    LevelInv (step b s a) d := by
  have hle {st : ChState} (state : ((step b s a).chan d).state = st)
      (hst : st.toNat ≤ ChState.adding.toNat) :
      ((step b s a).chan d).state.toNat ≤ ChState.adding.toNat := by
    rw [state]
    exact hst
  cases priorityEffect_step b s a d with
  | same state resp asm priority last =>
    refine h.of_same state resp asm (priority.imp_right fun haged ↦ ⟨?_, haged.2.2⟩)
    rw [haged.1]
    simp
  | claimed free state resp priority last =>
    apply LevelInv.of_idle
    · rw [priority]
      exact h.idle free
    · exact hle state (by decide)
    · intro hr
      rw [priority]
      exact (h.waited (resp.mp hr)).2 (.inl free)
  | completed ch act completes curr =>
    subst act curr
    exact h.of_completes completes
  | configured after priority last =>
    refine ⟨fun _ ↦ ⟨?_, fun _ ↦ ?_⟩, fun _ ↦ .inl ?_, fun ha ↦ absurd ha.1 after⟩
    all_goals
      rw [priority]
      decide
  | waited before state resp asm priority last =>
    obtain ⟨hlow, hidle⟩ := h.waited before
    rw [← priority] at hlow hidle
    refine ⟨fun _ ↦ ⟨hlow, fun hor ↦ hidle ?_⟩, fun _ ↦ .inl hlow, fun _ hne ↦ absurd resp hne⟩
    rcases hor with hle | ha
    · exact .inl (by omega)
    · exact .inr (asm ha)
  | ended act before ends state resp priority =>
    apply LevelInv.of_idle
    · rw [priority]
      exact .inl (h.waited before).1
    · exact hle state (by decide)
    · exact fun hr ↦ absurd hr resp
  | built ok state resp sends priority =>
    rw [state] at priority
    cases ok with
    | true =>
      apply LevelInv.of_idle
      · rw [priority]
        exact .inl (by decide)
      · exact hle state (by decide)
      · exact fun hr ↦ absurd hr resp
    | false => exact ⟨fun hr ↦ absurd hr resp, fun _ ↦ .inr priority, fun _ _ _ ↦ priority⟩
  | sent ok free state resp asm sends priority last =>
    cases ok with
    | false =>
      rw [if_neg Bool.false_ne_true] at state priority
      rw [state] at priority
      exact h.of_same state (iff_of_false (fun hr ↦ Bool.false_ne_true (resp.mp hr).1) free) asm
        (.inr ⟨free, priority⟩)
    | true =>
      rw [if_pos rfl] at state priority
      have hlow : ((step b s a).chan d).priority.toNat ≤ 2 := by
        rw [priority, toNat_agedPriority, unboundedAge]
        split <;> decide
      refine ⟨fun _ ↦ ⟨Nat.le_trans hlow (by decide), fun _ ↦ hlow⟩,
        fun _ ↦ .inl (Nat.le_trans hlow (by decide)), fun _ hne hlt ↦ ?_⟩
      rw [state] at hlt
      split at hlt
      · next htx => exact absurd (resp.mpr ⟨rfl, htx⟩) hne
      · exact absurd hlt (by decide)
  | reset state resp priority =>
    apply LevelInv.of_idle
    · rw [priority]
      exact .inl (by decide)
    · exact hle state (by decide)
    · exact fun hr ↦ absurd hr resp

/-! ### The priority scan -/

/-- The scan chooses a ready channel with the highest priority. -/
theorem le_of_pickReady {s : Ctl σ} {n : Fin 6} (h : pickReady s = some n) {d : Fin 6}
    (hd : IsReady (s.chan d)) : (s.chan d).priority.toNat ≤ (s.chan n).priority.toNat := by
  -- the best so far is at least as high as every ready channel that has been looked at
  have hfold (cs seen : List (Fin 6)) (best : Option (Fin 6))
      (hbest : ∀ d ∈ seen, IsReady (s.chan d) →
        ∃ n, best = some n ∧ (s.chan d).priority.toNat ≤ (s.chan n).priority.toNat) :
      ∀ d ∈ seen ++ cs, IsReady (s.chan d) → ∃ n, cs.foldl (scanReady s) best = some n ∧
        (s.chan d).priority.toNat ≤ (s.chan n).priority.toNat := by
    induction cs generalizing seen best with
    | nil =>
      rw [List.append_nil]
      exact hbest
    | cons c cs ih =>
      rw [List.foldl_cons, ← List.singleton_append, ← List.append_assoc]
      apply ih
      intro d hd hready
      unfold scanReady
      rcases List.mem_append.mp hd with hseen | hc
      · obtain ⟨n, rfl, hle⟩ := hbest d hseen hready
        dsimp only
        split
        · split
          · next hgt =>
            exact ⟨c, rfl, Nat.le_trans hle (Nat.le_of_lt (UInt8.lt_iff_toNat_lt.mp hgt))⟩
          · exact ⟨n, rfl, hle⟩
        · exact ⟨n, rfl, hle⟩
      · obtain rfl := List.mem_singleton.mp hc
        rw [if_pos hready]
        cases best with
        | none => exact ⟨d, rfl, Nat.le_refl _⟩
        | some n =>
          dsimp only
          split
          · exact ⟨d, rfl, Nat.le_refl _⟩
          · next hle => exact ⟨n, rfl, UInt8.le_iff_toNat_le.mp (UInt8.not_lt.mp hle)⟩
  obtain ⟨m, hm, hle⟩ := hfold (List.finRange 6) [] none (fun d hd ↦ absurd hd List.not_mem_nil)
    d (List.mem_finRange d) hd
  obtain rfl : n = m := Option.some.inj (h.symm.trans hm)
  exact hle

/-- A send outside the time slots is of the channel that the scan chooses. -/
theorem picked_of_sending (b : Board σ) {between inSend : Nat} {s : Ctl σ} {x : Sending}
    (hslot : s.respChp = none → slotDue between s = none)
    (h : sendingOf s (step b s (.check between inSend)) = some x) :
    pickReady s = some x.channel ∧
      (step b s (.check between inSend)).hist =
        .send x.channel x.state x.packet x.ok :: s.hist := by
  have hsome : (sendingOf s (step b s (.check between inSend))).isSome := by rw [h]; rfl
  have hfree : s.respChp = none := by
    obtain ⟨new, -, honly, -⟩ := rises_step b s (.check between inSend)
    exact (honly hsome).1
  have hdue := hslot hfree
  have hidle {t : Ctl σ} (hist : t.hist = s.hist) : sendingOf s t = none :=
    sendingOf_of_quiet (e := []) hist rfl
  unfold slotDue at hdue
  rw [step, check, if_pos hfree, txCheckQueues] at h ⊢
  by_cases hasleep : s.dev.radio.state < LIBRADIO_STATE_LISTEN
  · rw [if_pos hasleep, hidle rfl] at h
    cases h
  rw [if_neg hasleep] at hdue h ⊢
  dsimp only at h ⊢
  by_cases hwrap : s.dev.radio.msTicks.toNat % 500 < s.lastModulo
  · rw [if_pos hwrap] at hdue
    cases hdue
  rw [if_neg hwrap] at h ⊢
  have hpick : pickReady (readClock between s) = pickReady s := rfl
  rw [hpick] at h ⊢
  cases hbest : pickReady s with
  | none =>
    rw [hbest] at h
    have hquiet : sendingOf s (readClock between s) = none := hidle rfl
    exact absurd h (by rw [hquiet]; simp)
  | some c =>
    rw [hbest] at h
    have hopen : ¬ ((readClock between s).chan c).state.toNat < ChState.empty.toNat :=
      Nat.not_lt.mpr (Nat.le_trans (by decide) (isReady_of_pickReady hbest).2)
    dsimp only at h ⊢
    rw [transmitOn, if_neg hopen] at h ⊢
    dsimp only at h ⊢
    obtain ⟨ok, hsend⟩ := ranks_sendOn b inSend c (readClock between s)
    generalize sendOn b inSend c (readClock between s) = u at h hsend
    have hsending : sendingOf s { u with channels := u.channels.map age } =
        some ⟨c, (s.chan c).state, (s.chan c).packet.content, ok⟩ :=
      sendingOf_of_send (e := []) hsend.hist
    rw [hsending] at h
    cases h
    exact ⟨rfl, hsend.hist⟩

/-! ### A segment of a run -/

/-- The calls of `libradio_send` are made by the transmitter. -/
theorem check_of_sending (b : Board σ) {s : Ctl σ} {a : Act} {x : Sending}
    (h : sendingOf s (step b s a) = some x) :
    s.respChp = none ∧ ∃ between inSend, a = .check between inSend := by
  obtain ⟨-, -, honly, -⟩ := rises_step b s a
  exact honly (by rw [h]; rfl)

/-- The character completes a SET_CHANNEL of the controller's own that names channel `c`. -/
def Names (s : Ctl σ) (ch : UInt8) (c : Fin 6) : Prop :=
  (completed ch s).any fun x ↦ IsLocal s.dev.radio x.2 ∧ configured x.2 = some c

instance (s : Ctl σ) (ch : UInt8) (c : Fin 6) : Decidable (Names s ch c) :=
  inferInstanceAs (Decidable (_ = true))

private theorem names_of_configures {s : Ctl σ} {ch config : UInt8} {c : Fin 6}
    (h : Configures s ch c config) : Names s ch c := by
  obtain ⟨p, hp, hown, hconf⟩ := h
  rw [Names, hp]
  exact decide_eq_true ⟨hown, by rw [Ctl.configured, hconf]; rfl⟩

/-- An action of the segment: characters arrive for other channels only, no SET_CHANNEL names
channel `c`, no pass is a time-slot pass and every send succeeds. -/
def Calm (b : Board σ) (c : Fin 6) (s : Ctl σ) : Act → Prop
  | .tick | .poll => True
  | .input ch => ¬ Assembles s c ∧ ¬ Names s ch c
  | .check between inSend => (s.respChp = none → slotDue between s = none) ∧
    (sendingOf s (step b s (.check between inSend))).all Sending.ok = true

/-- No restart is asked for while a packet is queued on channel `c`. -/
def Spares (c : Fin 6) (s : Ctl σ) : Act → Prop
  | .input ch => Restarts s ch → ¬ (s.chan c).state.IsQueued
  | _ => True

instance (b : Board σ) (c : Fin 6) (s : Ctl σ) : (a : Act) → Decidable (Calm b c s a)
  | .tick | .poll => .isTrue trivial
  | .input _ => inferInstanceAs (Decidable (_ ∧ _))
  | .check .. => inferInstanceAs (Decidable ((_ → _) ∧ _))

instance (c : Fin 6) (s : Ctl σ) : (a : Act) → Decidable (Spares c s a)
  | .input _ => inferInstanceAs (Decidable (_ → ¬ _))
  | .tick | .poll | .check .. => .isTrue trivial

/-- The calls of `libradio_send` in a run. -/
def sendings (b : Board σ) : Ctl σ → List Act → List Sending
  | _, [] => []
  | s, a :: acts => (sendingOf s (step b s a)).toList ++ sendings b (step b s a) acts

/-- The packet `p` is queued on channel `c`, which nobody waits for. -/
structure QueuedOn (c : Fin 6) (st : ChState) (p : Packet.Content) (s : Ctl σ) : Prop where
  queued : st.IsQueued
  state : (s.chan c).state = st
  packet : (s.chan c).packet.content = p
  free : s.respChp ≠ some c

private theorem QueuedOn.of_chan {c : Fin 6} {st : ChState} {p : Packet.Content} {s s' : Ctl σ}
    (h : QueuedOn c st p s) (state : (s'.chan c).state = (s.chan c).state)
    (packet : (s'.chan c).packet.content = (s.chan c).packet.content)
    (free : s'.respChp ≠ some c) : QueuedOn c st p s' :=
  ⟨h.queued, state.trans h.state, packet.trans h.packet, free⟩

private theorem track_of_hist {s s' : Ctl σ} {o : Obs} {c : Fin 6} (hist : s'.hist = o :: s.hist)
    (ho : o.concerns c = false) : s'.track c = s.track c := by
  rw [track, hist, List.filter_cons_of_neg (by rw [ho]; simp), track]

/-- Channel `c` has nothing to send: it is waited for in a state not below `floor`, or it is
idle. -/
def Gone (floor : ChState) (c : Fin 6) (s : Ctl σ) : Prop :=
  if s.respChp = some c then floor.toNat ≤ (s.chan c).state.toNat
  else (s.chan c).state.toNat ≤ ChState.adding.toNat

private theorem Gone.not_isQueued {c : Fin 6} {s : Ctl σ} (h : Gone .rxresponse1 c s) :
    ¬ (s.chan c).state.IsQueued := by
  rw [Gone] at h
  split at h
  · intro hqueued
    rcases hqueued with hst | hst
    all_goals
      rw [hst] at h
      exact absurd h (by decide)
  · exact ChState.not_isQueued_of_le h

private theorem Gone.idle {floor : ChState} {c : Fin 6} {s : Ctl σ} (h : Gone floor c s)
    (hfree : s.respChp = none) : (s.chan c).state.toNat ≤ ChState.adding.toNat := by
  rw [Gone, if_neg (by rw [hfree]; simp)] at h
  exact h

/-- A calm action sends the packet, which is gone then, or leaves it where it is. -/
theorem queuedOn_step (b : Board σ) {c : Fin 6} {st : ChState} {p : Packet.Content} {s : Ctl σ}
    {a : Act} (h : QueuedOn c st p s) (hcalm : Calm b c s a) (hspares : Spares c s a) :
    (sendingOf s (step b s a) = some ⟨c, st, p, true⟩ ∧ Gone .rxresponse1 c (step b s a)) ∨
      (QueuedOn c st p (step b s a) ∧ (step b s a).track c = s.track c ∧
        ∀ x, sendingOf s (step b s a) = some x → x.channel ≠ c ∧ x.ok = true) := by
  have hquiet {a : Act} (hact : ∀ between inSend, a ≠ .check between inSend) (x : Sending)
      (hx : sendingOf s (step b s a) = some x) : x.channel ≠ c ∧ x.ok = true := by
    obtain ⟨-, between, inSend, hcheck⟩ := check_of_sending b hx
    exact absurd hcheck (hact between inSend)
  cases a with
  | tick =>
    have ha := alike_tick b s
    refine .inr ⟨h.of_chan (by rw [ha.chan]) (by rw [ha.chan]) ?_, by rw [track, ha.hist, track],
      hquiet fun _ _ h ↦ by cases h⟩
    rw [ha.respChp]
    exact h.free
  | poll =>
    refine .inr ?_
    cases effect_poll b s with
    | idle none eq =>
      rw [step, eq]
      refine ⟨h, rfl, fun x hx ↦ ?_⟩
      rw [sendingOf_of_quiet (e := []) rfl rfl] at hx
      cases hx
    | waiting d some going own others respChp parser hist =>
      have hne : d ≠ c := fun hd ↦ h.free (hd ▸ some)
      refine ⟨h.of_chan (by rw [step, others c hne]) (by rw [step, others c hne]) ?_,
        track_of_hist hist (by simp [Obs.concerns, hne]), hquiet fun _ _ h ↦ by cases h⟩
      rw [step, respChp]
      exact h.free
    | ended d some ends own others respChp parser hist =>
      have hne : d ≠ c := fun hd ↦ h.free (hd ▸ some)
      refine ⟨h.of_chan (by rw [step, others c hne]) (by rw [step, others c hne]) ?_,
        track_of_hist hist (by simp [Obs.concerns, hne]), hquiet fun _ _ h ↦ by cases h⟩
      rw [step, respChp]
      simp
  | input ch =>
    obtain ⟨hasm, hnames⟩ := hcalm
    refine .inr ?_
    have hlow : ¬ (s.chan c).state.toNat ≤ ChState.adding.toNat := fun hle ↦
      ChState.not_isQueued_of_le hle (h.state ▸ h.queued)
    cases chanEffect_step b s (.input ch) c with
    | same state content resp asm track =>
      exact ⟨h.of_chan state content fun hr ↦ h.free (resp.mp hr), track,
        hquiet fun _ _ h ↦ by cases h⟩
    | claimed free state resp before after track =>
      exact absurd (Nat.le_trans free (by decide)) hlow
    | edited before after state resp track => exact absurd before hasm
    | left ch act leaves before after state content resp track => exact absurd before hasm
    | released p config before after state resp config_set track => exact absurd before hasm
    | queued ch p act queues before after state content resp track => exact absurd before hasm
    | configured ch config act configures before after state content resp track =>
      cases act
      exact absurd (names_of_configures configures) hnames
    | waited act before early state resp asm track => cases act
    | ended act before ends state resp asm track => cases act
    | built between inSend p ok act free due empty state content resp asm track => cases act
    | sent between inSend ok act free busy adding state content resp asm track => cases act
    | reset state resp after track =>
      obtain ⟨-, -, hreset, -⟩ := priority_of_track b (e := [.reset]) track
      obtain ⟨ch', hch, hrest⟩ := hreset rfl
      cases hch
      exact absurd (h.state ▸ h.queued) (hspares hrest)
  | check between inSend =>
    obtain ⟨hslot, hall⟩ := hcalm
    cases effect_check b between inSend s with
    | idle closed chan respChp parser hist =>
      refine .inr ⟨h.of_chan (by rw [step, chan]) (by rw [step, chan]) ?_, ?_, fun x hx ↦ ?_⟩
      · rw [step, respChp]
        exact h.free
      · rw [track, step, hist, track]
      · rw [step, sendingOf_of_quiet (e := []) hist rfl] at hx
        cases hx
    | sent d st' q ok before none source hist own packet others respChp parser =>
      have hdue := hslot none
      cases source with
      | built due empty state hist' =>
        rw [hdue] at due
        cases due
      | found due busy state packet' hist' =>
        rw [hdue] at due
        cases due
      | picked due ready state packet' hist' =>
        rw [hist'] at hist
        have hsome : sendingOf s (step b s (.check between inSend)) = some ⟨d, st', q, ok⟩ :=
          sendingOf_of_send (e := []) hist
        rw [hsome] at hall ⊢
        have hok : ok = true := hall
        by_cases hd : d = c
        · subst hd
          refine .inl ⟨by rw [state, h.state, packet', h.packet, hok], ?_⟩
          rw [hok] at own respChp
          simp only [if_true, true_and] at own respChp
          simp only [step, Gone, own, respChp]
          split
          · rw [if_pos rfl]
          · rw [if_neg (by simp)]
            decide
        · right
          refine ⟨h.of_chan (others c hd).1 (by rw [step, (others c hd).2]) ?_,
            track_of_hist hist (by simp [Obs.concerns, hd]), fun x hx ↦ ?_⟩
          · rw [step, respChp]
            split
            · intro hc
              exact hd (Option.some.inj hc)
            · simp
          · cases hx
            exact ⟨hd, hok⟩

/-! ### Overtaking -/

/-- The priorities as the levels of the aging. -/
def levels (s : Ctl σ) (d : Fin 6) : Nat := (s.chan d).priority.toNat

/-- The aging of `tx_check_queues`: a pass that sends raises a waiting channel by 2 up to 0xfc,
and nothing starts above 49. -/
def aging : Aging := ⟨2, 0xfc, 49⟩

/-- Without a send a priority stays, or is set to 0, or starts again below the limit. -/
theorem moves_step (b : Board σ) {c : Fin 6} {s : Ctl σ} {a : Act}
    (hinv : ∀ d, LevelInv s d) (hnone : sendingOf s (step b s a) = none)
    (htrack : (step b s a).track c = s.track c) :
    aging.Moves c (levels s) (levels (step b s a)) := by
  have hnosend {q : Prop} (hsends : (sendingOf s (step b s a)).isSome = true) : q := by
    rw [hnone] at hsends
    cases hsends
  refine ⟨Nat.le_of_eq ?_, fun d hd ↦ ?_⟩
  · obtain ⟨-, -, -, hpriority⟩ := priority_of_track b (e := []) htrack
    rw [levels, levels, hpriority, hnone, if_neg (by simp), List.foldr_nil]
  have hkept (h : ((step b s a).chan d).priority = (s.chan d).priority) :
      levels (step b s a) d ≤ max (levels s d) aging.limit := by
    rw [levels, h]
    exact Nat.le_max_left _ _
  have hzero (h : ((step b s a).chan d).priority = 0) :
      levels (step b s a) d ≤ max (levels s d) aging.limit := by
    rw [levels, h]
    exact Nat.zero_le _
  cases priorityEffect_step b s a d with
  | same state resp asm priority last =>
    exact hkept (priority.resolve_right fun haged ↦ hnosend haged.2.1)
  | claimed free state resp priority last => exact hkept priority
  | completed ch act completes curr =>
    subst act curr
    cases completion_of_completes b completes with
    | executed own state priority last =>
      split at priority
      · exact hzero priority
      · exact hkept priority
    | refused own active state priority last => exact hkept priority
    | queued queues state priority last =>
      -- a priority that was left behind starts again below the limit, or it is full
      have hidle := (hinv s.currChp).assembled (assembles_of_completes completes)
      rcases hidle with hlow | hfull
      · have hstart := startPriority_le s.currChp
        have hqueue := toNat_queuePriority s.currChp (s.chan s.currChp).priority
        rw [levels, priority, hqueue]
        refine Nat.le_trans ?_ (Nat.le_max_right _ _)
        show _ ≤ 49
        split
        · omega
        · split <;> omega
      · apply hkept
        rw [priority, hfull]
        rfl
  | configured after priority last => exact hzero priority
  | waited before state resp asm priority last => exact hkept priority
  | ended act before ends state resp priority => exact hkept priority
  | built ok state resp sends priority => exact hnosend sends
  | sent ok free state resp asm sends priority last => exact hnosend sends
  | reset state resp priority => exact hzero priority

/-- A pass that sends another channel raises the one that waits. -/
theorem overtakes_step (b : Board σ) {c : Fin 6} {s : Ctl σ} {a : Act} {x : Sending}
    (hready : IsReady (s.chan c)) (hcalm : Calm b c s a)
    (hstate : ((step b s a).chan c).state = (s.chan c).state)
    (h : sendingOf s (step b s a) = some x) (hother : x.channel ≠ c) :
    aging.Overtakes c x.channel (levels s) (levels (step b s a)) := by
  obtain ⟨-, between, inSend, rfl⟩ := check_of_sending b h
  obtain ⟨hslot, hall⟩ := hcalm
  obtain ⟨hpick, hist⟩ := picked_of_sending b hslot h
  have hok : x.ok = true := by
    rw [h] at hall
    exact hall
  obtain ⟨new, hrises, -⟩ := rises_step b s (.check between inSend)
  have hnew : new = [.send x.channel x.state x.packet x.ok] :=
    List.append_cancel_right (hrises.hist.symm.trans hist)
  have hlevel (d : Fin 6) : levels (step b s (.check between inSend)) d =
      unboundedAge ((step b s (.check between inSend)).chan d).state
        (if x.channel = d then 0 else levels s d) := by
    have hpriority := hrises.priority d
    rw [h, Option.isSome_some, if_pos rfl, hnew, List.foldr_cons, List.foldr_nil, Obs.rank_send,
      hok] at hpriority
    rw [levels, hpriority, toNat_agedPriority, apply_ite UInt8.toNat]
    simp only [and_true]
    rfl
  have haged (st : ChState) (old : Nat) : unboundedAge st old ≤ old + 2 := by
    unfold unboundedAge
    split <;> omega
  constructor
  · exact hother
  · exact le_of_pickReady hpick hready
  · rw [hlevel, if_neg hother, unboundedAge, hstate, aging]
    have hqueued := hready.2
    split
    · exact Nat.min_le_left _ _
    · next hnot =>
      have hfull : ¬ levels s c < 0xfc := fun hlt ↦ hnot ⟨hqueued, hlt⟩
      exact Nat.le_trans (Nat.min_le_right _ _) (Nat.not_lt.mp hfull)
  · rw [hlevel, if_pos rfl]
    exact Nat.le_trans (haged _ 0) (by decide)
  · intro d hd
    rw [hlevel]
    refine Nat.le_trans (haged _ _) (Nat.le_trans ?_ (Nat.le_max_left _ _))
    exact Nat.add_le_add_right (by split <;> omega) 2

/-! ### What has been sent or stepped over does not come back -/

/-- A calm action sends nothing on a channel that has nothing to send. -/
theorem Gone.not_sent (b : Board σ) {floor : ChState} {c : Fin 6} {s : Ctl σ} {a : Act}
    (h : Gone floor c s) (hcalm : Calm b c s a) {x : Sending}
    (hx : sendingOf s (step b s a) = some x) : x.channel ≠ c := by
  rintro rfl
  obtain ⟨hfree, between, inSend, rfl⟩ := check_of_sending b hx
  obtain ⟨hpick, -⟩ := picked_of_sending b hcalm.1 hx
  have hready := (isReady_of_pickReady hpick).2
  exact absurd (Nat.le_trans hready (h.idle hfree)) (by decide)

/-- A calm action queues nothing on a channel that has nothing to send. -/
theorem gone_step (b : Board σ) {floor : ChState} {c : Fin 6} {s : Ctl σ} {a : Act}
    (h : Gone floor c s) (hcalm : Calm b c s a) : Gone floor c (step b s a) := by
  have hkept (state : ((step b s a).chan c).state = (s.chan c).state)
      (resp : (step b s a).respChp = some c ↔ s.respChp = some c) :
      Gone floor c (step b s a) := by
    simp only [Gone, state, resp]
    exact h
  have hfree (resp : (step b s a).respChp = none)
      (low : ((step b s a).chan c).state.toNat ≤ ChState.adding.toNat) :
      Gone floor c (step b s a) := by
    rw [Gone, if_neg (by rw [resp]; simp)]
    exact low
  have hslot {between inSend : Nat} (act : a = .check between inSend) (free : s.respChp = none) :
      slotDue between s ≠ some c := by
    subst act
    rw [hcalm.1 free]
    simp
  cases chanEffect_step b s a c with
  | same state content resp asm track => exact hkept state resp
  | claimed free state resp before after track =>
    rw [Gone] at h ⊢
    simp only [resp, state]
    split at h
    · next hr =>
      rw [if_pos hr]
      exact Nat.le_trans h (Nat.le_trans free (by decide))
    · next hr => rw [if_neg hr]
  | edited before after state resp track => exact hkept state resp
  | left ch act leaves before after state content resp track => exact hkept state resp
  | released p config before after state resp config_set track =>
    obtain ⟨ch, rfl, -, -⟩ := completes_of_handed b (p := p)
      (e := .finish c :: (config ++ [.handed c p]))
      (by rw [track, List.cons_append, List.append_assoc]; rfl) (by simp)
    exact absurd before hcalm.1
  | queued ch p act queues before after state content resp track =>
    cases act
    exact absurd before hcalm.1
  | configured ch config act configures before after state content resp track =>
    cases act
    exact absurd (names_of_configures configures) hcalm.2
  | waited act before early state resp asm track =>
    rw [Gone, if_pos before] at h
    rw [Gone, if_pos resp, state, ChState.toNat_next _ early]
    exact Nat.le_trans h (Nat.le_succ _)
  | ended act before ends state resp asm track =>
    exact hfree resp (by rw [state]; decide)
  | built between inSend p ok act free due empty state content resp asm track =>
    exact absurd due (hslot act free)
  | sent between inSend ok act free busy adding state content resp asm track =>
    have hadding : (s.chan c).state = .adding :=
      ChState.toNat_inj.mp (Nat.le_antisymm (h.idle free) busy)
    exact absurd (adding hadding) (hslot act free)
  | reset state resp after track => exact hfree resp (by rw [state]; decide)

/-! ### The packet is sent in time -/

/-- A packet waits on channel `c`. -/
def Waits (c : Fin 6) (s : Ctl σ) : Prop :=
  (s.chan c).state.IsQueued ∧ 1 ≤ (s.chan c).priority.toNat

/-- The next 32 calls of `libradio_send` include that of the packet on channel `c`. -/
def SentSoon (b : Board σ) (c : Fin 6) (s : Ctl σ) (acts : List Act) : Prop :=
  ⟨c, (s.chan c).state, (s.chan c).packet.content, true⟩ ∈ (sendings b s acts).take 32

instance (c : Fin 6) (s : Ctl σ) : Decidable (Waits c s) := inferInstanceAs (Decidable (_ ∧ _))

instance (b : Board σ) (c : Fin 6) (s : Ctl σ) (acts : List Act) :
    Decidable (SentSoon b c s acts) := inferInstanceAs (Decidable (_ ∈ _))

/-- Nothing is sent on a channel that has nothing to send. -/
theorem not_sent_of_gone (b : Board σ) {floor : ChState} {c : Fin 6} {s : Ctl σ}
    {acts : List Act} (h : Gone floor c s) (hcalm : Along (step b) (Calm b c) s acts) :
    ∀ x ∈ sendings b s acts, x.channel ≠ c := by
  induction acts generalizing s with
  | nil => exact fun x hx ↦ absurd hx List.not_mem_nil
  | cons a acts ih =>
    intro x hx
    rcases List.mem_append.mp hx with hx | hx
    · exact h.not_sent b hcalm.1 (Option.mem_toList.mp hx)
    · exact ih (gone_step b h hcalm.1) hcalm.2 x hx

/-- After its packet has been sent nothing is queued on the channel. -/
theorem spares_of_gone (b : Board σ) {c : Fin 6} {s : Ctl σ} {acts : List Act}
    (h : Gone .rxresponse1 c s) (hcalm : Along (step b) (Calm b c) s acts) :
    Along (step b) (Spares c) s acts := by
  apply along_of_inv (step b) (I := Gone .rxresponse1 c) (G := Calm b c)
  · exact fun s a h hc ↦ gone_step b h hc
  · intro s a h hc
    cases a with
    | input ch => exact fun _ ↦ h.not_isQueued
    | _ => trivial
  · exact h
  · exact hcalm

/-- A packet that waits is sent within the next 32 passes that send, of which those that have
overtaken it so far are the first. -/
theorem sent_of_run (b : Board σ) {c : Fin 6} {st : ChState} {p : Packet.Content} {s : Ctl σ}
    {acts : List Act} {l : Fin 6 → Nat} {xs : List (Fin 6)}
    (hrun : aging.Run c l xs (levels s)) (hlow : 1 ≤ l c) (hqueued : QueuedOn c st p s)
    (hinv : ∀ d, LevelInv s d) (hcalm : Along (step b) (Calm b c) s acts)
    (hspares : Along (step b) (Spares c) s acts)
    (hmany : 32 ≤ xs.length + (sendings b s acts).length) :
    ⟨c, st, p, true⟩ ∈ (sendings b s acts).take (32 - xs.length) := by
  have hfew : xs.length < 25 + Fintype.card (Fin 6) :=
    hrun.length_lt hlow (by decide) (by decide)
  rw [Fintype.card_fin] at hfew
  induction acts generalizing s xs with
  | nil =>
    rw [sendings, List.length_nil] at hmany
    omega
  | cons a acts ih =>
    rw [sendings] at hmany ⊢
    have hinv' (d : Fin 6) : LevelInv (step b s a) d := levelInv_step b s a d (hinv d)
    rcases queuedOn_step b hqueued hcalm.1 hspares.1 with ⟨hsent, -⟩ | ⟨hstill, htrack, hothers⟩
    · rw [hsent, Option.toList_some, List.singleton_append,
        show 32 - xs.length = 31 - xs.length + 1 by omega, List.take_succ_cons]
      exact List.mem_cons_self
    cases hnext : sendingOf s (step b s a) with
    | none =>
      rw [hnext] at hmany
      exact ih (hrun.moved (moves_step b hinv hnext htrack)) hstill hinv' hcalm.2 hspares.2 hmany
        hfew
    | some x =>
      obtain ⟨hother, -⟩ := hothers x hnext
      have hready : IsReady (s.chan c) := by
        have hwaits := hrun.waits hlow
        refine ⟨fun hzero ↦ ?_, ?_⟩
        · rw [levels, hzero] at hwaits
          have hcap : 1 ≤ min (1 + aging.rise * xs.length) aging.cap :=
            Nat.le_min.mpr ⟨Nat.le_add_right _ _, by decide⟩
          exact absurd (Nat.le_trans hcap hwaits) (by decide)
        · rw [hqueued.state]
          rcases hqueued.queued with rfl | rfl <;> decide
      have hrun' := hrun.round (overtakes_step b hready hcalm.1
        (hstill.state.trans hqueued.state.symm) hnext hother)
      have hfew' : (x.channel :: xs).length < 25 + 6 := by
        have := hrun'.length_lt hlow (k := 25) (by decide) (by decide)
        rwa [Fintype.card_fin] at this
      rw [hnext, Option.toList_some, List.singleton_append, List.length_cons] at hmany
      have hrest := ih hrun' hstill hinv' hcalm.2 hspares.2 (by rw [List.length_cons]; omega) hfew'
      rw [List.length_cons] at hrest
      rw [Option.toList_some, List.singleton_append,
        show 32 - xs.length = 32 - (xs.length + 1) + 1 by omega, List.take_succ_cons]
      exact List.mem_cons_of_mem _ hrest

/-- A packet is only sent where no restart takes it away. -/
theorem spares_of_sent (b : Board σ) {c : Fin 6} {st : ChState} {p : Packet.Content} {s : Ctl σ}
    {acts : List Act} (hqueued : QueuedOn c st p s) (hcalm : Along (step b) (Calm b c) s acts)
    (hsent : ⟨c, st, p, true⟩ ∈ sendings b s acts) : Along (step b) (Spares c) s acts := by
  induction acts generalizing s with
  | nil => trivial
  | cons a acts ih =>
    rcases List.mem_append.mp hsent with hnow | hlater
    · have hspares : Spares c s a := by
        obtain ⟨-, between, inSend, rfl⟩ := check_of_sending b (Option.mem_toList.mp hnow)
        trivial
      refine ⟨hspares, ?_⟩
      rcases queuedOn_step b hqueued hcalm.1 hspares with ⟨-, hgone⟩ | ⟨-, -, hothers⟩
      · exact spares_of_gone b hgone hcalm.2
      · exact absurd rfl (hothers _ (Option.mem_toList.mp hnow)).1
    · have hspares : Spares c s a := by
        cases a with
        | input ch =>
          -- after a restart the channel is DISABLED
          intro hrestart
          obtain ⟨hchan, hresp, -, -⟩ := boot_fresh b (s.note (.input ch))
          rw [← processInput_restart b hrestart] at hchan hresp
          have hgone : Gone .disabled c (step b s (.input ch)) := by
            rw [Gone, step, hresp, if_neg (by simp), hchan]
            decide
          exact absurd rfl (not_sent_of_gone b hgone hcalm.2 _ hlater)
        | _ => trivial
      refine ⟨hspares, ?_⟩
      rcases queuedOn_step b hqueued hcalm.1 hspares with ⟨-, hgone⟩ | ⟨hstill, -, -⟩
      · exact spares_of_gone b hgone hcalm.2
      · exact ih hstill hcalm.2 hlater

/-- From every state that a run reaches no action makes a priority wrap around, and a packet that
waits is sent within the next 32 passes that send, exactly if the controller does not wait for a
response on its channel at the start and no restart is asked for while it is queued. -/
theorem sent_soon_iff (b : Board σ) (chip : σ) (eeprom : UInt16 → UInt8) (beyondData : UInt8)
    (before acts : List Act) (c : Fin 6) (s : Ctl σ)
    (hs : s = run (step b) (start b chip eeprom beyondData) before) :
    (∀ a, NoWrap s (step b s a)) ∧
      (Waits c s → Along (step b) (Calm b c) s acts → 32 ≤ (sendings b s acts).length →
        (SentSoon b c s acts ↔ s.respChp ≠ some c ∧ Along (step b) (Spares c) s acts)) := by
  refine ⟨noWrap_step b s, fun hwaits hcalm hmany ↦ ?_⟩
  obtain ⟨hqueued, hpriority⟩ := hwaits
  constructor
  · intro hsent
    have hmem := List.mem_of_mem_take hsent
    have hfree : s.respChp ≠ some c := fun hr ↦ by
      have hgone : Gone .disabled c s := by
        rw [Gone, if_pos hr]
        exact Nat.zero_le _
      exact not_sent_of_gone b hgone hcalm _ hmem rfl
    exact ⟨hfree, spares_of_sent b ⟨hqueued, rfl, rfl, hfree⟩ hcalm hmem⟩
  · rintro ⟨hfree, hspares⟩
    have hinit (d : Fin 6) : LevelInv (start b chip eeprom beyondData) d := by
      obtain ⟨-, hresp, hasm, -⟩ := chan_start b chip eeprom beyondData d
      refine ⟨fun hr ↦ ?_, fun _ ↦ .inl ?_, fun ha ↦ absurd ha.1 hasm⟩
      · rw [hresp] at hr
        cases hr
      · rw [start, (boot_fresh b _).1 d]
        decide
    have hinv : ∀ d, LevelInv s d := by
      rw [hs]
      exact run_inv_of_step (step b) (I := fun s ↦ ∀ d, LevelInv s d)
        (fun s a h d ↦ levelInv_step b s a d (h d)) before hinit
    have hrun : aging.Run c (levels s) [] (levels s) := .start
    apply sent_of_run b hrun hpriority ⟨hqueued, rfl, rfl, hfree⟩ hinv hcalm hspares
    rw [List.length_nil, Nat.zero_add]
    exact hmany

-- Packets that arrive one after the other on a channel.
private def arriving (line : String) : List Act := (List.replicate 33 (typed line)).flatten

-- The controller is activated as node 1 and a packet for node 2 is queued on channel B until the
-- radio is ready.
private def packetOnB : Ctl Nat :=
  run (step busyRadio) (start busyRadio 0 (fun _ ↦ 0) 0)
    (typed ">A0:3:0,1,0.\n>B2:0\n" ++ (List.replicate 10 [.poll, .check 0 0]).flatten)

/-- It is sent soon although packets keep arriving on channel A. -/
theorem sent_soon_packetOnB : SentSoon busyRadio 1 packetOnB (arriving ">A2:0\n") :=
  ((sent_soon_iff busyRadio 0 (fun _ ↦ 0) 0 _ (arriving ">A2:0\n") 1 packetOnB rfl).2
    (by decide +kernel) (by decide +kernel) (by decide +kernel)).mpr
    ⟨by decide +kernel, by decide +kernel⟩

-- While a response is awaited on channel A, a SET_CHANNEL makes the channel DISABLED, and the next
-- line is read into it and queued.
private def packetOnA : Ctl Nat :=
  run (step busyRadio) (start busyRadio 0 (fun _ ↦ 0) 0)
    (typed ">A0:3:0,1,0.\n>A7:2.\n>B1:16:0,0,\n>A7:2\n")

/-- That packet is not among the next 32 that are sent, while packets keep arriving on
channel B. -/
theorem starved_while_awaited :
    (Waits 0 packetOnA ∧ Along (step busyRadio) (Calm busyRadio 0) packetOnA (arriving ">B2:0\n") ∧
      32 ≤ (sendings busyRadio packetOnA (arriving ">B2:0\n")).length) ∧
    ¬ SentSoon busyRadio 0 packetOnA (arriving ">B2:0\n") := by
  decide +kernel

end Ctl
end Libradio
