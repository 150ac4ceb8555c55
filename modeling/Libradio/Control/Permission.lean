import Libradio.Control.History

/-!
# Which channels are transmitted on

A channel's configuration and its queue state share one byte. A channel that was never
configured EMPTY is opened all the same when a line is entered on it
(`src/control/enqueue.c:67,76` leave EMPTY behind) or when a response wait on it ends. As
long as no such channel is looked at by a pass, only channels configured EMPTY are sent on.
-/

namespace Libradio
open Libradio.Base

/-- A channel's permission: the last value below three that `set_channel` has given it since
the start, or DISABLED, and whether it has been claimed by the parser, given back or waited
for since then. -/
structure Permission where
  configuration : UInt8
  touched : Bool
  deriving DecidableEq, Repr

namespace Permission

/-- One entry of the record. -/
def after (d : Fin 6) (o : Obs) (m : Permission) : Permission :=
  match o with
  | .reset => ⟨0, false⟩
  | .setChannel c config => if c = d ∧ config < 3 then ⟨config, false⟩ else m
  | .claim c => if c = d then { m with touched := true } else m
  | .finish c => if c = d then { m with touched := true } else m
  | .wait c _ => if c = d then { m with touched := true } else m
  | _ => m

/-- Entries about other channels are of no account. -/
theorem after_of_not_concerns {d : Fin 6} {o : Obs} (h : o.concerns d = false)
    (m : Permission) : after d o m = m := by
  cases o <;> simp_all [Obs.concerns, after]

end Permission

/-- The permission of channel `d` after a record, newest entry first. -/
def permission (d : Fin 6) (h : List Obs) : Permission :=
  h.foldr (Permission.after d) ⟨0, false⟩

/-- The permission after one more record. -/
@[simp] theorem permission_cons (d : Fin 6) (o : Obs) (h : List Obs) :
    permission d (o :: h) = Permission.after d o (permission d h) := rfl

namespace Ctl

variable {σ : Type}

/-- Every call of `libradio_send` in this step is for a channel configured EMPTY. -/
def SendsPermitted (b : Board σ) (s : Ctl σ) (a : Act) : Prop :=
  ∀ c st p ok before, RecordsSend s (step b s a) c st p ok before →
    (permission c before).configuration = 2

/-- The pass does not find its time slot on a channel, or a packet queued in one, that is not
configured EMPTY and has been touched since its last configuration. -/
def LeavesClosed (s : Ctl σ) : Act → Prop
  | .check between _ => s.respChp = none → ∀ c,
    slotDue between s = some c ∨ ChState.transmit.toNat ≤ (s.chan c).state.toNat →
      (permission c s.hist).configuration ≠ 2 → (permission c s.hist).touched = false
  | _ => True

instance (s : Ctl σ) (a : Act) : Decidable (LeavesClosed s a) :=
  match a with
  | .check _ _ => inferInstanceAs (Decidable (_ → ∀ _, _))
  | .tick | .poll | .input _ => .isTrue trivial

/-- One channel between two steps: while the parser fills it, it counts as touched; and an
untouched channel that is not configured EMPTY is below EMPTY. -/
structure ClosedInv (s : Ctl σ) (d : Fin 6) : Prop where
  assembling : Assembles s d → (permission d s.hist).touched = true
  closed : (permission d s.hist).configuration ≠ 2 → (permission d s.hist).touched = false →
    (s.chan d).state.toNat < ChState.empty.toNat

/-- A channel's permission can be read off the part of the record that concerns it. -/
theorem permission_track (s : Ctl σ) (d : Fin 6) :
    permission d (s.track d) = permission d s.hist :=
  foldr_concerns (fun _ m ho ↦ Permission.after_of_not_concerns ho m) _ s.hist

private theorem permission_of_track {s : Ctl σ} {d : Fin 6} {h : List Obs} (ht : s.track d = h) :
    permission d s.hist = permission d h := by
  rw [← permission_track, ht]

-- A channel whose part of the record has not changed.
private theorem ClosedInv.of_track {s s' : Ctl σ} {d : Fin 6} (h : ClosedInv s d)
    (track : s'.track d = s.track d) (state : (s'.chan d).state = (s.chan d).state)
    (asm : Assembles s' d → Assembles s d) : ClosedInv s' d := by
  have hm : permission d s'.hist = permission d s.hist := by
    rw [permission_of_track track, permission_track]
  refine ⟨fun ha ↦ ?_, fun hcfg hno ↦ ?_⟩
  · rw [hm]
    exact h.assembling (asm ha)
  · rw [hm] at hcfg hno
    rw [state]
    exact h.closed hcfg hno

-- A channel that has just been touched.
private theorem ClosedInv.of_touched {s : Ctl σ} {d : Fin 6}
    (h : (permission d s.hist).touched = true) : ClosedInv s d :=
  ⟨fun _ ↦ h, fun _ hno ↦ by rw [h] at hno; cases hno⟩

-- A channel that is EMPTY or above without having been touched stays permitted.
private theorem ClosedInv.of_open {s s' : Ctl σ} {d : Fin 6} (h : ClosedInv s d)
    (hm : permission d s'.hist = permission d s.hist)
    (hopen : ChState.empty.toNat ≤ (s.chan d).state.toNat)
    (asm : Assembles s' d → Assembles s d) : ClosedInv s' d := by
  refine ⟨fun ha ↦ ?_, fun hcfg hno ↦ ?_⟩
  · rw [hm]
    exact h.assembling (asm ha)
  · rw [hm] at hcfg hno
    exact absurd (h.closed hcfg hno) (Nat.not_lt.mpr hopen)

/-- Every action keeps the invariant. -/
theorem closedInv_step (b : Board σ) (s : Ctl σ) (a : Act) (d : Fin 6) (h : ClosedInv s d) :
    ClosedInv (step b s a) d := by
  cases chanEffect_step b s a d with
  | same state content resp asm track => exact h.of_track track state asm.mp
  | claimed free state resp before after track =>
    refine .of_touched ?_
    rw [permission_of_track track, permission_cons, Permission.after, if_pos rfl]
  | edited before after state resp track => exact h.of_track track state fun _ ↦ before
  | left ch act leaves before after state content resp track =>
    exact h.of_track track state fun _ ↦ before
  | released p config before after state resp config_set track =>
    refine .of_touched ?_
    rw [permission_of_track track, permission_cons, Permission.after, if_pos rfl]
  | queued ch p act queues before after state content resp track =>
    refine .of_touched ?_
    rw [permission_of_track track]
    exact permission_track s d ▸ h.assembling before
  | configured ch config act configures before after state content resp track =>
    refine ⟨fun ha ↦ absurd ha.1 after, fun hcfg hno ↦ ?_⟩
    rw [permission_of_track track, permission_cons, Permission.after] at hcfg hno
    rcases ChState.getD_ofConfig_cases config (s.chan d).state with ⟨hlt, -⟩ | ⟨hge, hsame⟩
    · rw [if_pos ⟨rfl, hlt⟩] at hcfg
      obtain ⟨st, hst⟩ := Option.isSome_iff_exists.mp ((ChState.ofConfig_isSome config).mpr hlt)
      rw [state, hst, Option.getD_some, ChState.toNat_ofConfig hst]
      have hn := UInt8.lt_iff_toNat_lt.mp hlt
      have hne : config.toNat ≠ 2 := fun h2 ↦ hcfg (UInt8.toNat_inj.mp h2)
      simp only [ChState.toNat, UInt8.reduceToNat] at hn ⊢
      omega
    · rw [if_neg fun hc ↦ hge hc.2, permission_track] at hcfg hno
      rw [state, hsame]
      exact h.closed hcfg hno
  | waited act before early state resp asm track =>
    refine .of_touched ?_
    rw [permission_of_track track, permission_cons, Permission.after, if_pos rfl]
  | ended act before ends state resp asm track =>
    refine .of_touched ?_
    rw [permission_of_track track, permission_cons, Permission.after, if_pos rfl]
  | built between inSend p ok act free due empty state content resp asm track =>
    refine h.of_open ?_ (Nat.le_of_eq (by rw [empty])) asm.mp
    rw [permission_of_track track]
    exact permission_track s d
  | sent between inSend ok act free busy adding state content resp asm track =>
    refine h.of_open ?_ (Nat.le_trans (by decide) busy) asm.mp
    rw [permission_of_track track]
    exact permission_track s d
  | reset state resp after track =>
    refine ⟨fun ha ↦ absurd ha.1 after, fun _ _ ↦ ?_⟩
    rw [state]
    decide

/-- A pass that leaves the closed channels alone sends on channels configured EMPTY only. -/
theorem sendsPermitted_of_leavesClosed (b : Board σ) {s : Ctl σ} {a : Act}
    (h : ∀ d, ClosedInv s d) (hg : LeavesClosed s a) : SendsPermitted b s a := by
  intro c st p ok before hrec
  obtain ⟨between, inSend, rfl, free, source⟩ := sent_of_recordsSend b hrec
  -- the channel is EMPTY or above, so it is open for one of the two reasons
  have hopen (hat : slotDue between s = some c ∨
      ChState.transmit.toNat ≤ (s.chan c).state.toNat)
      (hge : ChState.empty.toNat ≤ (s.chan c).state.toNat) :
      (permission c s.hist).configuration = 2 := by
    refine Decidable.byContradiction fun hcfg ↦ ?_
    exact absurd ((h c).closed hcfg (hg free c hat hcfg)) (Nat.not_lt.mpr hge)
  cases source with
  | built due empty state hist =>
    rw [hist]
    exact hopen (.inl due) (Nat.le_of_eq (by rw [empty]))
  | found due busy state packet hist =>
    rw [hist]
    exact hopen (.inl due) (Nat.le_trans (by decide) busy)
  | picked due ready state packet hist =>
    rw [hist]
    exact hopen (.inr ready) (Nat.le_trans (by decide) ready)

/-- In every run of the controller whose passes all leave alone the channels that are not
configured EMPTY and have been touched since, `libradio_send` is only called for channels
configured EMPTY. -/
theorem sends_permitted (b : Board σ) (chip : σ) (eeprom : UInt16 → UInt8) (beyondData : UInt8)
    (acts : List Act) (h : Along (step b) LeavesClosed (start b chip eeprom beyondData) acts) :
    Along (step b) (SendsPermitted b) (start b chip eeprom beyondData) acts := by
  refine along_of_inv (step b) (I := fun s ↦ ∀ d, ClosedInv s d)
    (fun s a hs _ d ↦ closedInv_step b s a d (hs d))
    (fun s a hs hg ↦ sendsPermitted_of_leavesClosed b hs hg) (fun d ↦ ?_) h
  obtain ⟨hst, -, hidle, -⟩ := chan_start b chip eeprom beyondData d
  refine ⟨fun ha ↦ absurd ha.1 hidle, fun _ _ ↦ ?_⟩
  rw [hst]
  decide

private def answeringRadio : Board Nat :=
  .scripted fun _ i ↦ if i = 0 then SI4463_STATE_READY else 64

private def passes (t : String) : List Act :=
  (characters t).flatMap fun ch ↦ [.poll, .input ch, .check 0 0]

/-- Channel B is configured EMPTY before a packet for node 7 is entered on it. -/
theorem sends_permitted_on_b :
    Along (step answeringRadio) (SendsPermitted answeringRadio)
      (start answeringRadio 0 (fun _ ↦ 0) 0)
      (passes ">B1:3:0,1,0.\n>B1:16:1,2.\n>B7:20.\n") :=
  sends_permitted answeringRadio 0 (fun _ ↦ 0) 0 _ (by decide +kernel)

-- Channel A is configured READ by a line entered on channel A itself, which leaves it EMPTY; then a
-- packet for node 7 is entered on it.
private def queuedOnRead : List Act :=
  passes ">A1:3:0,1,0.\n>A1:16:0,1.\n>A7:20" ++ [.poll, .input chDot]

/-- The packet is sent on the channel configured READ. -/
theorem read_channel_transmits :
    ¬ Along (step answeringRadio) (SendsPermitted answeringRadio)
      (start answeringRadio 0 (fun _ ↦ 0) 0) (queuedOnRead ++ [.check 0 0]) := by
  intro h
  have hlast := ((along_append _ _ _ _ _).mp h).2.1
  have hcfg := hlast 0 .transmit
    ((run (step answeringRadio) (start answeringRadio 0 (fun _ ↦ 0) 0)
      queuedOnRead).chan 0).packet.content true _ ⟨by decide +kernel, List.suffix_rfl⟩
  exact absurd hcfg (by decide +kernel)

end Ctl
end Libradio
