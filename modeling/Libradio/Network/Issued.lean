import Libradio.Control.Assembly

/-!
# What the controller may send

The packets that the record of the controller answers for: those of the lines it has acknowledged
and those it has built for a time slot. As long as no pass sends the packet that the parser is
still filling, it sends nothing else.
-/

namespace Libradio
open Libradio.Base

/-- The record has an acknowledgement or a time slot for the packet. -/
def Issued (h : List Obs) (p : Packet.Content) : Prop := ∃ c, .ack c p ∈ h ∨ .slot c p ∈ h

/-- The packet of a time slot is a SET_TIME for every node. -/
def Packet.Content.IsTime (p : Packet.Content) : Prop :=
  p.node = 0 ∧ p.cmd = RADIO_CMD_SET_TIME ∧ p.len = 1

/-- What waits in a channel was issued. -/
theorem mem_of_loaded {d : Fin 6} {h : List Obs} {l : Load} (hl : loaded d h = some l) :
    .ack d l.packet ∈ h ∨ .slot d l.packet ∈ h := by
  induction h with
  | nil => cases hl
  | cons o h ih =>
    have hlater (hl : loaded d h = some l) :
        .ack d l.packet ∈ o :: h ∨ .slot d l.packet ∈ o :: h := by
      rcases ih hl with hack | hslot
      · exact .inl (List.mem_cons_of_mem o hack)
      · exact .inr (List.mem_cons_of_mem o hslot)
    rw [loaded_cons] at hl
    cases o with
    | ack c p =>
      rw [Load.after_ack] at hl
      split at hl
      · next hc =>
        cases hl
        rw [hc]
        exact .inl List.mem_cons_self
      · exact hlater hl
    | slot c p =>
      rw [Load.after_slot] at hl
      split at hl
      · next hc =>
        cases hl
        rw [hc]
        exact .inr List.mem_cons_self
      · exact hlater hl
    | send c st p ok =>
      rw [Load.after_send] at hl
      split at hl
      · cases hl
      · exact hlater hl
    | setChannel c config =>
      rw [Load.after_setChannel] at hl
      split at hl
      · cases hl
      · exact hlater hl
    | reset => cases hl
    | input ch => exact hlater hl
    | claim c => exact hlater hl
    | handed c p => exact hlater hl
    | exec p code => exact hlater hl
    | finish c => exact hlater hl
    | wait c after => exact hlater hl

namespace Ctl

variable {σ : Type}

/-- The track of a channel has the records of the run that concern it. -/
theorem mem_track {s : Ctl σ} {d : Fin 6} {o : Obs} (ho : o.concerns d = true) :
    o ∈ s.track d ↔ o ∈ s.hist := by
  rw [track, List.mem_filter]
  exact and_iff_left ho

/-- The record of a channel only grows. -/
theorem track_suffix (b : Board σ) (s : Ctl σ) (a : Act) (d : Fin 6) :
    s.track d <:+ (step b s a).track d := by
  cases chanEffect_step b s a d with
  | same state content resp asm track => exact track ▸ List.suffix_rfl
  | claimed free state resp before after track => exact track ▸ List.suffix_cons _ _
  | edited before after state resp track => exact track ▸ List.suffix_rfl
  | left ch act leaves before after state content resp track => exact track ▸ List.suffix_rfl
  | released p config before after state resp config_set track =>
    rw [track]
    exact ((List.suffix_cons _ _).trans (List.suffix_append _ _)).trans (List.suffix_cons _ _)
  | queued ch p act queues before after state content resp track =>
    rw [track]
    exact (List.suffix_cons _ _).trans (List.suffix_cons _ _)
  | configured ch config act configures before after state content resp track =>
    exact track ▸ List.suffix_cons _ _
  | waited act before early state resp asm track => exact track ▸ List.suffix_cons _ _
  | ended act before ends state resp asm track => exact track ▸ List.suffix_cons _ _
  | built between inSend p ok act free due empty state content resp asm track =>
    rw [track]
    exact (List.suffix_cons _ _).trans (List.suffix_cons _ _)
  | sent between inSend ok act free busy adding state content resp asm track =>
    exact track ▸ List.suffix_cons _ _
  | reset state resp after track => exact track ▸ List.suffix_cons _ _

/-- What is recorded of a channel stays recorded. -/
theorem mem_hist_step (b : Board σ) (s : Ctl σ) (a : Act) {d : Fin 6} {o : Obs}
    (ho : o.concerns d = true) (h : o ∈ s.hist) : o ∈ (step b s a).hist := by
  apply (mem_track ho).mp
  apply (track_suffix b s a d).subset
  exact (mem_track ho).mpr h

/-- What was issued stays issued. -/
theorem issued_step (b : Board σ) (s : Ctl σ) (a : Act) {p : Packet.Content}
    (h : Issued s.hist p) : Issued (step b s a).hist p := by
  obtain ⟨c, hack | hslot⟩ := h
  · exact ⟨c, .inl (mem_hist_step b s a (d := c) (by simp [Obs.concerns]) hack)⟩
  · exact ⟨c, .inr (mem_hist_step b s a (d := c) (by simp [Obs.concerns]) hslot)⟩

/-- What a step sends that spares the packet under construction was issued. -/
theorem issued_of_recordsSend (b : Board σ) {s : Ctl σ} {a : Act} (h : ∀ d, AssemblyInv s d)
    (hg : SparesAssembly b s a) {c : Fin 6} {st : ChState} {p : Packet.Content} {ok : Bool}
    {before : List Obs} (hrec : RecordsSend s (step b s a) c st p ok before) :
    Issued (step b s a).hist p := by
  obtain ⟨-, -, l, hl, rfl⟩ := (sendsComplete_of_spares b h hg).1 c st p ok before hrec
  obtain ⟨hhist, -⟩ := hrec
  rw [hhist]
  refine ⟨c, ?_⟩
  rcases mem_of_loaded hl with hack | hslot
  · exact .inl (List.mem_cons_of_mem _ hack)
  · exact .inr (List.mem_cons_of_mem _ hslot)

/-- Whether a step spares the packet under construction can be evaluated. -/
instance (b : Board σ) (s : Ctl σ) (a : Act) : Decidable (SparesAssembly b s a) :=
  match a with
  | .tick => .isTrue ⟨nofun, nofun⟩
  | .input _ => .isTrue ⟨nofun, nofun⟩
  | .poll =>
    decidable_of_iff (∀ c, s.respChp = some c → Assembles s c →
        ¬ ((libradioCheckRx b s.dev).2 = true ∨ (s.chan c).state = .rxresponse4))
      ⟨fun h ↦ ⟨nofun, fun c _ ↦ h c⟩, fun h c ↦ h.2 c rfl⟩
  | .check between inSend =>
    decidable_of_iff (s.respChp = none → ∀ c, slotDue between s = some c →
        (s.chan c).state ≠ .adding)
      ⟨fun h ↦ ⟨fun _ _ c ha hfree hdue ↦ by cases ha; exact h hfree c hdue, nofun⟩,
        fun h hfree c ↦ h.1 between inSend c rfl hfree⟩

/-- The record of a pass that falls on the time slot of an EMPTY channel. -/
theorem hist_check_slot (b : Board σ) {between : Nat} (inSend : Nat) {s : Ctl σ} {c : Fin 6}
    (free : s.respChp = none) (due : slotDue between s = some c)
    (empty : (s.chan c).state = .empty) :
    ∃ st ok p, Packet.Content.IsTime p ∧
      (check b between inSend s).hist = .send c st p ok :: .slot c p :: s.hist := by
  have hfill : (fillSlot c (readClock between s)) =
      ((readClock between s).modify c fun _ ↦ ⟨.transmit, 0xff,
        timePacket (readClock between s).dev.radio.tensOfMinutes (s.chan c).packet⟩).note
        (.slot c (timePacket (readClock between s).dev.radio.tensOfMinutes
          (s.chan c).packet).content) := by
    unfold fillSlot
    exact if_pos empty
  have hsend (t : Ctl σ) (hopen : ¬ (t.chan c).state.toNat < ChState.empty.toNat) :
      ∃ ok, (transmitOn b inSend c t).hist =
        .send c (t.chan c).state (t.chan c).packet.content ok :: t.hist := by
    obtain ⟨ok, -, -, -, -, -, hhist⟩ := sendOn_spec b inSend c t
    refine ⟨ok, ?_⟩
    unfold transmitOn
    rw [if_neg hopen]
    exact hhist
  cases checked_check b between inSend s with
  | awaiting awaited eq => exact absurd free awaited
  | deaf free' deaf eq =>
    rw [slotDue, if_pos deaf] at due
    cases due
  | idle free' listens due' none eq =>
    rw [due] at due'
    cases due'
  | picked c' free' listens due' some eq =>
    rw [due] at due'
    cases due'
  | slot c' free' listens due' eq =>
    obtain rfl : c = c' := Option.some.inj (due.symm.trans due')
    have hown := chan_modify_self c (fun _ ↦ (⟨.transmit, 0xff,
      timePacket (readClock between s).dev.radio.tensOfMinutes (s.chan c).packet⟩ : Channel))
      (readClock between s)
    obtain ⟨ok, hhist⟩ := hsend (fillSlot c (readClock between s)) (by
      rw [hfill, chan_note, hown]
      exact Nat.not_lt.mpr (Nat.le_of_ble_eq_true rfl))
    refine ⟨_, ok, _, ?_, by rw [eq, hhist, hfill, hist_note, chan_note, hown]; rfl⟩
    exact ⟨rfl, rfl, rfl⟩

/-- Every time slot of the record has sent a SET_TIME. -/
def SlotsSetTime (h : List Obs) : Prop := ∀ c p, .slot c p ∈ h → Packet.Content.IsTime p

/-- A pass builds times in its slots only. -/
theorem slotsSetTime_step (b : Board σ) (s : Ctl σ) (a : Act) (h : SlotsSetTime s.hist) :
    SlotsSetTime (step b s a).hist := by
  intro c p hp
  have hconcerns : (Obs.slot c p).concerns c = true := by simp [Obs.concerns]
  have hold (hp : .slot c p ∈ s.track c) : p.IsTime := h c p ((mem_track hconcerns).mp hp)
  have hp' := (mem_track hconcerns).mpr hp
  -- only the time slot itself records one
  cases chanEffect_step b s a c with
  | same state content resp asm track => exact hold (track ▸ hp')
  | claimed free state resp before after track =>
    rw [track] at hp'
    exact hold (by simpa using hp')
  | edited before after state resp track => exact hold (track ▸ hp')
  | left ch act leaves before after state content resp track => exact hold (track ▸ hp')
  | released q config before after state resp config_set track =>
    rw [track, List.mem_cons, List.mem_append, List.mem_cons] at hp'
    rcases hp' with hp' | hp' | hp' | hp'
    · cases hp'
    · obtain ⟨v, hv⟩ := config_set _ hp'
      cases hv
    · cases hp'
    · exact hold hp'
  | queued ch q act queues before after state content resp track =>
    rw [track] at hp'
    exact hold (by simpa using hp')
  | configured ch config act configures before after state content resp track =>
    rw [track] at hp'
    exact hold (by simpa using hp')
  | waited act before early state resp asm track =>
    rw [track] at hp'
    exact hold (by simpa using hp')
  | ended act before ends state resp asm track =>
    rw [track] at hp'
    exact hold (by simpa using hp')
  | built between inSend q ok act free due empty state content resp asm track =>
    subst act
    obtain ⟨st, ok', q', htime, hhist⟩ := hist_check_slot b inSend free due empty
    rw [step, hhist] at hp
    rcases List.mem_cons.mp hp with hp | hp
    · cases hp
    · rcases List.mem_cons.mp hp with hp | hp
      · cases hp
        exact htime
      · exact h c p hp
  | sent between inSend ok act free busy adding state content resp asm track =>
    rw [track] at hp'
    exact hold (by simpa using hp')
  | reset state resp after track =>
    rw [track] at hp'
    exact hold (by simpa using hp')

end Ctl
end Libradio
