import Libradio.Control.ChannelEffects

/-!
# Channels that stay claimed

`process_input` claims a channel with its letter and should give it back on every way out
of the line. The ways out through `reply` and the end of a line in the node number
(`src/control/input.c:70-75,178-185,194-197`) leave the channel in ADDING, where every later line
is answered BUSY. All others give it back.
-/

namespace Libradio
open Libradio.Base

namespace Ctl

variable {σ : Type}

/-- Outside a packet no channel is in ADDING. -/
def NoneClaimed (s : Ctl σ) : Prop :=
  ¬ s.state.IsAssembling → ∀ d, (s.chan d).state ≠ .adding

instance (s : Ctl σ) : Decidable (NoneClaimed s) := inferInstanceAs (Decidable (_ → _))

/-- The action does not give up a packet whose channel is in ADDING, and the response wait
does not step a channel from EMPTY to ADDING. -/
def KeepsClaims (s : Ctl σ) (a : Act) : Prop :=
  (∀ ch, a = .input ch → Leaves s ch → (s.chan s.currChp).state ≠ .adding) ∧
    (a = .poll → ∀ d, s.respChp = some d → (s.chan d).state ≠ .empty)

/-- Only the channel the parser is filling is in ADDING. -/
def OnlyCurrent (s : Ctl σ) : Prop := ∀ d, (s.chan d).state = .adding → Assembles s d

private theorem ofConfig_ne_adding {config : UInt8} {st : ChState}
    (h : (ChState.ofConfig config).getD st = .adding) : st = .adding := by
  rcases ChState.getD_ofConfig_cases config st with ⟨-, hle⟩ | ⟨-, hsame⟩
  · rw [h] at hle
    exact absurd hle (by decide)
  · exact hsame ▸ h

/-- Every action that keeps the claims leaves only the parser's channel in ADDING. -/
theorem onlyCurrent_step (b : Board σ) (s : Ctl σ) (a : Act) (h : OnlyCurrent s)
    (hkeep : KeepsClaims s a) : OnlyCurrent (step b s a) := by
  intro d hadd
  cases chanEffect_step b s a d with
  | same state content resp asm track => exact asm.mpr (h d (state ▸ hadd))
  | claimed free state resp before after track => exact after
  | edited before after state resp track => exact after
  | left ch act leaves before after state content resp track =>
    have := hkeep.1 ch act leaves
    rw [before.2] at this
    exact absurd (state ▸ hadd) this
  | released p config before after state resp config_set track =>
    rw [state] at hadd
    cases hadd
  | queued ch p act queues before after state content resp track =>
    rw [hadd] at state
    exact absurd state (by decide)
  | configured ch config act configures before after state content resp track =>
    rw [state] at hadd
    exact absurd (h d (ofConfig_ne_adding hadd)) before
  | waited act before early state resp asm track =>
    rw [state] at hadd
    have hempty : (s.chan d).state = .empty := by
      cases hst : (s.chan d).state <;> rw [hst] at hadd <;> first | rfl | cases hadd
    exact absurd hempty (hkeep.2 act d before)
  | ended act before ends state resp asm track =>
    rw [state] at hadd
    cases hadd
  | built between inSend p ok act free due empty state content resp asm track =>
    rw [state] at hadd
    split at hadd <;> cases hadd
  | sent between inSend ok act free busy adding state content resp asm track =>
    rw [state] at hadd
    split at hadd
    · split at hadd <;> cases hadd
    · exact asm.mpr (h d hadd)
  | reset state resp after track =>
    rw [state] at hadd
    cases hadd

/-- A started controller has claimed no channel. -/
theorem onlyCurrent_start (b : Board σ) (chip : σ) (eeprom : UInt16 → UInt8)
    (beyondData : UInt8) : OnlyCurrent (start b chip eeprom beyondData) := by
  intro d hadd
  rw [(chan_start b chip eeprom beyondData d).1] at hadd
  cases hadd

private theorem OnlyCurrent.noneClaimed {s : Ctl σ} (h : OnlyCurrent s) : NoneClaimed s :=
  fun hidle d hadd ↦ hidle (h d hadd).1

/-- Giving up a packet leaves every channel as it is. -/
theorem chan_of_leaves (b : Board σ) {ch : UInt8} {s : Ctl σ} (h : Leaves s ch) :
    (processInput b ch s).chan s.currChp = s.chan s.currChp ∧
      ¬ (processInput b ch s).state.IsAssembling := by
  unfold processInput
  dsimp only
  by_cases hend : IsLineEnd ch
  · have hnode : s.state = .waitnode := by
      rcases h with ⟨hst, -⟩ | ⟨-, hno, -⟩ | ⟨-, hno, -⟩
      · exact hst
      · exact absurd hend hno
      · exact absurd hend hno
    rw [if_pos hend, if_neg (by rw [state_note, hnode]; decide)]
    exact ⟨rfl, by simp [IoState.IsAssembling, IoState.toNat]⟩
  · rw [if_neg hend, state_note]
    have hreply (code : UInt8) :
        (((s.note (.input ch)).reply code).chan s.currChp = s.chan s.currChp) ∧
          ¬ ((s.note (.input ch)).reply code).state.IsAssembling :=
      ⟨rfl, by simp [reply, IoState.IsAssembling, IoState.toNat]⟩
    rcases h with ⟨hst, hdigit, hcolon⟩ | ⟨hst, -, hdigit, hcolon, hdot⟩ | ⟨hst, -, hdigit, hsep⟩
    · rw [hst]
      dsimp only
      rw [inputNode, if_neg hdigit, if_neg hcolon]
      exact hreply _
    · rw [hst]
      dsimp only
      rw [inputCmd, if_neg hdigit, if_neg hcolon, if_neg hdot]
      exact hreply _
    · rw [hst]
      dsimp only
      rw [inputData, if_neg hdigit]
      rcases hsep with hsep | hlen
      · rw [if_neg (not_or.mpr hsep)]
        exact hreply _
      · split
        · rw [if_pos (by exact hlen)]
          exact hreply _
        · exact hreply _

/-- For every run of the main loop whose steps all keep the claims, no channel is in ADDING
whenever the parser is not assembling a packet; and for every sequence of characters given
to `process_input` alone this holds at every point exactly when each of them keeps the
claims. -/
theorem none_claimed_iff (b : Board σ) (chip : σ) (eeprom : UInt16 → UInt8)
    (beyondData : UInt8) :
    (∀ acts, Along (step b) KeepsClaims (start b chip eeprom beyondData) acts →
      ∀ pre, pre <+: acts → NoneClaimed (run (step b) (start b chip eeprom beyondData) pre)) ∧
    (∀ chs : List UInt8,
      (∀ pre, pre <+: chs.map .input →
        NoneClaimed (run (step b) (start b chip eeprom beyondData) pre)) ↔
      Along (step b) KeepsClaims (start b chip eeprom beyondData) (chs.map .input)) := by
  have hinit := onlyCurrent_start b chip eeprom beyondData
  constructor
  · intro acts hg
    rw [forall_prefix_iff]
    refine ⟨hinit.noneClaimed, ?_⟩
    exact along_of_inv (step b) (onlyCurrent_step b)
      (fun s a hs ha ↦ (onlyCurrent_step b s a hs ha).noneClaimed) hinit hg
  · intro chs
    rw [forall_prefix_iff]
    generalize start b chip eeprom beyondData = s at hinit
    rw [and_iff_right hinit.noneClaimed]
    -- one character: the channel of a packet that is given up stays in ADDING
    have hchar (s : Ctl σ) (ch : UInt8) (h : OnlyCurrent s) :
        NoneClaimed (step b s (.input ch)) ↔ KeepsClaims s (.input ch) := by
      constructor
      · intro hnone
        refine ⟨fun ch' hch hleaves hadd ↦ ?_, nofun⟩
        cases hch
        obtain ⟨hchan, hidle⟩ := chan_of_leaves b hleaves
        refine hnone hidle s.currChp ?_
        rw [step, hchan]
        exact hadd
      · intro hkeep
        exact (onlyCurrent_step b s _ h hkeep).noneClaimed
    induction chs generalizing s with
    | nil => exact Iff.rfl
    | cons ch chs ih =>
      rw [List.map_cons, along_cons, along_cons]
      constructor
      · rintro ⟨h, hrest⟩
        have hkeep := (hchar s ch hinit).mp h
        exact ⟨hkeep, (ih _ (onlyCurrent_step b s _ hinit hkeep)).mp hrest⟩
      · rintro ⟨hkeep, hrest⟩
        exact ⟨(hchar s ch hinit).mpr hkeep, (ih _ (onlyCurrent_step b s _ hinit hkeep)).mpr hrest⟩

/-- A line that is cut off behind its channel letter leaves channel A claimed. -/
theorem cut_line_claims_channel :
    ¬ NoneClaimed (run (step (.scripted fun _ _ ↦ 0))
      (start (.scripted fun _ _ ↦ 0) 0 (fun _ ↦ 0) 0) ((characters ">A\n").map .input)) := by
  decide +kernel

end Ctl
end Libradio
