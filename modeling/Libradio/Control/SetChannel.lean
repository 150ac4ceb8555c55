import Libradio.Control.Execution

/-!
# What SET_CHANNEL sets

`set_channel` (`src/control/enqueue.c:110-121`) stores a state below three and clears the priority
whatever it is given. It is called out of the channel that the line was read into, which `enqueue`
sets to EMPTY afterwards (`src/control/enqueue.c:66-67`).
-/

namespace Libradio
open Libradio.Base

namespace Ctl

variable {σ : Type}

/-- A line from the letter of its channel on: the letter claims the channel, and whatever happens
after that finds the parser in the middle of the packet. -/
structure Reading (b : Board σ) (s : Ctl σ) (letter : UInt8) (acts : List Act) : Prop where
  before : s.state = .waitchan
  claims : (step b s (.input letter)).state = .waitnode
  assembling : Along (step b) (fun s _ ↦ s.state.IsAssembling) (step b s (.input letter)) acts

/-- A character changes no channel but `t`. -/
def OnlyCarrier (b : Board σ) (t : Fin 6) (s : Ctl σ) : Act → Prop
  | .input ch => ∀ d, d ≠ t → (processInput b ch s).chan d = s.chan d
  | _ => True

/-- Channel `c` before a line on channel `t`: the carrier as the letter found it, any other one as
it was when the line was complete. -/
def before (s₀ s : Ctl σ) (t c : Fin 6) : Channel := if c = t then s₀.chan c else s.chan c

/-- A SET_CHANNEL line on channel `t`, begun in `s₀` and completed from `s` to `s'`, has set channel
`c` as it says: the channel has the state for a value below three, and is what it was for any other
value. No other channel but `t` has changed. -/
structure SetsAsTold (s₀ s s' : Ctl σ) (t c : Fin 6) (config : UInt8) : Prop where
  state : config < 3 → (s'.chan c).state.toNat = config.toNat
  kept : ¬ config < 3 → (s'.chan c).state = (before s₀ s t c).state ∧
    (s'.chan c).priority = (before s₀ s t c).priority
  others : ∀ d, d ≠ t → d ≠ c → s'.chan d = s.chan d

/-- The value is EMPTY if the line sets its own channel to a state. If it sets none, the channel has
no priority, and is EMPTY if it is the line's own. -/
def Settable (chp : Channel) (t c : Fin 6) (config : UInt8) : Prop :=
  if config < 3 then c = t → config = 2
  else chp.priority = 0 ∧ (c = t → chp.state = .empty)

/-! ### The characters of a line -/

/-- A letter that claims a channel changes that channel only. -/
theorem onlyCarrier_claim (b : Board σ) {s : Ctl σ} {letter : UInt8}
    (hbefore : s.state = .waitchan) (hclaims : (step b s (.input letter)).state = .waitnode) :
    OnlyCarrier b (step b s (.input letter)).currChp s (.input letter) := by
  have hafter : (step b s (.input letter)).state.IsAssembling := by
    rw [hclaims]
    decide
  have hidle : ¬ s.state.IsAssembling := by
    rw [hbefore]
    decide
  intro d hd
  cases effect_processInput b letter s with
  | idle before after chan respChp hist => exact absurd hafter after
  | claimed before free own others after respChp hist => exact others d hd.symm
  | stored before after currChp state others respChp hist => exact absurd before hidle
  | left before leaves after chan respChp hist => exact absurd before hidle
  | handed before completes enqueued after => exact absurd before hidle
  | reset eq =>
    have hnewline := (boot_fresh b (s.note (.input letter))).2.2.1
    rw [← eq] at hnewline
    exact absurd (hclaims.symm.trans hnewline) (by decide)

/-- Whatever happens in the middle of a line and does not end it leaves the parser on its channel,
and a character changes that channel only. -/
theorem onlyCarrier_assembling (b : Board σ) {s : Ctl σ} {a : Act} (h : s.state.IsAssembling)
    (hafter : (step b s a).state.IsAssembling) :
    OnlyCarrier b s.currChp s a ∧ (step b s a).currChp = s.currChp := by
  cases a with
  | tick => exact ⟨trivial, (alike_tick b s).currChp⟩
  | poll =>
    refine ⟨trivial, ?_⟩
    cases effect_poll b s with
    | idle none eq => rw [step, eq]
    | waiting c some going own others respChp parser hist => exact parser.currChp
    | ended c some ends own others respChp parser hist => exact parser.currChp
  | check between inSend =>
    refine ⟨trivial, ?_⟩
    cases effect_check b between inSend s with
    | idle closed chan respChp parser hist => exact parser.currChp
    | sent c st p ok before none source hist own packet others respChp parser =>
      exact parser.currChp
  | input ch =>
    cases effect_processInput b ch s with
    | idle before after chan respChp hist => exact absurd h before
    | claimed before free own others after respChp hist =>
      rw [before] at h
      exact absurd h (by decide)
    | stored before after currChp state others respChp hist =>
      exact ⟨fun d hd ↦ others d hd.symm, currChp⟩
    | left before leaves after chan respChp hist => exact absurd hafter after
    | handed before completes enqueued after => exact absurd hafter after
    | reset eq =>
      have hnewline := (boot_fresh b (s.note (.input ch))).2.2.1
      rw [← eq] at hnewline
      change (processInput b ch s).state.IsAssembling at hafter
      rw [hnewline] at hafter
      exact absurd hafter (by decide)

/-- The middle of a line. -/
theorem onlyCarrier_run (b : Board σ) {s : Ctl σ} {acts : List Act}
    (h : Along (step b) (fun s _ ↦ s.state.IsAssembling) s acts)
    (hafter : (run (step b) s acts).state.IsAssembling) :
    Along (step b) (OnlyCarrier b s.currChp) s acts ∧
      (run (step b) s acts).currChp = s.currChp := by
  induction acts generalizing s with
  | nil => exact ⟨trivial, rfl⟩
  | cons a acts ih =>
    obtain ⟨hfirst, hrest⟩ := h
    have hnext : (step b s a).state.IsAssembling := by
      cases acts with
      | nil => exact hafter
      | cons a' acts => exact hrest.1
    obtain ⟨honly, hsame⟩ := onlyCarrier_assembling b hfirst hnext
    obtain ⟨hacts, hend⟩ := ih hrest hafter
    rw [hsame] at hacts hend
    exact ⟨⟨honly, hacts⟩, hend⟩

/-- The characters of a line before the last one change the channel of the line only. -/
theorem Reading.onlyCarrier {b : Board σ} {s : Ctl σ} {letter : UInt8} {acts : List Act}
    (h : Reading b s letter acts)
    (hafter : (run (step b) s (.input letter :: acts)).state.IsAssembling) :
    Along (step b) (OnlyCarrier b (run (step b) s (.input letter :: acts)).currChp) s
      (.input letter :: acts) := by
  obtain ⟨hacts, hend⟩ := onlyCarrier_run b h.assembling hafter
  rw [run_cons, hend]
  exact ⟨onlyCarrier_claim b h.before h.claims, hacts⟩

private theorem assembling_of_completed {s : Ctl σ} {ch : UInt8} {c : Fin 6} {p : Packet.Content}
    (h : completed ch s = some (c, p)) : s.state.IsAssembling ∧ s.currChp = c := by
  rw [completed] at h
  split at h
  · next hcomp =>
    cases h
    refine ⟨?_, rfl⟩
    rcases hcomp with ⟨hst, -⟩ | ⟨hst, -⟩ <;> rw [hst] <;> decide
  · cases h

/-! ### The execution of the line -/

/-- The channels after a SET_CHANNEL of channel `c` has been executed out of channel `t`. -/
structure Configured (t c : Fin 6) (config : UInt8) (s s' : Ctl σ) : Prop where
  state : (s'.chan t).state = .empty
  priority : (s'.chan t).priority = if c = t then 0 else (s.chan t).priority
  target : c ≠ t → s'.chan c = configure config (s.chan c)
  others : ∀ d, d ≠ t → d ≠ c → s'.chan d = s.chan d

private theorem configured_of_completed (b : Board σ) {s : Ctl σ} {ch : UInt8} {t c : Fin 6}
    {config : UInt8} {p : Packet.Content} (h : completed ch s = some (t, p))
    (hown : IsLocal s.dev.radio p) (hconfig : configOf p = some (c, config)) :
    Configured t c config s (processInput b ch s) := by
  obtain ⟨P, u, st, hcontent, hstarted, heq⟩ := local_of_completed b h hown
  have hcommand := alike_mycommand b P u
  rw [hcontent, applyConfig, hconfig] at hcommand
  have hchan (d : Fin 6) : (mycommand b P u).1.chan d =
      if c = d then configure config (u.chan c) else u.chan d := by
    rw [hcommand.chan, chan_note, chan_modify]
  rw [heq]
  constructor
  · rw [chan_executed_self]
  · rw [chan_executed_self]
    dsimp only
    rw [hchan]
    split
    · rfl
    · exact hstarted.priority t
  · intro hct
    rw [chan_executed_of_ne hct.symm, hchan, if_pos rfl, hstarted.others c hct.symm]
  · intro d hdt hdc
    rw [chan_executed_of_ne hdt.symm, hchan, if_neg hdc.symm, hstarted.others d hdt.symm]

/-- The state that a value below three sets. -/
theorem toNat_configure {config : UInt8} (h : config < 3) (chp : Channel) :
    (configure config chp).state.toNat = config.toNat := by
  obtain ⟨st, hst⟩ := Option.isSome_iff_exists.mp ((ChState.ofConfig_isSome config).mpr h)
  rw [configure, hst, Option.getD_some, ChState.toNat_ofConfig hst]

/-- A value from three on sets no state. -/
theorem state_configure {config : UInt8} (h : ¬ config < 3) (chp : Channel) :
    (configure config chp).state = chp.state := by
  rcases ChState.getD_ofConfig_cases config chp.state with ⟨hlt, -⟩ | ⟨-, hsame⟩
  · exact absurd hlt h
  · exact hsame

private theorem Configured.asTold_iff {s₀ s s' : Ctl σ} {t c : Fin 6} {config : UInt8}
    (h : Configured t c config s s') :
    SetsAsTold s₀ s s' t c config ↔ Settable (before s₀ s t c) t c config := by
  have hempty : config.toNat = ChState.empty.toNat ↔ config = 2 :=
    ⟨fun h ↦ UInt8.toNat_inj.mp h, fun h ↦ by rw [h]; rfl⟩
  have hothers := h.others
  unfold Settable
  by_cases hct : c = t
  · subst hct
    have hstate := h.state
    have hpriority := h.priority
    rw [if_pos rfl] at hpriority
    by_cases hlt : config < 3
    · rw [if_pos hlt]
      constructor
      · intro hset _
        rw [← hempty, ← hset.state hlt, hstate]
      · intro htwo
        exact ⟨fun _ ↦ by rw [hstate, hempty.mpr (htwo rfl)], fun hge ↦ absurd hlt hge, hothers⟩
    · rw [if_neg hlt]
      constructor
      · intro hset
        obtain ⟨hkeptState, hkeptPriority⟩ := hset.kept hlt
        exact ⟨hkeptPriority.symm.trans hpriority, fun _ ↦ hkeptState.symm.trans hstate⟩
      · rintro ⟨hnone, hwas⟩
        refine ⟨fun hlt' ↦ absurd hlt' hlt, fun _ ↦ ⟨?_, ?_⟩, hothers⟩
        · rw [hstate, hwas rfl]
        · rw [hpriority, hnone]
  · have htarget := h.target hct
    have hbefore : before s₀ s t c = s.chan c := if_neg hct
    rw [hbefore]
    by_cases hlt : config < 3
    · rw [if_pos hlt]
      refine iff_of_true ⟨fun _ ↦ ?_, fun hge ↦ absurd hlt hge, hothers⟩ fun heq ↦ absurd heq hct
      rw [htarget, toNat_configure hlt]
    · rw [if_neg hlt]
      constructor
      · intro hset
        obtain ⟨-, hkept⟩ := hset.kept hlt
        rw [htarget, hbefore] at hkept
        exact ⟨hkept.symm, fun heq ↦ absurd heq hct⟩
      · rintro ⟨hnone, -⟩
        refine ⟨fun hlt' ↦ absurd hlt' hlt, fun _ ↦ ⟨?_, ?_⟩, hothers⟩
        · rw [htarget, hbefore, state_configure hlt]
        · rw [htarget, hbefore, hnone]
          rfl

/-- A SET_CHANNEL line for the controller itself, on whatever channel, changes no other channel
while it is read and sets its channel as it says, exactly if it does not ask for another state of
its own channel than EMPTY, nor for a priority to be left. -/
theorem setsAsTold_iff (b : Board σ) {s₀ s : Ctl σ} {letter last : UInt8} {acts : List Act}
    {t c : Fin 6} {config : UInt8} {p : Packet.Content} (hreading : Reading b s₀ letter acts)
    (hs : run (step b) s₀ (.input letter :: acts) = s) (hcompleted : completed last s = some (t, p))
    (hown : IsLocal s.dev.radio p) (hconfig : configOf p = some (c, config)) :
    (Along (step b) (OnlyCarrier b t) s₀ (.input letter :: acts) ∧
        SetsAsTold s₀ s (processInput b last s) t c config) ↔
      Settable (before s₀ s t c) t c config := by
  obtain ⟨hafter, hcarrier⟩ := assembling_of_completed hcompleted
  have honly := hreading.onlyCarrier (by rw [hs]; exact hafter)
  rw [hs, hcarrier] at honly
  rw [and_iff_right honly]
  exact (configured_of_completed b hcompleted hown hconfig).asTold_iff

private def configRadio : Board Nat := .scripted fun _ _ ↦ SI4463_STATE_READY

-- The controller when it has been started and has read a text.
private def configTyped (text : String) : Ctl Nat :=
  run (step configRadio) (start configRadio 0 (fun _ ↦ 0) 0) ((characters text).map .input)

-- A SET_CHANNEL of two data bytes.
private def configPacket (node c config : UInt8) : Packet.Content :=
  ⟨node, RADIO_CMD_SET_CHANNEL, 2, #v[c, config, 0, 0, 0, 0, 0, 0, 0, 0]⟩

/-- A line on channel A makes channel B EMPTY. -/
theorem setsAsTold_otherChannel :
    Along (step configRadio) (OnlyCarrier configRadio 0) (configTyped ">")
        (.input chA :: (characters "0:16:1,2").map .input) ∧
      SetsAsTold (configTyped ">") (configTyped ">A0:16:1,2")
        (processInput configRadio chDot (configTyped ">A0:16:1,2")) 0 1 2 := by
  have hreading : Reading configRadio (configTyped ">") chA ((characters "0:16:1,2").map .input) :=
    ⟨by decide +kernel, by decide +kernel, by decide +kernel⟩
  have hs : run (step configRadio) (configTyped ">")
      (.input chA :: (characters "0:16:1,2").map .input) = configTyped ">A0:16:1,2" := by
    rw [configTyped, ← run_append]
    rfl
  have htold : Settable (before (configTyped ">") (configTyped ">A0:16:1,2") 0 1) 0 1 2 := by
    rw [Settable, if_pos (by decide)]
    decide
  exact (setsAsTold_iff configRadio hreading hs (p := configPacket 0 1 2) (by decide +kernel)
    (by decide +kernel) (by decide +kernel)).mpr htold

-- The controller has read a SET_CHANNEL line for itself but for the dot, from the letter on in
-- `s₀`, and the line does not do as it says.
private def ConfigFails (s₀ s : Ctl Nat) (node : UInt8) (t c : Fin 6) (config : UInt8) : Prop :=
  completed chDot s = some (t, configPacket node (UInt8.ofNat c) config) ∧
    IsLocal s.dev.radio (configPacket node (UInt8.ofNat c) config) ∧
    ¬ SetsAsTold s₀ s (processInput configRadio chDot s) t c config

/-- A line on channel A cannot disable channel A, and a value of three takes the priority of a
packet that waits in channel B. -/
theorem not_setsAsTold :
    ConfigFails (configTyped ">") (configTyped ">A0:16:0,0") 0 0 0 0 ∧
      ConfigFails (configTyped ">A0:3:0,1,0.\n>B5:0.\n>")
        (configTyped ">A0:3:0,1,0.\n>B5:0.\n>A1:16:1,3") 1 0 1 3 := by
  refine ⟨⟨by decide +kernel, by decide +kernel, fun h ↦ ?_⟩,
    ⟨by decide +kernel, by decide +kernel, fun h ↦ ?_⟩⟩
  · have hstate := h.state (by decide)
    revert hstate
    decide +kernel
  · obtain ⟨-, hpriority⟩ := h.kept (by decide)
    revert hpriority
    decide +kernel

end Ctl
end Libradio
