import Libradio.Control.LoopEffects

/-!
# The response wait

`resp_chp` and the RXRESPONSE states are two records of one fact, kept by `main.c`,
`transmit.c` and `enqueue.c`. They agree at the end of every pass of the main loop exactly
as long as no SET_CHANNEL with a configuration names the channel that is waited for
(`src/control/enqueue.c:118-119` overwrites its state).
-/

namespace Libradio
open Libradio.Base

namespace Ctl

variable {σ : Type}

/-- Executing a packet leaves a channel's state or sets it to a configuration. -/
theorem configuredState_cases (p : Packet.Content) (d : Fin 6) (st : ChState) :
    configuredState p d st = st ∨
      ∃ config, configOf p = some (d, config) ∧ config < 3 ∧
        (configuredState p d st).toNat ≤ ChState.empty.toNat := by
  unfold configuredState
  split
  · next c config h =>
    split
    · next hcd =>
      subst hcd
      rcases ChState.getD_ofConfig_cases config st with ⟨hlt, hle⟩ | ⟨-, hsame⟩
      · exact .inr ⟨config, h, hlt, hle⟩
      · exact .inl hsame
    · exact .inl rfl
  · exact .inl rfl

/-- The channel `resp_chp` points to is in an RXRESPONSE state, and no other channel is. -/
def WaitAgrees (s : Ctl σ) : Prop :=
  (∀ c, s.respChp = some c → (s.chan c).state.IsRxResponse) ∧
    ∀ c, (s.chan c).state.IsRxResponse → s.respChp = some c

instance (s : Ctl σ) : Decidable (WaitAgrees s) := inferInstanceAs (Decidable (_ ∧ _))

/-- The character completes a SET_CHANNEL of the controller's own that gives a configuration
to the channel `resp_chp` points to. -/
def ConfiguresWaiting (s : Ctl σ) (ch : UInt8) : Prop :=
  ∃ c p d config, completed ch s = some (c, p) ∧ IsLocal s.dev.radio p ∧
    configOf p = some (d, config) ∧ config < 3 ∧ s.respChp = some d

/-- The two records agree, and the channel being assembled is not near either of them. -/
structure WaitInv (s : Ctl σ) : Prop where
  waiting : ∀ c, s.respChp = some c → (s.chan c).state.IsRxResponse
  pointed : ∀ c, (s.chan c).state.IsRxResponse → s.respChp = some c
  assembling : s.state.IsAssembling →
    (s.chan s.currChp).state.toNat ≤ ChState.transmit.toNat

/-- Channels that have not changed keep the invariant. -/
theorem WaitInv.of_alike {s s' : Ctl σ} (h : WaitInv s) (ha : Alike s s') : WaitInv s' := by
  refine ⟨fun c hc ↦ ?_, fun c hc ↦ ?_, fun hasm ↦ ?_⟩
  · rw [ha.chan]
    exact h.waiting c (ha.respChp ▸ hc)
  · rw [ha.chan] at hc
    rw [ha.respChp]
    exact h.pointed c hc
  · rw [ha.currChp, ha.chan]
    exact h.assembling (ha.state ▸ hasm)

/-- The channel that is waited for is not being assembled. -/
theorem WaitInv.currChp_ne {s : Ctl σ} (h : WaitInv s) (hasm : s.state.IsAssembling) {c : Fin 6}
    (hc : s.respChp = some c) : s.currChp ≠ c := by
  rintro rfl
  exact ChState.not_isRxResponse_of_le (Nat.le_trans (h.assembling hasm) (by decide))
    (h.waiting _ hc)

/-- A started controller waits for nothing. -/
theorem waitInv_boot (b : Board σ) (s : Ctl σ) : WaitInv (boot b s) := by
  obtain ⟨hchan, hresp, hstate, -⟩ := boot_fresh b s
  refine ⟨fun c hc ↦ ?_, fun c hc ↦ ?_, fun hasm ↦ ?_⟩
  · rw [hresp] at hc
    cases hc
  · rw [hchan] at hc
    exact absurd hc (by decide)
  · rw [hstate] at hasm
    exact absurd hasm (by decide)

/-- The response wait keeps the two records together. -/
theorem waitInv_poll (b : Board σ) {s : Ctl σ} (h : WaitInv s) : WaitInv (poll b s) := by
  cases effect_poll b s with
  | idle none eq => rw [eq]; exact h
  | waiting c some going own others respChp parser hist =>
    have hrx := h.waiting c some
    have hnext : (s.chan c).state.next.IsRxResponse := by
      unfold ChState.IsRxResponse
      rw [ChState.toNat_next _ (not_or.mp going).2]
      exact Nat.le_succ_of_le hrx
    refine ⟨fun d hd ↦ ?_, fun d hd ↦ ?_, fun hasm ↦ ?_⟩
    · obtain rfl : c = d := Option.some.inj (some.symm.trans (respChp.symm.trans hd))
      rw [own]
      exact hnext
    · rw [respChp]
      by_cases hcd : c = d
      · rw [some, hcd]
      · rw [others d hcd] at hd
        exact h.pointed d hd
    · rw [parser.state] at hasm
      have hne : c ≠ s.currChp := (h.currChp_ne hasm some).symm
      rw [parser.currChp, others _ hne]
      exact h.assembling hasm
  | ended c some ends own others respChp parser hist =>
    refine ⟨fun d hd ↦ ?_, fun d hd ↦ ?_, fun hasm ↦ ?_⟩
    · rw [respChp] at hd
      cases hd
    · by_cases hcd : c = d
      · subst hcd
        rw [own] at hd
        exact absurd hd (by decide)
      · rw [others d hcd] at hd
        exact absurd (Option.some.inj (some.symm.trans (h.pointed d hd))) hcd
    · rw [parser.state] at hasm
      have hne : c ≠ s.currChp := (h.currChp_ne hasm some).symm
      rw [parser.currChp, others _ hne]
      exact h.assembling hasm

/-- Without a wait, no channel is in a state beyond TXRESPOND. -/
theorem WaitInv.le_txrespond {s : Ctl σ} (h : WaitInv s) (hfree : s.respChp = none)
    (c : Fin 6) : (s.chan c).state.toNat ≤ ChState.txrespond.toNat := by
  refine Nat.le_of_lt_succ (Nat.lt_of_not_le fun hrx ↦ ?_)
  have := h.pointed c hrx
  rw [hfree] at this
  cases this

/-- The transmissions point `resp_chp` at the channel they set to RXRESPONSE. -/
theorem waitInv_check (b : Board σ) (between inSend : Nat) {s : Ctl σ} (h : WaitInv s) :
    WaitInv (check b between inSend s) := by
  cases effect_check b between inSend s with
  | idle closed chan respChp parser hist =>
    refine ⟨fun c hc ↦ ?_, fun c hc ↦ ?_, fun hasm ↦ ?_⟩
    · rw [chan]
      exact h.waiting c (respChp ▸ hc)
    · rw [chan] at hc
      rw [respChp]
      exact h.pointed c hc
    · rw [parser.currChp, chan]
      exact h.assembling (parser.state ▸ hasm)
  | sent c st p ok before none source hist own packet others respChp parser =>
    have hst : st.toNat ≤ ChState.txrespond.toNat := by
      cases source with
      | built due empty state => rw [state]; decide
      | found due busy state => rw [state]; exact h.le_txrespond none c
      | picked due ready state => rw [state]; exact h.le_txrespond none c
    have hcurr (hasm : s.state.IsAssembling) (hc : c = s.currChp) :
        st.toNat ≤ ChState.transmit.toNat := by
      have hle := h.assembling hasm
      rw [← hc] at hle
      cases source with
      | built due empty state => exact Nat.le_of_eq (by rw [state])
      | found due busy state => rw [state]; exact hle
      | picked due ready state => rw [state]; exact hle
    refine ⟨fun d hd ↦ ?_, fun d hd ↦ ?_, fun hasm ↦ ?_⟩
    · rw [respChp] at hd
      split at hd
      · next hok =>
        obtain rfl : c = d := Option.some.inj hd
        rw [own, if_pos hok.1, if_pos hok.2]
        decide
      · cases hd
    · by_cases hcd : c = d
      · subst hcd
        rw [own] at hd
        rw [respChp]
        by_cases hok : ok = true ∧ st = .txrespond
        · rw [if_pos hok]
        · refine absurd hd (ChState.not_isRxResponse_of_le ?_)
          split
          · next hsent =>
            rw [if_neg fun htx ↦ hok ⟨hsent, htx⟩]
            decide
          · exact hst
      · rw [(others d hcd).1] at hd
        exact absurd hd (ChState.not_isRxResponse_of_le (h.le_txrespond none d))
    · rw [parser.state] at hasm
      rw [parser.currChp]
      by_cases hc : c = s.currChp
      · have hle := hcurr hasm hc
        rw [← hc, own]
        split
        · rw [if_neg (by rintro rfl; exact absurd hle (by decide))]
          decide
        · exact hle
      · rw [(others _ hc).1]
        exact h.assembling hasm

/-- Every character that does not configure the channel that is waited for keeps the two
records together. -/
theorem waitInv_processInput (b : Board σ) {s : Ctl σ} (ch : UInt8) (h : WaitInv s)
    (hcfg : ¬ ConfiguresWaiting s ch) : WaitInv (processInput b ch s) := by
  cases effect_processInput b ch s with
  | idle before after chan respChp hist =>
    refine ⟨fun c hc ↦ ?_, fun c hc ↦ ?_, fun hasm ↦ absurd hasm after⟩
    · rw [chan]
      exact h.waiting c (respChp ▸ hc)
    · rw [chan] at hc
      rw [respChp]
      exact h.pointed c hc
  | claimed before free own others after respChp hist =>
    refine ⟨fun c hc ↦ ?_, fun c hc ↦ ?_, fun _ ↦ ?_⟩
    · have hrx := h.waiting c (respChp ▸ hc)
      by_cases hcd : (processInput b ch s).currChp = c
      · rw [hcd] at free
        exact absurd hrx (ChState.not_isRxResponse_of_le (Nat.le_trans free (by decide)))
      · rw [others c hcd]
        exact hrx
    · rw [respChp]
      by_cases hcd : (processInput b ch s).currChp = c
      · rw [← hcd, own] at hc
        exact absurd hc (ChState.not_isRxResponse_of_le (by decide : ChState.adding.toNat ≤ _))
      · rw [others c hcd] at hc
        exact h.pointed c hc
    · rw [own]
      exact (by decide : ChState.adding.toNat ≤ ChState.transmit.toNat)
  | stored before after currChp state others respChp hist =>
    refine ⟨fun c hc ↦ ?_, fun c hc ↦ ?_, fun _ ↦ ?_⟩
    · rw [state]
      exact h.waiting c (respChp ▸ hc)
    · rw [state] at hc
      rw [respChp]
      exact h.pointed c hc
    · rw [currChp, state]
      exact h.assembling before
  | left before leaves after chan respChp hist =>
    refine ⟨fun c hc ↦ ?_, fun c hc ↦ ?_, fun hasm ↦ absurd hasm after⟩
    · rw [chan]
      exact h.waiting c (respChp ▸ hc)
    · rw [chan] at hc
      rw [respChp]
      exact h.pointed c hc
  | handed before completes enqueued after =>
    obtain ⟨hstate, -, hresp, hcurr, hdev, -⟩ := filled_spec ch s
    have hresp' : (processInput b ch s).respChp = s.respChp := enqueued.respChp.trans hresp
    -- the own channel ends in a state below RXRESPONSE, the others only change by configuration
    have hown : ((processInput b ch s).chan s.currChp).state.toNat ≤
        ChState.txrespond.toNat := by
      cases enqueued.fate with
      | executed code own state others hist => rw [state]; decide
      | refused own active state others hist => rw [state]; decide
      | queued own active state others hist =>
        rcases state with state | state <;> rw [state] <;> decide
    have hother (d : Fin 6) (hd : s.currChp ≠ d) :
        ((processInput b ch s).chan d).state = (s.chan d).state ∨
          (s.respChp ≠ some d ∧ ((processInput b ch s).chan d).state.toNat ≤
            ChState.empty.toNat) := by
      cases enqueued.fate with
      | executed code own state others hist =>
        rw [others d hd, hstate]
        rcases configuredState_cases ((filled ch s).chan s.currChp).packet.content d
          (s.chan d).state with hsame | ⟨config, hcf, hlt, hle⟩
        · exact .inl hsame
        · refine .inr ⟨fun hrd ↦ hcfg ?_, hle⟩
          exact ⟨s.currChp, _, d, config, if_pos completes, hdev ▸ own, hcf, hlt, hrd⟩
      | refused own active state others hist =>
        rw [others d hd, hstate]
        exact .inl rfl
      | queued own active state others hist =>
        rw [others d hd, hstate]
        exact .inl rfl
    refine ⟨fun c hc ↦ ?_, fun c hc ↦ ?_, fun hasm ↦ absurd hasm after⟩
    · rw [hresp'] at hc
      rcases hother c (h.currChp_ne before hc) with hsame | ⟨hne, -⟩
      · rw [hsame]
        exact h.waiting c hc
      · exact absurd hc hne
    · rw [hresp']
      by_cases hcd : s.currChp = c
      · exact absurd hc (ChState.not_isRxResponse_of_le (hcd ▸ hown))
      · rcases hother c hcd with hsame | ⟨-, hle⟩
        · rw [hsame] at hc
          exact h.pointed c hc
        · exact absurd hc (ChState.not_isRxResponse_of_le (Nat.le_trans hle (by decide)))
  | reset eq =>
    rw [eq]
    exact waitInv_boot b _

/-- Every action that does not configure the channel that is waited for keeps the two records
together. -/
theorem waitInv_step (b : Board σ) (s : Ctl σ) (a : Act) (h : WaitInv s)
    (hcfg : ∀ ch, a = .input ch → ¬ ConfiguresWaiting s ch) : WaitInv (step b s a) := by
  cases a with
  | tick => exact h.of_alike (alike_tick b s)
  | poll => exact waitInv_poll b h
  | input ch => exact waitInv_processInput b ch h (hcfg ch rfl)
  | check between inSend => exact waitInv_check b between inSend h

/-- The first part of a pass keeps the two records together. -/
theorem waitInv_beforeInput (b : Board σ) {s : Ctl σ} (p : Pass) (h : WaitInv s) :
    WaitInv (beforeInput b s p) := by
  refine run_inv (step b) (G := fun _ a ↦ ∀ ch, a ≠ .input ch)
    (fun s a hs ha ↦ waitInv_step b s a hs fun ch hch ↦ absurd hch (ha ch)) h ?_
  rw [along_append]
  refine ⟨?_, nofun, trivial⟩
  generalize p.ticks = n
  induction n generalizing s with
  | zero => trivial
  | succ n ih => exact ⟨nofun, ih (h.of_alike (alike_tick b s))⟩

/-- The pass gives no configuration to the channel that is waited for. -/
def KeepsWaiting (b : Board σ) (s : Ctl σ) (p : Pass) : Prop :=
  ∀ ch, p.input = some ch → ¬ ConfiguresWaiting (beforeInput b s p) ch

/-- A pass that does not configure the channel that is waited for keeps the two records
together. -/
theorem waitInv_pass (b : Board σ) (s : Ctl σ) (p : Pass) (h : WaitInv s)
    (hkeep : KeepsWaiting b s p) : WaitInv (pass b s p) := by
  have hbefore := waitInv_beforeInput b p h
  unfold pass
  cases hin : p.input with
  | none => exact waitInv_check b _ _ hbefore
  | some ch =>
    exact waitInv_check b _ _ (waitInv_processInput b ch hbefore (hkeep ch hin))

/-- A pass that does configure the channel that is waited for leaves `resp_chp` pointing to a
channel that is not in an RXRESPONSE state. -/
theorem not_waitAgrees_of_configures (b : Board σ) {s : Ctl σ} {ch : UInt8} (h : WaitInv s)
    (hcfg : ConfiguresWaiting s ch) (between inSend : Nat) :
    ¬ WaitAgrees (check b between inSend (processInput b ch s)) := by
  obtain ⟨c, p, d, config, hcomp, hown, hconf, hlt, hresp⟩ := hcfg
  have hcompletes : Completes s ch := by
    unfold completed at hcomp
    split at hcomp
    · assumption
    · cases hcomp
  have hasm : s.state.IsAssembling := by
    rcases hcompletes with ⟨hst, -⟩ | ⟨hst, -⟩ <;> rw [hst] <;> decide
  have hp : ((filled ch s).chan s.currChp).packet.content = p := by
    rw [completed, if_pos hcompletes, Option.some.injEq, Prod.mk.injEq] at hcomp
    exact hcomp.2
  have hne := h.currChp_ne hasm hresp
  obtain ⟨hstate, -, hfresp, -, hdev, -⟩ := filled_spec ch s
  -- what the character leaves behind
  have hafter : (processInput b ch s).respChp = some d ∧
      ((processInput b ch s).chan d).state.toNat ≤ ChState.empty.toNat := by
    obtain ⟨enqueued, -⟩ := enqueued_of_completes b hcompletes
    refine ⟨enqueued.respChp.trans (hfresp.trans hresp), ?_⟩
    cases enqueued.fate with
    | executed code own state others hist =>
      rw [others d hne, hp, configuredState, hconf]
      dsimp only
      rw [if_pos rfl]
      exact ((ChState.getD_ofConfig_cases config _).resolve_right fun h ↦ h.1 hlt).2
    | refused own' => exact absurd (hp ▸ hdev ▸ hown) own'
    | queued own' => exact absurd (hp ▸ hdev ▸ hown) own'
  have hbusy : check b between inSend (processInput b ch s) = processInput b ch s := by
    rw [check, if_neg (by rw [hafter.1]; simp)]
  rw [hbusy]
  intro hagrees
  exact ChState.not_isRxResponse_of_le (Nat.le_trans hafter.2 (by decide)) (hagrees.1 d hafter.1)

/-- Over every sequence of passes from any start of the controller: `resp_chp` points to a
channel in an RXRESPONSE state, and only such a channel is in one, at the end of every pass
exactly when no pass executes a SET_CHANNEL that configures the channel `resp_chp` points
to. -/
theorem wait_agrees_iff (b : Board σ) (chip : σ) (eeprom : UInt16 → UInt8) (beyondData : UInt8)
    (passes : List Pass) :
    Along (pass b) (fun s p ↦ WaitAgrees (pass b s p)) (start b chip eeprom beyondData) passes ↔
      Along (pass b) (KeepsWaiting b) (start b chip eeprom beyondData) passes := by
  refine along_iff_of_inv (pass b) (waitInv_pass b) ?_ (waitInv_boot b _)
  intro s p h
  constructor
  · intro hagrees ch hin hcfg
    refine not_waitAgrees_of_configures b (waitInv_beforeInput b p h) hcfg p.between p.inSend ?_
    simp only [pass, hin] at hagrees
    exact hagrees
  · intro hkeep
    have := waitInv_pass b s p h hkeep
    exact ⟨this.waiting, this.pointed⟩

/-- A radio that is busy sending for its first fifty exchanges and ready afterwards. -/
def busyRadio : Board Nat :=
  .scripted fun n i ↦ if i = 0 then (if n < 50 then SI4463_STATE_TX else SI4463_STATE_READY) else 64

/-- The controller is activated as node 1, a STATUS request for node 7 waits on channel A
until the radio is ready, and the SET_CHANNEL entered meanwhile on channel B makes channel A
EMPTY in the pass after the request was sent. -/
theorem configured_while_awaited :
    ¬ Along (pass busyRadio) (fun s p ↦ WaitAgrees (pass busyRadio s p))
      (start busyRadio 0 (fun _ ↦ 0) 0)
      ((characters ">A0:3:0,1,0.\n>A7:2.\n>B1:16:0,2.").map fun ch ↦ ⟨0, some ch, 0, 0⟩) := by
  decide +kernel

end Ctl
end Libradio
