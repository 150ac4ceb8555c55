import Libradio.Control.LoopEffects

/-!
# What an action can do to one channel

The effects of all actions as seen from a single channel: its state, its packet, whether
`resp_chp` points to it, whether the parser is filling it, and the part of the record that
concerns it. Everything that is proved about one channel over a run goes through this list.
-/

namespace Libradio

/-- The entry of the record is about channel `d`, or about all of them. -/
def Obs.concerns (d : Fin 6) : Obs → Bool
  | .reset => true
  | .input _ => false
  | .exec _ _ => false
  | .claim c | .handed c _ | .setChannel c _ | .finish c | .ack c _ | .slot c _
  | .send c _ _ _ | .wait c _ => c = d

namespace Ctl

variable {σ : Type}

/-- The part of the record that concerns channel `d`. -/
def track (s : Ctl σ) (d : Fin 6) : List Obs := s.hist.filter (Obs.concerns d)

/-- The parser is filling channel `d`. -/
def Assembles (s : Ctl σ) (d : Fin 6) : Prop := s.state.IsAssembling ∧ s.currChp = d

instance (s : Ctl σ) (d : Fin 6) : Decidable (Assembles s d) := inferInstanceAs (Decidable (_ ∧ _))

/-- The character completes a command of the controller's own that sets channel `d` to
`config`. -/
def Configures (s : Ctl σ) (ch : UInt8) (d : Fin 6) (config : UInt8) : Prop :=
  ∃ p, completed ch s = some (s.currChp, p) ∧ IsLocal s.dev.radio p ∧
    configOf p = some (d, config)

/-- The character completes a packet that is queued for transmission in channel `d`. -/
def Queues (s : Ctl σ) (ch : UInt8) (d : Fin 6) (p : Packet.Content) : Prop :=
  completed ch s = some (d, p) ∧ ¬ IsLocal s.dev.radio p ∧
    s.dev.radio.state = LIBRADIO_STATE_ACTIVE

/-- The effects of action `a` on channel `d`. -/
inductive ChanEffect (b : Board σ) (a : Act) (d : Fin 6) (s s' : Ctl σ) : Prop
  | same (state : (s'.chan d).state = (s.chan d).state)
      (content : (s'.chan d).packet.content = (s.chan d).packet.content)
      (resp : s'.respChp = some d ↔ s.respChp = some d)
      (asm : Assembles s' d ↔ Assembles s d) (track : s'.track d = s.track d)
  | claimed (free : (s.chan d).state.toNat ≤ ChState.empty.toNat)
      (state : (s'.chan d).state = .adding)
      (resp : s'.respChp = some d ↔ s.respChp = some d) (before : ¬ Assembles s d)
      (after : Assembles s' d) (track : s'.track d = .claim d :: s.track d)
  | edited (before : Assembles s d) (after : Assembles s' d)
      (state : (s'.chan d).state = (s.chan d).state)
      (resp : s'.respChp = some d ↔ s.respChp = some d) (track : s'.track d = s.track d)
  | left (ch : UInt8) (act : a = .input ch) (leaves : Leaves s ch) (before : Assembles s d)
      (after : ¬ s'.state.IsAssembling) (state : (s'.chan d).state = (s.chan d).state)
      (content : (s'.chan d).packet.content = (s.chan d).packet.content)
      (resp : s'.respChp = some d ↔ s.respChp = some d) (track : s'.track d = s.track d)
  | released (p : Packet.Content) (config : List Obs) (before : Assembles s d)
      (after : ¬ s'.state.IsAssembling) (state : (s'.chan d).state = .empty)
      (resp : s'.respChp = some d ↔ s.respChp = some d)
      (config_set : ∀ o ∈ config, ∃ v, o = .setChannel d v)
      (track : s'.track d = .finish d :: (config ++ .handed d p :: s.track d))
  | queued (ch : UInt8) (p : Packet.Content) (act : a = .input ch) (queues : Queues s ch d p)
      (before : Assembles s d) (after : ¬ s'.state.IsAssembling)
      (state : (s'.chan d).state.IsQueued) (content : (s'.chan d).packet.content = p)
      (resp : s'.respChp = some d ↔ s.respChp = some d)
      (track : s'.track d = .ack d p :: .handed d p :: s.track d)
  | configured (ch config : UInt8) (act : a = .input ch) (configures : Configures s ch d config)
      (before : ¬ Assembles s d) (after : ¬ s'.state.IsAssembling)
      (state : (s'.chan d).state = (ChState.ofConfig config).getD (s.chan d).state)
      (content : (s'.chan d).packet.content = (s.chan d).packet.content)
      (resp : s'.respChp = some d ↔ s.respChp = some d)
      (track : s'.track d = .setChannel d config :: s.track d)
  | waited (act : a = .poll) (before : s.respChp = some d) (early : (s.chan d).state ≠ .rxresponse4)
      (state : (s'.chan d).state = (s.chan d).state.next) (resp : s'.respChp = some d)
      (asm : Assembles s' d ↔ Assembles s d)
      (track : s'.track d = .wait d (s.chan d).state.next :: s.track d)
  | ended (act : a = .poll) (before : s.respChp = some d) (ends : WaitEnds b s d)
      (state : (s'.chan d).state = .empty) (resp : s'.respChp = none)
      (asm : Assembles s' d ↔ Assembles s d) (track : s'.track d = .wait d .empty :: s.track d)
  | built (between inSend : Nat) (p : Packet.Content) (ok : Bool)
      (act : a = .check between inSend) (free : s.respChp = none)
      (due : slotDue between s = some d) (empty : (s.chan d).state = .empty)
      (state : (s'.chan d).state = if ok then .empty else .transmit)
      (content : (s'.chan d).packet.content = p) (resp : s'.respChp = none)
      (asm : Assembles s' d ↔ Assembles s d)
      (track : s'.track d = .send d .transmit p ok :: .slot d p :: s.track d)
  | sent (between inSend : Nat) (ok : Bool) (act : a = .check between inSend)
      (free : s.respChp = none) (busy : ChState.adding.toNat ≤ (s.chan d).state.toNat)
      (adding : (s.chan d).state = .adding → slotDue between s = some d)
      (state : (s'.chan d).state = if ok then
        (if (s.chan d).state = .txrespond then .rxresponse1 else .empty) else (s.chan d).state)
      (content : (s'.chan d).packet.content = (s.chan d).packet.content)
      (resp : s'.respChp = some d ↔ ok = true ∧ (s.chan d).state = .txrespond)
      (asm : Assembles s' d ↔ Assembles s d)
      (track : s'.track d =
        .send d (s.chan d).state (s.chan d).packet.content ok :: s.track d)
  | reset (state : (s'.chan d).state = .disabled) (resp : s'.respChp = none)
      (after : ¬ s'.state.IsAssembling) (track : s'.track d = .reset :: s.track d)

/-- The effects of a hand-over on one channel. -/
theorem chanEffect_handed (b : Board σ) {ch : UInt8} {s s' : Ctl σ} (hasm : s.state.IsAssembling)
    (hcomp : Completes s ch) (henq : Enqueued s.currChp (filled ch s) s')
    (hafter : ¬ s'.state.IsAssembling) (d : Fin 6) : ChanEffect b (.input ch) d s s' := by
  obtain ⟨hstate, hothers, hresp, hcurr, hdev, hhist⟩ := filled_spec ch s
  have hresp' : s'.respChp = some d ↔ s.respChp = some d := by
    rw [henq.respChp, hresp]
  have hpacket := henq.packet d
  by_cases hd : s.currChp = d
  · subst hd
    have hbefore : Assembles s s.currChp := ⟨hasm, rfl⟩
    cases henq.fate with
    | executed code own state others hist =>
      refine .released ((filled ch s).chan s.currChp).packet.content
        ((configObs ((filled ch s).chan s.currChp).packet.content).filter
          (Obs.concerns s.currChp)) hbefore hafter state hresp' ?_ ?_
      · intro o ho
        obtain ⟨hmem, hcon⟩ := List.mem_filter.mp ho
        unfold configObs at hmem
        split at hmem
        · next c config hcf =>
          obtain rfl := List.mem_singleton.mp hmem
          simp only [Obs.concerns, decide_eq_true_eq] at hcon
          exact ⟨config, by rw [hcon]⟩
        · cases hmem
      · rw [track, hist, hhist, track]
        simp [Obs.concerns, List.filter_append]
    | refused own active state others hist =>
      refine .released ((filled ch s).chan s.currChp).packet.content [] hbefore hafter state
        hresp' (by simp) ?_
      rw [track, hist, hhist, track]
      simp [Obs.concerns]
    | queued own active state others hist =>
      refine .queued ch _ rfl ⟨by rw [completed, if_pos hcomp], hdev ▸ own, hdev ▸ active⟩ hbefore
        hafter state (by rw [hpacket]) hresp' ?_
      rw [track, hist, hhist, track]
      simp [Obs.concerns]
  · have hne : ¬ Assembles s d := fun h ↦ hd h.2
    have hcontent : (s'.chan d).packet.content = (s.chan d).packet.content := by
      rw [hpacket, hothers d hd]
    have hasm' : Assembles s' d ↔ Assembles s d :=
      iff_of_false (fun h ↦ hafter h.1) hne
    cases henq.fate with
    | executed code own state others hist =>
      have hst := others d hd
      rw [configuredState] at hst
      have htrack : s'.track d =
          (configObs ((filled ch s).chan s.currChp).packet.content).filter (Obs.concerns d) ++
            s.track d := by
        rw [track, hist, hhist, track]
        simp [Obs.concerns, List.filter_append, hd]
      cases hcf : configOf ((filled ch s).chan s.currChp).packet.content with
      | none =>
        rw [configObs, hcf] at htrack
        rw [hcf, hstate] at hst
        exact .same hst hcontent hresp' hasm' htrack
      | some cc =>
        obtain ⟨c, config⟩ := cc
        rw [configObs, hcf] at htrack
        rw [hcf, hstate] at hst
        dsimp only at hst
        by_cases hcd : c = d
        · subst hcd
          rw [if_pos rfl] at hst
          refine .configured ch config rfl ⟨_, by rw [completed, if_pos hcomp], hdev ▸ own, hcf⟩
            hne hafter hst hcontent hresp' ?_
          rw [htrack]
          simp [Obs.concerns]
        · rw [if_neg hcd] at hst
          refine .same hst hcontent hresp' hasm' ?_
          rw [htrack]
          simp [Obs.concerns, hcd]
    | refused own active state others hist =>
      refine .same (by rw [others d hd, hstate]) hcontent hresp' hasm' ?_
      rw [track, hist, hhist, track]
      simp [Obs.concerns, hd]
    | queued own active state others hist =>
      refine .same (by rw [others d hd, hstate]) hcontent hresp' hasm' ?_
      rw [track, hist, hhist, track]
      simp [Obs.concerns, hd]

/-- The effects of a character on one channel. -/
theorem chanEffect_processInput (b : Board σ) (ch : UInt8) (s : Ctl σ) (d : Fin 6) :
    ChanEffect b (.input ch) d s (processInput b ch s) := by
  cases effect_processInput b ch s with
  | idle before after chan respChp hist =>
    refine .same (by rw [chan]) (by rw [chan]) (by rw [respChp])
      (iff_of_false (fun h ↦ after h.1) fun h ↦ before h.1) ?_
    rw [track, hist, track]
    simp [Obs.concerns]
  | claimed before free own others after respChp hist =>
    have hidle : ¬ Assembles s d := fun h ↦ by
      have := h.1
      rw [before] at this
      exact absurd this (by decide)
    by_cases hd : (processInput b ch s).currChp = d
    · refine .claimed (hd ▸ free) ?_ (by rw [respChp]) hidle ⟨by rw [after]; decide, hd⟩ ?_
      · rw [← hd, own]
      · rw [track, hist, track]
        simp [Obs.concerns, hd]
    · refine .same (by rw [others d hd]) (by rw [others d hd]) (by rw [respChp])
        (iff_of_false (fun h ↦ hd h.2) hidle) ?_
      rw [track, hist, track]
      simp [Obs.concerns, hd]
  | stored before after currChp state others respChp hist =>
    have htrack : (processInput b ch s).track d = s.track d := by
      rw [track, hist, track]
      simp [Obs.concerns]
    by_cases hd : s.currChp = d
    · exact .edited ⟨before, hd⟩ ⟨after, currChp.trans hd⟩ (state d) (by rw [respChp]) htrack
    · exact .same (state d) (by rw [others d hd]) (by rw [respChp])
        (iff_of_false (fun h ↦ hd (currChp ▸ h.2)) fun h ↦ hd h.2) htrack
  | left before leaves after chan respChp hist =>
    have htrack : (processInput b ch s).track d = s.track d := by
      rw [track, hist, track]
      simp [Obs.concerns]
    by_cases hd : s.currChp = d
    · exact .left ch rfl leaves ⟨before, hd⟩ after (by rw [chan]) (by rw [chan]) (by rw [respChp])
        htrack
    · exact .same (by rw [chan]) (by rw [chan]) (by rw [respChp])
        (iff_of_false (fun h ↦ after h.1) fun h ↦ hd h.2) htrack
  | handed before completes enqueued after =>
    exact chanEffect_handed b before completes enqueued after d
  | reset eq =>
    obtain ⟨hchan, hresp, hst, hhist⟩ := boot_fresh b (s.note (.input ch))
    rw [eq]
    refine .reset (by rw [hchan]; rfl) hresp (by rw [hst]; decide) ?_
    rw [track, hhist, track]
    rfl

/-- A parser that has not moved fills the same channel. -/
theorem SameParser.assembles {s s' : Ctl σ} (h : SameParser s s') (d : Fin 6) :
    Assembles s' d ↔ Assembles s d := by
  rw [Assembles, Assembles, h.state, h.currChp]

/-- The effects of the response wait on one channel. -/
theorem chanEffect_poll (b : Board σ) (s : Ctl σ) (d : Fin 6) :
    ChanEffect b .poll d s (poll b s) := by
  cases effect_poll b s with
  | idle none eq => rw [eq]; exact .same rfl rfl Iff.rfl Iff.rfl rfl
  | waiting c some going own others respChp parser hist =>
    by_cases hd : c = d
    · subst hd
      refine .waited rfl some (not_or.mp going).2 (by rw [own]) (respChp.trans some)
        (parser.assembles c) ?_
      rw [track, hist, track]
      simp [Obs.concerns]
    · refine .same (by rw [others d hd]) (by rw [others d hd]) (by rw [respChp])
        (parser.assembles d) ?_
      rw [track, hist, track]
      simp [Obs.concerns, hd]
  | ended c some ends own others respChp parser hist =>
    by_cases hd : c = d
    · subst hd
      refine .ended rfl some ends own respChp (parser.assembles c) ?_
      rw [track, hist, track]
      simp [Obs.concerns]
    · refine .same (by rw [others d hd]) (by rw [others d hd]) ?_ (parser.assembles d) ?_
      · rw [respChp, some]
        simp [hd]
      · rw [track, hist, track]
        simp [Obs.concerns, hd]

/-- The effects of the transmissions on one channel. -/
theorem chanEffect_check (b : Board σ) (between inSend : Nat) (s : Ctl σ) (d : Fin 6) :
    ChanEffect b (.check between inSend) d s (check b between inSend s) := by
  cases effect_check b between inSend s with
  | idle closed chan respChp parser hist =>
    refine .same (by rw [chan]) (by rw [chan]) (by rw [respChp]) (parser.assembles d) ?_
    rw [track, hist, track]
  | sent c st p ok before none source hist own packet others respChp parser =>
    by_cases hd : c = d
    · subst hd
      have hresp (hst : st = (s.chan c).state) : (check b between inSend s).respChp = some c ↔
          ok = true ∧ (s.chan c).state = .txrespond := by
        rw [respChp, hst]
        split
        · next h => simp only [h, and_self]
        · next h => simp only [h, reduceCtorEq]
      cases source with
      | built due empty state hist' =>
        subst state
        refine .built between inSend p ok rfl none due empty ?_ packet ?_ (parser.assembles c) ?_
        · rw [own]
          rfl
        · rw [respChp, if_neg (by simp)]
        · rw [track, hist, hist', track]
          simp [Obs.concerns]
      | found due busy state packet' hist' =>
        refine .sent between inSend ok rfl none busy (fun _ ↦ due) ?_ (packet.trans packet')
          (hresp state) (parser.assembles c) ?_
        · rw [own, state]
        · rw [track, hist, hist', track, state, packet']
          simp [Obs.concerns]
      | picked due ready state packet' hist' =>
        refine .sent between inSend ok rfl none (Nat.le_trans (by decide) ready) (fun h ↦ ?_) ?_
          (packet.trans packet') (hresp state) (parser.assembles c) ?_
        · rw [h] at ready
          exact absurd ready (by decide)
        · rw [own, state]
        · rw [track, hist, hist', track, state, packet']
          simp [Obs.concerns]
    · have htrack : (check b between inSend s).track d = s.track d := by
        cases source with
        | built due empty state hist' =>
          rw [track, hist, hist', track]
          simp [Obs.concerns, hd]
        | found due busy state packet' hist' =>
          rw [track, hist, hist', track]
          simp [Obs.concerns, hd]
        | picked due ready state packet' hist' =>
          rw [track, hist, hist', track]
          simp [Obs.concerns, hd]
      refine .same (others d hd).1 (by rw [(others d hd).2]) ?_ (parser.assembles d) htrack
      rw [respChp, none]
      split
      · simp [hd]
      · simp

/-- Every effect of an action on one channel. -/
theorem chanEffect_step (b : Board σ) (s : Ctl σ) (a : Act) (d : Fin 6) :
    ChanEffect b a d s (step b s a) := by
  cases a with
  | tick =>
    have ha := alike_tick b s
    refine .same (by rw [ha.chan]) (by rw [ha.chan]) (by rw [ha.respChp]) ?_ ?_
    · rw [Assembles, Assembles, ha.state, ha.currChp]
    · rw [track, track, ha.hist]
  | poll => exact chanEffect_poll b s d
  | input ch => exact chanEffect_processInput b ch s d
  | check between inSend => exact chanEffect_check b between inSend s d

/-- A started controller as seen from one channel. -/
theorem chan_start (b : Board σ) (chip : σ) (eeprom : UInt16 → UInt8) (beyondData : UInt8)
    (d : Fin 6) :
    ((start b chip eeprom beyondData).chan d).state = .disabled ∧
      (start b chip eeprom beyondData).respChp = none ∧
      ¬ (start b chip eeprom beyondData).state.IsAssembling ∧
      (start b chip eeprom beyondData).hist = [.reset] := by
  obtain ⟨hchan, hresp, hst, hhist⟩ := boot_fresh b
    { dev :=
        { radio := .zero, chip := chip, eeprom := eeprom, rxchan := .zero, txchan := .zero
          statusbuffer := fun _ ↦ 0, beyondData := beyondData }
      channels := Vector.replicate _ .zero, respChp := none, lastModulo := 0
      state := .newline, value := 0, currChp := 0, out := [], hist := [] }
  refine ⟨?_, hresp, ?_, hhist⟩
  · rw [start, hchan]
    rfl
  · rw [start, hst]
    decide

end Ctl
end Libradio
