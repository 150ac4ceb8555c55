import Libradio.Control.Effects

/-!
# What one character can do

Every way `process_input` can change the controller, by what the parser was doing: it may
stay idle, claim a channel, store a part of the packet, leave the line, hand the packet
over, or restart the program.
-/

namespace Libradio
open Libradio.Base

namespace Ctl

variable {σ : Type}

/-- The character completes the packet being assembled: a dot after a command or after a
data byte that still fits, or the end of the line. -/
def Completes (s : Ctl σ) (ch : UInt8) : Prop :=
  (s.state = .waitcmd ∧ (IsLineEnd ch ∨ ch = chDot)) ∨
    (s.state = .waitdata ∧
      (IsLineEnd ch ∨ (ch = chDot ∧ (s.chan s.currChp).packet.len < 10)))

/-- The parser gives up the packet it is assembling: a line end in the node number, a
character that the number does not allow, or a separator behind the tenth data byte. -/
def Leaves (s : Ctl σ) (ch : UInt8) : Prop :=
  (s.state = .waitnode ∧ ¬ IsDigit ch ∧ ch ≠ chColon) ∨
    (s.state = .waitcmd ∧ ¬ IsLineEnd ch ∧ ¬ IsDigit ch ∧ ch ≠ chColon ∧ ch ≠ chDot) ∨
    (s.state = .waitdata ∧ ¬ IsLineEnd ch ∧ ¬ IsDigit ch ∧
      ((ch ≠ chComma ∧ ch ≠ chDot) ∨ 10 ≤ (s.chan s.currChp).packet.len))

instance (s : Ctl σ) (ch : UInt8) : Decidable (Completes s ch) :=
  inferInstanceAs (Decidable (_ ∨ _))

instance (s : Ctl σ) (ch : UInt8) : Decidable (Leaves s ch) :=
  inferInstanceAs (Decidable (_ ∨ _))

/-- The controller as `enqueue` finds it when a character completes the packet: a dot first
stores the number read last. -/
def filled (ch : UInt8) (s : Ctl σ) : Ctl σ :=
  if IsLineEnd ch then s.note (.input ch)
  else if s.state = .waitcmd then storeCmd (s.note (.input ch))
  else storeData (s.note (.input ch))

/-- The channel and the packet that a character hands over, if it completes one. -/
def completed (ch : UInt8) (s : Ctl σ) : Option (Fin 6 × Packet.Content) :=
  if Completes s ch then some (s.currChp, ((filled ch s).chan s.currChp).packet.content)
  else none

/-- The effects of one character. -/
inductive InputEffect (b : Board σ) (ch : UInt8) (s s' : Ctl σ) : Prop
  | idle (before : ¬ s.state.IsAssembling) (after : ¬ s'.state.IsAssembling)
      (chan : ∀ d, s'.chan d = s.chan d) (respChp : s'.respChp = s.respChp)
      (hist : s'.hist = .input ch :: s.hist)
  | claimed (before : s.state = .waitchan)
      (free : (s.chan s'.currChp).state.toNat ≤ ChState.empty.toNat)
      (own : s'.chan s'.currChp = { s.chan s'.currChp with state := .adding })
      (others : ∀ d, s'.currChp ≠ d → s'.chan d = s.chan d) (after : s'.state = .waitnode)
      (respChp : s'.respChp = s.respChp)
      (hist : s'.hist = .claim s'.currChp :: .input ch :: s.hist)
  | stored (before : s.state.IsAssembling) (after : s'.state.IsAssembling)
      (currChp : s'.currChp = s.currChp) (state : ∀ d, (s'.chan d).state = (s.chan d).state)
      (others : ∀ d, s.currChp ≠ d → s'.chan d = s.chan d) (respChp : s'.respChp = s.respChp)
      (hist : s'.hist = .input ch :: s.hist)
  | left (before : s.state.IsAssembling) (leaves : Leaves s ch)
      (after : ¬ s'.state.IsAssembling) (chan : ∀ d, s'.chan d = s.chan d)
      (respChp : s'.respChp = s.respChp) (hist : s'.hist = .input ch :: s.hist)
  | handed (before : s.state.IsAssembling) (completes : Completes s ch)
      (enqueued : Enqueued s.currChp (filled ch s) s') (after : ¬ s'.state.IsAssembling)
  | reset (eq : s' = boot b (s.note (.input ch)))

-- A character that only moves an idle parser.
private theorem InputEffect.idle_of {b : Board σ} {ch : UInt8} {s s' : Ctl σ}
    (before : ¬ s.state.IsAssembling) (after : ¬ s'.state.IsAssembling)
    (channels : s'.channels = s.channels) (respChp : s'.respChp = s.respChp)
    (hist : s'.hist = .input ch :: s.hist) : InputEffect b ch s s' :=
  .idle before after (fun d ↦ by simp only [chan, channels]) respChp hist

-- A character that only moves a parser in the middle of a packet.
private theorem InputEffect.digit_of {b : Board σ} {ch : UInt8} {s s' : Ctl σ}
    (before : s.state.IsAssembling) (after : s'.state.IsAssembling)
    (currChp : s'.currChp = s.currChp) (channels : s'.channels = s.channels)
    (respChp : s'.respChp = s.respChp) (hist : s'.hist = .input ch :: s.hist) :
    InputEffect b ch s s' :=
  .stored before after currChp (fun d ↦ by simp only [chan, channels])
    (fun d _ ↦ by simp only [chan, channels]) respChp hist

-- A character that stores a part of the packet in its channel.
private theorem InputEffect.stored_of {b : Board σ} {ch : UInt8} {s s' : Ctl σ}
    {f : Packet → Packet} (before : s.state.IsAssembling) (after : s'.state.IsAssembling)
    (currChp : s'.currChp = s.currChp)
    (channels : s'.channels =
      (s.modify s.currChp fun chp ↦ { chp with packet := f chp.packet }).channels)
    (respChp : s'.respChp = s.respChp) (hist : s'.hist = .input ch :: s.hist) :
    InputEffect b ch s s' := by
  have hchan (d : Fin 6) : s'.chan d =
      (s.modify s.currChp fun chp ↦ { chp with packet := f chp.packet }).chan d := by
    simp only [chan, channels]
  refine .stored before after currChp (fun d ↦ ?_) (fun d hd ↦ ?_) respChp hist
  · rw [hchan, chan_modify]
    split
    · next h => rw [h]
    · rfl
  · rw [hchan, chan_modify_of_ne hd]

/-- What a handed-over packet leads to does not depend on the parser state set afterwards. -/
theorem Enqueued.with_state {c : Fin 6} {s s' : Ctl σ} (h : Enqueued c s s') (st : IoState) :
    Enqueued c s { s' with state := st } := by
  refine ⟨?_, h.packet, h.respChp, h.currChp⟩
  cases h.fate with
  | executed code own state others hist => exact .executed code own state others hist
  | refused own active state others hist => exact .refused own active state others hist
  | queued own active state others hist => exact .queued own active state others hist

/-- The effects of the character after `>`. -/
theorem effect_inputChan (b : Board σ) (ch : UInt8) (s : Ctl σ) (hst : s.state = .waitchan) :
    InputEffect b ch s (inputChan b ch (s.note (.input ch))) := by
  have hidle : ¬ s.state.IsAssembling := by rw [hst]; decide
  unfold inputChan
  split
  · unfold claimChannel
    dsimp only
    split
    · next hlt =>
      split
      · exact .idle_of hidle (by simp [reply, IoState.IsAssembling, IoState.toNat]) rfl rfl rfl
      · next hfree =>
        have hown := chan_modify_self ⟨(ch - chA).toNat, hlt⟩
          (fun chp ↦ { chp with state := .adding }) s
        have hothers (d : Fin 6) (hd : ⟨(ch - chA).toNat, hlt⟩ ≠ d) :=
          chan_modify_of_ne hd (fun chp ↦ { chp with state := .adding }) s
        exact .claimed hst (Nat.le_of_not_lt hfree) hown hothers rfl rfl rfl
    · exact .idle_of hidle (by simp [reply, IoState.IsAssembling, IoState.toNat]) rfl rfl rfl
  · split
    · exact .reset rfl
    · split
      · exact .idle_of hidle (by simp [IoState.IsAssembling, IoState.toNat]) rfl rfl rfl
      · exact .idle_of hidle (by simp [reply, IoState.IsAssembling, IoState.toNat]) rfl rfl rfl

/-- The effects of a character in the node number. -/
theorem effect_inputNode (b : Board σ) (ch : UInt8) (s : Ctl σ) (hst : s.state = .waitnode) :
    InputEffect b ch s (inputNode ch (s.note (.input ch))) := by
  have hasm : s.state.IsAssembling := by rw [hst]; decide
  unfold inputNode
  split
  · exact .digit_of hasm hasm rfl rfl rfl rfl
  · next hdigit =>
    split
    · exact .stored_of (f := fun p ↦ { p with node := s.value }) hasm
        (by simp [storeNode, IoState.IsAssembling, IoState.toNat]) rfl rfl rfl rfl
    · next hcolon =>
      exact .left hasm (.inl ⟨hst, hdigit, hcolon⟩)
        (by simp [reply, IoState.IsAssembling, IoState.toNat]) (fun d ↦ rfl) rfl rfl

/-- The effects of a character in the command number. -/
theorem effect_inputCmd (b : Board σ) (ch : UInt8) (s : Ctl σ) (hst : s.state = .waitcmd)
    (hend : ¬ IsLineEnd ch) : InputEffect b ch s (inputCmd b ch (s.note (.input ch))) := by
  have hasm : s.state.IsAssembling := by rw [hst]; decide
  unfold inputCmd
  split
  · exact .digit_of hasm hasm rfl rfl rfl rfl
  · next hdigit =>
    split
    · exact .stored_of (f := fun p ↦ { p with cmd := s.value, len := 0 }) hasm
        (by simp [IoState.IsAssembling, IoState.toNat]) rfl rfl rfl rfl
    · next hcolon =>
      split
      · next hdot =>
        refine .handed hasm (.inl ⟨hst, .inr hdot⟩) ?_
          (by simp [handOver, IoState.IsAssembling, IoState.toNat])
        have hfill : filled ch s = storeCmd (s.note (.input ch)) := by
          rw [filled, if_neg hend, if_pos hst]
        rw [hfill]
        exact (enqueued_enqueue b _ _).with_state _
      · next hdot =>
        exact .left hasm (.inr (.inl ⟨hst, hend, hdigit, hcolon, hdot⟩))
          (by simp [reply, IoState.IsAssembling, IoState.toNat]) (fun d ↦ rfl) rfl rfl

/-- The effects of a character in the data. -/
theorem effect_inputData (b : Board σ) (ch : UInt8) (s : Ctl σ) (hst : s.state = .waitdata)
    (hend : ¬ IsLineEnd ch) : InputEffect b ch s (inputData b ch (s.note (.input ch))) := by
  have hasm : s.state.IsAssembling := by rw [hst]; decide
  unfold inputData
  split
  · exact .digit_of hasm hasm rfl rfl rfl rfl
  · next hdigit =>
    split
    · split
      · next hlen =>
        exact .left hasm (.inr (.inr ⟨hst, hend, hdigit, .inr hlen⟩))
          (by simp [reply, IoState.IsAssembling, IoState.toNat]) (fun d ↦ rfl) rfl rfl
      · next hlen =>
        split
        · next hdot =>
          refine .handed hasm (.inr ⟨hst, .inr ⟨hdot, UInt8.not_le.mp hlen⟩⟩) ?_
            (by simp [handOver, IoState.IsAssembling, IoState.toNat])
          have hfill : filled ch s = storeData (s.note (.input ch)) := by
            rw [filled, if_neg hend, if_neg (by rw [hst]; decide)]
          rw [hfill]
          exact (enqueued_enqueue b _ _).with_state _
        · exact .stored_of (f := fun p ↦ p.push s.value) hasm hasm rfl rfl rfl rfl
    · next hsep =>
      exact .left hasm (.inr (.inr ⟨hst, hend, hdigit, .inl (not_or.mp hsep)⟩))
        (by simp [reply, IoState.IsAssembling, IoState.toNat]) (fun d ↦ rfl) rfl rfl

/-- The effects of the end of a line. -/
theorem effect_lineEnd (b : Board σ) (ch : UInt8) (s : Ctl σ) (hend : IsLineEnd ch) :
    InputEffect b ch s (processInput b ch s) := by
  have hfill : filled ch s = s.note (.input ch) := by rw [filled, if_pos hend]
  have hline : ¬ IsDigit ch ∧ ch ≠ chColon := by
    rcases hend with rfl | rfl <;> decide
  unfold processInput
  dsimp only
  rw [if_pos hend]
  split
  · next hcmd =>
    have hcomp : Completes s ch := by
      cases hst : s.state with
      | waitcmd => exact .inl ⟨hst, .inl hend⟩
      | waitdata => exact .inr ⟨hst, .inl hend⟩
      | _ => exact absurd hcmd (by rw [state_note, hst]; decide)
    have hasm : s.state.IsAssembling := by
      rcases hcomp with ⟨hst, -⟩ | ⟨hst, -⟩ <;> rw [hst] <;> decide
    refine .handed hasm hcomp ?_ (by simp [IoState.IsAssembling, IoState.toNat])
    rw [hfill]
    exact (enqueued_enqueue b _ _).with_state _
  · next hcmd =>
    by_cases hasm : s.state.IsAssembling
    · have hst : s.state = .waitnode := by
        cases hst : s.state with
        | waitnode => rfl
        | waitcmd => exact absurd (Nat.le_of_eq (by rw [state_note, hst])) hcmd
        | waitdata => exact absurd (by rw [state_note, hst]; decide) hcmd
        | _ => exact absurd hasm (by rw [hst]; decide)
      exact .left hasm (.inl ⟨hst, hline⟩) (by simp [IoState.IsAssembling, IoState.toNat])
        (fun d ↦ rfl) rfl rfl
    · exact .idle_of hasm (by simp [IoState.IsAssembling, IoState.toNat]) rfl rfl rfl

/-- Every effect of `process_input`. -/
theorem effect_processInput (b : Board σ) (ch : UInt8) (s : Ctl σ) :
    InputEffect b ch s (processInput b ch s) := by
  by_cases hend : IsLineEnd ch
  · exact effect_lineEnd b ch s hend
  · unfold processInput
    dsimp only
    rw [if_neg hend, state_note]
    cases hst : s.state with
    | newline =>
      have hidle : ¬ s.state.IsAssembling := by rw [hst]; decide
      dsimp only
      split
      · exact .idle_of hidle (by simp [IoState.IsAssembling, IoState.toNat]) rfl rfl rfl
      · exact .idle_of hidle (by simp [reply, IoState.IsAssembling, IoState.toNat]) rfl rfl rfl
    | waitnl =>
      have hidle : ¬ s.state.IsAssembling := by rw [hst]; decide
      exact .idle_of hidle hidle rfl rfl rfl
    | waitchan => exact effect_inputChan b ch s hst
    | waitnode => exact effect_inputNode b ch s hst
    | waitcmd => exact effect_inputCmd b ch s hst hend
    | waitdata => exact effect_inputData b ch s hst hend

private theorem not_digit_dot : ¬ IsDigit chDot := by decide

/-- The character that completes a packet hands it over, and then only moves the parser. -/
theorem processInput_of_completes (b : Board σ) {ch : UInt8} {s : Ctl σ} (h : Completes s ch) :
    ∃ st : IoState, ¬ st.IsAssembling ∧
      processInput b ch s = { enqueue b s.currChp (filled ch s) with state := st } := by
  have hcmd : IoState.waitcmd.toNat ≤ s.state.toNat := by
    rcases h with ⟨hst, -⟩ | ⟨hst, -⟩ <;> rw [hst] <;> decide
  unfold processInput
  dsimp only
  by_cases hend : IsLineEnd ch
  · rw [if_pos hend, if_pos (by exact hcmd), filled, if_pos hend]
    exact ⟨.newline, by decide, rfl⟩
  · rw [if_neg hend, state_note]
    rcases h with ⟨hst, hdot⟩ | ⟨hst, hdot⟩
    · obtain rfl := hdot.resolve_left hend
      have hfill : filled chDot s = storeCmd (s.note (.input chDot)) := by
        rw [filled, if_neg hend, if_pos hst]
      rw [hst, hfill]
      dsimp only
      rw [inputCmd, if_neg not_digit_dot, if_neg (by decide), if_pos rfl]
      exact ⟨.waitnl, by decide, rfl⟩
    · obtain ⟨rfl, hlen⟩ := hdot.resolve_left hend
      have hfits : ¬ (s.chan s.currChp).packet.len ≥ 10 := UInt8.not_le.mpr hlen
      have hfill : filled chDot s = storeData (s.note (.input chDot)) := by
        rw [filled, if_neg hend, if_neg (by rw [hst]; decide)]
      rw [hst, hfill]
      dsimp only
      rw [inputData, if_neg not_digit_dot, if_pos (.inr rfl), if_neg (by exact hfits),
        if_pos rfl]
      exact ⟨.waitnl, by decide, rfl⟩

/-- A packet that a character completes is handed over. -/
theorem enqueued_of_completes (b : Board σ) {ch : UInt8} {s : Ctl σ} (h : Completes s ch) :
    Enqueued s.currChp (filled ch s) (processInput b ch s) ∧
      ¬ (processInput b ch s).state.IsAssembling := by
  obtain ⟨st, hst, heq⟩ := processInput_of_completes b h
  rw [heq]
  exact ⟨(enqueued_enqueue b _ _).with_state st, hst⟩

/-! ### The controller after a start -/

/-- A start leaves every channel disabled, nothing awaited, and the parser at the start of a
line. -/
theorem boot_fresh (b : Board σ) (s : Ctl σ) :
    (∀ d, (boot b s).chan d = Channel.zero) ∧ (boot b s).respChp = none ∧
      (boot b s).state = .newline ∧ (boot b s).hist = .reset :: s.hist := by
  refine ⟨fun d ↦ ?_, rfl, rfl, rfl⟩
  change (Vector.replicate 6 Channel.zero)[d] = Channel.zero
  simp

/-- What the characters before hand-over do to the channels. -/
theorem filled_spec (ch : UInt8) (s : Ctl σ) :
    (∀ d, ((filled ch s).chan d).state = (s.chan d).state) ∧
      (∀ d, s.currChp ≠ d → (filled ch s).chan d = s.chan d) ∧
      (filled ch s).respChp = s.respChp ∧ (filled ch s).currChp = s.currChp ∧
      (filled ch s).dev = s.dev ∧ (filled ch s).hist = .input ch :: s.hist := by
  have hmod (f : Channel → Channel) (hf : ∀ chp, (f chp).state = chp.state) :
      (∀ d, ((s.modify s.currChp f).chan d).state = (s.chan d).state) ∧
        ∀ d, s.currChp ≠ d → (s.modify s.currChp f).chan d = s.chan d := by
    refine ⟨fun d ↦ ?_, fun d hd ↦ chan_modify_of_ne hd f s⟩
    rw [chan_modify]
    split
    · next h => rw [hf, h]
    · rfl
  unfold filled
  split
  · exact ⟨fun d ↦ rfl, fun d _ ↦ rfl, rfl, rfl, rfl, rfl⟩
  · split
    · obtain ⟨hstate, hothers⟩ := hmod
        (fun chp ↦ { chp with packet := { chp.packet with cmd := s.value, len := 0 } }) fun _ ↦ rfl
      exact ⟨hstate, hothers, rfl, rfl, rfl, rfl⟩
    · obtain ⟨hstate, hothers⟩ := hmod
        (fun chp ↦ { chp with packet := chp.packet.push s.value }) fun _ ↦ rfl
      exact ⟨hstate, hothers, rfl, rfl, rfl, rfl⟩

/-- A change of one channel other than of its priority. -/
theorem priority_modify {c : Fin 6} {f : Channel → Channel} {s : Ctl σ}
    (hf : (f (s.chan c)).priority = (s.chan c).priority) (d : Fin 6) :
    ((s.modify c f).chan d).priority = (s.chan d).priority := by
  rw [chan_modify]
  split
  · next h => rw [hf, h]
  · rfl

/-- A character leaves the priorities alone. -/
theorem priority_filled (ch : UInt8) (s : Ctl σ) (d : Fin 6) :
    ((filled ch s).chan d).priority = (s.chan d).priority := by
  unfold filled
  split
  · rfl
  · split
    · exact priority_modify (c := s.currChp) (s := s)
        (f := fun chp ↦ { chp with packet := { chp.packet with cmd := s.value, len := 0 } }) rfl d
    · exact priority_modify (c := s.currChp) (s := s)
        (f := fun chp ↦ { chp with packet := chp.packet.push s.value }) rfl d

/-- A character that is stored prints nothing. -/
theorem out_filled (ch : UInt8) (s : Ctl σ) : (filled ch s).out = s.out := by
  unfold filled
  split
  · rfl
  · split <;> rfl

/-- It leaves `last_modulo` alone. -/
theorem lastModulo_filled (ch : UInt8) (s : Ctl σ) :
    (filled ch s).lastModulo = s.lastModulo := by
  unfold filled
  split
  · rfl
  · split <;> rfl

end Ctl
end Libradio
