import Libradio.Control.History

/-!
# The packet under construction is not sent

The guards of `tx_check_queues` compare ranges of channel states. The priority scan asks for
TRANSMIT or above, but the time slot lets everything above READ through
(`src/control/transmit.c:129`), so it sends a channel the parser is still filling and sets
it to EMPTY. Nothing else does.
-/

namespace Libradio
open Libradio.Base

namespace Ctl

variable {σ : Type}

/-- A send of this step is of a channel in TRANSMIT or TXRESPOND that the parser is not
filling, with the packet that was acknowledged or built last in it; and unless the step
reads a character, the channel that the parser is filling is not EMPTY afterwards. -/
def SendsComplete (b : Board σ) (s : Ctl σ) (a : Act) : Prop :=
  (∀ c st p ok before, RecordsSend s (step b s a) c st p ok before →
    st.IsQueued ∧ ¬ Assembles s c ∧ ∃ l, loaded c before = some l ∧ l.packet = p) ∧
  ∀ c, Assembles s c → (∀ ch, a ≠ .input ch) → ((step b s a).chan c).state ≠ .empty

/-- The pass does not fall on the time slot of a channel in ADDING, and does not end a
response wait on the channel the parser is filling. -/
def SparesAssembly (b : Board σ) (s : Ctl σ) (a : Act) : Prop :=
  (∀ between inSend c, a = .check between inSend → s.respChp = none →
    slotDue between s = some c → (s.chan c).state ≠ .adding) ∧
  ∀ c, a = .poll → s.respChp = some c → Assembles s c → ¬ WaitEnds b s c

/-- One channel between two steps: it is in an RXRESPONSE state only while it is waited for,
it is in ADDING while the parser fills it unless it is waited for, and what is queued in it
is what was loaded last. -/
structure AssemblyInv (s : Ctl σ) (d : Fin 6) : Prop where
  pointed : (s.chan d).state.IsRxResponse → s.respChp = some d
  assembling : Assembles s d → (s.chan d).state = .adding ∨
    (s.respChp = some d ∧ ChState.adding.toNat ≤ (s.chan d).state.toNat)
  load : (s.chan d).state.IsQueued → s.respChp ≠ some d →
    ∃ l, loaded d s.hist = some l ∧ l.packet = (s.chan d).packet.content

/-- A channel that is neither queued nor awaited. -/
theorem AssemblyInv.of_idle {s : Ctl σ} {d : Fin 6} (hrx : ¬ (s.chan d).state.IsRxResponse)
    (hq : ¬ (s.chan d).state.IsQueued) (hasm : Assembles s d → (s.chan d).state = .adding) :
    AssemblyInv s d :=
  ⟨fun hr ↦ absurd hr hrx, fun ha ↦ .inl (hasm ha), fun hqueued _ ↦ absurd hqueued hq⟩

/-- Outside a response wait the parser fills a channel in ADDING. -/
theorem AssemblyInv.adding_of_free {s : Ctl σ} {d : Fin 6} (h : AssemblyInv s d)
    (free : s.respChp = none) (ha : Assembles s d) : (s.chan d).state = .adding := by
  rcases h.assembling ha with hadd | ⟨hs, -⟩
  · exact hadd
  · rw [free] at hs
    cases hs

/-- Outside a response wait no channel is in an RXRESPONSE state. -/
theorem AssemblyInv.not_isRxResponse_of_free {s : Ctl σ} {d : Fin 6} (h : AssemblyInv s d)
    (free : s.respChp = none) : ¬ (s.chan d).state.IsRxResponse := fun hr ↦ by
  have hs := h.pointed hr
  rw [free] at hs
  cases hs

/-- The channel the parser fills is not EMPTY. -/
theorem AssemblyInv.ne_empty {s : Ctl σ} {d : Fin 6} (h : AssemblyInv s d)
    (ha : Assembles s d) : (s.chan d).state ≠ .empty := fun hempty ↦ by
  rcases h.assembling ha with hadd | ⟨-, hge⟩
  · rw [hempty] at hadd
    cases hadd
  · rw [hempty] at hge
    exact absurd hge (by decide)

section Cases

variable {s s' : Ctl σ} {d : Fin 6}

/-- A time slot fills the EMPTY channel, and sends it or leaves it queued. -/
theorem AssemblyInv.built {p : Packet.Content} {ok : Bool} (h : AssemblyInv s d)
    (empty : (s.chan d).state = .empty)
    (state : (s'.chan d).state = if ok then .empty else .transmit)
    (content : (s'.chan d).packet.content = p) (asm : Assembles s' d ↔ Assembles s d)
    (track : s'.track d = .send d .transmit p ok :: .slot d p :: s.track d) :
    AssemblyInv s' d := by
  have hno : ¬ Assembles s' d := fun ha ↦ h.ne_empty (asm.mp ha) empty
  refine ⟨fun hr ↦ ?_, fun ha ↦ absurd ha hno, fun hq _ ↦ ?_⟩
  · rw [state] at hr
    split at hr <;> exact absurd hr (by decide)
  · rw [state] at hq
    split at hq
    · exact absurd hq (by decide)
    · next hok =>
      refine ⟨.time p, ?_, content.symm⟩
      rw [loaded_of_track track, loaded_cons, Load.after_send, if_neg fun hc ↦ hok hc.2,
        loaded_cons, Load.after_slot, if_pos rfl]

/-- What is sent, the parser not filling it, was loaded last. -/
theorem AssemblyInv.sent {ok : Bool} (h : AssemblyInv s d) (hno : ¬ Assembles s d)
    (free : s.respChp = none)
    (state : (s'.chan d).state = if ok then
      (if (s.chan d).state = .txrespond then .rxresponse1 else .empty) else (s.chan d).state)
    (content : (s'.chan d).packet.content = (s.chan d).packet.content)
    (resp : s'.respChp = some d ↔ ok = true ∧ (s.chan d).state = .txrespond)
    (asm : Assembles s' d ↔ Assembles s d)
    (track : s'.track d = .send d (s.chan d).state (s.chan d).packet.content ok :: s.track d) :
    AssemblyInv s' d := by
  cases ok with
  | true =>
    rw [if_pos rfl] at state
    refine ⟨fun hr ↦ ?_, fun ha ↦ absurd (asm.mp ha) hno, fun hq _ ↦ ?_⟩
    · rw [state] at hr
      split at hr
      · next htx => exact resp.mpr ⟨rfl, htx⟩
      · exact absurd hr (by decide)
    · rw [state] at hq
      split at hq <;> exact absurd hq (by decide)
  | false =>
    rw [if_neg Bool.false_ne_true] at state
    have hnrx := h.not_isRxResponse_of_free free
    refine ⟨fun hr ↦ absurd (state ▸ hr) hnrx, fun ha ↦ absurd (asm.mp ha) hno, fun hq _ ↦ ?_⟩
    rw [state] at hq
    rw [loaded_of_track track, loaded_cons, Load.after_send,
      if_neg fun hc ↦ Bool.false_ne_true hc.2, loaded_track, content]
    exact h.load hq (by rw [free]; simp)

end Cases

/-- Every action that spares the packet under construction keeps the invariant. -/
theorem assemblyInv_step (b : Board σ) (s : Ctl σ) (a : Act) (h : ∀ d, AssemblyInv s d)
    (hg : SparesAssembly b s a) (d : Fin 6) : AssemblyInv (step b s a) d := by
  obtain ⟨hpoint, hasm, hload⟩ := h d
  cases chanEffect_step b s a d with
  | same state content resp asm track =>
    refine ⟨fun hr ↦ resp.mpr (hpoint (state ▸ hr)), fun ha ↦ ?_, fun hq hne ↦ ?_⟩
    · rw [state, resp]
      exact hasm (asm.mp ha)
    · rw [state] at hq
      rw [loaded_of_track track, loaded_track, content]
      exact hload hq fun hs ↦ hne (resp.mpr hs)
  | claimed free state resp before after track =>
    refine .of_idle ?_ ?_ fun _ ↦ state
    · rw [state]
      decide
    · rw [state]
      decide
  | edited before after state resp track =>
    refine ⟨fun hr ↦ resp.mpr (hpoint (state ▸ hr)), fun ha ↦ ?_, fun hq hne ↦ ?_⟩
    · rw [state, resp]
      exact hasm before
    · rw [state] at hq
      rcases hasm before with hadd | ⟨hresp, -⟩
      · rw [hadd] at hq
        exact absurd hq (by decide)
      · exact absurd (resp.mpr hresp) hne
  | left ch act leaves before after state content resp track =>
    refine ⟨fun hr ↦ resp.mpr (hpoint (state ▸ hr)), fun ha ↦ absurd ha.1 after, fun hq hne ↦ ?_⟩
    rw [state] at hq
    rw [loaded_of_track track, loaded_track, content]
    exact hload hq fun hs ↦ hne (resp.mpr hs)
  | released p config before after state resp config_set track =>
    refine .of_idle ?_ ?_ fun ha ↦ absurd ha.1 after
    · rw [state]
      decide
    · rw [state]
      decide
  | queued ch p act queues before after state content resp track =>
    refine ⟨fun hr ↦ absurd hr state.not_isRxResponse, fun ha ↦ absurd ha.1 after,
      fun _ _ ↦ ⟨.line p, ?_, content.symm⟩⟩
    rw [loaded_of_track track, loaded_cons, Load.after_ack, if_pos rfl]
  | configured ch config act configures before after state content resp track =>
    rcases ChState.getD_ofConfig_cases config (s.chan d).state with ⟨-, hle⟩ | ⟨hge, hsame⟩
    · rw [← state] at hle
      refine .of_idle ?_ ?_ fun ha ↦ absurd ha.1 after
      · exact ChState.not_isRxResponse_of_le (Nat.le_trans hle (by decide))
      · exact ChState.not_isQueued_of_le (Nat.le_trans hle (by decide))
    · rw [hsame] at state
      refine ⟨fun hr ↦ resp.mpr (hpoint (state ▸ hr)), fun ha ↦ absurd ha.1 after,
        fun hq hne ↦ ?_⟩
      rw [state] at hq
      rw [loaded_of_track track, loaded_cons, Load.after_setChannel, if_neg fun hc ↦ hge hc.2,
        loaded_track, content]
      exact hload hq fun hs ↦ hne (resp.mpr hs)
  | waited act before early state resp asm track =>
    refine ⟨fun _ ↦ resp, fun ha ↦ .inr ⟨resp, ?_⟩, fun _ hne ↦ absurd resp hne⟩
    rw [state, ChState.toNat_next _ early]
    rcases hasm (asm.mp ha) with hadd | ⟨-, hge⟩
    · rw [hadd]
      decide
    · omega
  | ended act before ends state resp asm track =>
    refine .of_idle ?_ ?_ fun ha ↦ absurd ends (hg.2 d act before (asm.mp ha))
    · rw [state]
      decide
    · rw [state]
      decide
  | built between inSend p ok act free due empty state content resp asm track =>
    exact (h d).built empty state content asm track
  | sent between inSend ok act free busy adding state content resp asm track =>
    have hno : ¬ Assembles s d := fun ha ↦ by
      have hadd := (h d).adding_of_free free ha
      exact hg.1 between inSend d act free (adding hadd) hadd
    exact (h d).sent hno free state content resp asm track
  | reset state resp after track =>
    refine .of_idle ?_ ?_ fun ha ↦ absurd ha.1 after
    · rw [state]
      decide
    · rw [state]
      decide

/-- A step that spares the packet under construction sends only complete packets. -/
theorem sendsComplete_of_spares (b : Board σ) {s : Ctl σ} {a : Act} (h : ∀ d, AssemblyInv s d)
    (hg : SparesAssembly b s a) : SendsComplete b s a := by
  constructor
  · intro c st p ok before hrec
    obtain ⟨between, inSend, rfl, free, source⟩ := sent_of_recordsSend b hrec
    have hnot (hst : (s.chan c).state ≠ .adding) : ¬ Assembles s c :=
      fun ha ↦ hst ((h c).adding_of_free free ha)
    have hfree : s.respChp ≠ some c := by rw [free]; simp
    -- a channel above ADDING that is not waited for is queued
    have hqueued (hbusy : ChState.adding.toNat ≤ (s.chan c).state.toNat)
        (hst : (s.chan c).state ≠ .adding) : (s.chan c).state.IsQueued :=
      ChState.isQueued_of_ge hbusy hst ((h c).not_isRxResponse_of_free free)
    cases source with
    | built due empty state hist =>
      refine ⟨.inl state, hnot (by rw [empty]; simp), .time p, ?_, rfl⟩
      rw [hist, loaded_cons, Load.after_slot, if_pos rfl]
    | found due busy state packet hist =>
      have hst := hg.1 between inSend c rfl free due
      rw [state, packet, hist]
      exact ⟨hqueued busy hst, hnot hst, (h c).load (hqueued busy hst) hfree⟩
    | picked due ready state packet hist =>
      have hst : (s.chan c).state ≠ .adding := fun hadd ↦ by
        rw [hadd] at ready
        exact absurd ready (by decide)
      have hbusy := Nat.le_trans (by decide : ChState.adding.toNat ≤ _) ready
      rw [state, packet, hist]
      exact ⟨hqueued hbusy hst, hnot hst, (h c).load (hqueued hbusy hst) hfree⟩
  · intro c ha hin hempty
    -- whatever does not read a character leaves the parser where it is
    have hasm : Assembles (step b s a) c := by
      cases a with
      | tick =>
        have alike := alike_tick b s
        exact (SameParser.assembles ⟨alike.state, alike.value, alike.currChp⟩ c).mpr ha
      | input ch => exact absurd rfl (hin ch)
      | poll =>
        cases effect_poll b s with
        | idle none eq => rw [step, eq]; exact ha
        | waiting c' some going own others respChp parser hist => exact (parser.assembles c).mpr ha
        | ended c' some ends own others respChp parser hist => exact (parser.assembles c).mpr ha
      | check between inSend =>
        cases effect_check b between inSend s with
        | idle closed chan respChp parser hist => exact (parser.assembles c).mpr ha
        | sent c' st p ok before none source hist own packet others respChp parser =>
          exact (parser.assembles c).mpr ha
    exact (assemblyInv_step b s a h hg c).ne_empty hasm hempty

/-- A step that sends only complete packets has spared the packet under construction. -/
theorem spares_of_sendsComplete (b : Board σ) {s : Ctl σ} {a : Act}
    (hp : SendsComplete b s a) : SparesAssembly b s a := by
  constructor
  · rintro between inSend c rfl free due hadd
    cases effect_check b between inSend s with
    | idle closed chan respChp parser hist =>
      have := closed free c due
      rw [hadd] at this
      exact absurd this (by decide)
    | sent c' st p ok before none source hist own packet others respChp parser =>
      have hsuf : s.hist <:+ before := by
        cases source with
        | built due' empty state hist' => rw [hist']; exact List.suffix_cons _ _
        | found due' busy state packet' hist' => exact hist' ▸ List.suffix_rfl
        | picked due' ready state packet' hist' => exact hist' ▸ List.suffix_rfl
      have hq := (hp.1 c' st p ok before ⟨hist, hsuf⟩).1
      cases source with
      | built due' empty state hist' =>
        obtain rfl : c = c' := Option.some.inj (due.symm.trans due')
        rw [empty] at hadd
        cases hadd
      | found due' busy state packet' hist' =>
        obtain rfl : c = c' := Option.some.inj (due.symm.trans due')
        rw [state, hadd] at hq
        exact absurd hq (by decide)
      | picked due' ready state packet' hist' =>
        rw [due] at due'
        cases due'
  · rintro c rfl some ha ends
    refine hp.2 c ha nofun ?_
    cases effect_poll b s with
    | idle none eq =>
      rw [some] at none
      cases none
    | waiting c' some' going own others respChp parser hist =>
      obtain rfl : c' = c := Option.some.inj (some'.symm.trans some)
      exact absurd ends going
    | ended c' some' ends' own others respChp parser hist =>
      obtain rfl : c' = c := Option.some.inj (some'.symm.trans some)
      exact own

/-- A started controller has nothing under construction. -/
theorem assemblyInv_start (b : Board σ) (chip : σ) (eeprom : UInt16 → UInt8)
    (beyondData : UInt8) (d : Fin 6) : AssemblyInv (start b chip eeprom beyondData) d := by
  obtain ⟨hst, -, hidle, -⟩ := chan_start b chip eeprom beyondData d
  refine .of_idle ?_ ?_ fun ha ↦ absurd ha.1 hidle
  · rw [hst]
    decide
  · rw [hst]
    decide

/-- In every run of the controller, `libradio_send` is called only for complete packets, and
the channel the parser is filling is never set to EMPTY under it, exactly when no pass falls
on the time slot of a channel in ADDING and no response wait ends on the channel the parser
is filling. -/
theorem sends_complete_iff (b : Board σ) (chip : σ) (eeprom : UInt16 → UInt8)
    (beyondData : UInt8) (acts : List Act) :
    Along (step b) (SendsComplete b) (start b chip eeprom beyondData) acts ↔
      Along (step b) (SparesAssembly b) (start b chip eeprom beyondData) acts :=
  along_iff_of_inv (step b) (I := fun s ↦ ∀ d, AssemblyInv s d)
    (fun s a h hg ↦ assemblyInv_step b s a h hg)
    (fun _ _ h ↦ ⟨spares_of_sendsComplete b, sendsComplete_of_spares b h⟩)
    (assemblyInv_start b chip eeprom beyondData)

private def readyRadio : Board Nat := .scripted fun _ i ↦ if i = 0 then SI4463_STATE_READY else 64

-- The passes in which the controller is activated as node 1, its clock is set to 2999 and `>A`
-- claims channel A.
private def claimedA : List Act :=
  (characters ">A0:3:0,1,0.\n>A1:5:11,183,0.\n>A").flatMap fun ch ↦ [.poll, .input ch, .check 0 0]

/-- One clock interrupt later the time slot is channel A's: the pass sends the half-written
packet and sets the channel to EMPTY. -/
theorem slot_sends_claimed_channel :
    ¬ Along (step readyRadio) (SendsComplete readyRadio) (start readyRadio 0 (fun _ ↦ 0) 0)
        (claimedA ++ [.tick, .poll, .check 0 0]) ∧
      ((run (step readyRadio) (start readyRadio 0 (fun _ ↦ 0) 0)
        (claimedA ++ [.tick, .poll, .check 0 0])).chan 0).state = .empty := by
  have hempty : ((run (step readyRadio) (start readyRadio 0 (fun _ ↦ 0) 0)
      (claimedA ++ [.tick, .poll, .check 0 0])).chan 0).state = .empty := by decide +kernel
  refine ⟨fun h ↦ ?_, hempty⟩
  have hlast := ((along_append _ _ _ _ _).mp h).2.2.2.1
  refine hlast.2 0 (by decide +kernel) nofun ?_
  rw [run_append, run_cons, run_cons, run_cons, run_nil] at hempty
  exact hempty

end Ctl
end Libradio
