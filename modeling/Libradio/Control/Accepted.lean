import Libradio.Control.History

/-!
# Acknowledged packets are kept and sent once

What was acknowledged with `<+` waits in its channel until it is sent, configured away or
lost in a restart, and is sent at most once. Two things break this: a time slot that sends
a channel in ADDING, which still holds the packet sent last, and a line entered on the
channel `resp_chp` points to, whose state the main loop goes on stepping
(`src/control/main.c:105-110`).
-/

namespace Libradio
open Libradio.Base

/-- The parser has claimed channel `d` and no packet of it has been handed over since, after
a record, newest entry first. -/
def claimOpen (d : Fin 6) (h : List Obs) : Bool :=
  h.foldr (fun o open' ↦
    match o with
    | .claim c => c = d || open'
    | .ack c _ | .finish c => c ≠ d && open'
    | .reset => false
    | _ => open') false

/-- A successful send of `q` takes away what is loaded in channel `c`: the packet of the line
that was acknowledged last, or what a time slot built, unless a line was being written over
that. -/
def Takes (c : Fin 6) (q : Packet.Content) (h : List Obs) : Prop :=
  match loaded c h with
  | none => False
  | some (.line p) => q = p
  | some (.time p) => claimOpen c h = true ∨ q = p

/-- An entry of the record over what came before it, for channel `c`: a successful send takes
a load away, and neither a further line nor a time packet replaces an acknowledged packet. -/
def FaithfulAt (c : Fin 6) (o : Obs) (h : List Obs) : Prop :=
  match o with
  | .send d _ q true => d = c → Takes c q h
  | .ack d _ | .slot d _ => d = c → ∀ p, loaded c h ≠ some (.line p)
  | _ => True

instance (c : Fin 6) (q : Packet.Content) (h : List Obs) : Decidable (Takes c q h) := by
  unfold Takes
  split <;> exact inferInstance

instance : ∀ l : Option Load, Decidable (∀ p, l ≠ some (.line p))
  | none | some (.time _) => .isTrue nofun
  | some (.line p) => .isFalse fun h ↦ h p rfl

instance (c : Fin 6) (o : Obs) (h : List Obs) : Decidable (FaithfulAt c o h) := by
  unfold FaithfulAt
  split <;> exact inferInstance

/-- Every entry of a record, newest first, was faithful to the packets accepted on channel
`c`. -/
def Faithful (c : Fin 6) : List Obs → Prop
  | [] => True
  | o :: h => FaithfulAt c o h ∧ Faithful c h

instance Faithful.decidable (c : Fin 6) : ∀ h, Decidable (Faithful c h)
  | [] => .isTrue trivial
  | o :: h =>
    have := Faithful.decidable c h
    inferInstanceAs (Decidable (FaithfulAt c o h ∧ Faithful c h))

/-- Entries about other channels are always faithful. -/
theorem faithfulAt_of_not_concerns {c : Fin 6} {o : Obs} (h : o.concerns c = false)
    (before : List Obs) : FaithfulAt c o before := by
  unfold FaithfulAt
  split <;> simp_all [Obs.concerns]

/-- An open claim can be read off the part of the record that concerns the channel. -/
theorem claimOpen_filter (c : Fin 6) (h : List Obs) :
    claimOpen c (h.filter (Obs.concerns c)) = claimOpen c h := by
  refine foldr_concerns (fun o x ho ↦ ?_) false h
  cases o <;> simp_all [Obs.concerns]

/-- Faithfulness can be read off the part of the record that concerns the channel. -/
theorem faithful_filter (c : Fin 6) (h : List Obs) :
    Faithful c (h.filter (Obs.concerns c)) ↔ Faithful c h := by
  induction h with
  | nil => exact Iff.rfl
  | cons o h ih =>
    have hat : FaithfulAt c o (h.filter (Obs.concerns c)) ↔ FaithfulAt c o h := by
      unfold FaithfulAt Takes
      rw [loaded_filter, claimOpen_filter]
    rw [List.filter_cons]
    split
    · rw [Faithful, Faithful, hat, ih]
    · next hno =>
      rw [Faithful, ih, and_iff_right (faithfulAt_of_not_concerns (by simpa using hno) h)]

/-- Configurations are faithful entries. -/
theorem faithful_config {c : Fin 6} {config h : List Obs}
    (hc : ∀ o ∈ config, ∃ v, o = .setChannel c v) (hf : Faithful c h) :
    Faithful c (config ++ h) := by
  induction config with
  | nil => exact hf
  | cons o config ih =>
    obtain ⟨v, rfl⟩ := hc _ List.mem_cons_self
    exact ⟨trivial, ih fun o ho ↦ hc o (List.mem_cons_of_mem _ ho)⟩

namespace Ctl

variable {σ : Type}

/-- Every acknowledged packet that still waits is in its channel, complete and queued, and
the whole record was faithful to the acknowledged packets. -/
def KeepsAccepted (s : Ctl σ) : Prop :=
  (∀ c p, loaded c s.hist = some (.line p) →
    (s.chan c).state.IsQueued ∧ (s.chan c).packet.content = p) ∧
  ∀ c, Faithful c s.hist

/-- No pass falls on the time slot of a channel in ADDING, and no line is acknowledged for
transmission on the channel `resp_chp` points to. -/
def SparesQueues (s : Ctl σ) : Act → Prop
  | .check between _ => s.respChp = none → ∀ c, slotDue between s = some c →
    (s.chan c).state ≠ .adding
  | .input ch =>
    match completed ch s with
    | some (c, p) => ¬ IsLocal s.dev.radio p → s.dev.radio.state = LIBRADIO_STATE_ACTIVE →
      s.respChp ≠ some c
    | none => True
  | _ => True

instance (s : Ctl σ) (a : Act) : Decidable (SparesQueues s a) :=
  match a with
  | .check _ _ => inferInstanceAs (Decidable (_ → ∀ _, _))
  | .input ch => by
    unfold SparesQueues
    dsimp only
    split <;> exact inferInstance
  | .tick | .poll => .isTrue trivial

/-- One channel between two steps: it is in an RXRESPONSE state only while it is waited for,
the packet of an acknowledged line is out of reach of the parser and of the response wait,
and what is queued was loaded. -/
structure AcceptedInv (s : Ctl σ) (d : Fin 6) : Prop where
  pointed : (s.chan d).state.IsRxResponse → s.respChp = some d
  opened : Assembles s d → claimOpen d s.hist = true
  line : ∀ p, loaded d s.hist = some (.line p) → (s.chan d).state.IsQueued ∧
    (s.chan d).packet.content = p ∧ ¬ Assembles s d ∧ s.respChp ≠ some d
  load : (s.chan d).state.IsQueued → s.respChp ≠ some d →
    ∃ l, loaded d s.hist = some l ∧
      (claimOpen d s.hist = true ∨ l.packet = (s.chan d).packet.content)
  faithful : Faithful d s.hist

private theorem claimOpen_of_track {s : Ctl σ} {d : Fin 6} {h : List Obs}
    (ht : s.track d = h) : claimOpen d s.hist = claimOpen d h := by
  rw [← claimOpen_filter d s.hist, ← ht, track]

private theorem faithful_of_track {s : Ctl σ} {d : Fin 6} {h : List Obs}
    (ht : s.track d = h) (hf : Faithful d h) : Faithful d s.hist := by
  rw [← faithful_filter, ← track, ht]
  exact hf

private theorem faithful_track {s : Ctl σ} {d : Fin 6} (hf : Faithful d s.hist) :
    Faithful d (s.track d) := (faithful_filter d s.hist).mpr hf

/-- The invariant is about the channel, `resp_chp`, the parser and the track only. -/
theorem AcceptedInv.of_same {s s' : Ctl σ} {d : Fin 6} (h : AcceptedInv s d)
    (state : (s'.chan d).state = (s.chan d).state)
    (content : (s'.chan d).packet.content = (s.chan d).packet.content)
    (resp : s'.respChp = some d ↔ s.respChp = some d) (asm : Assembles s' d → Assembles s d)
    (track : s'.track d = s.track d) : AcceptedInv s' d := by
  obtain ⟨hpoint, hopen, hline, hload, hfaith⟩ := h
  have hload' : loaded d s'.hist = loaded d s.hist := by
    rw [loaded_of_track track, loaded_track]
  have hopen' : claimOpen d s'.hist = claimOpen d s.hist := by
    rw [claimOpen_of_track track, Ctl.track, claimOpen_filter]
  refine ⟨?_, ?_, ?_, ?_, faithful_of_track track (faithful_track hfaith)⟩
  · rw [state, resp]
    exact hpoint
  · rw [hopen']
    exact fun ha ↦ hopen (asm ha)
  · rw [hload', state, content, Ne, resp]
    intro p hp
    obtain ⟨hq, hcon, hidle, hne⟩ := hline p hp
    exact ⟨hq, hcon, fun ha ↦ hidle (asm ha), hne⟩
  · rw [hload', hopen', state, content, Ne, resp]
    exact hload

/-- A channel that is queued or awaited only while `resp_chp` points to it, and does not hold the
packet of a line. -/
theorem AcceptedInv.of_unqueued {s : Ctl σ} {d : Fin 6}
    (hrx : (s.chan d).state.IsRxResponse → s.respChp = some d)
    (hopen : Assembles s d → claimOpen d s.hist = true)
    (hq : (s.chan d).state.IsQueued → s.respChp = some d)
    (hline : ∀ p, loaded d s.hist ≠ some (.line p)) (hf : Faithful d s.hist) :
    AcceptedInv s d :=
  ⟨hrx, hopen, fun p hp ↦ absurd hp (hline p), fun hqueued hne ↦ absurd (hq hqueued) hne, hf⟩

/-- A channel that is neither queued nor awaited, nor holds the packet of a line. -/
theorem AcceptedInv.of_idle {s : Ctl σ} {d : Fin 6} (hrx : ¬ (s.chan d).state.IsRxResponse)
    (hq : ¬ (s.chan d).state.IsQueued) (hopen : Assembles s d → claimOpen d s.hist = true)
    (hline : ∀ p, loaded d s.hist ≠ some (.line p)) (hf : Faithful d s.hist) : AcceptedInv s d :=
  .of_unqueued (fun hr ↦ absurd hr hrx) hopen (fun hqueued ↦ absurd hqueued hq) hline hf

section Cases

variable {s s' : Ctl σ} {d : Fin 6}

/-- Out of a queue, or within reach of the parser or of the response wait, there is no packet of a
line. -/
theorem AcceptedInv.noLine (h : AcceptedInv s d)
    (hno : ¬ ((s.chan d).state.IsQueued ∧ ¬ Assembles s d ∧ s.respChp ≠ some d))
    (p : Packet.Content) : loaded d s.hist ≠ some (.line p) := fun hp ↦
  hno ⟨(h.line p hp).1, (h.line p hp).2.2⟩

/-- A line is acknowledged on a channel that no response is awaited on. -/
theorem AcceptedInv.queued {p : Packet.Content} (h : AcceptedInv s d) (hne : s.respChp ≠ some d)
    (before : Assembles s d) (after : ¬ s'.state.IsAssembling)
    (state : (s'.chan d).state.IsQueued) (content : (s'.chan d).packet.content = p)
    (resp : s'.respChp = some d ↔ s.respChp = some d)
    (track : s'.track d = .ack d p :: .handed d p :: s.track d) : AcceptedInv s' d := by
  have hfree := h.noLine fun hq ↦ hq.2.1 before
  have hload' : loaded d s'.hist = some (.line p) := by
    rw [loaded_of_track track, loaded_cons, Load.after_ack, if_pos rfl]
  refine ⟨fun hr ↦ absurd hr state.not_isRxResponse, fun ha ↦ absurd ha.1 after, fun q hq ↦ ?_,
    fun _ _ ↦ ⟨_, hload', .inr content.symm⟩, faithful_of_track track ?_⟩
  · obtain rfl : p = q := by
      rw [hload'] at hq
      cases hq
      rfl
    exact ⟨state, content, fun ha ↦ after ha.1, fun hs ↦ hne (resp.mp hs)⟩
  · refine ⟨?_, trivial, faithful_track h.faithful⟩
    exact fun _ q hq ↦ hfree q ((loaded_track s d).symm.trans hq)

/-- The channel is configured: its packet is gone, unless the value sets no state. -/
theorem AcceptedInv.configured {config : UInt8} (h : AcceptedInv s d)
    (after : ¬ s'.state.IsAssembling)
    (state : (s'.chan d).state = (ChState.ofConfig config).getD (s.chan d).state)
    (content : (s'.chan d).packet.content = (s.chan d).packet.content)
    (resp : s'.respChp = some d ↔ s.respChp = some d)
    (track : s'.track d = .setChannel d config :: s.track d) : AcceptedInv s' d := by
  have hfaith' : Faithful d s'.hist :=
    faithful_of_track track ⟨trivial, faithful_track h.faithful⟩
  have hload' : loaded d s'.hist =
      if config < 3 then none else loaded d s.hist := by
    rw [loaded_of_track track, loaded_cons, Load.after_setChannel, loaded_track]
    simp only [true_and]
  have hopen' : claimOpen d s'.hist = claimOpen d s.hist := by
    rw [claimOpen_of_track track, ← claimOpen_filter d s.hist]
    rfl
  rcases ChState.getD_ofConfig_cases config (s.chan d).state with ⟨hlt, hle⟩ | ⟨hge, hsame⟩
  · rw [← state] at hle
    refine .of_idle ?_ ?_ (fun ha ↦ absurd ha.1 after) (fun p ↦ ?_) hfaith'
    · exact ChState.not_isRxResponse_of_le (Nat.le_trans hle (by decide))
    · exact ChState.not_isQueued_of_le (Nat.le_trans hle (by decide))
    · rw [hload', if_pos hlt]
      simp
  · rw [hsame] at state
    rw [if_neg hge] at hload'
    refine ⟨?_, fun ha ↦ absurd ha.1 after, ?_, ?_, hfaith'⟩
    · rw [state, resp]
      exact h.pointed
    · rw [hload', state, content, Ne, resp]
      intro p hp
      obtain ⟨hq, hcon, -, hne⟩ := h.line p hp
      exact ⟨hq, hcon, fun ha ↦ after ha.1, hne⟩
    · rw [hload', hopen', state, content, Ne, resp]
      exact h.load

/-- A time slot fills the EMPTY channel, and sends it or leaves it queued. -/
theorem AcceptedInv.built {p : Packet.Content} {ok : Bool} (h : AcceptedInv s d)
    (empty : (s.chan d).state = .empty)
    (state : (s'.chan d).state = if ok then .empty else .transmit)
    (content : (s'.chan d).packet.content = p) (asm : Assembles s' d ↔ Assembles s d)
    (track : s'.track d = .send d .transmit p ok :: .slot d p :: s.track d) :
    AcceptedInv s' d := by
  have hfree := h.noLine fun hq ↦ by
    rw [empty] at hq
    exact absurd hq.1 (by decide)
  have hload' : loaded d s'.hist = if ok then none else some (.time p) := by
    rw [loaded_of_track track, loaded_cons, Load.after_send, loaded_cons, Load.after_slot,
      if_pos rfl]
    simp only [true_and]
  refine ⟨fun hr ↦ ?_, fun ha ↦ ?_, fun q hq ↦ ?_, fun hq _ ↦ ?_, faithful_of_track track ?_⟩
  · rw [state] at hr
    split at hr <;> exact absurd hr (by decide)
  · rw [claimOpen_of_track track]
    exact (claimOpen_filter d s.hist).trans (h.opened (asm.mp ha))
  · rw [hload'] at hq
    split at hq <;> cases hq
  · cases ok with
    | true =>
      rw [state, if_pos rfl] at hq
      exact absurd hq (by decide)
    | false => exact ⟨_, hload', .inr content.symm⟩
  · refine ⟨?_, ?_, faithful_track h.faithful⟩
    · cases ok with
      | false => trivial
      | true =>
        intro _
        rw [Takes, loaded_cons, Load.after_slot, if_pos rfl]
        exact .inr rfl
    · exact fun _ q hq ↦ hfree q ((loaded_track s d).symm.trans hq)

/-- What is sent was queued and so was loaded. -/
theorem AcceptedInv.sent {ok : Bool} (h : AcceptedInv s d) (hnadd : (s.chan d).state ≠ .adding)
    (free : s.respChp = none) (busy : ChState.adding.toNat ≤ (s.chan d).state.toNat)
    (state : (s'.chan d).state = if ok then
      (if (s.chan d).state = .txrespond then .rxresponse1 else .empty) else (s.chan d).state)
    (content : (s'.chan d).packet.content = (s.chan d).packet.content)
    (resp : s'.respChp = some d ↔ ok = true ∧ (s.chan d).state = .txrespond)
    (asm : Assembles s' d ↔ Assembles s d)
    (track : s'.track d = .send d (s.chan d).state (s.chan d).packet.content ok :: s.track d) :
    AcceptedInv s' d := by
  have hnrx : ¬ (s.chan d).state.IsRxResponse := fun hr ↦ by
    have := h.pointed hr
    rw [free] at this
    cases this
  -- neither in ADDING nor waited for, the channel is queued and so was loaded
  have hqueued := ChState.isQueued_of_ge busy hnadd hnrx
  obtain ⟨l, hl, hpacket⟩ := h.load hqueued (by rw [free]; simp)
  have hopen' : claimOpen d s'.hist = claimOpen d s.hist := by
    rw [claimOpen_of_track track, ← claimOpen_filter d s.hist]
    rfl
  cases ok with
  | true =>
    rw [if_pos rfl] at state
    refine .of_unqueued (fun hr ↦ ?_) (fun ha ↦ hopen' ▸ h.opened (asm.mp ha)) (fun hq ↦ ?_)
      (fun p ↦ ?_) (faithful_of_track track ⟨?_, faithful_track h.faithful⟩)
    · rw [state] at hr
      split at hr
      · next htx => exact resp.mpr ⟨rfl, htx⟩
      · exact absurd hr (by decide)
    · rw [state] at hq
      split at hq <;> exact absurd hq (by decide)
    · rw [loaded_of_track track, loaded_cons, Load.after_send, if_pos ⟨rfl, rfl⟩]
      simp
    · intro _
      rw [Takes, loaded_track, hl]
      cases l with
      | line p => exact (h.line p hl).2.1
      | time p =>
        rw [Ctl.track, claimOpen_filter]
        exact hpacket.imp_right Eq.symm
  | false =>
    rw [if_neg Bool.false_ne_true] at state
    have hresp : s'.respChp ≠ some d := fun hs ↦ Bool.false_ne_true (resp.mp hs).1
    have hload' : loaded d s'.hist = loaded d s.hist := by
      rw [loaded_of_track track, loaded_cons, Load.after_send,
        if_neg fun hc ↦ Bool.false_ne_true hc.2, loaded_track]
    refine ⟨fun hr ↦ absurd (state ▸ hr) hnrx, fun ha ↦ hopen' ▸ h.opened (asm.mp ha), ?_, ?_,
      faithful_of_track track ⟨trivial, faithful_track h.faithful⟩⟩
    · rw [hload', state, content]
      intro p hp
      obtain ⟨hq, hcon, hidle, -⟩ := h.line p hp
      exact ⟨hq, hcon, fun ha ↦ hidle (asm.mp ha), hresp⟩
    · rw [hload', hopen', content]
      exact fun _ _ ↦ ⟨l, hl, hpacket⟩

end Cases

/-- Every action that spares the queued packets keeps the invariant. -/
theorem acceptedInv_step (b : Board σ) (s : Ctl σ) (a : Act) (d : Fin 6)
    (h : AcceptedInv s d) (hg : SparesQueues s a) : AcceptedInv (step b s a) d := by
  obtain ⟨hpoint, hopen, -, hload, hfaith⟩ := id h
  cases chanEffect_step b s a d with
  | same state content resp asm track => exact h.of_same state content resp asm.mp track
  | claimed free state resp before after track =>
    have hfree := h.noLine fun hq ↦
      ChState.not_isQueued_of_le (Nat.le_trans free (by decide)) hq.1
    refine .of_idle ?_ ?_ (fun _ ↦ ?_) (fun p ↦ ?_) ?_
    · rw [state]
      decide
    · rw [state]
      decide
    · rw [claimOpen_of_track track]
      simp [claimOpen]
    · rw [loaded_of_track track]
      exact fun hp ↦ hfree p ((loaded_track s d).symm.trans hp)
    · exact faithful_of_track track ⟨trivial, faithful_track hfaith⟩
  | edited before after state resp track =>
    have hfree := h.noLine fun hq ↦ hq.2.1 before
    have hload' : loaded d (step b s a).hist = loaded d s.hist := by
      rw [loaded_of_track track, loaded_track]
    have hopen' : claimOpen d (step b s a).hist = true := by
      rw [claimOpen_of_track track, Ctl.track, claimOpen_filter]
      exact hopen before
    refine ⟨?_, fun _ ↦ hopen', fun p hp ↦ absurd (hload' ▸ hp) (hfree p), fun hq hne ↦ ?_,
      faithful_of_track track (faithful_track hfaith)⟩
    · rw [state, resp]
      exact hpoint
    · rw [state] at hq
      obtain ⟨l, hl, -⟩ := hload hq fun hs ↦ hne (resp.mpr hs)
      exact ⟨l, hload' ▸ hl, .inl hopen'⟩
  | left ch act leaves before after state content resp track =>
    exact h.of_same state content resp (fun ha ↦ absurd ha.1 after) track
  | released p config before after state resp config_set track =>
    have hfree := h.noLine fun hq ↦ hq.2.1 before
    refine .of_idle ?_ ?_ (fun ha ↦ absurd ha.1 after) (fun q ↦ ?_) ?_
    · rw [state]
      decide
    · rw [state]
      decide
    · rw [loaded_of_track track]
      intro hq
      rcases loaded_config (h := .handed d p :: s.track d) config_set with hl | hl
      · exact hfree q ((loaded_track s d).symm.trans (hl.symm.trans hq))
      · cases hl.symm.trans hq
    · exact faithful_of_track track
        ⟨trivial, faithful_config config_set ⟨trivial, faithful_track hfaith⟩⟩
  | queued ch p act queues before after state content resp track =>
    have hne : s.respChp ≠ some d := by
      subst act
      rw [SparesQueues, queues.1] at hg
      exact hg queues.2.1 queues.2.2
    exact h.queued hne before after state content resp track
  | configured ch config act configures before after state content resp track =>
    exact h.configured after state content resp track
  | waited act before early state resp asm track =>
    have hfree := h.noLine fun hq ↦ hq.2.2 before
    refine .of_unqueued (fun _ ↦ resp) (fun ha ↦ ?_) (fun _ ↦ resp) (fun p ↦ ?_)
      (faithful_of_track track ⟨trivial, faithful_track hfaith⟩)
    · rw [claimOpen_of_track track]
      exact (claimOpen_filter d s.hist).trans (hopen (asm.mp ha))
    · rw [loaded_of_track track]
      exact fun hp ↦ hfree p ((loaded_track s d).symm.trans hp)
  | ended act before ends state resp asm track =>
    have hfree := h.noLine fun hq ↦ hq.2.2 before
    refine .of_idle ?_ ?_ (fun ha ↦ ?_) (fun p ↦ ?_)
      (faithful_of_track track ⟨trivial, faithful_track hfaith⟩)
    · rw [state]
      decide
    · rw [state]
      decide
    · rw [claimOpen_of_track track]
      exact (claimOpen_filter d s.hist).trans (hopen (asm.mp ha))
    · rw [loaded_of_track track]
      exact fun hp ↦ hfree p ((loaded_track s d).symm.trans hp)
  | built between inSend p ok act free due empty state content resp asm track =>
    exact h.built empty state content asm track
  | sent between inSend ok act free busy adding state content resp asm track =>
    have hnadd : (s.chan d).state ≠ .adding := fun hadd ↦ by
      subst act
      exact hg free d (adding hadd) hadd
    exact h.sent hnadd free busy state content resp asm track
  | reset state resp after track =>
    refine .of_idle ?_ ?_ (fun ha ↦ absurd ha.1 after) (fun p ↦ ?_)
      (faithful_of_track track ⟨trivial, faithful_track hfaith⟩)
    · rw [state]
      decide
    · rw [state]
      decide
    · rw [loaded_of_track track]
      simp

/-- A started controller holds no packet of a line. -/
theorem acceptedInv_start (b : Board σ) (chip : σ) (eeprom : UInt16 → UInt8)
    (beyondData : UInt8) (d : Fin 6) : AcceptedInv (start b chip eeprom beyondData) d := by
  obtain ⟨hst, -, hidle, hhist⟩ := chan_start b chip eeprom beyondData d
  refine .of_idle ?_ ?_ (fun ha ↦ absurd ha.1 hidle) (fun p ↦ ?_) ?_
  · rw [hst]
    decide
  · rw [hst]
    decide
  · rw [hhist]
    simp
  · rw [hhist]
    exact ⟨trivial, trivial⟩

/-- In every run of the controller in which no pass falls on the time slot of a channel in
ADDING and no line is acknowledged on the channel `resp_chp` points to, an acknowledged
packet waits unchanged in its channel until it is sent, and is sent once. -/
theorem keeps_accepted (b : Board σ) (chip : σ) (eeprom : UInt16 → UInt8) (beyondData : UInt8)
    (acts : List Act) (h : Along (step b) SparesQueues (start b chip eeprom beyondData) acts)
    (pre : List Act) (hpre : pre <+: acts) :
    KeepsAccepted (run (step b) (start b chip eeprom beyondData) pre) := by
  obtain ⟨post, rfl⟩ := hpre
  have hinv : ∀ d, AcceptedInv (run (step b) (start b chip eeprom beyondData) pre) d :=
    run_inv (step b) (I := fun s ↦ ∀ d, AcceptedInv s d)
      (fun s a hs hg d ↦ acceptedInv_step b s a d (hs d) hg)
      (acceptedInv_start b chip eeprom beyondData) ((along_append _ _ _ _ _).mp h).1
  refine ⟨fun c p hp ↦ ?_, fun c ↦ (hinv c).faithful⟩
  obtain ⟨hq, hcon, -⟩ := (hinv c).line p hp
  exact ⟨hq, hcon⟩

private def sendingRadio : Board Nat :=
  .scripted fun _ i ↦ if i = 0 then SI4463_STATE_READY else 64

private def entered (t : String) : List Act :=
  (characters t).flatMap fun ch ↦ [.poll, .input ch, .check 0 0]

/-- A packet for node 7 is entered on channel A and sent. -/
theorem keeps_accepted_on_a :
    KeepsAccepted (run (step sendingRadio) (start sendingRadio 0 (fun _ ↦ 0) 0)
      (entered ">A0:3:0,1,0.\n>A7:20.\n")) :=
  keeps_accepted sendingRadio 0 (fun _ ↦ 0) 0 _ (by decide +kernel) _ List.prefix_rfl

-- The clock is set to 2999, a packet for node 7 is entered on channel A and sent, and `>A` claims
-- the channel again. One clock interrupt later the time slot is channel A's.
private def sentTwice : List Act :=
  entered ">A0:3:0,1,0.\n>A1:5:11,183,0.\n>A7:20.\n>A" ++ [.tick, .poll, .check 0 0]

private theorem not_keepsAccepted {s : Ctl σ} (c : Fin 6) (h : ¬ Faithful c s.hist) :
    ¬ KeepsAccepted s := fun hk ↦ h (hk.2 c)

/-- The slot sends the packet, acknowledged once, a second time. -/
theorem slot_resends_packet :
    ¬ KeepsAccepted (run (step sendingRadio) (start sendingRadio 0 (fun _ ↦ 0) 0) sentTwice) :=
  not_keepsAccepted 0 (by decide +kernel)

end Ctl
end Libradio
