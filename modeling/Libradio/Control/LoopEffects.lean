import Libradio.Control.InputEffects

/-!
# What a clock tick, the response wait and the transmissions can do

The effects of the remaining actions of the main loop, in the same form as those of a
character.
-/

namespace Libradio
namespace Ctl

variable {σ : Type}

/-- The parser is where it was. -/
structure SameParser (s s' : Ctl σ) : Prop where
  state : s'.state = s.state
  value : s'.value = s.value
  currChp : s'.currChp = s.currChp

/-! ### The response wait -/

/-- The wait on channel `c` ends in this pass: a packet has come in, or the last RXRESPONSE
state is reached. -/
def WaitEnds (b : Board σ) (s : Ctl σ) (c : Fin 6) : Prop :=
  (libradioCheckRx b s.dev).2 = true ∨ (s.chan c).state = .rxresponse4

/-- The effects of the response wait of one pass. -/
inductive PollEffect (b : Board σ) (s s' : Ctl σ) : Prop
  | idle (none : s.respChp = none) (eq : s' = s)
  | waiting (c : Fin 6) (some : s.respChp = some c) (going : ¬ WaitEnds b s c)
      (own : s'.chan c = { s.chan c with state := (s.chan c).state.next })
      (others : ∀ d, c ≠ d → s'.chan d = s.chan d) (respChp : s'.respChp = s.respChp)
      (parser : SameParser s s') (hist : s'.hist = .wait c (s.chan c).state.next :: s.hist)
  | ended (c : Fin 6) (some : s.respChp = some c) (ends : WaitEnds b s c)
      (own : (s'.chan c).state = .empty) (others : ∀ d, c ≠ d → s'.chan d = s.chan d)
      (respChp : s'.respChp = none) (parser : SameParser s s')
      (hist : s'.hist = .wait c .empty :: s.hist)

/-- A received response only changes the packet buffer of the channel that waits for it. -/
theorem txresponse_spec (b : Board σ) (c : Fin 6) (s : Ctl σ) :
    (∀ d, c ≠ d → (txresponse b c s).chan d = s.chan d) ∧ SameParser s (txresponse b c s) ∧
      (txresponse b c s).hist = s.hist := by
  unfold txresponse
  dsimp only
  generalize libradioRecv b s.dev (s.chan c).packet s.dev.radio.currChannel = r
  have hoth (d : Fin 6) (hd : c ≠ d) :=
    chan_modify_of_ne hd (fun chp ↦ { chp with packet := r.packet }) s
  split <;> exact ⟨hoth, ⟨rfl, rfl, rfl⟩, rfl⟩

-- The end of a wait.
private theorem PollEffect.of_endWait {b : Board σ} {c : Fin 6} {s s₁ : Ctl σ}
    (some : s.respChp = some c) (ends : WaitEnds b s c)
    (others : ∀ d, c ≠ d → s₁.chan d = s.chan d) (parser : SameParser s s₁)
    (hist : s₁.hist = s.hist) : PollEffect b s (endWait c s₁) := by
  have hown := chan_modify_self c (fun chp ↦ { chp with state := .empty }) s₁
  have hoth (d : Fin 6) (hd : c ≠ d) :=
    chan_modify_of_ne hd (fun chp ↦ { chp with state := .empty }) s₁
  refine .ended c some ends (congrArg Channel.state hown) (fun d hd ↦ ?_) rfl
    ⟨parser.state, parser.value, parser.currChp⟩ ?_
  · exact (hoth d hd).trans (others d hd)
  · exact congrArg (List.cons (Obs.wait c .empty)) hist

/-- Every effect of the response wait. -/
theorem effect_poll (b : Board σ) (s : Ctl σ) : PollEffect b s (poll b s) := by
  unfold poll
  split
  · next h => exact .idle h rfl
  · next c h =>
    dsimp only
    split
    · next havail =>
      obtain ⟨hoth, hpar, hhist⟩ := txresponse_spec b c
        { s with dev := (libradioCheckRx b s.dev).1 }
      exact .of_endWait h (.inl havail) hoth ⟨hpar.state, hpar.value, hpar.currChp⟩ hhist
    · next havail =>
      split
      · next hlast => exact .of_endWait h (.inr hlast) (fun d _ ↦ rfl) ⟨rfl, rfl, rfl⟩ rfl
      · next hearly =>
        have hown := chan_modify_self c
          (fun chp ↦ { chp with state := (s.chan c).state.next }) s
        have hoth (d : Fin 6) (hd : c ≠ d) :=
          chan_modify_of_ne hd (fun chp ↦ { chp with state := (s.chan c).state.next }) s
        exact .waiting c h (not_or.mpr ⟨havail, hearly⟩) hown hoth rfl ⟨rfl, rfl, rfl⟩ rfl

/-! ### The transmissions -/

/-- Where the packet of a send comes from, with the channel's state at the send, the packet
and the record before it: the time slot has built it, the time slot has found something else
in the channel, or the priority scan has chosen it. -/
inductive Source (between : Nat) (c : Fin 6) (s : Ctl σ) (st : ChState) (p : Packet.Content)
    (before : List Obs) : Prop
  | built (due : slotDue between s = some c) (empty : (s.chan c).state = .empty)
      (state : st = .transmit) (hist : before = .slot c p :: s.hist)
  | found (due : slotDue between s = some c)
      (busy : ChState.adding.toNat ≤ (s.chan c).state.toNat)
      (state : st = (s.chan c).state) (packet : p = (s.chan c).packet.content)
      (hist : before = s.hist)
  | picked (due : slotDue between s = none)
      (ready : ChState.transmit.toNat ≤ (s.chan c).state.toNat)
      (state : st = (s.chan c).state) (packet : p = (s.chan c).packet.content)
      (hist : before = s.hist)

/-- The effects of the transmissions of one pass. -/
inductive CheckEffect (between : Nat) (s s' : Ctl σ) : Prop
  | idle (closed : s.respChp = none → ∀ c, slotDue between s = some c →
        (s.chan c).state.toNat < ChState.empty.toNat)
      (chan : ∀ d, s'.chan d = s.chan d) (respChp : s'.respChp = s.respChp)
      (parser : SameParser s s') (hist : s'.hist = s.hist)
  | sent (c : Fin 6) (st : ChState) (p : Packet.Content) (ok : Bool) (before : List Obs)
      (none : s.respChp = none) (source : Source between c s st p before)
      (hist : s'.hist = .send c st p ok :: before)
      (own : (s'.chan c).state =
        if ok then (if st = .txrespond then .rxresponse1 else .empty) else st)
      (packet : (s'.chan c).packet.content = p)
      (others : ∀ d, c ≠ d →
        (s'.chan d).state = (s.chan d).state ∧ (s'.chan d).packet = (s.chan d).packet)
      (respChp : s'.respChp = if ok ∧ st = .txrespond then some c else Option.none)
      (parser : SameParser s s')

/-- Aging changes priorities only. -/
theorem age_spec (chp : Channel) :
    (age chp).state = chp.state ∧ (age chp).packet = chp.packet := by
  unfold age
  split <;> exact ⟨rfl, rfl⟩

/-- The priority scan only chooses channels that are ready. -/
theorem isReady_of_pickReady {s : Ctl σ} {c : Fin 6} (h : pickReady s = some c) :
    IsReady (s.chan c) := by
  have hfold (cs : List (Fin 6)) (best : Option (Fin 6))
      (hbest : ∀ n, best = some n → IsReady (s.chan n)) :
      ∀ n, cs.foldl (scanReady s) best = some n → IsReady (s.chan n) := by
    induction cs generalizing best with
    | nil => exact hbest
    | cons c cs ih =>
      rw [List.foldl_cons]
      refine ih _ fun n hn ↦ ?_
      unfold scanReady at hn
      split at hn
      · next hc =>
        split at hn
        · cases hn
          exact hc
        · split at hn
          · cases hn
            exact hc
          · exact hbest n hn
      · exact hbest n hn
  exact hfold (List.finRange 6) none (by simp) c h

/-- The state, the content and the record after a call of `libradio_send` and what follows
it. -/
theorem sendOn_spec (b : Board σ) (ticks : Nat) (c : Fin 6) (s : Ctl σ) :
    ∃ ok : Bool, ((sendOn b ticks c s).chan c).state =
        (if ok then (if (s.chan c).state = .txrespond then .rxresponse1 else .empty)
          else (s.chan c).state) ∧
      ((sendOn b ticks c s).chan c).packet.content = (s.chan c).packet.content ∧
      (∀ d, c ≠ d → (sendOn b ticks c s).chan d = s.chan d) ∧
      (sendOn b ticks c s).respChp =
        (if ok ∧ (s.chan c).state = .txrespond then some c else s.respChp) ∧
      SameParser s (sendOn b ticks c s) ∧
      (sendOn b ticks c s).hist =
        .send c (s.chan c).state (s.chan c).packet.content ok :: s.hist := by
  have hcontent := content_libradioSend b ticks s.dev (s.chan c) (UInt8.ofNat c.val)
  unfold sendOn
  dsimp only
  generalize libradioSend b ticks s.dev (s.chan c) (UInt8.ofNat c.val) = r at hcontent ⊢
  -- the controller right after the call
  obtain ⟨s₁, hs₁⟩ : ∃ s₁ : Ctl σ, s₁ = Ctl.note
      (.send c (s.chan c).state (s.chan c).packet.content r.ok)
      { s.modify c fun chp ↦ { chp with packet := r.packet } with dev := r.dev } := ⟨_, rfl⟩
  have hown : s₁.chan c = { s.chan c with packet := r.packet } := by
    rw [hs₁]
    exact chan_modify_self c (fun chp ↦ { chp with packet := r.packet }) s
  have hoth (d : Fin 6) (hd : c ≠ d) : s₁.chan d = s.chan d := by
    rw [hs₁]
    exact chan_modify_of_ne hd (fun chp ↦ { chp with packet := r.packet }) s
  have hpar : SameParser s s₁ := by rw [hs₁]; exact ⟨rfl, rfl, rfl⟩
  have hresp : s₁.respChp = s.respChp := by rw [hs₁]; rfl
  have hhist : s₁.hist = .send c (s.chan c).state (s.chan c).packet.content r.ok :: s.hist := by
    rw [hs₁]
    rfl
  refine ⟨r.ok, ?_⟩
  rw [← hs₁]
  by_cases hok : r.ok = true
  · simp only [hok, if_true, true_and] at hhist ⊢
    unfold sentOn
    by_cases htx : (s₁.chan c).state = .txrespond
    · have htx' : (s.chan c).state = .txrespond := by rwa [hown] at htx
      simp only [htx, htx', if_true]
      have hself := chan_modify_self c
        (fun chp ↦ { chp with state := .rxresponse1, priority := 0 }) s₁
      refine ⟨congrArg Channel.state hself, ?_, fun d hd ↦ ?_, trivial,
        ⟨hpar.state, hpar.value, hpar.currChp⟩, ?_⟩
      · refine (congrArg (fun chp ↦ chp.packet.content) hself).trans ?_
        rw [hown]
        exact hcontent
      · exact (chan_modify_of_ne hd
          (fun chp ↦ { chp with state := .rxresponse1, priority := 0 }) s₁).trans (hoth d hd)
      · rw [htx'] at hhist
        exact hhist
    · have htx' : (s.chan c).state ≠ .txrespond := by rwa [hown] at htx
      simp only [htx, htx', if_false]
      have hself := chan_modify_self c (fun chp ↦ { chp with state := .empty, priority := 0 }) s₁
      refine ⟨congrArg Channel.state hself, ?_, fun d hd ↦ ?_, hresp,
        ⟨hpar.state, hpar.value, hpar.currChp⟩, hhist⟩
      · refine (congrArg (fun chp ↦ chp.packet.content) hself).trans ?_
        rw [hown]
        exact hcontent
      · exact (chan_modify_of_ne hd
          (fun chp ↦ { chp with state := .empty, priority := 0 }) s₁).trans (hoth d hd)
  · have hok' : r.ok = false := by simpa using hok
    simp only [hok', Bool.false_eq_true, if_false, false_and] at hhist ⊢
    refine ⟨?_, ?_, hoth, hresp, hpar, hhist⟩
    · rw [hown]
    · rw [hown]
      exact hcontent

-- The transmission of a chosen channel that is not closed. The channels are those of `s`, except
-- that the packet may just have been built.
private theorem CheckEffect.of_transmitOn (b : Board σ) {between : Nat} (ticks : Nat)
    {c : Fin 6} {s s₁ : Ctl σ} (free : s.respChp = none)
    (source : Source between c s (s₁.chan c).state (s₁.chan c).packet.content s₁.hist)
    (open_ : ChState.empty.toNat ≤ (s₁.chan c).state.toNat)
    (others : ∀ d, c ≠ d → s₁.chan d = s.chan d) (respChp : s₁.respChp = s.respChp)
    (parser : SameParser s s₁) : CheckEffect between s (transmitOn b ticks c s₁) := by
  unfold transmitOn
  rw [if_neg (Nat.not_lt.mpr open_)]
  obtain ⟨ok, hstate, hcontent, hoth, hresp, hpar, hhist⟩ := sendOn_spec b ticks c s₁
  dsimp only
  generalize sendOn b ticks c s₁ = s' at *
  have hage (d : Fin 6) :
      ({ s' with channels := s'.channels.map age } : Ctl σ).chan d = age (s'.chan d) := by
    simp only [chan, Fin.getElem_fin, Vector.getElem_map]
  refine .sent c _ _ ok _ free source hhist ?_ ?_ ?_ ?_ ?_
  · rw [hage, (age_spec _).1]
    exact hstate
  · rw [hage, (age_spec _).2]
    exact hcontent
  · intro d hd
    rw [hage, (age_spec _).1, (age_spec _).2, hoth d hd, others d hd]
    exact ⟨rfl, rfl⟩
  · rw [respChp, free] at hresp
    exact hresp
  · exact ⟨hpar.state.trans parser.state, hpar.value.trans parser.value,
      hpar.currChp.trans parser.currChp⟩

-- A pass that falls on the time slot of channel `c`. The state `s₀` differs from `s` in the clock
-- only.
private theorem CheckEffect.of_slot (b : Board σ) {between : Nat} (ticks : Nat) {c : Fin 6}
    {s s₀ : Ctl σ} (free : s.respChp = none) (due : slotDue between s = some c)
    (alike : Alike s s₀) : CheckEffect between s (transmitOn b ticks c (fillSlot c s₀)) := by
  have hchan := alike.chan
  unfold fillSlot
  by_cases hempty : (s₀.chan c).state = .empty
  · rw [if_pos hempty]
    dsimp only
    generalize timePacket s₀.dev.radio.tensOfMinutes (s₀.chan c).packet = p
    have hown : ((s₀.modify c fun _ ↦ ⟨.transmit, 0xff, p⟩).note (.slot c p.content)).chan c =
        ⟨.transmit, 0xff, p⟩ := chan_modify_self c (fun _ ↦ ⟨.transmit, 0xff, p⟩) s₀
    refine .of_transmitOn b ticks free ?_ ?_ ?_ alike.respChp
      ⟨alike.state, alike.value, alike.currChp⟩
    · rw [hown, hist_note, hist_modify, alike.hist]
      exact .built due (hchan c ▸ hempty) rfl rfl
    · rw [hown]
      exact Nat.le_of_ble_eq_true rfl
    · intro d hd
      rw [chan_note, chan_modify_of_ne hd, hchan]
  · rw [if_neg hempty]
    by_cases hclosed : (s₀.chan c).state.toNat < ChState.empty.toNat
    · unfold transmitOn
      rw [if_pos hclosed]
      refine .idle (fun _ d hd ↦ ?_) hchan alike.respChp
        ⟨alike.state, alike.value, alike.currChp⟩ alike.hist
      obtain rfl : c = d := Option.some.inj (due.symm.trans hd)
      rw [← hchan]
      exact hclosed
    · have hbusy : ChState.adding.toNat ≤ (s.chan c).state.toNat := by
        have hne : (s₀.chan c).state.toNat ≠ ChState.empty.toNat := fun h ↦
          hempty (ChState.toNat_inj.mp h)
        rw [hchan] at hclosed hne
        simp only [ChState.toNat] at hclosed hne ⊢
        omega
      refine .of_transmitOn b ticks free ?_ (Nat.le_of_not_lt hclosed) (fun d _ ↦ hchan d)
        alike.respChp ⟨alike.state, alike.value, alike.currChp⟩
      rw [hchan, alike.hist]
      exact .found due hbusy rfl rfl rfl

/-- Reading the clock touches no channel. -/
theorem alike_readClock (between : Nat) (s : Ctl σ) : Alike s (readClock between s) :=
  ⟨rfl, rfl, rfl, rfl, rfl, rfl⟩

private theorem CheckEffect.of_alike {between : Nat} {s s' : Ctl σ} (h : Alike s s')
    (due : s.respChp = none → slotDue between s = none) : CheckEffect between s s' :=
  .idle (fun hfree c hc ↦ by rw [due hfree] at hc; cases hc) h.chan h.respChp
    ⟨h.state, h.value, h.currChp⟩ h.hist

/-- Every effect of the transmissions. -/
theorem effect_check (b : Board σ) (between inSend : Nat) (s : Ctl σ) :
    CheckEffect between s (check b between inSend s) := by
  have hal := alike_readClock between s
  cases checked_check b between inSend s with
  | awaiting awaited eq =>
    rw [eq]
    exact .of_alike (Alike.refl s) fun hfree ↦ absurd hfree awaited
  | deaf free deaf eq =>
    rw [eq]
    exact .of_alike (Alike.refl s) fun _ ↦ by rw [slotDue, if_pos deaf]
  | slot c free listens due eq =>
    rw [eq]
    exact .of_slot b inSend free due hal
  | idle free listens due none eq =>
    rw [eq]
    exact .of_alike hal fun _ ↦ due
  | picked c free listens due some eq =>
    have hready := (isReady_of_pickReady some).2
    rw [eq]
    refine .of_transmitOn b inSend free ?_ (Nat.le_trans (by decide) hready)
      (fun d _ ↦ hal.chan d) hal.respChp ⟨hal.state, hal.value, hal.currChp⟩
    rw [hal.chan] at hready ⊢
    rw [hal.hist]
    exact .picked due hready rfl rfl rfl

/-- A clock interrupt touches nothing but the clock. -/
theorem alike_tick (b : Board σ) (s : Ctl σ) : Alike s (step b s .tick) := by
  rw [step]
  exact ⟨rfl, rfl, rfl, rfl, rfl, rfl⟩

end Ctl
end Libradio
