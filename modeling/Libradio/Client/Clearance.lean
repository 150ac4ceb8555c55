import Libradio.Client.Answer

/-!
# When a packet is sent

`libradio_send` asks the radio for its state and for the space in its transmit FIFO before it
sends (`src/lib/rxtx.c:134-207`). Both answers go to variables, and the variables are looked at:
a question that fails leaves there what was known before.
-/

namespace Libradio

variable {σ : Type}

/-! ### The questions of a send -/

/-- The state that the radio answers, `src/lib/radio.c:52-64`. -/
def Board.askState (b : Board σ) (w : σ) : σ × Option UInt8 :=
  let r := b.exchange w [SI4463_REQUEST_DEVICE_STATE] 2
  (r.1, r.2.toOption.map (·.get 0))

/-- The free space that the radio answers, `src/lib/radio.c:234-243`. -/
def Board.askRoom (b : Board σ) (clrf : UInt8) (w : σ) : σ × Option UInt8 :=
  let r := b.exchange w [SI4463_FIFO_INFO, clrf] 2
  (r.1, r.2.toOption.map (·.get 1))

/-- What the radio has said of its state and of the space in its FIFO. -/
structure Answers where
  state : Option UInt8
  room : Option UInt8
  deriving DecidableEq, Repr

/-- A later answer takes the place of an earlier one, a failure does not. -/
def Answers.then (first second : Answers) : Answers :=
  ⟨second.state.or first.state, second.room.or first.room⟩

/-- Both questions in their order. -/
def Board.inquire (b : Board σ) (clrf : UInt8) (w : σ) : σ × Answers :=
  let st := b.askState w
  let room := b.askRoom clrf st.1
  (room.1, ⟨st.2, room.2⟩)

/-- What a power-up tells the radio before it asks those questions, with the length of each
reply, `src/lib/power.c:75-90`. -/
def powerUpCommands : List (List UInt8 × Nat) :=
  radioConfiguration.map (·, 0) ++
    [([SI4463_GET_CHIP_STATUS, 0x7f], 3), ([SI4463_PART_INFO], 8), ([SI4463_FUNC_INFO], 6),
      ([SI4463_GET_INT_STATUS, 0, 0, 0], 8)]

/-- The chip after some commands. -/
def Board.tell (b : Board σ) (w : σ) (cmds : List (List UInt8 × Nat)) : σ :=
  cmds.foldl (fun w cmd ↦ (b.exchange w cmd.1 cmd.2).1) w

/-- The questions of a send, and those of the power-up inside it. -/
def Board.answers (b : Board σ) (d : Dev σ) : σ × Answers :=
  if d.radio.radioActive then b.inquire 0 d.chip
  else
    let first := b.inquire 3 (b.tell d.chip powerUpCommands)
    let second := b.inquire 0 first.1
    (second.1, first.2.then second.2)

/-- The state allows a transmission. -/
def MaySend (st : UInt8) : Prop := st = SI4463_STATE_READY ∨ st = SI4463_STATE_RX

instance (st : UInt8) : Decidable (MaySend st) := inferInstanceAs (Decidable (_ ∨ _))

/-- A packet gets as far as the FIFO: the radio can be powered up, and the answers that there
are and what was known before allow it. -/
def IsClear (b : Board σ) (d : Dev σ) : Prop :=
  ¬PowerFails b d ∧ MaySend ((b.answers d).2.state.getD d.radio.currState) ∧
    16 ≤ (b.answers d).2.room.getD d.radio.txFifo

instance (b : Board σ) (d : Dev σ) : Decidable (IsClear b d) :=
  inferInstanceAs (Decidable (_ ∧ _ ∧ _))

/-! ### What the questions do to a device -/

variable {b : Board σ}

private theorem libradioRequestDeviceStatus_eq (d : Dev σ) :
    (libradioRequestDeviceStatus b d).1.chip = (b.askState d.chip).1 ∧
      (libradioRequestDeviceStatus b d).1.radio.currState =
        (b.askState d.chip).2.getD d.radio.currState ∧
      (libradioRequestDeviceStatus b d).1.radio.txFifo = d.radio.txFifo := by
  simp only [libradioRequestDeviceStatus, Board.askState]
  split
  · next w v he =>
    simp only [he]
    exact ⟨trivial, rfl, trivial⟩
  · next w e he =>
    simp only [he]
    exact ⟨trivial, rfl, trivial⟩

private theorem libradioGetFifoInfo_eq (clrf : UInt8) (d : Dev σ) :
    (libradioGetFifoInfo b clrf d).1.chip = (b.askRoom clrf d.chip).1 ∧
      (libradioGetFifoInfo b clrf d).1.radio.txFifo =
        (b.askRoom clrf d.chip).2.getD d.radio.txFifo ∧
      (libradioGetFifoInfo b clrf d).1.radio.currState = d.radio.currState := by
  simp only [libradioGetFifoInfo, Board.askRoom]
  split
  · next w v he =>
    simp only [he]
    exact ⟨trivial, rfl, trivial⟩
  · next w e he =>
    simp only [he]
    exact ⟨trivial, rfl, trivial⟩

/-- A configuration that is taken leaves the variables alone. -/
theorem sendConfiguration_of_takes (entries : List (List UInt8)) (d : Dev σ)
    (h : b.takes entries d.chip = true) :
    (sendConfiguration b entries d).1 = { d with chip := b.tell d.chip (entries.map (·, 0)) } := by
  induction entries generalizing d with
  | nil => rfl
  | cons entry rest ih =>
    simp only [Board.takes] at h
    simp only [sendConfiguration, List.map_cons, Board.tell, List.foldl_cons]
    split at h
    · next w v he =>
      simp only [he]
      exact ih { d with chip := w } h
    · cases h

/-- The device has been told something and has then heard the answers `a`. -/
structure Inquired (d e : Dev σ) (w : σ) (a : Answers) : Prop where
  chip : e.chip = w
  state : e.radio.currState = a.state.getD d.radio.currState
  room : e.radio.txFifo = a.room.getD d.radio.txFifo

private theorem inquired_refl (d : Dev σ) : Inquired d d d.chip ⟨none, none⟩ := ⟨rfl, rfl, rfl⟩

private theorem getD_or (x y : Option UInt8) (z : UInt8) : (x.or y).getD z = x.getD (y.getD z) := by
  cases x <;> rfl

/-- The two questions to a device. -/
theorem inquired_inquire (clrf : UInt8) (d : Dev σ) :
    Inquired d (libradioGetFifoInfo b clrf (libradioRequestDeviceStatus b d).1).1
      (b.inquire clrf d.chip).1 (b.inquire clrf d.chip).2 := by
  obtain ⟨hchip, hstate, hroom⟩ := libradioRequestDeviceStatus_eq (b := b) d
  obtain ⟨hchip', hroom', hstate'⟩ :=
    libradioGetFifoInfo_eq (b := b) clrf (libradioRequestDeviceStatus b d).1
  constructor
  · rw [hchip', hchip]
    rfl
  · rw [hstate', hstate]
    rfl
  · rw [hroom', hroom, hchip]
    rfl

/-- What is asked later counts first. -/
theorem Inquired.trans {d e f : Dev σ} {w w' : σ} {a a' : Answers} (h : Inquired d e w a)
    (h' : Inquired e f w' a') : Inquired d f w' (a.then a') := by
  constructor
  · exact h'.chip
  · rw [h'.state, h.state]
    exact (getD_or a'.state a.state _).symm
  · rw [h'.room, h.room]
    exact (getD_or a'.room a.room _).symm

/-- What a device knows when its radio is powered up: nothing new, if it was, and what the radio
has said at the end of the power-up otherwise. -/
def Board.upAnswers (b : Board σ) (d : Dev σ) : σ × Answers :=
  if d.radio.radioActive then (d.chip, ⟨none, none⟩)
  else b.inquire 3 (b.tell d.chip powerUpCommands)

private theorem Board.answers_eq (b : Board σ) (d : Dev σ) :
    b.answers d = ((b.inquire 0 (b.upAnswers d).1).1,
      (b.upAnswers d).2.then (b.inquire 0 (b.upAnswers d).1).2) := by
  simp only [Board.answers, Board.upAnswers]
  split
  · simp [Answers.then]
  · rfl

/-- A power-up that does not fail. -/
theorem inquired_libradioPowerUp {d : Dev σ} (h : ¬PowerFails b d) :
    (libradioPowerUp b d).2 = true ∧
      Inquired d (libradioPowerUp b d).1 (b.upAnswers d).1 (b.upAnswers d).2 := by
  have hok : (libradioPowerUp b d).2 = true := by
    cases hup : (libradioPowerUp b d).2 with
    | true => rfl
    | false => exact absurd ((ok_libradioPowerUp b d).mp hup) h
  refine ⟨hok, ?_⟩
  simp only [Board.upAnswers]
  by_cases hactive : d.radio.radioActive = true
  · rw [if_pos hactive, libradioPowerUp, if_pos hactive]
    exact inquired_refl d
  · have htakes : b.takes radioConfiguration d.chip = true := by
      cases ht : b.takes radioConfiguration d.chip with
      | true => rfl
      | false => exact absurd ⟨by simpa using hactive, ht⟩ h
    have hsent := ok_sendConfiguration b radioConfiguration d
    rw [if_neg hactive, libradioPowerUp, if_neg hactive]
    simp only [hsent, htakes, if_true, sendConfiguration_of_takes _ _ htakes]
    have hasked := inquired_inquire (b := b) 3 { d with chip := b.tell d.chip powerUpCommands }
    simp only [Board.tell, powerUpCommands, List.foldl_append] at hasked ⊢
    exact ⟨hasked.chip, hasked.state, hasked.room⟩

/-- What a send decides once the radio is powered up. -/
theorem libradioSend_of_powered {d : Dev σ} (h : ¬PowerFails b d) (ticks : Nat) (chp : Channel)
    (channo : UInt8) :
    ∃ e f : Dev σ, Inquired d f (b.answers d).1 (b.answers d).2 ∧
      (∀ R, b.Keeps R → R d.chip e.chip ∧ R d.chip f.chip) ∧
      libradioSend b ticks d chp channo =
        if ¬MaySend f.radio.currState then ⟨e, chp.packet, false⟩
        else if 16 ≤ f.radio.txFifo then transmitFrame b ticks f chp channo
        else ⟨f, chp.packet, false⟩ := by
  obtain ⟨hok, hup⟩ := inquired_libradioPowerUp h
  have hasked := inquired_inquire (b := b) 0 (libradioPowerUp b d).1
  obtain ⟨_, _, hstate⟩ := libradioGetFifoInfo_eq (b := b) 0
    (libradioRequestDeviceStatus b (libradioPowerUp b d).1).1
  rw [hup.chip] at hasked
  refine ⟨(libradioRequestDeviceStatus b (libradioPowerUp b d).1).1,
    (libradioGetFifoInfo b 0 (libradioRequestDeviceStatus b (libradioPowerUp b d).1).1).1,
    ?_, ?_, ?_⟩
  · rw [b.answers_eq]
    exact hup.trans hasked
  · intro R hb
    have hstatus := hb.trans (chip_libradioPowerUp hb d)
      (asked_libradioRequestDeviceStatus hb (libradioPowerUp b d).1).chip
    exact ⟨hstatus, hb.trans hstatus (asked_libradioGetFifoInfo hb 0 _).chip⟩
  · simp only [libradioSend, hok, if_true, libradioCheckTx, ge_iff_le, decide_eq_true_eq, MaySend,
      not_or, hstate]

/-- A send goes on to the packet exactly if it is clear. -/
theorem libradioSend_of_clear {d : Dev σ} (h : IsClear b d) (ticks : Nat) (chp : Channel)
    (channo : UInt8) :
    ∃ e : Dev σ, e.chip = (b.answers d).1 ∧ (∀ R, b.Keeps R → R d.chip e.chip) ∧
      libradioSend b ticks d chp channo = transmitFrame b ticks e chp channo := by
  obtain ⟨hpower, hstate, hroom⟩ := h
  obtain ⟨_, f, hf, hkeeps, hsend⟩ := libradioSend_of_powered hpower ticks chp channo
  rw [← hf.state] at hstate
  rw [← hf.room] at hroom
  rw [if_neg (not_not_intro hstate), if_pos hroom] at hsend
  exact ⟨f, hf.chip, fun R hb ↦ (hkeeps R hb).2, hsend⟩

/-- Otherwise the radio is only asked. -/
theorem chip_libradioSend_of_not_clear {R : σ → σ → Prop} (hb : b.Keeps R) {d : Dev σ}
    (h : ¬IsClear b d) (ticks : Nat) (chp : Channel) (channo : UInt8) :
    R d.chip (libradioSend b ticks d chp channo).dev.chip := by
  by_cases hpower : PowerFails b d
  · have hfailed := (ok_libradioPowerUp b d).mpr hpower
    simp only [libradioSend, hfailed, Bool.false_eq_true, if_false]
    exact chip_libradioPowerUp hb d
  · obtain ⟨e, f, hf, hkeeps, hsend⟩ := libradioSend_of_powered hpower ticks chp channo
    rw [hsend]
    split
    · exact (hkeeps R hb).1
    · next hmay =>
      split
      · next hroom =>
        rw [hf.room] at hroom
        rw [hf.state, Decidable.not_not] at hmay
        exact absurd ⟨hpower, hmay, hroom⟩ h
      · exact (hkeeps R hb).2

end Libradio
