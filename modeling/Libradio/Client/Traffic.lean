import Libradio.Client.Reception

/-!
# What a client does to the world

A board that keeps a log of everything it is told, and an application whose `operate` is
logged with it. The log is not stored by the program; it says what was transmitted, which
channel the radio was last tuned to, and whether `operate` was called.
-/

namespace Libradio

variable {σ : Type}

/-- An entry of the log: a command to the radio, a block put into the transmit FIFO, a block
taken from the receive FIFO, a call of `operate`. -/
inductive Op
  | command (bytes : List UInt8)
  | fill (bytes : List UInt8)
  | read (bytes : List UInt8)
  | operate (p : Packet)
  deriving DecidableEq, Repr

/-- The entry transmits something, or prepares to. -/
def Op.Transmits : Op → Prop
  | command bytes => bytes.head? = some SI4463_START_TX
  | fill _ => True
  | _ => False

/-- The entry is a call of `operate`. -/
def Op.IsOperate : Op → Prop
  | operate _ => True
  | _ => False

/-- A chip and the log, newest entry first. -/
structure Logged (σ : Type) where
  chip : σ
  log : List Op

/-- The board with its log. -/
def Board.logged (b : Board σ) : Board (Logged σ) where
  exchange w cmd n := (⟨(b.exchange w.chip cmd n).1, .command cmd :: w.log⟩,
    (b.exchange w.chip cmd n).2)
  writeTxFifo w bs := ⟨b.writeTxFifo w.chip bs, .fill bs :: w.log⟩
  readRxFifo w n := (⟨(b.readRxFifo w.chip n).1, .read (b.readRxFifo w.chip n).2.toList :: w.log⟩,
    (b.readRxFifo w.chip n).2)
  analogRead w ch := (⟨(b.analogRead w.chip ch).1, w.log⟩, (b.analogRead w.chip ch).2)

/-- The application with its calls of `operate` in the log. -/
def App.logged (app : App (Logged σ)) : App (Logged σ) where
  operate p d := app.operate p { d with chip := ⟨d.chip.chip, .operate p :: d.chip.log⟩ }
  fetchStatus := app.fetchStatus

/-- Nothing was transmitted in between and `operate` was not called. -/
def Silent (w w' : Logged σ) : Prop :=
  ∃ ops, w'.log = ops ++ w.log ∧ ∀ op ∈ ops, ¬ op.Transmits ∧ ¬ op.IsOperate

/-- One entry that neither transmits nor calls `operate`. -/
theorem silent_of_cons {w w' : Logged σ} {op : Op} (h : w'.log = op :: w.log)
    (htx : ¬ op.Transmits) (hop : ¬ op.IsOperate) : Silent w w' :=
  ⟨[op], h, by simp [htx, hop]⟩

/-- Questions are silent. -/
theorem keeps_silent (b : Board σ) : b.logged.Keeps Silent where
  refl w := ⟨[], rfl, by simp⟩
  trans := by
    rintro u v w ⟨ops, hv, hops⟩ ⟨ops', hw, hops'⟩
    refine ⟨ops' ++ ops, by rw [hw, hv, List.append_assoc], fun op hop ↦ ?_⟩
    rcases List.mem_append.mp hop with hop | hop
    · exact hops' op hop
    · exact hops op hop
  exchange w cmd n htx _ := silent_of_cons rfl htx id
  readRxFifo w n := silent_of_cons rfl id id

/-- Going back to RX is silent. -/
theorem silent_startRx (b : Board σ) (channo : UInt8) (w : Logged σ) :
    Silent w (b.logged.exchange w (startRx channo) 0).1 :=
  silent_of_cons rfl (by simp only [Op.Transmits, startRx, List.head?_cons]; decide) id

end Libradio
