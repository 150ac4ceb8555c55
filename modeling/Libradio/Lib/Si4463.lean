import Libradio.Lib.Rxtx

/-!
# The Si4463 as two byte queues

The part of the radio chip that the FIFO results speak about: the two FIFOs as byte
queues, the frames it has put on the air, and an arbitrary pattern of answers. An
exchange that reports success was executed; one that reports a failure may or may not
have been. `WRITE_TX_FIFO` appends, an executed START_TX sends and removes the oldest
bytes, `READ_RX_FIFO` removes the oldest bytes.
-/

namespace Libradio

/-- What becomes of one exchange. -/
inductive Outcome
  | done (reply : Nat → UInt8)
  | failed (e : SpiError) (executed : Bool)

/-- FIFO contents, frames sent (channel and bytes, oldest first), the number of START_TX
commands that were reported failed and not executed, and the index of the next exchange. -/
structure Si4463 where
  txFifo : List UInt8
  rxFifo : List UInt8
  air : List (UInt8 × List UInt8)
  dropped : Nat
  index : Nat
  deriving DecidableEq, Repr

namespace Si4463

/-- The effect of an executed command on the FIFOs. -/
def execute (c : Si4463) : List UInt8 → Si4463
  | [0x31, channo, _, hi, lo] =>
    let n := 256 * hi.toNat + lo.toNat
    { c with air := c.air ++ [(channo, c.txFifo.take n)], txFifo := c.txFifo.drop n }
  | [0x15, clrf] =>
    { c with
      txFifo := if clrf &&& 1 = 0 then c.txFifo else []
      rxFifo := if clrf &&& 2 = 0 then c.rxFifo else [] }
  | _ => c

/-- The reply to a successful exchange: FIFO_INFO reports the receive count in one byte
(the chip's FIFO never holds more than 64 bytes), everything else is arbitrary. -/
def replyByte (c : Si4463) (cmd : List UInt8) (reply : Nat → UInt8) (i : Nat) : UInt8 :=
  if cmd.head? = some SI4463_FIFO_INFO ∧ i = 0 then UInt8.ofNat (min c.rxFifo.length 255)
  else reply i

/-- One exchange under a pattern of outcomes. -/
def exchange (oracle : Nat → Outcome) (c : Si4463) (cmd : List UInt8) (n : Nat) :
    Si4463 × Except SpiError (Vector UInt8 n) :=
  let c' := { c with index := c.index + 1 }
  match oracle c.index with
  | .done reply =>
    let c' := c'.execute cmd
    (c', .ok (Vector.ofFn fun i ↦ c'.replyByte cmd reply i.val))
  | .failed e true => (c'.execute cmd, .error e)
  | .failed e false =>
    ({ c' with dropped := if cmd.head? = some SI4463_START_TX then c'.dropped + 1 else c'.dropped },
      .error e)

/-- The board whose radio is this chip. -/
def board (oracle : Nat → Outcome) : Board Si4463 where
  exchange := exchange oracle
  writeTxFifo c bs := { c with txFifo := c.txFifo ++ bs }
  readRxFifo c n :=
    ({ c with rxFifo := c.rxFifo.drop n }, Vector.ofFn fun i ↦ c.rxFifo.getD i.val 0)
  analogRead c _ := (c, 0)

/-- A command that START_TX, FIFO_INFO and their effects have nothing to do with. -/
def Plain (cmd : List UInt8) : Prop :=
  cmd.head? ≠ some SI4463_START_TX ∧ cmd.head? ≠ some SI4463_FIFO_INFO

instance (cmd : List UInt8) : Decidable (Plain cmd) := inferInstanceAs (Decidable (_ ∧ _))

/-- A plain command has no effect on the chip's queues. -/
theorem execute_of_plain (c : Si4463) {cmd : List UInt8} (h : Plain cmd) :
    c.execute cmd = c := by
  obtain ⟨hstart, hinfo⟩ := h
  unfold execute
  split
  · exact absurd rfl hstart
  · exact absurd rfl hinfo
  · rfl

/-- A plain exchange only counts itself. -/
theorem exchange_of_plain (oracle : Nat → Outcome) (c : Si4463) {cmd : List UInt8} (n : Nat)
    (h : Plain cmd) : (exchange oracle c cmd n).1 = { c with index := c.index + 1 } := by
  unfold exchange
  dsimp only
  split
  · rw [execute_of_plain _ h]
  · rw [execute_of_plain _ h]
  · rw [if_neg h.1]

/-- Nothing was sent or dropped between two states, and an empty transmit FIFO is still
empty. -/
structure Quiet (c c' : Si4463) : Prop where
  air : c'.air = c.air
  dropped : c'.dropped = c.dropped
  txFifo : c.txFifo = [] → c'.txFifo = []

namespace Quiet

/-- Nothing was sent or dropped without a command. -/
theorem refl (c : Si4463) : Quiet c c := ⟨rfl, rfl, id⟩

/-- Nothing was sent or dropped by two commands. -/
theorem trans {a b c : Si4463} (h₁ : Quiet a b) (h₂ : Quiet b c) : Quiet a c :=
  ⟨h₂.air.trans h₁.air, h₂.dropped.trans h₁.dropped, fun h ↦ h₂.txFifo (h₁.txFifo h)⟩

end Quiet

/-- A plain exchange is quiet. -/
theorem quiet_of_plain (oracle : Nat → Outcome) (c : Si4463) {cmd : List UInt8} (n : Nat)
    (h : Plain cmd) : Quiet c (exchange oracle c cmd n).1 := by
  rw [exchange_of_plain oracle c n h]
  exact ⟨rfl, rfl, id⟩

/-- FIFO_INFO is quiet, whichever FIFOs it clears. -/
theorem quiet_fifoInfo (oracle : Nat → Outcome) (c : Si4463) (clrf : UInt8) (n : Nat) :
    Quiet c (exchange oracle c [SI4463_FIFO_INFO, clrf] n).1 := by
  unfold exchange
  dsimp only
  split
  · refine ⟨rfl, rfl, fun h ↦ ?_⟩
    simp [execute, h]
  · refine ⟨rfl, rfl, fun h ↦ ?_⟩
    simp [execute, h]
  · refine ⟨rfl, ?_, id⟩
    have hne : ¬ [SI4463_FIFO_INFO, clrf].head? = some SI4463_START_TX := by
      simp only [List.head?_cons, Option.some.injEq]
      decide
    rw [if_neg hne]

end Si4463

end Libradio
