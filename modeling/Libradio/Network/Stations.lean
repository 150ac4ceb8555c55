import Libradio.Client.Population
import Libradio.Control.Assembly
import Libradio.Control.Execution
import Libradio.Network.Queues

/-!
# What clients and the controller send

A client sends replies, whatever happens to it. The controller sends the packets of its channels,
and those were acknowledged or built by a time slot as long as no pass sends the packet that the
parser is still filling.
-/

namespace Libradio
open Libradio.Base Si4463

/-! ### Clients -/

/-- An application that leaves the queues of the radio alone leaves them to the library. -/
theorem App.LeavesRadio.moves {app : App Si4463} (h : app.LeavesRadio SameQueues)
    (P : Packet → Prop) : app.LeavesRadio (Moves P) where
  operate p d := ⟨.of_same (h.operate p d).chip, (h.operate p d).station, (h.operate p d).heard⟩
  fetchStatus i d :=
    ⟨.of_same (h.fetchStatus i d).chip, (h.fetchStatus i d).station, (h.fetchStatus i d).heard⟩

section Client

variable (oracle : Nat → Outcome) {app : App Si4463} (happ : app.LeavesRadio SameQueues)

include happ

private theorem moves_libradioCommand (fuel : Nat) (p : Packet) (d : Dev Si4463) :
    Moves Packet.IsReply d.chip (libradioCommand (board oracle) app fuel p d).chip := by
  rw [← libradioCommand_deaf]
  exact passes_libradioCommand (passes_deaf oracle Packet.IsReply) (happ.moves _) fuel p d
    fun _ h ↦ h

/-- What a client sends in a pass is replies. -/
theorem moves_libradioRxloop (fuel ticks : Nat) (serial : Bool) (d : Dev Si4463) :
    Moves Packet.IsReply d.chip
      (libradioRxloop (board oracle) app fuel ticks serial d).chip := by
  have hhandle :
      Moves Packet.IsReply d.chip (rxloopHandle (board oracle) app fuel ticks d).chip := by
    by_cases hirq : d.radio.irqFired ≠ 0
    · have hhanded : Moves Packet.IsReply d.chip (Client.handed (board oracle) ticks d).chip :=
        moves_libradioRecv oracle
          { d with radio := libradioSetDelay 5 { d.radio with threadOk := false } }
          d.rxchan.packet d.radio.myChannel
      have hint (e : Dev Si4463) :
          Moves Packet.IsReply e.chip (libradioGetIntStatus (board oracle) e).chip :=
        (asked_libradioGetIntStatus (passes_deaf oracle Packet.IsReply).toKeeps e).chip
      rw [rxloopHandle_of_irq (board oracle) app fuel ticks hirq]
      cases Client.accepted (board oracle) d with
      | none => exact hhanded.trans (hint _)
      | some p => exact hhanded.trans ((moves_libradioCommand oracle happ fuel p _).trans (hint _))
    · unfold rxloopHandle
      rw [if_neg hirq]
      exact .refl _ d.chip
  unfold libradioRxloop
  split
  · exact hhandle
  · exact .refl _ d.chip

/-- A client sends nothing but replies, whatever happens to it. -/
theorem moves_clientStep (fuel : Nat) (d : Dev Si4463) (e : Client.Event) :
    Moves Packet.IsReply d.chip (Client.step (board oracle) app fuel d e).chip := by
  cases e with
  | tick => exact .refl _ d.chip
  | interrupt =>
    dsimp only [Client.step]
    split <;> exact .refl _ d.chip
  | pass ticks serial => exact moves_libradioRxloop oracle happ fuel ticks serial d

end Client

/-- The start of a client sends nothing. -/
theorem moves_clientStart (oracle : Nat → Outcome) (P : Packet → Prop) (id : Client.Identity)
    (fast slow : UInt8) (d : Dev Si4463) :
    Moves P d.chip (Client.start (board oracle) id fast slow d).chip := by
  have hb := passes_deaf oracle P
  have hinit : Moves P d.chip (Client.prepared (board oracle) id fast slow d).chip :=
    Client.chip_prepared hb.toKeeps id fast slow d
  have hrecv := chip_libradioRecvStart hb.toKeeps hb.startRx
    (Client.prepared (board oracle) id fast slow d)
  rw [libradioRecvStart_deaf] at hrecv
  exact hinit.trans hrecv

/-! ### The controller -/

namespace Ctl

variable (oracle : Nat → Outcome) {P : Packet → Prop}

/-- A local status leaves the radio alone. -/
@[simp] theorem chip_localStatus (stype : UInt8) (s : Ctl Si4463) :
    (localStatus (board oracle) stype s).dev.chip = s.dev.chip := by
  unfold localStatus
  dsimp only
  split <;> rfl

private theorem moves_mycommand (p : Packet) (s : Ctl Si4463) :
    Moves P s.dev.chip (mycommand (board oracle) p s).1.dev.chip := by
  cases obeyed_mycommand (board oracle) p s with
  | passed cmd eq =>
    have hchip : (libradioCommand (board oracle) app 0 p s.dev).chip = s.dev.chip := by
      cases passed_libradioCommand (board oracle) s.dev cmd with
      | nothing deact eq => rw [eq]
      | deactivated deact eq => rw [eq]
      | setDate cmd eq => rw [eq]
      | writeEeprom cmd eeprom eq => rw [eq]
    rw [eq]
    dsimp only
    rw [hchip]
    exact .refl P _
  | ignored config code eq =>
    rw [eq]
    exact .refl P _
  | activated cmd len eq =>
    have hup := chip_libradioPowerUp (passes_deaf oracle P).toKeeps
      { s.dev with radio := { s.dev.radio with
        myChannel := dataByte p.data 0, myNodeId := dataByte p.data 1 } }
    rw [libradioPowerUp_deaf] at hup
    rw [eq]
    unfold activate
    dsimp only
    split <;> exact hup
  | setTime cmd len eq =>
    rw [eq]
    exact .refl P _
  | status cmd len eq =>
    rw [eq, chip_localStatus]
    exact .refl P _
  | readEeprom cmd len eq =>
    rw [eq]
    exact .refl P _
  | configured c config of eq =>
    rw [eq]
    exact .refl P _

/-- The hand-over of a packet sends nothing. -/
theorem moves_enqueue (c : Fin 6) (s : Ctl Si4463) :
    Moves P s.dev.chip (enqueue (board oracle) c s).dev.chip := by
  by_cases hown : IsLocal s.dev.radio (s.chan c).packet.content
  · rw [dev_enqueue_of_isLocal (board oracle) hown]
    exact moves_mycommand oracle _ (executing c s)
  · have hother : ¬ IsLocal ((s.note (.handed c (s.chan c).packet.content)).setState c
        .transmit).dev.radio (s.chan c).packet.content := hown
    unfold enqueue
    dsimp only
    rw [if_neg hother]
    split <;> exact .refl P _

/-- A start of the program sends nothing. -/
theorem moves_boot (s : Ctl Si4463) : Moves P s.dev.chip (boot (board oracle) s).dev.chip := by
  have hinit (t : Ctl Si4463) (d : Dev Si4463) (h : d.chip = t.dev.chip) :
      Moves P t.dev.chip (libradioGetFifoInfo (board oracle) 3 d).1.chip := by
    rw [← h]
    exact (asked_libradioGetFifoInfo (passes_deaf oracle P).toKeeps 3 d).chip
  unfold boot libradioInit
  dsimp only
  exact hinit s _ (by simp only [chip_localStatus, dev_note])

/-- A character sends nothing. -/
theorem moves_processInput (ch : UInt8) (s : Ctl Si4463) :
    Moves P s.dev.chip (processInput (board oracle) ch s).dev.chip := by
  have hnoted : (s.note (.input ch)).dev.chip = s.dev.chip := rfl
  unfold processInput
  dsimp only
  rw [← hnoted]
  generalize s.note (.input ch) = t
  split
  · split
    · exact moves_enqueue oracle t.currChp t
    · exact .refl P _
  · split
    · split <;> exact .refl P _
    · exact .refl P _
    · unfold inputChan
      split
      · unfold claimChannel
        dsimp only
        split
        · split <;> exact .refl P _
        · exact .refl P _
      · split
        · exact moves_boot oracle t
        · split
          · dsimp only
            rw [chip_localStatus]
            exact .refl P _
          · exact .refl P _
    · unfold inputNode
      split
      · exact .refl P _
      · split <;> exact .refl P _
    · unfold inputCmd
      split
      · exact .refl P _
      · split
        · exact .refl P _
        · split
          · exact moves_enqueue oracle t.currChp (storeCmd t)
          · exact .refl P _
    · unfold inputData
      split
      · exact .refl P _
      · split
        · split
          · exact .refl P _
          · split
            · exact moves_enqueue oracle t.currChp (storeData t)
            · exact .refl P _
        · exact .refl P _

/-- A pass of the response wait takes frames out of the receive FIFO. -/
theorem moves_poll (s : Ctl Si4463) : Moves P s.dev.chip (poll (board oracle) s).dev.chip := by
  have hcheck : Moves P s.dev.chip (libradioCheckRx (board oracle) s.dev).1.chip :=
    (asked_libradioGetFifoInfo (passes_deaf oracle P).toKeeps 0 s.dev).chip
  have hresponse (c : Fin 6) (t : Ctl Si4463) :
      Moves P t.dev.chip (txresponse (board oracle) c t).dev.chip := by
    have hrecv : Moves P t.dev.chip (libradioRecv (board oracle) t.dev (t.chan c).packet
      t.dev.radio.currChannel).dev.chip := moves_libradioRecv oracle _ _ _
    unfold txresponse
    dsimp only
    split <;> exact hrecv
  unfold poll
  split
  · exact .refl P _
  · next c h =>
    dsimp only
    split
    · exact hcheck.trans (hresponse c { s with dev := (libradioCheckRx (board oracle) s.dev).1 })
    · split <;> exact hcheck

/-- The transmissions of a pass send the packets that the record says they send. -/
theorem moves_check (between inSend : Nat) (s : Ctl Si4463)
    (hP : ∀ c st p ok before,
      RecordsSend s (step (board oracle) s (.check between inSend)) c st p ok before →
        ∀ q : Packet, q.content = p → P q) :
    Moves P s.dev.chip (step (board oracle) s (.check between inSend)).dev.chip := by
  -- the transmission of channel `c`, from a state that differs from `s` in the clock and the slot
  have hsend (c : Fin 6) (t : Ctl Si4463) (chip : t.dev.chip = s.dev.chip)
      (hist : s.hist <:+ t.hist) (heq : step (board oracle) s (.check between inSend) =
        transmitOn (board oracle) inSend c t) :
      Moves P s.dev.chip (step (board oracle) s (.check between inSend)).dev.chip := by
    rw [heq] at hP ⊢
    rw [← chip]
    unfold transmitOn at hP ⊢
    split
    · exact .refl P _
    · next hopen =>
      rw [if_neg hopen] at hP
      dsimp only at hP ⊢
      obtain ⟨ok, -, -, -, -, -, hsent⟩ := sendOn_spec (board oracle) inSend c t
      have hpacket := hP c _ _ ok t.hist ⟨hsent, hist⟩ (t.chan c).packet rfl
      have hmoves := passes_libradioSend (passes_deaf oracle P) inSend t.dev (UInt8.ofNat c.val)
        hpacket
      rw [libradioSend_deaf] at hmoves
      unfold sendOn
      dsimp only
      generalize libradioSend (board oracle) inSend t.dev (t.chan c) (UInt8.ofNat c.val) = r
        at hmoves ⊢
      split
      · unfold sentOn
        split <;> exact hmoves
      · exact hmoves
  have hsame {t : Ctl Si4463} (heq : step (board oracle) s (.check between inSend) = t)
      (chip : t.dev.chip = s.dev.chip) :
      Moves P s.dev.chip (step (board oracle) s (.check between inSend)).dev.chip := by
    rw [heq, chip]
    exact .refl P _
  cases checked_check (board oracle) between inSend s with
  | awaiting awaited eq => exact hsame eq rfl
  | deaf free deaf eq => exact hsame eq rfl
  | slot c free listens due eq =>
    refine hsend c _ ?_ ?_ eq
    · unfold fillSlot
      split <;> rfl
    · unfold fillSlot
      split
      · exact List.suffix_cons _ _
      · exact List.suffix_rfl
  | idle free listens due none eq => exact hsame eq rfl
  | picked c free listens due some eq => exact hsend c (readClock between s) rfl List.suffix_rfl eq

/-- Every action of the controller sends the packets that the record says it sends. -/
theorem moves_action (s : Ctl Si4463) (a : Act)
    (hP : ∀ c st p ok before, RecordsSend s (step (board oracle) s a) c st p ok before →
      ∀ q : Packet, q.content = p → P q) :
    Moves P s.dev.chip (step (board oracle) s a).dev.chip := by
  cases a with
  | tick => exact .refl P _
  | poll => exact moves_poll oracle s
  | input ch => exact moves_processInput oracle ch s
  | check between inSend => exact moves_check oracle between inSend s hP

end Ctl
end Libradio
