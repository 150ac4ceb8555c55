import Libradio.Lib.ReceiveStream
import Libradio.Network.Issued
import Libradio.Network.Net

/-!
# Every frame comes from somewhere

The invariant of the whole network: what waits in a transmit FIFO or flies is a frame of a packet
that its station decided to send, and every receive FIFO is a row of such frames of the other
stations, and of noise that the checksum detects. A station reads whole frames only, so a packet
that it takes for good is one of these.
-/

namespace Libradio
open Libradio.Base Si4463

/-! ### Reading a frame back -/

/-- A whole packet was counted: the bytes that are read are the first sixteen. -/
theorem received_of_blocks (oracle : Nat → Outcome) {d : Dev Si4463} {Q : List UInt8 → Prop}
    (hrx : Blocks 16 Q d.chip.rxFifo) (hmany : (libradioCheckRx (board oracle) d).2 = true) :
    ∃ v : Vector UInt8 16, Q v.toList ∧
      received (board oracle) d = (Packet.ofBytes v).clampLen := by
  obtain ⟨hchip, -, hcount⟩ := fifoInfo_count oracle d
  have hlong : 16 ≤ d.chip.rxFifo.length := by
    have h16 : (16 : UInt8) ≤ (libradioGetFifoInfo (board oracle) 0 d).2 :=
      of_decide_eq_true hmany
    rcases hcount with ⟨-, hn, -⟩ | ⟨-, hn⟩
    · rw [hn, UInt8.le_iff_toNat_le, UInt8.toNat_ofNat'] at h16
      simp only [UInt8.reduceToNat] at h16
      omega
    · rw [hn] at h16
      exact absurd h16 (by decide)
  have hne : d.chip.rxFifo ≠ [] := by
    intro hnil
    rw [hnil] at hlong
    exact absurd hlong (by simp)
  obtain ⟨hlength, hblock⟩ := hrx.take hne
  refine ⟨((board oracle).readRxFifo (libradioCheckRx (board oracle) d).1.chip 16).2, ?_, rfl⟩
  have hread : ((board oracle).readRxFifo (libradioCheckRx (board oracle) d).1.chip 16).2.toList =
      d.chip.rxFifo.take 16 := by
    rw [libradioCheckRx, hchip]
    apply List.ext_getElem
    · rw [hlength, Vector.length_toList]
    · intro i hi hi'
      rw [Vector.length_toList] at hi
      simp only [board, Vector.getElem_toList, Vector.getElem_ofFn, List.getElem_take]
      rw [List.getD_eq_getElem?_getD, List.getElem?_eq_getElem (by omega), Option.getD_some]
  rw [hread]
  exact hblock

/-- A frame is read back as its packet. -/
theorem received_of_frameOf {P : Packet → Prop} {v : Vector UInt8 16} (h : FrameOf P v.toList) :
    ∃ p t, P p ∧ v.toList = (Packet.stamp t p).frame ∧
      (Packet.ofBytes v).clampLen.received = (p.stamp t).received := by
  obtain ⟨p, t, hp, hlen, hv⟩ := h
  have hsent : v.toList.take (PACKET_HEADER_LEN + p.len.toNat) = (p.stamp t).sent := by
    have hl : (p.stamp t).sent.length = PACKET_HEADER_LEN + p.len.toNat :=
      Packet.length_sent (p.stamp t) hlen
    rw [hv, Packet.frame, ← hl, List.take_left]
  refine ⟨p, t, hp, hv, ?_⟩
  have h := (Packet.received_of_sent .zero p t v hlen hsent).1
  rw [Packet.overwrite_full] at h
  exact h

namespace Net

variable {ι : Type}

/-- The packets a station sends: the controller those that satisfy `Q`, a client replies. -/
def Kind (Q : Packet.Content → Prop) : Option ι → Packet → Prop
  | none, p => Q p.content
  | some _, p => p.IsReply

/-- What station `x` may hear: a frame of another station, or noise that the checksum detects. -/
def Flown (s : Net ι) (x : Option ι) (bytes : List UInt8) : Prop :=
  (∃ y, y ≠ x ∧ ∃ f ∈ (s.chip y).air, bytes = f.2) ∨
    ∃ n, Damaged n ∧ bytes = n.toList

/-- Every frame that waits or flies is of the kind that its station sends. -/
structure Genuine (Q : Packet.Content → Prop) (s : Net ι) : Prop where
  txFifo : ∀ x, Blocks 16 (FrameOf (Kind Q x)) (s.chip x).txFifo
  air : ∀ x, ∀ f ∈ (s.chip x).air, FrameOf (Kind Q x) f.2
  rxFifo : ∀ x, Blocks 16 (s.Flown x) (s.chip x).rxFifo

private theorem Kind.mono {Q Q' : Packet.Content → Prop} (hQ : ∀ p, Q p → Q' p) {x : Option ι}
    {p : Packet} (h : Kind Q x p) : Kind Q' x p := by
  cases x with
  | none => exact hQ _ h
  | some i => exact h

section Invariant

variable {Q Q' : Packet.Content → Prop} {s s' : Net ι}

private theorem Flown.mono {x : Option ι} {bytes : List UInt8} (h : s.Flown x bytes)
    (hair : ∀ y, ∀ f ∈ (s.chip y).air, f ∈ (s'.chip y).air) : s'.Flown x bytes := by
  rcases h with ⟨y, hy, f, hf, rfl⟩ | hnoise
  · exact .inl ⟨y, hy, f, hair y f hf, rfl⟩
  · exact .inr hnoise

/-- When one station acts, nothing that has been sent is forgotten. -/
theorem Genuine.air_moves {x : Option ι} (h : Genuine Q s) (hQ : ∀ p, Q p → Q' p)
    (hothers : ∀ y, y ≠ x → s'.chip y = s.chip y)
    (hmoves : Moves (Kind Q' x) (s.chip x) (s'.chip x)) (y : Option ι) :
    ∀ f ∈ (s.chip y).air, f ∈ (s'.chip y).air := by
  intro f hf
  by_cases hy : y = x
  · subst hy
    obtain ⟨sent, hsent, -⟩ := hmoves.air
      ((h.txFifo y).mono fun b hb ↦ hb.mono fun p ↦ Kind.mono hQ)
    rw [hsent]
    exact List.mem_append_left _ hf
  · rw [hothers y hy]
    exact hf

/-- One station acts. -/
theorem Genuine.moves {x : Option ι} (h : Genuine Q s) (hQ : ∀ p, Q p → Q' p)
    (hothers : ∀ y, y ≠ x → s'.chip y = s.chip y)
    (hmoves : Moves (Kind Q' x) (s.chip x) (s'.chip x)) : Genuine Q' s' := by
  have hfifo (y : Option ι) : Blocks 16 (FrameOf (Kind Q' y)) (s.chip y).txFifo :=
    (h.txFifo y).mono fun b hb ↦ hb.mono fun p ↦ Kind.mono hQ
  obtain ⟨sent, hsent, hframes⟩ := hmoves.air (hfifo x)
  have hair := h.air_moves hQ hothers hmoves
  refine ⟨fun y ↦ ?_, fun y f hf ↦ ?_, fun y ↦ ?_⟩
  · by_cases hy : y = x
    · subst hy
      exact hmoves.txFifo (hfifo y)
    · rw [hothers y hy]
      exact hfifo y
  · by_cases hy : y = x
    · subst hy
      rw [hsent, List.mem_append] at hf
      rcases hf with hf | hf
      · exact (h.air y f hf).mono fun p ↦ Kind.mono hQ
      · exact hframes f hf
    · rw [hothers y hy] at hf
      exact (h.air y f hf).mono fun p ↦ Kind.mono hQ
  · have hflown : Blocks 16 (s'.Flown y) (s.chip y).rxFifo :=
      (h.rxFifo y).mono fun b hb ↦ hb.mono hair
    by_cases hy : y = x
    · subst hy
      exact hflown.shifted hmoves.rxFifo
    · rw [hothers y hy]
      exact hflown

private theorem air_arrive (s : Net ι) (bytes : List UInt8) (reaches : Option ι → Bool)
    (x : Option ι) :
    ((s.arrive bytes reaches).chip x).air = (s.chip x).air := by
  rw [chip_arrive]
  split <;> rfl

/-- Bytes arrive that every station that hears them may hear. -/
theorem Genuine.arrive (h : Genuine Q s) {bytes : List UInt8} {reaches : Option ι → Bool}
    (hlength : bytes.length = 16) (hflown : ∀ x, reaches x = true → s.Flown x bytes) :
    Genuine Q (s.arrive bytes reaches) := by
  have htx (x : Option ι) : ((s.arrive bytes reaches).chip x).txFifo = (s.chip x).txFifo := by
    rw [chip_arrive]
    split <;> rfl
  have hair (y : Option ι) : ∀ f ∈ (s.chip y).air, f ∈ ((s.arrive bytes reaches).chip y).air := by
    intro f hf
    rw [air_arrive]
    exact hf
  refine ⟨fun x ↦ ?_, fun x f hf ↦ ?_, fun x ↦ ?_⟩
  · rw [htx x]
    exact h.txFifo x
  · rw [air_arrive] at hf
    exact h.air x f hf
  · have hold := (h.rxFifo x).mono fun b hb ↦ hb.mono hair
    rw [chip_arrive]
    split
    · next hx => exact hold.snoc hlength ((hflown x hx).mono hair)
    · exact hold

end Invariant

variable [DecidableEq ι] (oracle : Nat → Outcome) {m : ι → Member}

omit [DecidableEq ι] in
/-- When all stations are switched on nothing has been sent but what a start may send. -/
theorem genuine_start (Q : Packet.Content → Prop) (eeprom : UInt16 → UInt8) (beyondData : UInt8) :
    Genuine Q (start oracle m eeprom beyondData) := by
  have hmoves (x : Option ι) :
      Moves (Kind Q x) Si4463.fresh ((start oracle m eeprom beyondData).chip x) := by
    cases x with
    | none =>
      have hboot (t : Ctl Si4463) (ht : t.dev.chip = Si4463.fresh) :
          Moves (Kind Q (none : Option ι)) Si4463.fresh (Ctl.boot (board oracle) t).dev.chip := by
        rw [← ht]
        exact Ctl.moves_boot oracle t
      exact hboot _ rfl
    | some i =>
      exact moves_clientStart (m i).oracle (Kind Q (some i)) (m i).id (m i).fast (m i).slow
        (Client.powerOn Si4463.fresh)
  refine ⟨fun x ↦ (hmoves x).txFifo .nil, fun x f hf ↦ ?_, fun x ↦ ?_⟩
  · obtain ⟨sent, hair, hsent⟩ := (hmoves x).air .nil
    rw [hair] at hf
    exact hsent f hf
  · exact (Blocks.nil : Blocks 16 _ Si4463.fresh.rxFifo).shifted (hmoves x).rxFifo

/-- One event of the network, if what the controller sends in it is of its kind. -/
theorem genuine_step (happ : ∀ i, (m i).app.LeavesRadio SameQueues) {Q Q' : Packet.Content → Prop}
    {s : Net ι} {e : Event ι} (hQ : ∀ p, Q p → Q' p)
    (hsends : ∀ a, e = .control a → ∀ c st p ok before,
      Ctl.RecordsSend s.ctl (Ctl.step (board oracle) s.ctl a) c st p ok before → Q' p)
    (hdetected : e.Detected) (h : Genuine Q s) : Genuine Q' (step oracle m s e) := by
  have hkeep : Genuine Q' s := h.moves (x := none) hQ (fun _ _ ↦ rfl) (.refl _ _)
  cases e with
  | control a =>
    apply h.moves (x := none) hQ
    · intro y hy
      exact chip_control_of_ne oracle m s a hy
    · apply Ctl.moves_action oracle s.ctl a
      intro c st p ok before hrec q hq
      show Q' q.content
      rw [hq]
      exact hsends a rfl c st p ok before hrec
  | client i ev =>
    apply h.moves (x := some i) hQ
    · intro y hy
      exact chip_client_of_ne oracle m s ev hy
    · rw [chip_client]
      exact moves_clientStep (m i).oracle (happ i) (m i).fuel (s.cli i).dev ev
  | carry sender k reaches =>
    unfold step
    dsimp only
    split
    · exact hkeep
    · next f hf =>
      have hmem : f ∈ (s.chip sender).air := List.mem_of_getElem? hf
      apply hkeep.arrive (hkeep.air sender f hmem).length
      intro x hx
      rw [Bool.and_eq_true, decide_eq_true_eq] at hx
      exact .inl ⟨sender, fun hs ↦ hx.2 hs.symm, f, hmem, rfl⟩
  | noise n reaches =>
    apply hkeep.arrive (by rw [Vector.length_toList])
    intro x _
    exact .inr ⟨n, hdetected, rfl⟩

/-- Whatever happens, nothing that has been sent is forgotten. -/
theorem Genuine.air_step (happ : ∀ i, (m i).app.LeavesRadio SameQueues) {s : Net ι}
    (h : Genuine (fun _ ↦ True) s) (e : Event ι) (y : Option ι) :
    ∀ f ∈ (s.chip y).air, f ∈ ((step oracle m s e).chip y).air := by
  have hkeep (p : Packet.Content) (hp : (fun _ ↦ True) p) : (fun _ ↦ True) p := hp
  cases e with
  | control a =>
    apply h.air_moves (x := none) hkeep
    · intro y hy
      exact chip_control_of_ne oracle m s a hy
    · exact Ctl.moves_action oracle s.ctl a fun _ _ _ _ _ _ _ _ ↦ trivial
  | client i ev =>
    apply h.air_moves (x := some i) hkeep
    · intro y hy
      exact chip_client_of_ne oracle m s ev hy
    · rw [chip_client]
      exact moves_clientStep (m i).oracle (happ i) (m i).fuel (s.cli i).dev ev
  | carry sender k reaches =>
    intro f hf
    unfold step
    dsimp only
    split
    · exact hf
    · rw [air_arrive]
      exact hf
  | noise n reaches =>
    intro f hf
    show f ∈ ((s.arrive _ reaches).chip y).air
    rw [air_arrive]
    exact hf

/-- Station `x` has sent a frame that `p` can be read from. -/
def HasSent (s : Net ι) (x : Option ι) (p : Packet) : Prop :=
  ∃ f ∈ (s.chip x).air, ∃ q t, f.2 = (Packet.stamp t q).frame ∧ p.received = (q.stamp t).received

omit [DecidableEq ι] in
/-- A packet that a station reads with a good checksum was sent by another one, and is of the
kind of that station. -/
theorem Genuine.received {Q : Packet.Content → Prop} {s : Net ι} (h : Genuine Q s) {x : Option ι}
    {d : Dev Si4463} (hd : d.chip.rxFifo = (s.chip x).rxFifo) {o : Nat → Outcome}
    (hmany : (libradioCheckRx (board o) d).2 = true)
    (hsum : (Libradio.received (board o) d).checksum = 0) :
    ∃ y, y ≠ x ∧ ∃ f ∈ (s.chip y).air, ∃ q t, Kind Q y q ∧ f.2 = (Packet.stamp t q).frame ∧
      (Libradio.received (board o) d).received = (q.stamp t).received := by
  have hrx := h.rxFifo x
  rw [← hd] at hrx
  obtain ⟨v, hv, hreceived⟩ := received_of_blocks o hrx hmany
  rw [hreceived] at hsum ⊢
  rcases hv with ⟨y, hy, f, hf, hbytes⟩ | ⟨n, hdamaged, hn⟩
  · have hframe := h.air y f hf
    rw [← hbytes] at hframe
    obtain ⟨q, t, hq, hframe, hread⟩ := received_of_frameOf hframe
    exact ⟨y, hy, f, hf, q, t, hq, hbytes ▸ hframe, hread⟩
  · rw [Vector.toList_inj.mp hn] at hsum
    exact absurd hsum hdamaged

end Net
end Libradio
