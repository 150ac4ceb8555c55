import Libradio.Control.Reading

/-!
# A command line is received

Fed to a parser that starts a line, a command line for a channel that takes one is handed to
`enqueue` once, as it is written, and answered once.
-/

namespace Libradio
open Libradio.Base

/-- A line that `reply` prints. -/
def Line.IsReply : Line → Bool
  | .reply _ _ => true
  | _ => false

/-- The packet handed to `enqueue`, if the entry says so. -/
def Obs.handedOver : Obs → Option (Fin 6 × Packet.Content)
  | .handed c p => some (c, p)
  | _ => none

/-- A text as the parser reads it into a number. -/
theorem number_eq_foldl {ds : List UInt8} (h : Digits ds) : number ds = ds.foldl addDigit 0 := by
  have hrev : ∀ ds : List UInt8, Digits ds.reverse →
      number ds.reverse = ds.reverse.foldl addDigit 0 := by
    intro ds
    induction ds with
    | nil => intro _; rfl
    | cons ch ds ih =>
      intro hds
      rw [List.reverse_cons] at hds ⊢
      have hch : IsDigit ch := hds ch (by simp)
      rw [number_concat hch, ih fun x hx ↦ hds x (by simp [List.mem_reverse.mp hx]),
        List.foldl_append]
      rfl
  have h' := hrev ds.reverse (by rwa [List.reverse_reverse])
  rwa [List.reverse_reverse] at h'

namespace Ctl

variable {σ : Type}

/-- The packets handed to `enqueue`, with their channels, oldest first. -/
def handed (s : Ctl σ) : List (Fin 6 × Packet.Content) :=
  (s.hist.filterMap Obs.handedOver).reverse

/-- The replies, oldest first. -/
def replies (s : Ctl σ) : List Line := s.out.filter Line.IsReply

/-- `process_input` for every character of a text. -/
def feed (b : Board σ) (s : Ctl σ) (text : List UInt8) : Ctl σ :=
  run (fun s ch ↦ processInput b ch s) s text

/-- A text in two parts is fed one after the other. -/
theorem feed_append (b : Board σ) (s : Ctl σ) (text rest : List UInt8) :
    feed b s (text ++ rest) = feed b (feed b s text) rest := run_append _ s text rest

private theorem feed_cons (b : Board σ) (s : Ctl σ) (ch : UInt8) (rest : List UInt8) :
    feed b s (ch :: rest) = feed b (processInput b ch s) rest := rfl

/-- Nothing was handed over or printed. -/
structure Unanswered (s s' : Ctl σ) : Prop where
  handed : s'.handed = s.handed
  out : s'.out = s.out

private theorem Unanswered.trans {s t u : Ctl σ} (h₁ : Unanswered s t) (h₂ : Unanswered t u) :
    Unanswered s u := ⟨h₂.handed.trans h₁.handed, h₂.out.trans h₁.out⟩

/-- Only the parser and channel `c` have changed: nothing was handed over or printed. -/
structure Untouched (c : Fin 6) (s s' : Ctl σ) : Prop extends Unanswered s s' where
  dev : s'.dev = s.dev
  respChp : s'.respChp = s.respChp
  lastModulo : s'.lastModulo = s.lastModulo
  others : ∀ d, d ≠ c → s'.chan d = s.chan d

private theorem Untouched.trans {c : Fin 6} {s t u : Ctl σ} (h₁ : Untouched c s t)
    (h₂ : Untouched c t u) : Untouched c s u :=
  ⟨h₁.toUnanswered.trans h₂.toUnanswered, h₂.dev.trans h₁.dev, h₂.respChp.trans h₁.respChp,
    h₂.lastModulo.trans h₁.lastModulo, fun d hd ↦ (h₂.others d hd).trans (h₁.others d hd)⟩

/-- A change of the parser. -/
theorem Untouched.of_channels {c : Fin 6} {s s' : Ctl σ} (handed : s'.handed = s.handed)
    (out : s'.out = s.out) (dev : s'.dev = s.dev) (respChp : s'.respChp = s.respChp)
    (lastModulo : s'.lastModulo = s.lastModulo) (channels : s'.channels = s.channels) :
    Untouched c s s' :=
  ⟨⟨handed, out⟩, dev, respChp, lastModulo, fun d _ ↦ by rw [chan, channels, chan]⟩

/-- A change of the parser and of channel `c`. -/
theorem Untouched.of_modify {c : Fin 6} {s s' : Ctl σ} {f : Channel → Channel}
    (handed : s'.handed = s.handed) (out : s'.out = s.out) (dev : s'.dev = s.dev)
    (respChp : s'.respChp = s.respChp) (lastModulo : s'.lastModulo = s.lastModulo)
    (channels : s'.channels = (s.modify c f).channels) : Untouched c s s' := by
  refine ⟨⟨handed, out⟩, dev, respChp, lastModulo, fun d hd ↦ ?_⟩
  rw [chan, channels, ← chan, chan_modify_of_ne (Ne.symm hd)]

/-- The parser is reading a number for channel `c`, and has read the digits `ds` of it. -/
structure ReadsNumber (c : Fin 6) (st : IoState) (ds : List UInt8) (s : Ctl σ) : Prop where
  state : s.state = st
  currChp : s.currChp = c
  value : s.value = ds.foldl addDigit 0

/-- One line was handed over in channel `c`, and there was one answer. -/
structure Answered (c : Fin 6) (p : Packet.Content) (s s' : Ctl σ) : Prop where
  handed : s'.handed = s.handed ++ [(c, p)]
  replies : ∃ code radioState, s'.replies = s.replies ++ [.reply code radioState]

private theorem Answered.of_unanswered {c : Fin 6} {p : Packet.Content} {s t u : Ctl σ}
    (h₁ : Unanswered s t) (h₂ : Answered c p t u) : Answered c p s u := by
  obtain ⟨code, radioState, hr⟩ := h₂.replies
  refine ⟨h₁.handed ▸ h₂.handed, code, radioState, ?_⟩
  rw [hr, Ctl.replies, Ctl.replies, h₁.out]

/-! ### One answer for a packet -/

/-- Executing a command may print a report, but no reply. -/
theorem out_mycommand (b : Board σ) (p : Packet) (s : Ctl σ) :
    ∃ news, (mycommand b p s).1.out = s.out ++ news ∧ ∀ l ∈ news, l.IsReply = false := by
  have hsame {s' : Ctl σ} (h : s'.out = s.out) :
      ∃ news, s'.out = s.out ++ news ∧ ∀ l ∈ news, l.IsReply = false :=
    ⟨[], by rw [h, List.append_nil], nofun⟩
  have hline {s' : Ctl σ} {l : Line} (h : s'.out = s.out ++ [l]) (hl : l.IsReply = false) :
      ∃ news, s'.out = s.out ++ news ∧ ∀ l ∈ news, l.IsReply = false :=
    ⟨[l], h, fun l' hl' ↦ by rwa [List.mem_singleton.mp hl']⟩
  cases obeyed_mycommand b p s with
  | passed cmd eq =>
    rw [eq]
    exact hsame rfl
  | ignored config code eq =>
    rw [eq]
    exact hsame rfl
  | activated cmd len eq =>
    rw [eq]
    unfold activate
    dsimp only
    split <;> exact hsame rfl
  | setTime cmd len eq =>
    rw [eq]
    exact hsame rfl
  | status cmd len eq =>
    rw [eq]
    exact hline rfl rfl
  | readEeprom cmd len eq =>
    rw [eq]
    exact hline rfl rfl
  | configured c config of eq =>
    rw [eq]
    exact hsame rfl

private theorem replies_mycommand (b : Board σ) (p : Packet) (s : Ctl σ) :
    (mycommand b p s).1.replies = s.replies := by
  obtain ⟨news, hout, hnews⟩ := out_mycommand b p s
  have hnone : news.filter Line.IsReply = [] :=
    List.filter_eq_nil_iff.mpr fun l hl ↦ by rw [hnews l hl]; exact Bool.false_ne_true
  rw [replies, hout, List.filter_append, hnone, List.append_nil, replies]

/-- Whatever becomes of a packet, it was handed over once and there is one answer. -/
theorem answered_enqueue (b : Board σ) (c : Fin 6) (s : Ctl σ) :
    Answered c (s.chan c).packet.content s (enqueue b c s) := by
  have hconfig (p : Packet.Content) : (configObs p).filterMap Obs.handedOver = [] := by
    unfold configObs
    split <;> rfl
  have hreply (code : UInt8) (s : Ctl σ) :
      (s.reply code).replies = s.replies ++ [.reply code s.dev.radio.state] := by
    have hout : (s.reply code).out = s.out ++ [.reply code s.dev.radio.state] := rfl
    rw [replies, hout, List.filter_append]
    rfl
  have hover (p : Packet.Content) (h : List Obs) :
      ((Obs.handed c p :: h).filterMap Obs.handedOver).reverse =
        (h.filterMap Obs.handedOver).reverse ++ [(c, p)] := by
    simp [Obs.handedOver]
  constructor
  · unfold handed
    cases (enqueued_enqueue b c s).fate with
    | executed code own state others hist =>
      rw [hist, List.filterMap_cons_none rfl, List.filterMap_cons_none rfl, List.filterMap_append,
        hconfig, List.nil_append, hover]
    | refused own active state others hist =>
      rw [hist, List.filterMap_cons_none rfl, hover]
    | queued own active state others hist =>
      rw [hist, List.filterMap_cons_none rfl, hover]
  · unfold enqueue
    dsimp only
    split
    · unfold executeLocal
      dsimp only
      generalize hs : (s.note (.handed c (s.chan c).packet.content)).setState c .transmit = t
      have ht : t.replies = s.replies := by
        rw [← hs]
        rfl
      have hcommand := (replies_mycommand b (t.chan c).packet t).trans ht
      generalize mycommand b (t.chan c).packet t = r at hcommand ⊢
      have hanswer := hreply r.2 (r.1.note (.exec (t.chan c).packet.content r.2))
      have hnote : (r.1.note (.exec (t.chan c).packet.content r.2)).replies = s.replies := hcommand
      rw [hnote] at hanswer
      exact ⟨_, _, hanswer⟩
    · split
      · exact ⟨_, _, hreply _ _⟩
      · exact ⟨_, _, hreply _ _⟩

/-! ### Character by character -/

section Characters

variable (b : Board σ)

/-- Digits are added to the number. -/
theorem feed_digits {c : Fin 6} {st : IoState} {ds : List UInt8} {s : Ctl σ}
    (h : ReadsNumber c st ds s) (hst : st.IsAssembling) {ds' : List UInt8} (hds : Digits ds') :
    ReadsNumber c st (ds ++ ds') (feed b s ds') ∧ Untouched c s (feed b s ds') ∧
      (feed b s ds').chan c = s.chan c := by
  induction ds' generalizing ds s with
  | nil =>
    rw [List.append_nil]
    exact ⟨h, .of_channels rfl rfl rfl rfl rfl rfl, rfl⟩
  | cons ch ds' ih =>
    have hch : IsDigit ch := hds ch List.mem_cons_self
    have hend : ¬ IsLineEnd ch := by
      rintro (rfl | rfl)
      · exact absurd hch (by decide)
      · exact absurd hch (by decide)
    have hstep : processInput b ch s =
        { s.note (.input ch) with value := addDigit s.value ch } := by
      unfold processInput
      dsimp only
      rw [if_neg hend, state_note, h.state]
      cases st with
      | newline => exact absurd hst (by decide)
      | waitnl => exact absurd hst (by decide)
      | waitchan => exact absurd hst (by decide)
      | waitnode =>
        dsimp only
        rw [inputNode, if_pos hch, state_note, h.state]
        rfl
      | waitcmd =>
        dsimp only
        rw [inputCmd, if_pos hch, state_note, h.state]
        rfl
      | waitdata =>
        dsimp only
        rw [inputData, if_pos hch, state_note, h.state]
        rfl
    have hnext : ReadsNumber c st (ds ++ [ch])
        { s.note (.input ch) with value := addDigit s.value ch } :=
      ⟨h.state, h.currChp, by rw [List.foldl_append, h.value]; rfl⟩
    obtain ⟨hnumber, hquiet, hchan⟩ := ih hnext fun x hx ↦ hds x (List.mem_cons_of_mem _ hx)
    rw [feed_cons, hstep]
    rw [List.append_assoc] at hnumber
    have hdigit : Untouched c s { s.note (.input ch) with value := addDigit s.value ch } :=
      .of_channels rfl rfl rfl rfl rfl rfl
    exact ⟨hnumber, hdigit.trans hquiet, hchan⟩

/-- The start of a line: a channel is claimed that takes one. -/
theorem feed_letter {c : Fin 6} {s : Ctl σ} (hs : s.state = .newline)
    (hfree : (s.chan c).state.toNat ≤ ChState.empty.toNat) :
    ReadsNumber c .waitnode [] (feed b s [chGreater, letter c]) ∧
      Untouched c s (feed b s [chGreater, letter c]) := by
  have hgreater : processInput b chGreater s =
      { s.note (.input chGreater) with state := .waitchan } := by
    unfold processInput
    dsimp only
    rw [if_neg (by decide), state_note, hs]
    rfl
  obtain ⟨hend, hrange, hval⟩ : ¬ IsLineEnd (letter c) ∧ (chA ≤ letter c ∧ letter c ≤ chH) ∧
      letter c - chA = UInt8.ofNat c.val := by
    clear hfree
    revert c
    decide
  have hlt : (UInt8.ofNat c.val).toNat < 6 := by
    clear hfree hend hrange hval
    revert c
    decide
  have hc : (⟨(UInt8.ofNat c.val).toNat, hlt⟩ : Fin 6) = c := by
    clear hfree hend hrange hval
    revert c
    decide
  have hbusy : ¬ ChState.empty.toNat < (s.chan c).state.toNat := Nat.not_lt.mpr hfree
  have hclaim : claimChannel (letter c) { (s.note (.input chGreater)).note (.input (letter c)) with
      state := .waitchan } = { ({ (s.note (.input chGreater)).note (.input (letter c)) with
        value := UInt8.ofNat c.val, currChp := c : Ctl σ }.setState c .adding).note (.claim c) with
      state := .waitnode, value := 0 } := by
    unfold claimChannel
    dsimp only
    rw [hval, dif_pos hlt, hc]
    exact if_neg hbusy
  have hrun : feed b s [chGreater, letter c] =
      claimChannel (letter c) { (s.note (.input chGreater)).note (.input (letter c)) with
        state := .waitchan } := by
    rw [feed_cons, hgreater, feed_cons]
    unfold processInput
    dsimp only
    rw [if_neg hend, inputChan, if_pos hrange]
    rfl
  rw [hrun, hclaim]
  exact ⟨⟨rfl, rfl, rfl⟩, .of_modify (f := fun chp ↦ { chp with state := .adding })
    rfl rfl rfl rfl rfl rfl⟩

/-- The end of the node number. -/
theorem feed_node_colon {c : Fin 6} {ds : List UInt8} {s : Ctl σ}
    (h : ReadsNumber c .waitnode ds s) :
    ReadsNumber c .waitcmd [] (processInput b chColon s) ∧
      Untouched c s (processInput b chColon s) ∧
      ((processInput b chColon s).chan c).packet.node = ds.foldl addDigit 0 := by
  have hstep : processInput b chColon s = storeNode (s.note (.input chColon)) := by
    unfold processInput
    dsimp only
    rw [if_neg (by decide), state_note, h.state]
    dsimp only
    rw [inputNode, if_neg (by decide), if_pos rfl]
  obtain ⟨-, rfl, hvalue⟩ := h
  rw [hstep, ← hvalue]
  refine ⟨⟨rfl, rfl, rfl⟩, .of_modify (f := fun chp ↦
    { chp with packet := { chp.packet with node := s.value } }) rfl rfl rfl rfl rfl rfl, ?_⟩
  simp [storeNode, chan, modify]

/-- The end of the command number, before data. -/
theorem feed_cmd_colon {c : Fin 6} {ds : List UInt8} {s : Ctl σ}
    (h : ReadsNumber c .waitcmd ds s) :
    ReadsNumber c .waitdata [] (processInput b chColon s) ∧
      Untouched c s (processInput b chColon s) ∧
      ((processInput b chColon s).chan c).packet =
        { (s.chan c).packet with cmd := ds.foldl addDigit 0, len := 0 } := by
  have hstep : processInput b chColon s =
      { storeCmd (s.note (.input chColon)) with state := .waitdata } := by
    unfold processInput
    dsimp only
    rw [if_neg (by decide), state_note, h.state]
    dsimp only
    rw [inputCmd, if_neg (by decide), if_pos rfl]
  obtain ⟨-, rfl, hvalue⟩ := h
  rw [hstep, ← hvalue]
  refine ⟨⟨rfl, rfl, rfl⟩, .of_modify (f := fun chp ↦
    { chp with packet := { chp.packet with cmd := s.value, len := 0 } })
    rfl rfl rfl rfl rfl rfl, ?_⟩
  simp [storeCmd, chan, modify]

/-- The end of a data byte, before another one. -/
theorem feed_comma {c : Fin 6} {ds : List UInt8} {s : Ctl σ} (h : ReadsNumber c .waitdata ds s)
    (hlen : (s.chan c).packet.len < 10) :
    ReadsNumber c .waitdata [] (processInput b chComma s) ∧
      Untouched c s (processInput b chComma s) ∧
      ((processInput b chComma s).chan c).packet =
        (s.chan c).packet.push (ds.foldl addDigit 0) := by
  obtain ⟨hstate, rfl, hvalue⟩ := h
  have hfits : ¬ (s.chan s.currChp).packet.len ≥ 10 := UInt8.not_le.mpr hlen
  have hstep : processInput b chComma s = storeData (s.note (.input chComma)) := by
    unfold processInput
    dsimp only
    rw [if_neg (by decide), state_note, hstate]
    dsimp only
    rw [inputData, if_neg (by decide), if_pos (.inl rfl)]
    exact (if_neg hfits).trans (if_neg (by decide))
  rw [hstep, ← hvalue]
  refine ⟨⟨hstate, rfl, rfl⟩, .of_modify (f := fun chp ↦
    { chp with packet := chp.packet.push s.value }) rfl rfl rfl rfl rfl rfl, ?_⟩
  simp [storeData, chan, modify]

/-- The packet `p` is complete in channel `c`, and is handed over with the next character. -/
structure HandsOver (c : Fin 6) (p : Packet.Content) (s s' : Ctl σ) : Prop where
  filled : ∃ t, Untouched c s t ∧ t.currChp = c ∧ (t.chan c).packet.content = p ∧
    s' = handOver b t

private theorem HandsOver.of_untouched {c : Fin 6} {p : Packet.Content} {s t u : Ctl σ}
    (h₁ : Untouched c s t) (h₂ : HandsOver b c p t u) : HandsOver b c p s u := by
  obtain ⟨v, hv, hrest⟩ := h₂.filled
  exact ⟨v, h₁.trans hv, hrest⟩

/-- A packet that is handed over is answered. -/
theorem HandsOver.answered {c : Fin 6} {p : Packet.Content} {s s' : Ctl σ}
    (h : HandsOver b c p s s') : Answered c p s s' := by
  obtain ⟨t, hquiet, rfl, rfl, rfl⟩ := h.filled
  have h := answered_enqueue b t.currChp t
  exact .of_unanswered hquiet.toUnanswered ⟨h.handed, h.replies⟩

/-- Behind a packet that was handed over the rest of the line is skipped. -/
theorem HandsOver.state {c : Fin 6} {p : Packet.Content} {s s' : Ctl σ}
    (h : HandsOver b c p s s') : s'.state = .waitnl := by
  obtain ⟨t, -, -, -, rfl⟩ := h.filled
  rfl

/-- The end of a line without data. -/
theorem feed_cmd_dot {c : Fin 6} {ds : List UInt8} {s : Ctl σ} (h : ReadsNumber c .waitcmd ds s) :
    HandsOver b c { (s.chan c).packet with cmd := ds.foldl addDigit 0, len := 0 }.content s
      (processInput b chDot s) := by
  have hstep : processInput b chDot s = handOver b (storeCmd (s.note (.input chDot))) := by
    unfold processInput
    dsimp only
    rw [if_neg (by decide), state_note, h.state]
    dsimp only
    rw [inputCmd, if_neg (by decide), if_neg (by decide), if_pos rfl]
  obtain ⟨-, rfl, hvalue⟩ := h
  have hpacket : ((storeCmd (s.note (.input chDot))).chan s.currChp).packet =
      { (s.chan s.currChp).packet with cmd := s.value, len := 0 } := by
    simp [storeCmd, chan, modify]
  rw [hstep, ← hvalue]
  exact ⟨storeCmd (s.note (.input chDot)), .of_modify (f := fun chp ↦
    { chp with packet := { chp.packet with cmd := s.value, len := 0 } }) rfl rfl rfl rfl rfl rfl,
    rfl, congrArg Packet.content hpacket, rfl⟩

/-- The end of a line with data. -/
theorem feed_data_dot {c : Fin 6} {ds : List UInt8} {s : Ctl σ} (h : ReadsNumber c .waitdata ds s)
    (hlen : (s.chan c).packet.len < 10) :
    HandsOver b c ((s.chan c).packet.push (ds.foldl addDigit 0)).content s
      (processInput b chDot s) := by
  obtain ⟨hstate, rfl, hvalue⟩ := h
  have hfits : ¬ (s.chan s.currChp).packet.len ≥ 10 := UInt8.not_le.mpr hlen
  have hstep : processInput b chDot s = handOver b (storeData (s.note (.input chDot))) := by
    unfold processInput
    dsimp only
    rw [if_neg (by decide), state_note, hstate]
    dsimp only
    rw [inputData, if_neg (by decide), if_pos (.inr rfl)]
    exact (if_neg hfits).trans (if_pos rfl)
  have hpacket : ((storeData (s.note (.input chDot))).chan s.currChp).packet =
      (s.chan s.currChp).packet.push s.value := by
    simp [storeData, chan, modify]
  rw [hstep, ← hvalue]
  exact ⟨storeData (s.note (.input chDot)), .of_modify (f := fun chp ↦
    { chp with packet := chp.packet.push s.value }) rfl rfl rfl rfl rfl rfl,
    rfl, congrArg Packet.content hpacket, rfl⟩

/-- The two characters at the end of a line that was handed over. -/
theorem feed_lineEnd {s : Ctl σ} (h : s.state = .waitnl) :
    (feed b s [chReturn, chNewline]).state = .newline ∧
      (∀ c, Untouched c s (feed b s [chReturn, chNewline])) ∧
      (feed b s [chReturn, chNewline]).channels = s.channels := by
  have hreturn : processInput b chReturn s =
      { s.note (.input chReturn) with state := .newline } := by
    unfold processInput
    dsimp only
    rw [if_pos (.inr rfl), state_note, h]
    exact if_neg (by decide)
  have hnewline : processInput b chNewline { s.note (.input chReturn) with state := .newline } =
      { (s.note (.input chReturn)).note (.input chNewline) with state := .newline } := by
    unfold processInput
    dsimp only
    rw [if_pos (.inl rfl)]
    have hidle : ¬ IoState.waitcmd.toNat ≤ IoState.newline.toNat := by decide
    exact if_neg hidle
  rw [feed_cons, hreturn, feed_cons, hnewline]
  exact ⟨rfl, fun c ↦ .of_channels rfl rfl rfl rfl rfl rfl, rfl⟩

-- What the packet of a line carries.
private theorem writes_of_eq {k l : CommandLine} {p : Packet.Content} (hnode : l.node = k.node)
    (hcmd : l.cmd = k.cmd) (hdata : l.data = k.data) (h : k.Writes p) : l.Writes p :=
  ⟨hnode ▸ h.node, hcmd ▸ h.cmd, hdata ▸ h.len, hdata ▸ h.data⟩

/-- The data from some point on: `k` is the line so far, `d` the next data byte and `rest`
those behind it. -/
theorem feed_data {l : CommandLine} (rest : List (List UInt8)) (d : List UInt8) {k : CommandLine}
    {s : Ctl σ} (h : ReadsNumber l.channel .waitdata [] s) (hnode : k.node = l.node)
    (hcmd : k.cmd = l.cmd) (hdata : l.data = k.data ++ d :: rest)
    (hw : k.Writes (s.chan l.channel).packet.content) :
    let s' := feed b s (d ++ (rest.flatMap (chComma :: ·) ++ [chDot]))
    ∃ p, l.Writes p ∧ HandsOver b l.channel p s s' := by
  have hd : Digits d := l.data_digits d (by rw [hdata]; simp)
  have hlt : k.data.length < 10 := by
    have hle := l.data_le
    rw [hdata, List.length_append, List.length_cons] at hle
    omega
  obtain ⟨hnumber, hquiet, hchan⟩ := feed_digits b h (by decide) hd
  rw [List.nil_append] at hnumber
  have hlen : ((feed b s d).chan l.channel).packet.len < 10 := by
    have hcount : (s.chan l.channel).packet.len.toNat = k.data.length := hw.len
    rw [hchan, UInt8.lt_iff_toNat_lt, hcount]
    exact hlt
  have hpush := hw.push d hd hlt
  rw [number_eq_foldl hd, ← hchan] at hpush
  intro s'
  cases rest with
  | nil =>
    have hs' : s' = processInput b chDot (feed b s d) := feed_append b s d [chDot]
    rw [hs']
    exact ⟨_, writes_of_eq (k := k.push d hd hlt) hnode.symm hcmd.symm hdata hpush,
      .of_untouched b hquiet (feed_data_dot b hnumber hlen)⟩
  | cons e rest =>
    obtain ⟨hnext, hquiet', hpacket⟩ := feed_comma b hnumber hlen
    have hs' : s' = feed b (processInput b chComma (feed b s d))
        (e ++ (rest.flatMap (chComma :: ·) ++ [chDot])) := by
      rw [← feed_cons, ← feed_append]
      simp [s']
    have hpush' : (k.push d hd hlt).Writes
        ((processInput b chComma (feed b s d)).chan l.channel).packet.content := by
      rw [hpacket]
      exact hpush
    obtain ⟨p, hp, hover⟩ := feed_data rest e (k := k.push d hd hlt) hnext hnode hcmd
      (by rw [hdata, CommandLine.push]; simp) hpush'
    rw [hs']
    exact ⟨p, hp, .of_untouched b (hquiet.trans hquiet') hover⟩

/-- The line up to its command. -/
theorem feed_header (l : CommandLine) {s : Ctl σ} (hs : s.state = .newline)
    (hfree : (s.chan l.channel).state.toNat ≤ ChState.empty.toNat) :
    let t := feed b s (header l.channel l.node ++ l.cmd)
    ReadsNumber l.channel .waitcmd l.cmd t ∧ Untouched l.channel s t ∧
      (t.chan l.channel).packet.node = number l.node := by
  obtain ⟨hletter, hquiet₁⟩ := feed_letter b hs hfree
  obtain ⟨hnode, hquiet₂, -⟩ := feed_digits b hletter (by decide) l.node_digits
  obtain ⟨hcolon, hquiet₃, hpacket⟩ := feed_node_colon b hnode
  obtain ⟨hcmd, hquiet₄, hchan⟩ := feed_digits b hcolon (by decide) l.cmd_digits
  have hsplit : feed b s (header l.channel l.node ++ l.cmd) =
      feed b (processInput b chColon (feed b (feed b s [chGreater, letter l.channel]) l.node))
        l.cmd := by
    rw [← feed_append, ← feed_cons, ← feed_append]
    simp [header]
  intro t
  have ht : t = _ := hsplit
  rw [ht, hchan, hpacket, List.nil_append, number_eq_foldl l.node_digits]
  exact ⟨hcmd, ((hquiet₁.trans hquiet₂).trans hquiet₃).trans hquiet₄, rfl⟩

/-- A whole line up to its dot. -/
theorem feed_text (l : CommandLine) {s : Ctl σ} (hs : s.state = .newline)
    (hfree : (s.chan l.channel).state.toNat ≤ ChState.empty.toNat) :
    ∃ p, l.Writes p ∧ HandsOver b l.channel p s (feed b s l.text) := by
  obtain ⟨hnumber, hquiet, hnode⟩ := feed_header b l hs hfree
  have hcmd : number l.cmd = l.cmd.foldl addDigit 0 := number_eq_foldl l.cmd_digits
  have htext : feed b s l.text = feed b (feed b s (header l.channel l.node ++ l.cmd))
      (CommandLine.dataText l.data ++ [chDot]) := by
    rw [← feed_append, CommandLine.text, List.append_assoc]
  rw [htext]
  generalize feed b s (header l.channel l.node ++ l.cmd) = t at hnumber hquiet hnode
  -- what is left of the line is its data
  cases hdata : l.data with
  | nil =>
    rw [CommandLine.dataText, if_pos rfl]
    refine ⟨_, ⟨hnode, ?_, ?_, ?_⟩, .of_untouched b hquiet (feed_cmd_dot b hnumber)⟩
    · exact hcmd.symm
    · rw [hdata]
      rfl
    · rw [hdata]
      rfl
  | cons d rest =>
    obtain ⟨hnext, hquiet', hpacket⟩ := feed_cmd_colon b hnumber
    obtain ⟨k, hknode, hkcmd, hkdata⟩ :
        ∃ k : CommandLine, k.node = l.node ∧ k.cmd = l.cmd ∧ k.data = [] :=
      ⟨⟨l.channel, l.node, l.cmd, [], l.node_digits, l.cmd_digits, by simp, by simp⟩, rfl, rfl,
        rfl⟩
    have hw : k.Writes ((processInput b chColon t).chan l.channel).packet.content := by
      rw [hpacket]
      refine ⟨?_, ?_, ?_, ?_⟩
      · rw [hknode]
        exact hnode
      · rw [hkcmd]
        exact hcmd.symm
      · rw [hkdata]
        rfl
      · rw [hkdata]
        rfl
    obtain ⟨p, hp, hover⟩ := feed_data b rest d hnext hknode hkcmd (by rw [hkdata]; exact hdata) hw
    have hcolon : feed b t (CommandLine.dataText (d :: rest) ++ [chDot]) =
        feed b (processInput b chColon t) (d ++ (rest.flatMap (chComma :: ·) ++ [chDot])) := by
      rw [CommandLine.dataText, if_neg (List.cons_ne_nil d rest),
        CommandLine.intercalate_eq_flatMap, List.cons_append, feed_cons, List.append_assoc]
    rw [hcolon]
    exact ⟨p, hp, .of_untouched b (hquiet.trans hquiet') hover⟩

/-- A whole line with its end. -/
theorem feed_line (l : CommandLine) {s : Ctl σ} (hs : s.state = .newline)
    (hfree : (s.chan l.channel).state.toNat ≤ ChState.empty.toNat) :
    (feed b s (l.text ++ [chReturn, chNewline])).state = .newline ∧
      ∃ p, l.Writes p ∧ Answered l.channel p s (feed b s (l.text ++ [chReturn, chNewline])) := by
  obtain ⟨p, hp, hover⟩ := feed_text b l hs hfree
  obtain ⟨hend, hquiet, -⟩ := feed_lineEnd b hover.state
  obtain ⟨hhanded, code, radioState, hreplies⟩ := hover.answered
  rw [feed_append]
  refine ⟨hend, p, hp, (hquiet l.channel).handed.trans hhanded, code, radioState, ?_⟩
  rw [← hreplies, Ctl.replies, Ctl.replies, (hquiet l.channel).out]

end Characters

end Ctl
end Libradio
