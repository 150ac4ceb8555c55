import Libradio.Lrmon.Command
import Libradio.Network.Authentic
import Libradio.Startup.Turns

/-!
# What a client obeys was written by the host

The console of the controller reads lines that lrmond has written, each of them ended by a line
end. The lines may be late and the host may stop in the middle of one, and the controller may take
any of its other actions between two characters: what it acknowledges is a command of the host, so
what a client obeys is one, too, or the time of a time slot.
-/

namespace Libradio
open Libradio.Base

namespace Lrmon

/-- A line of the host: a command, `>S`, `>T` or `>R`, or the line of `sio_init`. -/
inductive HostLine
  | command (l : CommandLine)
  | request (ch : UInt8) (h : ch = chS ∨ ch = chT ∨ ch = chR)
  | bootstrap

namespace HostLine

/-- The message. -/
def text : HostLine → List UInt8
  | .command l => l.text
  | .request ch _ => [chGreater, ch]
  | .bootstrap => [chR]

/-- The line. -/
def line (l : HostLine) : List UInt8 := sioSend l.text

/-- No message has a line end in it. -/
theorem not_lineEnd_text (l : HostLine) : ∀ ch ∈ l.text, ¬ Libradio.IsLineEnd ch := by
  intro ch hch
  cases l with
  | command k =>
    obtain ⟨body, htext, hbody⟩ := k.exists_text_eq
    rw [text, htext, List.mem_append, List.mem_singleton] at hch
    rcases hch with hch | rfl
    · rcases hbody ch hch with rfl | rfl | h | rfl | rfl
      · decide
      · generalize k.channel = c
        revert c
        decide
      · rintro (rfl | rfl) <;> revert h <;> decide
      · decide
      · decide
    · decide
  | request x h =>
    rw [text, List.mem_cons, List.mem_singleton] at hch
    rcases hch with rfl | rfl
    · decide
    · rcases h with rfl | rfl | rfl <;> decide
  | bootstrap =>
    rw [text, List.mem_singleton] at hch
    subst hch
    decide

/-- Behind a whole line nothing has been read of the next one. -/
theorem currentLine_line_append (l : HostLine) (more : List UInt8) :
    currentLine (l.line ++ more) = currentLine more := by
  have hline : currentLine l.line = [] := by
    have hsplit : l.line = (l.text ++ [chReturn]) ++ [chNewline] := by
      rw [line, sioSend, List.append_assoc]
      rfl
    rw [hsplit, currentLine_concat, nextLine, if_pos (.inl rfl)]
  rw [currentLine, List.foldl_append]
  exact congrArg (more.foldl nextLine) hline

/-- Where the character behind `sofar` stands in the line `l`: in its message, at the line end
behind it, or behind that. -/
inductive At (l : HostLine) (sofar : List UInt8) (ch : UInt8) : Prop
  | message (inside : sofar ++ [ch] <+: l.text)
  | lineEnd (whole : sofar = l.text) (ends : Libradio.IsLineEnd ch)
  | behind (nothing : sofar = []) (ends : Libradio.IsLineEnd ch)

/-- A character of one line. -/
theorem at_of_line (l : HostLine) {sofar : List UInt8} {ch : UInt8}
    (h : sofar ++ [ch] <+: l.line) : l.At (currentLine sofar) ch := by
  have hend := l.not_lineEnd_text
  have hsplit : l.line = (l.text ++ [chReturn]) ++ [chNewline] := by
    rw [line, sioSend, List.append_assoc]
    rfl
  rw [hsplit, List.prefix_concat_iff] at h
  rcases h with h | h
  · obtain ⟨rfl, hch⟩ := List.append_inj' h rfl
    obtain rfl := List.singleton_inj.mp hch
    refine .behind ?_ (.inl rfl)
    rw [currentLine_concat, nextLine, if_pos (.inr rfl)]
  · rw [List.prefix_concat_iff] at h
    rcases h with h | h
    · obtain ⟨rfl, hch⟩ := List.append_inj' h rfl
      obtain rfl := List.singleton_inj.mp hch
      exact .lineEnd (currentLine_eq_self hend) (.inr rfl)
    · refine .message ?_
      rw [currentLine_eq_self]
      · exact h
      · intro x hx
        exact hend x (h.subset (List.mem_append_left _ hx))

/-- A character of any number of lines is one of one of them. -/
theorem exists_at {ls : List HostLine} {sofar : List UInt8} {ch : UInt8}
    (h : sofar ++ [ch] <+: ls.flatMap line) : ∃ l ∈ ls, l.At (currentLine sofar) ch := by
  induction ls generalizing sofar with
  | nil =>
    have hnil := List.prefix_nil.mp h
    simp at hnil
  | cons l ls ih =>
    rw [List.flatMap_cons] at h
    rcases List.prefix_or_prefix_of_prefix h (List.prefix_append l.line _) with hin | ⟨more, hmore⟩
    · exact ⟨l, List.mem_cons_self, at_of_line l hin⟩
    · rcases List.eq_nil_or_concat more with rfl | ⟨more, x, rfl⟩
      · rw [List.append_nil] at hmore
        exact ⟨l, List.mem_cons_self, at_of_line l (hmore ▸ List.prefix_rfl)⟩
      · rw [List.concat_eq_append, ← List.append_assoc] at hmore
        obtain ⟨rfl, hx⟩ := List.append_inj' hmore rfl
        obtain rfl := List.singleton_inj.mp hx
        rw [List.append_assoc, List.prefix_append_right_inj] at h
        obtain ⟨l', hl', hat⟩ := ih h
        rw [currentLine_line_append]
        exact ⟨l', List.mem_cons_of_mem _ hl', hat⟩

variable {σ : Type}

/-- A packet that is handed over while a line of the host is read is what the line says. -/
theorem command_of_completed {l : HostLine} {s : Ctl σ} {line : List UInt8} {ch : UInt8}
    (hat : l.At line ch) (hreads : s.Reads line) {c : Fin 6} {p : Packet.Content}
    (hp : Ctl.completed ch s = some (c, p)) :
    ∃ k, l = .command k ∧ k.channel = c ∧ k.Writes p := by
  have hasm : s.state.IsAssembling := by
    rw [Ctl.completed] at hp
    split at hp
    · next hcomp =>
      rcases hcomp with ⟨hst, -⟩ | ⟨hst, -⟩ <;> rw [hst] <;> decide
    · cases hp
  obtain ⟨q, rest, hq, hline, hdot⟩ := Ctl.assembling_of_reads hreads hasm
  -- what has been read has a channel letter, and no dot behind it
  have hno : chDot ∉ line := by
    rw [hline]
    intro hmem
    rcases List.mem_append.mp hmem with hmem | hmem
    · exact dot_notMem_requests hq hmem
    · rcases List.mem_cons.mp hmem with hmem | hmem
      · exact absurd hmem (by decide)
      · rcases List.mem_cons.mp hmem with hmem | hmem
        · exact letter_ne_dot _ hmem.symm
        · exact hdot hmem
  have hlong (x y : UInt8) (tail : List UInt8) (hy : y = chS ∨ y = chT ∨ y = chR)
      (heq : line ++ tail = [x, y]) : False := by
    rw [hline] at heq
    rcases head_of_requests hq with rfl | ⟨x', rest', -, rfl⟩
    · rw [List.nil_append, List.cons_append, List.cons_append] at heq
      exact letter_ne hy (List.cons.inj (List.cons.inj heq).2).1
    · simp at heq
  have hshort (x : UInt8) (tail : List UInt8) (heq : line ++ tail = [x]) : False := by
    have hlen := congrArg List.length heq
    rw [hline] at hlen
    simp at hlen
    omega
  cases hat with
  | message inside =>
    obtain ⟨tail, htail⟩ := inside
    rw [List.append_assoc] at htail
    cases l with
    | bootstrap => exact (hshort _ _ htail).elim
    | request x h => exact (hlong _ _ _ h htail).elim
    | command k =>
      refine ⟨k, rfl, ?_⟩
      rcases Ctl.handed_of_reads hreads hp with ⟨rfl, q', l', hq', hline', hchan, hw⟩ | ⟨hend, -⟩
      · rw [← List.append_assoc, hline', List.append_assoc] at htail
        rcases head_of_requests hq' with rfl | ⟨x, rest', hx, rfl⟩
        · obtain rfl := CommandLine.eq_of_text_eq_append htail.symm
          exact ⟨hchan, hw⟩
        · obtain ⟨more, hmore⟩ := k.text_head
          rw [text, hmore, List.cons_append, List.cons_append] at htail
          exact absurd (List.cons.inj (List.cons.inj htail).2).1.symm (letter_ne hx)
      · refine absurd hend (not_lineEnd_text (.command k) ch ?_)
        rw [← htail]
        simp
  | lineEnd whole ends =>
    cases l with
    | bootstrap => exact (hshort _ [] (by rw [List.append_nil]; exact whole)).elim
    | request x h => exact (hlong _ _ [] h (by rw [List.append_nil]; exact whole)).elim
    | command k =>
      obtain ⟨body, hbody, -⟩ := k.exists_text_eq
      rw [whole, text, hbody] at hno
      exact absurd (List.mem_append_right body (List.mem_singleton_self chDot)) hno
  | behind nothing ends =>
    rw [nothing] at hline
    exact absurd hline.symm (by simp)

end HostLine
end Lrmon

open Lrmon

namespace Ctl

variable {σ : Type}

/-- The characters that an action reads. -/
def Act.typed : Act → List UInt8
  | .input ch => [ch]
  | _ => []

/-- The controller has read `text`, and whatever it has acknowledged is a command of the lines. -/
structure Hosted (ls : List HostLine) (text : List UInt8) (s : Ctl σ) : Prop where
  reads : s.Reads (currentLine text)
  acks : ∀ c p, .ack c p ∈ s.hist → ∃ l, .command l ∈ ls ∧ l.channel = c ∧ l.Writes p

/-- An action that spares the packet under construction leaves what has been read, or reads one
character more. -/
theorem reads_step (b : Board σ) {s : Ctl σ} {a : Act} (hasm : ∀ d, AssemblyInv s d)
    (hg : SparesAssembly b s a) {text : List UInt8} (h : s.Reads (currentLine text)) :
    (step b s a).Reads (currentLine (text ++ a.typed)) := by
  cases a with
  | input ch =>
    show (processInput b ch s).Reads (currentLine (text ++ [ch]))
    rw [currentLine_concat]
    exact reads_processInput b ch h
  | tick =>
    show (step b s .tick).Reads (currentLine (text ++ []))
    rw [List.append_nil]
    have alike := alike_tick b s
    exact h.of_same ⟨alike.state, alike.value, alike.currChp⟩ fun _ ↦ by rw [alike.chan]
  | poll =>
    show (poll b s).Reads (currentLine (text ++ []))
    rw [List.append_nil]
    cases effect_poll b s with
    | idle none eq =>
      rw [eq]
      exact h
    | waiting c some going own others respChp parser hist =>
      refine h.of_same parser fun _ ↦ ?_
      by_cases hc : c = s.currChp
      · rw [← hc, own]
      · rw [others _ hc]
    | ended c some ends own others respChp parser hist =>
      refine h.of_same parser fun ha ↦ ?_
      by_cases hc : c = s.currChp
      · exact absurd ends (hg.2 c rfl some ⟨ha, hc.symm⟩)
      · rw [others _ hc]
  | check between inSend =>
    show (check b between inSend s).Reads (currentLine (text ++ []))
    rw [List.append_nil]
    apply reads_check b h
    rintro ⟨ha, hempty, -⟩
    exact (hasm s.currChp).ne_empty ⟨ha, rfl⟩ hempty

/-- Only a character that completes a packet adds an acknowledgement. -/
theorem ack_of_step (b : Board σ) {s : Ctl σ} {a : Act} {c : Fin 6} {p : Packet.Content}
    (h : .ack c p ∈ (step b s a).hist) :
    .ack c p ∈ s.hist ∨ ∃ ch, a = .input ch ∧ completed ch s = some (c, p) := by
  have hconcerns : (Obs.ack c p).concerns c = true := by simp [Obs.concerns]
  have hold (h : .ack c p ∈ s.track c) : .ack c p ∈ s.hist := (mem_track hconcerns).mp h
  have h := (mem_track hconcerns).mpr h
  cases chanEffect_step b s a c with
  | same state content resp asm track => exact .inl (hold (track ▸ h))
  | claimed free state resp before after track =>
    rw [track] at h
    exact .inl (hold (by simpa using h))
  | edited before after state resp track => exact .inl (hold (track ▸ h))
  | left ch act leaves before after state content resp track => exact .inl (hold (track ▸ h))
  | released q config before after state resp config_set track =>
    rw [track, List.mem_cons, List.mem_append, List.mem_cons] at h
    rcases h with h | h | h | h
    · cases h
    · obtain ⟨v, hv⟩ := config_set _ h
      cases hv
    · cases h
    · exact .inl (hold h)
  | queued ch q act queues before after state content resp track =>
    rw [track, List.mem_cons, List.mem_cons] at h
    rcases h with h | h | h
    · cases h
      exact .inr ⟨ch, act, queues.1⟩
    · cases h
    · exact .inl (hold h)
  | configured ch config act configures before after state content resp track =>
    rw [track] at h
    exact .inl (hold (by simpa using h))
  | waited act before early state resp asm track =>
    rw [track] at h
    exact .inl (hold (by simpa using h))
  | ended act before ends state resp asm track =>
    rw [track] at h
    exact .inl (hold (by simpa using h))
  | built between inSend q ok act free due empty state content resp asm track =>
    rw [track] at h
    exact .inl (hold (by simpa using h))
  | sent between inSend ok act free busy adding state content resp asm track =>
    rw [track] at h
    exact .inl (hold (by simpa using h))
  | reset state resp after track =>
    rw [track] at h
    exact .inl (hold (by simpa using h))

/-- An action that spares the packet under construction adds commands of the lines only. -/
theorem hosted_step (b : Board σ) {s : Ctl σ} {a : Act} (hasm : ∀ d, AssemblyInv s d)
    (hg : SparesAssembly b s a) {ls : List HostLine} {text : List UInt8} (h : Hosted ls text s)
    (htext : text ++ a.typed <+: ls.flatMap HostLine.line) :
    Hosted ls (text ++ a.typed) (step b s a) where
  reads := reads_step b hasm hg h.reads
  acks c p hp := by
    rcases ack_of_step b hp with hold | ⟨ch, rfl, hcompleted⟩
    · exact h.acks c p hold
    · obtain ⟨l, hl, hat⟩ := HostLine.exists_at htext
      obtain ⟨k, rfl, hchan, hk⟩ := HostLine.command_of_completed hat h.reads hcompleted
      exact ⟨k, hl, hchan, hk⟩

/-- Nothing has been read and nothing acknowledged when the controller starts. -/
theorem hosted_start (b : Board σ) (chip : σ) (eeprom : UInt16 → UInt8) (beyondData : UInt8)
    (ls : List HostLine) : Hosted ls [] (start b chip eeprom beyondData) where
  reads := Requests.nil
  acks c p hp := by
    have hhist : (start b chip eeprom beyondData).hist = [.reset] :=
      (chan_start b chip eeprom beyondData 0).2.2.2
    rw [hhist, List.mem_singleton] at hp
    cases hp

end Ctl

/-- A packet that a line writes is received as such a packet. -/
theorem writes_of_reaches {l : CommandLine} {q : Packet.Content} {p : Packet} (hw : l.Writes q)
    (hq : q.Reaches p) : l.Writes p.content := by
  obtain ⟨-, hnode, hcmd, hlen, hdata⟩ := Packet.Received.mk.inj hq
  have hlen' : p.len.toNat = l.data.length := by rw [hlen, hw.len]
  refine ⟨hnode.trans hw.node, hcmd.trans hw.cmd, hlen', ?_⟩
  rw [hw.len, hlen', hw.data] at hdata
  exact hdata

namespace Net
open Si4463

variable {ι : Type} [DecidableEq ι]

/-- The characters that an event types on the console. -/
def typedBy : Event ι → List UInt8
  | .control a => a.typed
  | _ => []

/-- Every packet that a client accepts next is a reply that another client has sent, or the
controller has sent it, and it is a command of the lines or the time of a time slot. -/
def AcceptsCommands (ls : List HostLine) (m : ι → Member) (s : Net ι) : Prop :=
  ∀ i p, Client.accepted (m i).board (s.cli i).dev = some p →
    (∃ j, j ≠ i ∧ s.HasSent (some j) p ∧ p.IsReply) ∨
      (s.HasSent none p ∧ ((∃ l, .command l ∈ ls ∧ l.Writes p.content) ∨ p.content.IsTime))

/-- An active client has the assignment of an ACTIVATE of the lines that is for its identity. -/
def ActiveAsCommanded (ls : List HostLine) (m : ι → Member) (s : Net ι) : Prop :=
  ∀ i, (s.cli i).dev.radio.state = LIBRADIO_STATE_ACTIVE →
    ∃ l, .command l ∈ ls ∧ number l.cmd = RADIO_CMD_ACTIVATE ∧
      l.data.map number = [(s.cli i).dev.radio.myChannel, (s.cli i).dev.radio.myNodeId,
        (m i).id.cat1, (m i).id.cat2, (m i).id.num1, (m i).id.num2]

variable (oracle : Nat → Outcome) {m : ι → Member}

/-- One event types its characters. -/
theorem hosted_netStep {s : Net ι} {e : Event ι} (h : Traced m s) (hg : Spares oracle s e)
    {ls : List HostLine} {text : List UInt8} (hhosted : s.ctl.Hosted ls text)
    (htext : text ++ typedBy e <+: ls.flatMap HostLine.line) :
    (step oracle m s e).ctl.Hosted ls (text ++ typedBy e) := by
  have harrive (bytes : List UInt8) (reaches : Option ι → Bool) :
      (s.arrive bytes reaches).ctl.Hosted ls (text ++ []) := by
    rw [List.append_nil]
    unfold Net.arrive
    dsimp only
    split
    · exact ⟨hhosted.reads, hhosted.acks⟩
    · exact hhosted
  cases e with
  | control a => exact Ctl.hosted_step (board oracle) h.assembly hg hhosted htext
  | client i ev =>
    show s.ctl.Hosted ls (text ++ [])
    rw [List.append_nil]
    exact hhosted
  | carry sender k reaches =>
    show (step oracle m s (.carry sender k reaches)).ctl.Hosted ls (text ++ [])
    unfold step
    dsimp only
    split
    · rw [List.append_nil]
      exact hhosted
    · exact harrive _ _
  | noise n reaches => exact harrive _ _

/-- Any number of events. -/
theorem hosted_netRun (happ : ∀ i, (m i).app.LeavesRadio SameQueues) {ls : List HostLine}
    {events : List (Event ι)} (hnoise : ∀ e ∈ events, e.Detected) {s : Net ι}
    {text : List UInt8} (h : Traced m s)
    (hg : Along (step oracle m) (Spares oracle) s events) (hhosted : s.ctl.Hosted ls text)
    (htext : text ++ events.flatMap typedBy <+: ls.flatMap HostLine.line) :
    Traced m (run (step oracle m) s events) ∧
      (run (step oracle m) s events).ctl.Hosted ls (text ++ events.flatMap typedBy) := by
  induction events generalizing s text with
  | nil =>
    rw [List.flatMap_nil, List.append_nil]
    exact ⟨h, hhosted⟩
  | cons e events ih =>
    obtain ⟨hg, hgs⟩ := hg
    obtain ⟨he, hes⟩ := List.forall_mem_cons.mp hnoise
    rw [List.flatMap_cons, ← List.append_assoc] at htext ⊢
    have hhead := (List.prefix_append (text ++ typedBy e) (events.flatMap typedBy)).trans htext
    exact ih hes (traced_step oracle happ h hg he) hgs (hosted_netStep oracle h hg hhosted hhead)
      htext

omit [DecidableEq ι] in
/-- What is acknowledged is what the lines say, so what is accepted is it, too. -/
theorem Traced.acceptsCommands {s : Net ι} (h : Traced m s) {ls : List HostLine}
    {text : List UInt8} (hhosted : s.ctl.Hosted ls text) : AcceptsCommands ls m s := by
  intro i p hp
  rcases h.genuine.acceptsIssued i p hp with hreply | ⟨hsent, q, ⟨c, hack | hslot⟩, hq⟩
  · exact .inl hreply
  · obtain ⟨l, hl, -, hw⟩ := hhosted.acks c q hack
    exact .inr ⟨hsent, .inl ⟨l, hl, writes_of_reaches hw hq⟩⟩
  · obtain ⟨hnode, hcmd, hlen⟩ := h.slots c q hslot
    obtain ⟨-, hqnode, hqcmd, hqlen, -⟩ := Packet.Received.mk.inj hq
    exact .inr ⟨hsent, .inr ⟨hqnode.trans hnode, hqcmd.trans hcmd, hqlen.trans hlen⟩⟩

omit [DecidableEq ι] in
private theorem Traced.activeAsCommanded {s : Net ι} (h : Traced m s) {ls : List HostLine}
    {text : List UInt8} (hhosted : s.ctl.Hosted ls text) : ActiveAsCommanded ls m s := by
  intro i hactive
  obtain ⟨c, q, hack, hcmd, hlen, hid, hchannel, hnode⟩ := h.activeAsAcknowledged i hactive
  obtain ⟨l, hl, -, hw⟩ := hhosted.acks c q hack
  refine ⟨l, hl, hw.cmd.symm.trans hcmd, ?_⟩
  have hsix : l.data.length = 6 := by
    rw [← hw.len, hlen]
    rfl
  have hbyte (n : Nat) (hn : n < 6) : (l.data.map number)[n]? = some (dataByte q.data n) := by
    rw [← hw.data, List.getElem?_take_of_lt (by omega), Vector.getElem?_toList, dataByte,
      Vector.getElem?_eq_getElem (by omega)]
    rfl
  rw [← hid, hchannel, hnode]
  apply List.ext_getElem?
  intro n
  rcases Nat.lt_or_ge n 6 with hn | hn
  · rw [hbyte n hn]
    rcases (by omega : n = 0 ∨ n = 1 ∨ n = 2 ∨ n = 3 ∨ n = 4 ∨ n = 5) with
      rfl | rfl | rfl | rfl | rfl | rfl <;> rfl
  · rw [List.getElem?_eq_none (by rw [List.length_map]; omega), List.getElem?_eq_none]
    exact hn

/-- In every run of the network whose console reads lines of the host, whose noise the checksum
detects, and whose passes spare the packet that the parser is still filling: what a client accepts
next is the reply of another client, a command of the host, or the time of a time slot. -/
theorem accepts_commands (happ : ∀ i, (m i).app.LeavesRadio SameQueues) (eeprom : UInt16 → UInt8)
    (beyondData : UInt8) (ls : List HostLine) (events : List (Event ι))
    (hnoise : ∀ e ∈ events, e.Detected)
    (hspares : Along (step oracle m) (Spares oracle) (start oracle m eeprom beyondData) events)
    (htyped : events.flatMap typedBy <+: ls.flatMap HostLine.line) :
    AcceptsCommands ls m (run (step oracle m) (start oracle m eeprom beyondData) events) := by
  obtain ⟨htraced, hhosted⟩ := hosted_netRun oracle happ hnoise
    (traced_start oracle eeprom beyondData) hspares
    (Ctl.hosted_start (board oracle) Si4463.fresh eeprom beyondData ls) htyped
  exact htraced.acceptsCommands hhosted

/-- The host activates the controller, and then the sensor. -/
def sensorLines : List HostLine :=
  [.command (Startup.Request.onChannelA 0 RADIO_CMD_ACTIVATE.toNat [0, 1, 1]
      (Nat.le_of_ble_eq_true rfl)),
    .command (Startup.Request.onChannelA 0 RADIO_CMD_ACTIVATE.toNat [0, 2, 127, 1, 0, 1]
      (Nat.le_of_ble_eq_true rfl))]

/-- There is noise, and then the second line arrives at the radio of the sensor. -/
def sensorCommanded : List (Event Unit) :=
  disturbance ++ (sensorLines.flatMap HostLine.line).map (fun ch ↦ .control (.input ch)) ++
    [.control (.check 0 0), .carry none 0 fun _ ↦ true, .client () .interrupt]

/-- The sensor accepts its activation, which is the second line. -/
theorem accepts_commands_sensor :
    Client.accepted statusSensor.board ((sensorNet sensorCommanded).cli ()).dev ≠ none ∧
      AcceptsCommands sensorLines (fun _ ↦ statusSensor) (sensorNet sensorCommanded) :=
  ⟨by decide +kernel, accepts_commands readyChip (fun _ ↦ leavesRadio_statusSensor) (fun _ ↦ 0) 0
    sensorLines sensorCommanded (by decide +kernel) (by decide +kernel) (by decide +kernel)⟩

/-- In the same runs an active client has the assignment that the host has sent it. -/
theorem active_as_commanded (happ : ∀ i, (m i).app.LeavesRadio SameQueues) (eeprom : UInt16 → UInt8)
    (beyondData : UInt8) (ls : List HostLine) (events : List (Event ι))
    (hnoise : ∀ e ∈ events, e.Detected)
    (hspares : Along (step oracle m) (Spares oracle) (start oracle m eeprom beyondData) events)
    (htyped : events.flatMap typedBy <+: ls.flatMap HostLine.line) :
    ActiveAsCommanded ls m (run (step oracle m) (start oracle m eeprom beyondData) events) := by
  obtain ⟨htraced, hhosted⟩ := hosted_netRun oracle happ hnoise
    (traced_start oracle eeprom beyondData) hspares
    (Ctl.hosted_start (board oracle) Si4463.fresh eeprom beyondData ls) htyped
  exact htraced.activeAsCommanded hhosted

/-- The sensor is active. -/
theorem active_as_commanded_sensor :
    ((sensorNet (sensorCommanded ++ [.client () (.pass 0 false)])).cli ()).dev.radio.state =
        LIBRADIO_STATE_ACTIVE ∧
      ActiveAsCommanded sensorLines (fun _ ↦ statusSensor)
        (sensorNet (sensorCommanded ++ [.client () (.pass 0 false)])) :=
  ⟨by decide +kernel, active_as_commanded readyChip (fun _ ↦ leavesRadio_statusSensor)
    (fun _ ↦ 0) 0 sensorLines (sensorCommanded ++ [.client () (.pass 0 false)])
    (by decide +kernel) (by decide +kernel) (by decide +kernel)⟩

end Net
end Libradio
