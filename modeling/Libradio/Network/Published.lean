import Mathlib.Data.List.Induction
import Libradio.Lrmon.Publish
import Libradio.Network.Authentic

/-!
# What third parties are told

The reports that the controller prints are its own status or replies of clients. lrmond makes a
message of each status report, so every message that it publishes has the time and the data of a
status response that a client has sent, or of the controller's own status.
-/

namespace Libradio
open Libradio.Base Si4463

/-! ### The controller's own status -/

namespace Ctl

variable {σ : Type}

/-- The line is a report of `local_status` while the radio's variables are `r`. -/
def StatusLine (r : Radio) (l : Line) : Prop :=
  ∃ bv stype, l = .report r.myChannel r.myNodeId r.msTicks RADIO_STATUS_RESPONSE
    (stype :: statusBytes r bv stype)

/-- Reports that were printed from `s` to `s'` are of `local_status`, with the variables `r`. -/
def Reports (r : Radio) (s s' : Ctl σ) : Prop :=
  ∃ news, s'.out = s.out ++ news ∧
    ∀ chan node ticks cmd data, .report chan node ticks cmd data ∈ news →
      StatusLine r (.report chan node ticks cmd data)

private theorem Reports.of_eq {r : Radio} {s s' : Ctl σ} (h : s'.out = s.out) : Reports r s s' :=
  ⟨[], by rw [h, List.append_nil], nofun⟩

private theorem Reports.trans {r : Radio} {s t u : Ctl σ} (h₁ : Reports r s t)
    (h₂ : Reports r t u) :
    Reports r s u := by
  obtain ⟨news, hout, hnews⟩ := h₁
  obtain ⟨more, hout', hmore⟩ := h₂
  refine ⟨news ++ more, by rw [hout', hout, List.append_assoc], fun chan node ticks cmd data h ↦ ?_⟩
  rcases List.mem_append.mp h with h | h
  · exact hnews chan node ticks cmd data h
  · exact hmore chan node ticks cmd data h

/-- Another line. -/
theorem Reports.of_concat {r : Radio} {s s' : Ctl σ} {l : Line} (h : s'.out = s.out ++ [l])
    (hl : ∀ chan node ticks cmd data, l ≠ .report chan node ticks cmd data) : Reports r s s' :=
  ⟨[l], h, fun chan node ticks cmd data hmem ↦
    absurd (List.mem_singleton.mp hmem).symm (hl chan node ticks cmd data)⟩

private theorem reports_localStatus (b : Board σ) (stype : UInt8) (s : Ctl σ) :
    Reports s.dev.radio s (localStatus b stype s) := by
  obtain ⟨bv, hout⟩ := out_localStatus b stype s
  refine ⟨_, hout, fun chan node ticks cmd data h ↦ ?_⟩
  rw [List.mem_singleton.mp h]
  exact ⟨bv, stype, rfl⟩

/-- A start reports the status of a radio without any. -/
theorem reports_boot (b : Board σ) (s : Ctl σ) : Reports .zero s (boot b s) := by
  unfold boot
  dsimp only
  generalize hblank : Ctl.note Obs.reset _ = blank
  have hradio : blank.dev.radio = .zero := by rw [← hblank]; rfl
  have hout : blank.out = s.out := by rw [← hblank]; rfl
  have hdynamic := reports_localStatus b RADIO_STATUS_DYNAMIC blank
  have hstatic := reports_localStatus b RADIO_STATUS_STATIC
    (localStatus b RADIO_STATUS_DYNAMIC blank)
  have hsame : (localStatus b RADIO_STATUS_DYNAMIC blank).dev.radio = blank.dev.radio := rfl
  rw [hradio] at hdynamic
  rw [hsame, hradio] at hstatic
  exact (Reports.of_eq hout).trans (hdynamic.trans hstatic)

private theorem reports_start (b : Board σ) (chip : σ) (eeprom : UInt16 → UInt8)
    (beyondData : UInt8)
    {chan node cmd : UInt8} {ticks : UInt16} {data : List UInt8}
    (h : .report chan node ticks cmd data ∈ (start b chip eeprom beyondData).out) :
    StatusLine .zero (.report chan node ticks cmd data) := by
  unfold start at h
  generalize hblank : Ctl.mk _ _ _ _ _ _ _ _ _ = blank at h
  obtain ⟨news, hout, hnews⟩ := reports_boot b blank
  have hnone : blank.out = [] := by rw [← hblank]
  rw [hout, hnone, List.nil_append] at h
  exact hnews _ _ _ _ _ h

private theorem reports_command (b : Board σ) (p : Packet) (s : Ctl σ) :
    Reports s.dev.radio s (mycommand b p s).1 := by
  cases obeyed_mycommand b p s with
  | passed cmd eq => exact .of_eq (by rw [eq])
  | ignored config code eq => exact .of_eq (by rw [eq])
  | activated cmd len eq =>
    apply Reports.of_eq
    rw [eq]
    unfold activate
    dsimp only
    split <;> rfl
  | setTime cmd len eq => exact .of_eq (by rw [eq])
  | status cmd len eq =>
    rw [eq]
    exact reports_localStatus b _ s
  | readEeprom cmd len eq =>
    rw [eq]
    exact Reports.of_concat rfl nofun
  | configured c config of eq =>
    apply Reports.of_eq
    rw [eq]
    rfl

/-- A character is answered with reports of the controller's own status only, as it is or as it is
in a start. -/
theorem reports_input (b : Board σ) (ch : UInt8) (s : Ctl σ) :
    Reports s.dev.radio s (processInput b ch s) ∨ Reports .zero s (processInput b ch s) := by
  by_cases hcomp : Completes s ch
  · left
    have hcompleted : completed ch s = some (s.currChp, _) := if_pos hcomp
    by_cases hown : IsLocal s.dev.radio ((filled ch s).chan s.currChp).packet.content
    · obtain ⟨P, t, st, hcontent, hstarted, heq⟩ := local_of_completed b hcompleted hown
      have hcommand := reports_command b P t
      rw [hstarted.dev] at hcommand
      rw [heq]
      exact ((Reports.of_eq hstarted.out).trans hcommand).trans (Reports.of_concat rfl nofun)
    · obtain ⟨code, hout⟩ := (foreign_of_completed b hcompleted hown).out
      exact .of_concat hout nofun
  · cases aside_processInput b hcomp with
    | booted before reset eq =>
      right
      have hnote : Reports .zero s (s.note (.input ch)) := .of_eq rfl
      rw [eq]
      exact hnote.trans (reports_boot b _)
    | reported stype radio lastModulo hist out =>
      left
      exact (reports_localStatus b stype s).trans (.of_eq out)
    | refused code error radio lastModulo hist out =>
      left
      exact .of_concat out nofun
    | quiet radio lastModulo hist out =>
      left
      exact .of_eq out

/-- The response wait prints behind what was printed before. -/
theorem out_poll (b : Board σ) (s : Ctl σ) : ∃ news, (poll b s).out = s.out ++ news := by
  unfold poll
  split
  · exact ⟨[], (List.append_nil _).symm⟩
  · dsimp only
    split
    · unfold endWait txresponse
      dsimp only
      split
      · exact ⟨[_], rfl⟩
      · exact ⟨[], (List.append_nil _).symm⟩
    · split <;> exact ⟨[], (List.append_nil _).symm⟩

private theorem out_transmitOn (b : Board σ) (ticks : Nat) (c : Fin 6) (s : Ctl σ) :
    (transmitOn b ticks c s).out = s.out := by
  have hsent (t : Ctl σ) : (sentOn c t).out = t.out := by
    unfold sentOn
    split <;> rfl
  unfold transmitOn
  split
  · rfl
  · show (sendOn b ticks c s).out = s.out
    unfold sendOn
    dsimp only
    split
    · exact hsent _
    · rfl

/-- The transmissions print nothing for the host. -/
theorem out_check (b : Board σ) (between inSend : Nat) (s : Ctl σ) :
    (check b between inSend s).out = s.out := by
  cases checked_check b between inSend s with
  | awaiting awaited eq => rw [eq]
  | deaf free deaf eq => rw [eq]
  | slot c free listens due eq =>
    rw [eq, out_transmitOn]
    unfold fillSlot
    split <;> rfl
  | idle free listens due none eq =>
    rw [eq]
    rfl
  | picked c free listens due some eq =>
    rw [eq, out_transmitOn]
    rfl

end Ctl

/-! ### The lines of a run -/

namespace Net
open Lrmon

variable {ι : Type} [DecidableEq ι] (oracle : Nat → Outcome) {m : ι → Member}

omit [DecidableEq ι] in
/-- A line that is made of a reply stays so as long as the reply is remembered. -/
theorem MadeOfReply.mono {s s' : Net ι} {l : Line} (h : s.MadeOfReply l)
    (hair : ∀ y, ∀ f ∈ (s.chip y).air, f ∈ (s'.chip y).air) : s'.MadeOfReply l := by
  obtain ⟨i, f, hf, hmade⟩ := h
  exact ⟨i, f, hair (some i) f hf, hmade⟩

/-- The report is of the controller's own status, at some time of the run. -/
def OwnStatus (m : ι → Member) (s₀ : Net ι) (events : List (Event ι)) (l : Line) : Prop :=
  Ctl.StatusLine .zero l ∨
    ∃ pre, pre <+: events ∧ Ctl.StatusLine (run (step oracle m) s₀ pre).ctl.dev.radio l

variable {oracle}

private theorem OwnStatus.mono {s₀ : Net ι} {events : List (Event ι)} {l : Line}
    (h : OwnStatus oracle m s₀ events l) (e : Event ι) :
    OwnStatus oracle m s₀ (events ++ [e]) l := by
  rcases h with h | ⟨pre, hpre, h⟩
  · exact .inl h
  · exact .inr ⟨pre, hpre.trans (List.prefix_append _ _), h⟩

variable (oracle)

/-- The lines that an event adds to what the controller has printed. -/
theorem out_step (s : Net ι) (e : Event ι) {l : Line} (hl : l ∈ (step oracle m s e).ctl.out) :
    l ∈ s.ctl.out ∨ l ∈ Ctl.printed s.ctl (Ctl.poll (board oracle) s.ctl) ∨
      ∃ ch, l ∈ Ctl.printed s.ctl (Ctl.processInput (board oracle) ch s.ctl) := by
  have hsplit {t : Ctl Si4463} {news : List Line} (hout : t.out = s.ctl.out ++ news)
      (hmem : l ∈ t.out) : l ∈ s.ctl.out ∨ l ∈ Ctl.printed s.ctl t := by
    rw [Ctl.printed_of_append hout]
    rw [hout] at hmem
    exact List.mem_append.mp hmem
  have harrive (bytes : List UInt8) (reaches : Option ι → Bool) :
      (s.arrive bytes reaches).ctl.out = s.ctl.out := by
    unfold Net.arrive
    dsimp only
    split <;> rfl
  cases e with
  | control a =>
    cases a with
    | tick => exact .inl hl
    | poll =>
      obtain ⟨news, hout⟩ := Ctl.out_poll (board oracle) s.ctl
      rcases hsplit hout hl with h | h
      · exact .inl h
      · exact .inr (.inl h)
    | input ch =>
      rcases Ctl.reports_input (board oracle) ch s.ctl with ⟨news, hout, -⟩ | ⟨news, hout, -⟩ <;>
        rcases hsplit hout hl with h | h
      · exact .inl h
      · exact .inr (.inr ⟨ch, h⟩)
      · exact .inl h
      · exact .inr (.inr ⟨ch, h⟩)
    | check between inSend =>
      have hout := Ctl.out_check (board oracle) between inSend s.ctl
      exact .inl (hout ▸ hl)
  | client i ev => exact .inl hl
  | carry sender k reaches =>
    unfold step at hl
    dsimp only at hl
    split at hl
    · exact .inl hl
    · rw [harrive] at hl
      exact .inl hl
  | noise n reaches =>
    have hl : l ∈ (s.arrive n.toList reaches).ctl.out := hl
    rw [harrive] at hl
    exact .inl hl

/-- In every run, a report that the controller has printed is of its own status or is made of a
reply that a client has sent. -/
theorem reports_run (happ : ∀ i, (m i).app.LeavesRadio SameQueues) (eeprom : UInt16 → UInt8)
    (beyondData : UInt8) (events : List (Event ι)) (hnoise : ∀ e ∈ events, e.Detected)
    {chan node cmd : UInt8} {ticks : UInt16} {data : List UInt8}
    (hl : .report chan node ticks cmd data ∈
      (run (step oracle m) (start oracle m eeprom beyondData) events).ctl.out) :
    OwnStatus oracle m (start oracle m eeprom beyondData) events
        (.report chan node ticks cmd data) ∨
      (run (step oracle m) (start oracle m eeprom beyondData) events).MadeOfReply
        (.report chan node ticks cmd data) := by
  induction events using List.reverseRecOn with
  | nil =>
    rw [run_nil] at hl
    exact .inl (.inl (Ctl.reports_start (board oracle) _ eeprom beyondData hl))
  | append_singleton events e ih =>
    have hbefore : ∀ e ∈ events, e.Detected := fun e he ↦ hnoise e (List.mem_append_left _ he)
    have hgenuine := genuine_run oracle happ eeprom beyondData hbefore
    have hair := hgenuine.air_step oracle happ e
    rw [run_append, run_cons, run_nil] at hl ⊢
    rcases out_step oracle _ e hl with hold | hpoll | ⟨ch, hinput⟩
    · rcases ih hbefore hold with hown | hreply
      · exact .inl (hown.mono e)
      · exact .inr (hreply.mono hair)
    · exact .inr ((hgenuine.madeOfReply oracle hpoll).mono hair)
    · left
      rcases Ctl.reports_input (board oracle) ch _ with ⟨news, hout, hnews⟩ | ⟨news, hout, hnews⟩
      · rw [Ctl.printed_of_append hout] at hinput
        exact .inr ⟨events, List.prefix_append _ _, hnews _ _ _ _ _ hinput⟩
      · rw [Ctl.printed_of_append hout] at hinput
        exact .inl (hnews _ _ _ _ _ hinput)

/-! ### The messages of a run -/

/-- The message has the time and the data of a status response that a client has sent. -/
def FromClient (s : Net ι) (msg : List UInt8) : Prop :=
  ∃ i, ∃ f ∈ (s.cli i).dev.chip.air, ∃ q t, q.cmd = RADIO_STATUS_RESPONSE ∧
    f.2 = (Packet.stamp t q).frame ∧ ∃ chan node : UInt8,
      msg = responseJson chan.toNat node.toNat t.toNat
        (commaSeparated (q.data.toList.take q.len.toNat))

/-- The message is about a status of the controller while the radio's variables were `r`. -/
def StatusMessage (r : Radio) (msg : List UInt8) : Prop :=
  ∃ bv stype, msg = responseJson r.myChannel.toNat r.myNodeId.toNat r.msTicks.toNat
    (commaSeparated (stype :: Ctl.statusBytes r bv stype))

/-- They were so at some time of the run. -/
def FromController (m : ι → Member) (s₀ : Net ι) (events : List (Event ι)) (msg : List UInt8) :
    Prop :=
  StatusMessage .zero msg ∨
    ∃ pre, pre <+: events ∧ StatusMessage (run (step oracle m) s₀ pre).ctl.dev.radio msg

omit [DecidableEq ι] in
private theorem MadeOfReply.fromClient {s : Net ι} {l : Line} {msg : List UInt8}
    (h : s.MadeOfReply l)
    (hmsg : message l = some msg) : s.FromClient msg := by
  obtain ⟨i, f, hf, q, t, -, hframe, chan, node, rfl⟩ := h
  unfold message at hmsg
  dsimp only at hmsg
  split at hmsg
  · next hstatus =>
    cases hmsg
    exact ⟨i, f, hf, q, t, hstatus.2, hframe, chan, node, rfl⟩
  · cases hmsg

private theorem statusMessage_of_line {r : Radio} {l : Line} {msg : List UInt8}
    (h : Ctl.StatusLine r l)
    (hmsg : message l = some msg) : StatusMessage r msg := by
  obtain ⟨bv, stype, rfl⟩ := h
  unfold message at hmsg
  dsimp only at hmsg
  split at hmsg
  · cases hmsg
    exact ⟨bv, stype, rfl⟩
  · cases hmsg

/-- In every run of the network whose noise the checksum detects, and however lrmond reads the
serial line of the controller, if no channel letter in it is a NUL: every message that it publishes
has the time and the data of a status response that a client has sent, or is about a status that the
controller had in the run. -/
theorem published_has_source (happ : ∀ i, (m i).app.LeavesRadio SameQueues)
    (eeprom : UInt16 → UInt8) (beyondData : UInt8) (events : List (Event ι))
    (hnoise : ∀ e ∈ events, e.Detected) {bytes : List UInt8} {chunks : List (List UInt8)}
    (hwritten : Written
      (run (step oracle m) (start oracle m eeprom beyondData) events).ctl.out bytes)
    (hletter : ∀ l ∈ (run (step oracle m) (start oracle m eeprom beyondData) events).ctl.out,
      ∀ chan ∈ channelOf l, chan + chA ≠ 0)
    (hread : chunks.flatten <+: bytes) (hfit : Along Sio.processSio Sio.Fits Sio.init chunks) :
    ∀ msg ∈ (run Sio.processSio Sio.init chunks).passed.filterMap publishes,
      (run (step oracle m) (start oracle m eeprom beyondData) events).FromClient msg ∨
        FromController oracle m (start oracle m eeprom beyondData) events msg := by
  intro msg hmsg
  obtain ⟨hpre, -⟩ := hwritten.published_read hletter hread hfit
  obtain ⟨l, hl, hmessage⟩ := List.mem_filterMap.mp (hpre.subset hmsg)
  have hreport : ∃ chan node ticks cmd data, l = .report chan node ticks cmd data := by
    cases l with
    | reply code radioState => cases hmessage
    | report chan node ticks cmd data => exact ⟨chan, node, ticks, cmd, data, rfl⟩
    | eeprom chan node data => cases hmessage
  obtain ⟨chan, node, ticks, cmd, data, rfl⟩ := hreport
  rcases reports_run oracle happ eeprom beyondData events hnoise hl with
    (hown | ⟨pre, hpre, hown⟩) | hreply
  · exact .inr (.inl (statusMessage_of_line hown hmessage))
  · exact .inr (.inr ⟨pre, hpre, statusMessage_of_line hown hmessage⟩)
  · exact .inl (hreply.fromClient hmessage)

/-- The controller's radio is on channel 2 when the request for the status is sent. -/
def tunedChip : Nat → Outcome := fun n ↦ .done fun i ↦
  if i = 0 then SI4463_STATE_READY else if n = 42 then 2 else 64

/-- The sensor is asked for its status, and its response is printed. -/
def sensorReports : List (Event Unit) := sensorAsked ++ [.control .poll]

/-- The network then. -/
def sensorPrinted : Net Unit :=
  run (step tunedChip fun _ ↦ statusSensor) (start tunedChip (fun _ ↦ statusSensor) (fun _ ↦ 0) 0)
    sensorReports

/-- What the controller has written to the serial line then. -/
def sensorWritten : List UInt8 := sensorPrinted.ctl.out.flatMap fun l ↦ l.text ++ [chNewline]

/-- The response of the sensor is among the messages. -/
theorem published_has_source_sensor :
    sensorPrinted.ctl.out.getLast? = some (.report 2 2 0 RADIO_STATUS_RESPONSE [0, 0]) ∧
    ∀ msg ∈ (run Sio.processSio Sio.init [sensorWritten]).passed.filterMap publishes,
      sensorPrinted.FromClient msg ∨
        FromController tunedChip (fun _ ↦ statusSensor)
          (start tunedChip (fun _ ↦ statusSensor) (fun _ ↦ 0) 0) sensorReports msg := by
  have hwritten : Written sensorPrinted.ctl.out sensorWritten := written_lines _
  have hletter : ∀ l ∈ sensorPrinted.ctl.out, ∀ chan ∈ channelOf l, chan + chA ≠ 0 := by
    decide +kernel
  have hflat : [sensorWritten].flatten <+: sensorWritten := by simp
  have hfit : Along Sio.processSio Sio.Fits Sio.init [sensorWritten] :=
    ⟨⟨by decide +kernel, by decide +kernel⟩, trivial⟩
  have hlast : sensorPrinted.ctl.out.getLast? =
      some (.report 2 2 0 RADIO_STATUS_RESPONSE [0, 0]) := by decide +kernel
  unfold sensorPrinted at hwritten hletter
  exact ⟨hlast, published_has_source tunedChip (fun _ ↦ leavesRadio_statusSensor) (fun _ ↦ 0) 0
    sensorReports (by decide +kernel) hwritten hletter hflat hfit⟩

end Net
end Libradio
