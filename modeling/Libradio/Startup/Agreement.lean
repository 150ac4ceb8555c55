import Libradio.Startup.Tasks
import Libradio.Startup.Turns

/-!
# Start-up agreement

When lrmond is in `STATE_READY`, the controller is active and set up, as long as lrmond takes
no answer for another line's: it leaves a state by a success only after a line written in that
state has been answered with `<+`, and for channel 3 a later line than the first. Replies
carry no identification, so neither program can tell.
-/

namespace Libradio
open Libradio.Base

namespace Startup
open Lrmon

variable {σ : Type}

/-- The line that lrmond reads next does not mislead it. In a state that waits for a task, it
is no success before a line written in this state has been answered with `<+`, in
`STATE_ACTIVATE_CH3` a later line than the first, which sets channel 3 to EMPTY. In
`STATE_DREQUEST`, it is no status of node 1 unless the controller is active and has read the
lines written before this state. -/
structure Timely (w : World σ) (line : Line) : Prop where
  success : w.mon.state.task ≠ none → (readLine line.text).Succeeds →
    ∃ answer ∈ w.printed, answer.2.IsAck ∧
      ∃ n ∈ answer.1, w.entered ≤ n ∧ (w.mon.state = .activateCh (Fin.last 3) → w.entered < n)
  node : w.mon.state = .drequest → (readLine line.text).node = some 1 →
    w.ctl.dev.radio.state = LIBRADIO_STATE_ACTIVE ∧ w.entered ≤ w.done

/-- The event misleads neither program: lrmond reads a timely line, and no time slot fills the
channel that the controller is reading a line into. -/
def Clear (w : World σ) : Event → Prop
  | .receive _ => ∀ answer ∈ w.printed[w.heard]?, Timely w answer.2
  | .check between _ => ¬ w.ctl.SlotOverwrites between
  | .restart | .timer _ | .statusTimer | .deliver | .tick | .poll => True

instance (w : World σ) (line : Line) : Decidable (Timely w line) :=
  decidable_of_iff
    ((w.mon.state.task ≠ none → (readLine line.text).Succeeds →
        ∃ answer ∈ w.printed, answer.2.IsAck ∧
          ∃ n ∈ answer.1, w.entered ≤ n ∧
            (w.mon.state = .activateCh (Fin.last 3) → w.entered < n)) ∧
      (w.mon.state = .drequest → (readLine line.text).node = some 1 →
        w.ctl.dev.radio.state = LIBRADIO_STATE_ACTIVE ∧ w.entered ≤ w.done))
    ⟨fun h ↦ ⟨h.1, h.2⟩, fun h ↦ ⟨h.1, h.2⟩⟩

instance (w : World σ) : (e : Event) → Decidable (Clear w e)
  | .receive _ => inferInstanceAs (Decidable (∀ answer ∈ w.printed[w.heard]?, Timely w answer.2))
  | .check between _ => inferInstanceAs (Decidable (¬ w.ctl.SlotOverwrites between))
  | .restart | .timer _ | .statusTimer | .deliver | .tick | .poll => .isTrue trivial

/-- The line may have been written in the state, as the first one or later. -/
def Fits (st : MonState) (first : Prop) (r : Request) : Prop :=
  st = .unknown ∨ st = .sendReset ∨
    (r ≠ .reset ∧ ∀ t, r.task = some t → st.task = some t ∧ (r = .early → first))

/-- The invariant; `rs` are the lines that lrmond has written. -/
structure Inv (w : World σ) (rs : List Request) : Prop where
  lines : w.lines = rs.map Request.line
  reads : w.ctl.Reads (currentLine (w.reading.take w.column))
  place : w.done < w.lines.length ∨ w.column = 0
  up : IsUp w.ctl.dev.radio
  noWait : w.ctl.NoWait
  waits : w.mon.state.task ≠ none → w.mon.failureStatus ≠ 0
  asked : w.mon.state = .drequest → w.mon.responseReceived = 0
  fits : ∀ n r, rs[n]? = some r → w.entered ≤ n → Fits w.mon.state (n = w.entered) r
  held : ∀ t : Task, t.rank < w.mon.state.rank → t.Done w.lines w.ctl
  ahead : 0 < w.mon.state.rank → ∀ n r, rs[n]? = some r → w.done ≤ n →
    r ≠ .reset ∧ (r = .early → w.mon.state ≠ .ready)
  tags : ∀ n line, (some n, line) ∈ w.printed → n ≤ w.done ∧ n < w.lines.length
  acked : ∀ n line, (some n, line) ∈ w.printed → line.IsAck → w.entered ≤ n →
    ∀ t, w.mon.state.task = some t → (t = .channel 3 → w.entered < n) → t.Done w.lines w.ctl

/-! ### The controller's turns -/

private theorem Task.Done.mono {lines more : List (List UInt8)} {s : Ctl σ} {t : Task}
    (h : t.Done lines s) : t.Done (lines ++ more) s := by
  have hsent {p : Packet.Content} (hp : Sent lines p) : Sent (lines ++ more) p := by
    obtain ⟨l, hl, hw⟩ := hp
    exact ⟨l, List.mem_append_left _ hl, hw⟩
  cases t with
  | activate => exact h
  | time =>
    obtain ⟨p, hlast, hp⟩ := h
    exact ⟨p, hlast, hsent hp⟩
  | date =>
    obtain ⟨p, hlast, hp, hdate⟩ := h
    exact ⟨p, hlast, hsent hp, hdate⟩
  | channel i => exact h

/-- A turn of the controller in which it prints nothing and reads nothing. -/
theorem inv_of_unheard {w : World σ} {rs : List Request} (h : Inv w rs) {s' : Ctl σ}
    (reads : ∀ line, w.ctl.Reads line → s'.Reads line) (unheard : Ctl.Unheard w.ctl s')
    (hist : ∃ pre, s'.hist = pre ++ w.ctl.hist ∧ ∀ o ∈ pre, o.IsIdle) (noWait : s'.NoWait) :
    Inv (w.ctlTurn none s') rs := by
  have hturn : w.ctlTurn none s' = { w with ctl := s' } := by
    rw [World.ctlTurn, unheard.out, List.drop_length, List.map_nil, List.append_nil]
  rw [hturn]
  exact
    { lines := h.lines
      reads := reads _ h.reads
      place := h.place
      up := h.up.of_setup (congrArg Setup.state unheard.setup)
        (congrArg Setup.radioActive unheard.setup) (congrArg Setup.myNodeId unheard.setup)
      noWait := noWait
      waits := h.waits
      asked := h.asked
      fits := h.fits
      held := fun t ht ↦ (h.held t ht).of_idle unheard.setup hist
      ahead := h.ahead
      tags := h.tags
      acked := fun n line hup hack hn t ht hlt ↦
        (h.acked n line hup hack hn t ht hlt).of_idle unheard.setup hist }

/-- Only `STATE_READY` has all tasks behind it. -/
theorem eq_ready_of_rank {st : MonState} (h : (Task.channel 3).rank < st.rank) : st = .ready := by
  cases st with
  | ready => rfl
  | activateCh i =>
    simp only [Task.rank, MonState.rank] at h
    omega
  | _ => exact absurd h (by decide)

/-- The line that the controller reads. -/
theorem exists_reading {w : World σ} {rs : List Request} (h : Inv w rs) {ch : UInt8}
    (hch : w.reading[w.column]? = some ch) :
    ∃ r, rs[w.done]? = some r ∧ w.reading = r.line ∧ r.line ∈ w.lines := by
  have hlt : w.done < w.lines.length := by
    rcases h.place with hlt | hzero
    · exact hlt
    · refine Decidable.byContradiction fun hge ↦ ?_
      have hnil : w.reading = [] := by
        rw [World.reading, List.getD_eq_getElem?_getD,
          List.getElem?_eq_none (Nat.le_of_not_lt hge), Option.getD_none]
      rw [hnil] at hch
      cases hch
  have hlen : w.done < rs.length := by
    rw [h.lines, List.length_map] at hlt
    exact hlt
  have hget : w.lines[w.done]? = some rs[w.done].line := by
    rw [h.lines, List.getElem?_map, List.getElem?_eq_getElem hlen, Option.map_some]
  refine ⟨_, List.getElem?_eq_getElem hlen, ?_, List.mem_of_getElem? hget⟩
  rw [World.reading, List.getD_eq_getElem?_getD, hget, Option.getD_some]

/-- Lines written later do not change what has been read. -/
theorem reading_append {w : World σ} (h : w.done < w.lines.length ∨ w.column = 0)
    (more : List (List UInt8)) :
    ({ w with lines := w.lines ++ more } : World σ).reading.take w.column =
      w.reading.take w.column := by
  rcases h with hlt | hzero
  · simp only [World.reading, List.getD_eq_getElem?_getD, List.getElem?_append_left hlt]
  · rw [hzero, List.take_zero, List.take_zero]

/-- A line ends with its line end. -/
theorem currentLine_line (r : Request) : currentLine r.line = [] := by
  have hline : r.line = r.text ++ [chReturn] ++ [chNewline] := by
    rw [List.append_assoc]
    rfl
  rw [hline, currentLine_concat, nextLine, if_pos (.inl rfl)]

/-- No line of lrmond's is a STATUS command. -/
theorem cmd_ne_status {r : Request} {l : CommandLine} (h : r.command = some l)
    {p : Packet.Content} (hw : l.Writes p) : p.cmd ≠ RADIO_CMD_STATUS := by
  have hcmd : ∀ c, p.cmd = c → c ≠ RADIO_CMD_STATUS → p.cmd ≠ RADIO_CMD_STATUS :=
    fun c hc hne hst ↦ hne (hc.symm.trans hst)
  cases asks_of_writes h (p := ⟨0, p.node, p.cmd, p.len, 0, p.data⟩) hw with
  | activate eq node cmd len data => exact hcmd _ cmd (by decide)
  | time task node cmd len => exact hcmd _ cmd (by decide)
  | date task node cmd len => exact hcmd _ cmd (by decide)
  | channel i config task node cmd len of value => exact hcmd _ cmd (by decide)

/-- The tasks behind lrmond stay done while the controller reads. -/
theorem held_deliver {b : Board σ} {w : World σ} {rs : List Request} (h : Inv w rs)
    {r : Request} (hr : rs[w.done]? = some r) (hmem : r.line ∈ w.lines) {s' : Ctl σ}
    (htaken : Taken b r w.ctl s') {t : Task} (ht : t.rank < w.mon.state.rank) :
    t.Done w.lines s' := by
  have hrank : 0 < w.mon.state.rank := by omega
  obtain ⟨hreset, hearly⟩ := h.ahead hrank w.done r hr (Nat.le_refl _)
  refine done_of_taken htaken hmem hreset h.up (h.held .activate hrank) (fun he ↦ ?_)
    (h.held t ht)
  rintro rfl
  exact hearly he (eq_ready_of_rank ht)

/-- A task that was answered in time stays done while the controller reads. -/
theorem acked_deliver {b : Board σ} {w : World σ} {rs : List Request} (h : Inv w rs)
    {r : Request} (hr : rs[w.done]? = some r) (hmem : r.line ∈ w.lines) {s' : Ctl σ}
    (htaken : Taken b r w.ctl s') {n : Nat} (hn : w.entered ≤ n) (hdone : n ≤ w.done) {t : Task}
    (ht : w.mon.state.task = some t) (hlt : t = .channel 3 → w.entered < n)
    (hold : t.Done w.lines w.ctl) : t.Done w.lines s' := by
  have hfits := h.fits w.done r hr (Nat.le_trans hn hdone)
  obtain ⟨hreset, htask⟩ : r ≠ .reset ∧ ∀ t, r.task = some t →
      w.mon.state.task = some t ∧ (r = .early → w.done = w.entered) := by
    rcases hfits with hst | hst | hfits
    · rw [hst] at ht
      cases ht
    · rw [hst] at ht
      cases ht
    · exact hfits
  have hactive : Task.activate.Done w.lines w.ctl := by
    by_cases hact : t = .activate
    · rw [← hact]
      exact hold
    · refine h.held .activate ?_
      rw [rank_of_task ht]
      refine Nat.pos_of_ne_zero fun hzero ↦ hact (Task.rank_inj hzero)
  refine done_of_taken htaken hmem hreset h.up hactive (fun he hthree ↦ ?_) hold
  have hfirst := (htask (.channel 3) (by rw [he]; rfl)).2 he
  have := hlt hthree
  omega

/-- A task that is answered while lrmond waits for it is done. -/
theorem acked_taken {b : Board σ} {w : World σ} {rs : List Request} (h : Inv w rs)
    {r : Request} (hr : rs[w.done]? = some r) (hmem : r.line ∈ w.lines) {s' : Ctl σ}
    (htaken : Taken b r w.ctl s') {line : Line} (hline : line ∈ Ctl.printed w.ctl s')
    (hack : line.IsAck) (hn : w.entered ≤ w.done) {t : Task} (ht : w.mon.state.task = some t)
    (hlt : t = .channel 3 → w.entered < w.done) : t.Done w.lines s' := by
  obtain ⟨task, htask, hdone⟩ := done_of_ack htaken ⟨line, hline, hack⟩ hmem h.up
  have hfits : ∀ t, r.task = some t →
      w.mon.state.task = some t ∧ (r = .early → w.done = w.entered) := by
    rcases h.fits w.done r hr hn with hst | hst | hfits
    · rw [hst] at ht
      cases ht
    · rw [hst] at ht
      cases ht
    · exact hfits.2
  obtain ⟨hwaits, hfirst⟩ := hfits task htask
  cases ht.symm.trans hwaits
  refine hdone (fun hne ↦ h.held .activate ?_) fun he ↦ ?_
  · rw [rank_of_task ht]
    exact Nat.pos_of_ne_zero fun hzero ↦ hne (Task.rank_inj hzero)
  · rw [he] at htask
    cases htask
    have := hlt rfl
    have := hfirst he
    omega

section Advance

variable (w : World σ)

/-- Getting on leaves lrmond alone. -/
@[simp] theorem mon_advance : w.advance.mon = w.mon := by
  unfold World.advance
  split <;> rfl

/-- It leaves the controller alone. -/
@[simp] theorem ctl_advance : w.advance.ctl = w.ctl := by
  unfold World.advance
  split <;> rfl

/-- It leaves the lines alone. -/
@[simp] theorem lines_advance : w.advance.lines = w.lines := by
  unfold World.advance
  split <;> rfl

/-- It leaves what was printed alone. -/
@[simp] theorem printed_advance : w.advance.printed = w.printed := by
  unfold World.advance
  split <;> rfl

/-- It enters nothing. -/
@[simp] theorem entered_advance : w.advance.entered = w.entered := by
  unfold World.advance
  split <;> rfl

private theorem done_le_advance : w.done ≤ w.advance.done := by
  unfold World.advance
  split
  · exact Nat.le_refl _
  · exact Nat.le_succ _

end Advance

/-- The controller has read a byte. -/
theorem reads_advance {w : World σ} {r : Request} (hline : w.reading = r.line) {ch : UInt8}
    (hch : w.reading[w.column]? = some ch) (hlt : w.done < w.lines.length)
    (hreads : w.ctl.Reads (nextLine (currentLine (w.reading.take w.column)) ch)) :
    w.advance.ctl.Reads (currentLine (w.advance.reading.take w.advance.column)) ∧
      (w.advance.done < w.advance.lines.length ∨ w.advance.column = 0) := by
  obtain ⟨hcol, hget⟩ := List.getElem?_eq_some_iff.mp hch
  have htake : w.reading.take (w.column + 1) = w.reading.take w.column ++ [ch] := by
    rw [List.take_succ_eq_append_getElem hcol, hget]
  rw [← currentLine_concat, ← htake] at hreads
  unfold World.advance
  split
  · exact ⟨hreads, .inl hlt⟩
  · next hlast =>
    rw [List.take_of_length_le (Nat.le_of_not_lt hlast), hline, currentLine_line] at hreads
    exact ⟨hreads, .inr rfl⟩

/-- The controller reads a byte. -/
theorem inv_deliver (b : Board σ) {w : World σ} {rs : List Request} (h : Inv w rs) :
    Inv (deliver b w) rs := by
  unfold deliver
  split
  · exact h
  · next ch hch =>
    obtain ⟨r, hr, hline, hmem⟩ := exists_reading h hch
    have hlt : w.done < w.lines.length := by
      rw [h.lines, List.length_map]
      exact (List.getElem?_eq_some_iff.mp hr).1
    have hreads := h.reads
    have hch' : r.line[w.column]? = some ch := hline ▸ hch
    have htaken : Taken b r w.ctl (Ctl.step b w.ctl (.input ch)) :=
      taken_processInput b hch' (hline ▸ hreads)
    have hnext : (Ctl.step b w.ctl (.input ch)).Reads
        (nextLine (currentLine (w.reading.take w.column)) ch) :=
      Ctl.reads_processInput b ch hreads
    have hnoWait : (Ctl.step b w.ctl (.input ch)).NoWait :=
      Ctl.noWait_step b h.noWait fun ch' hact c p hp ↦ by
        cases hact
        obtain ⟨l, hl, -, hw⟩ := Request.command_of_completed hch' (hline ▸ hreads) hp
        exact cmd_ne_status hl hw
    generalize Ctl.step b w.ctl (.input ch) = s' at htaken hnext hnoWait ⊢
    obtain ⟨hreads', hplace⟩ := reads_advance (w := w.ctlTurn (some w.done) s') hline hch hlt hnext
    have hprinted : (w.ctlTurn (some w.done) s').printed =
        w.printed ++ (Ctl.printed w.ctl s').map fun line ↦ (some w.done, line) := rfl
    have hdone := done_le_advance (w.ctlTurn (some w.done) s')
    -- a printed line is an old one, or has just been printed for this line
    have hanswer {n : Nat} {line : Line} (hmem : (some n, line) ∈
        (w.ctlTurn (some w.done) s').advance.printed) :
        (some n, line) ∈ w.printed ∨ (n = w.done ∧ line ∈ Ctl.printed w.ctl s') := by
      rw [printed_advance, hprinted, List.mem_append, List.mem_map] at hmem
      refine hmem.imp_right ?_
      rintro ⟨line', hline', heq⟩
      cases heq
      exact ⟨rfl, hline'⟩
    refine
      { lines := by rw [lines_advance]; exact h.lines
        reads := hreads'
        place := hplace
        up := by rw [ctl_advance]; exact isUp_of_taken htaken h.up
        noWait := by rw [ctl_advance]; exact hnoWait
        waits := by rw [mon_advance]; exact h.waits
        asked := by rw [mon_advance]; exact h.asked
        fits := by rw [mon_advance, entered_advance]; exact h.fits
        held := fun t ht ↦ ?_
        ahead := ?_
        tags := fun n line hn ↦ ?_
        acked := fun n line hn hack hle t ht hfirst ↦ ?_ }
    · rw [mon_advance] at ht
      rw [lines_advance, ctl_advance]
      exact held_deliver h hr hmem htaken ht
    · rw [mon_advance]
      exact fun hrank n r hr hn ↦ h.ahead hrank n r hr (Nat.le_trans hdone hn)
    · rw [lines_advance]
      rcases hanswer hn with hold | ⟨rfl, -⟩
      · exact ⟨Nat.le_trans (h.tags n line hold).1 hdone, (h.tags n line hold).2⟩
      · exact ⟨hdone, hlt⟩
    · rw [mon_advance] at ht
      rw [entered_advance] at hle hfirst
      rw [lines_advance, ctl_advance]
      rcases hanswer hn with hold | ⟨rfl, hnew⟩
      · exact acked_deliver h hr hmem htaken hle (h.tags n line hold).1 ht hfirst
          (h.acked n line hold hack hle t ht hfirst)
      · exact acked_taken h hr hmem htaken hnew hack hle ht hfirst

/-! ### The turns of lrmond -/

/-- A line that fits a state with tasks behind it undoes none of them. -/
theorem ahead_of_fits {st : MonState} {first : Prop} {r : Request} (h : Fits st first r)
    (hrank : 0 < st.rank) : r ≠ .reset ∧ (r = .early → st ≠ .ready) := by
  rcases h with rfl | rfl | ⟨hreset, htask⟩
  · exact absurd hrank (by decide)
  · exact absurd hrank (by decide)
  · refine ⟨hreset, ?_⟩
    rintro rfl rfl
    cases (htask (.channel 3) rfl).1

/-- The lines written so far and the new ones. -/
theorem getElem?_written {rs new : List Request} {n : Nat} {r : Request}
    (h : (rs ++ new)[n]? = some r) :
    rs[n]? = some r ∨ (rs.length ≤ n ∧ r ∈ new ∧ (new.length ≤ 1 → n = rs.length)) := by
  by_cases hlt : n < rs.length
  · rw [List.getElem?_append_left hlt] at h
    exact .inl h
  · rw [List.getElem?_append_right (Nat.le_of_not_lt hlt)] at h
    have hlen := (List.getElem?_eq_some_iff.mp h).1
    exact .inr ⟨Nat.le_of_not_lt hlt, List.mem_of_getElem? h, fun hfew ↦ by omega⟩

private theorem lines_written {w : World σ} {rs : List Request} (h : w.lines = rs.map Request.line)
    (new : List Request) :
    w.lines ++ (new.map Request.text).map sioSend = (rs ++ new).map Request.line := by
  rw [h, List.map_append, List.map_map]
  rfl

/-- lrmond stays in its state. -/
theorem inv_of_stays {w : World σ} {rs : List Request} (h : Inv w rs) (new : List Request)
    {m : Monitor}
    (hst : m.state = w.mon.state) (waits : m.state.task ≠ none → m.failureStatus ≠ 0)
    (asked : m.state = .drequest → m.responseReceived = 0)
    (hnew : ∀ r ∈ new, r ≠ .early ∧ Fits m.state False r) :
    Inv (w.monTurn (m, new.map Request.text)) (rs ++ new) := by
  have hturn : w.monTurn (m, new.map Request.text) =
      { w with mon := m, lines := w.lines ++ (new.map Request.text).map sioSend } := by
    rw [World.monTurn, if_pos hst]
  have hlines := lines_written h.lines new
  rw [hturn]
  refine
    { lines := hlines
      reads := ?_
      place := h.place.imp_left fun hlt ↦ ?_
      up := h.up
      noWait := h.noWait
      waits := waits
      asked := asked
      fits := fun n r hr hn ↦ ?_
      held := fun t ht ↦ (h.held t (hst ▸ ht)).mono
      ahead := fun hrank n r hr hn ↦ ?_
      tags := fun n line hup ↦ ?_
      acked := fun n line hup hack hn t ht hlt ↦
        (h.acked n line hup hack hn t (hst ▸ ht) hlt).mono }
  · have hreading := reading_append h.place ((new.map Request.text).map sioSend)
    dsimp only [World.reading] at hreading ⊢
    rw [hreading]
    exact h.reads
  · dsimp only
    rw [List.length_append]
    omega
  · rcases getElem?_written hr with hold | ⟨-, hmem, -⟩
    · exact hst ▸ h.fits n r hold hn
    · obtain ⟨hearly, hfits⟩ := hnew r hmem
      exact hfits.imp_right (Or.imp_right fun ⟨hreset, htask⟩ ↦
        ⟨hreset, fun t ht ↦ ⟨(htask t ht).1, fun he ↦ absurd he hearly⟩⟩)
  · rcases getElem?_written hr with hold | ⟨-, hmem, -⟩
    · exact hst ▸ h.ahead (hst ▸ hrank) n r hold hn
    · exact ahead_of_fits (hnew r hmem).2 hrank
  · refine ⟨(h.tags n line hup).1, Nat.lt_of_lt_of_le (h.tags n line hup).2 ?_⟩
    dsimp only
    rw [List.length_append]
    exact Nat.le_add_right _ _

/-- lrmond goes to another state, with at most one line for it. -/
theorem inv_of_moves {w : World σ} {rs : List Request} (h : Inv w rs) (new : List Request)
    {m : Monitor}
    (hst : m.state ≠ w.mon.state) (waits : m.state.task ≠ none → m.failureStatus ≠ 0)
    (asked : m.state = .drequest → m.responseReceived = 0) (few : new.length ≤ 1)
    (hnew : ∀ r ∈ new, Fits m.state True r)
    (held : ∀ t : Task, t.rank < m.state.rank → t.Done w.lines w.ctl)
    (ahead : 0 < m.state.rank → ∀ n r, rs[n]? = some r → w.done ≤ n →
      r ≠ .reset ∧ (r = .early → m.state ≠ .ready)) :
    Inv (w.monTurn (m, new.map Request.text)) (rs ++ new) := by
  have hturn : w.monTurn (m, new.map Request.text) =
      { w with
        mon := m
        lines := w.lines ++ (new.map Request.text).map sioSend
        entered := w.lines.length } := by
    rw [World.monTurn, if_neg hst]
  have hlines := lines_written h.lines new
  have hlen : w.lines.length = rs.length := by rw [h.lines, List.length_map]
  rw [hturn]
  refine
    { lines := hlines
      reads := ?_
      place := h.place.imp_left fun hlt ↦ ?_
      up := h.up
      noWait := h.noWait
      waits := waits
      asked := asked
      fits := fun n r hr hn ↦ ?_
      held := fun t ht ↦ (held t ht).mono
      ahead := fun hrank n r hr hn ↦ ?_
      tags := fun n line hup ↦ ?_
      acked := fun n line hup hack hn t ht hlt ↦ ?_ }
  · have hreading := reading_append h.place ((new.map Request.text).map sioSend)
    dsimp only [World.reading] at hreading ⊢
    rw [hreading]
    exact h.reads
  · dsimp only
    rw [List.length_append]
    omega
  · rcases getElem?_written hr with hold | ⟨-, hmem, hfirst⟩
    · have := (List.getElem?_eq_some_iff.mp hold).1
      dsimp only at hn
      omega
    · exact (hnew r hmem).imp_right (Or.imp_right fun ⟨hreset, htask⟩ ↦
        ⟨hreset, fun t ht ↦ ⟨(htask t ht).1, fun _ ↦ (hfirst few).trans hlen.symm⟩⟩)
  · rcases getElem?_written hr with hold | ⟨-, hmem, -⟩
    · exact ahead hrank n r hold hn
    · exact ahead_of_fits (hnew r hmem) hrank
  · refine ⟨(h.tags n line hup).1, Nat.lt_of_lt_of_le (h.tags n line hup).2 ?_⟩
    dsimp only
    rw [List.length_append]
    exact Nat.le_add_right _ _
  -- every line printed so far was printed for an older line
  · have := (h.tags n line hup).2
    dsimp only at hn
    omega

/-- No line that the controller has still to finish undoes the tasks in `done`. -/
def Spares (w : World σ) (rs : List Request) (done : Task → Prop) : Prop :=
  ∀ n r, rs[n]? = some r → w.done ≤ n → r ≠ .reset ∧ (r = .early → ¬ done (.channel (Fin.last 3)))

/-- A turn of lrmond, if the task that it takes to be done is done. -/
theorem inv_of_turned {w : World σ} {rs new : List Request} (h : Inv w rs) {m₀ m : Monitor}
    (hturned : Turned m₀ m new) (hst : m₀.state = w.mon.state)
    (success : ∀ t, w.mon.state.task = some t → m₀.failureStatus = 0 →
      t.Done w.lines w.ctl ∧ Spares w rs (· = t))
    (skip : w.mon.state = .drequest → m₀.responseReceived ≠ 0 → m₀.responseNode = 1 →
      Task.activate.Done w.lines w.ctl ∧ Spares w rs (· = .activate)) :
    Inv (w.monTurn (m, new.map Request.text)) (rs ++ new) := by
  cases hturned with
  | ready before after sent =>
    subst sent
    refine inv_of_stays h _ (after.trans (before.symm.trans hst)) ?_ ?_ nofun
    · rw [after]
      exact fun hne ↦ absurd rfl hne
    · rw [after]
      exact nofun
  | gaveUp after sent =>
    subst sent
    have hwaits : m.state.task ≠ none → m.failureStatus ≠ 0 := by
      rw [after]
      exact fun hne ↦ absurd rfl hne
    have hasked : m.state = .drequest → m.responseReceived = 0 := by
      rw [after]
      exact nofun
    have hrank : m.state.rank = 0 := by rw [after]; rfl
    by_cases hsame : m.state = w.mon.state
    · refine inv_of_stays h _ hsame hwaits hasked fun r hr ↦ ?_
      rw [List.mem_singleton.mp hr]
      exact ⟨nofun, .inl after⟩
    · refine inv_of_moves h _ hsame hwaits hasked (Nat.le_refl _) (fun r _ ↦ .inl after) ?_ ?_
      · exact fun t ht ↦ absurd ht (by omega)
      · exact fun hpos ↦ absurd hpos (by omega)
  | asked after received dynamic sent =>
    subst sent
    have hnone : m.state.task = none ∧ m.state.rank = 0 := by
      rcases after with after | after <;> rw [after] <;> exact ⟨rfl, rfl⟩
    have hwaits : m.state.task ≠ none → m.failureStatus ≠ 0 := fun hne ↦ absurd hnone.1 hne
    have hfits (first : Prop) : Fits m.state first (.status dynamic) :=
      .inr (.inr ⟨nofun, nofun⟩)
    by_cases hsame : m.state = w.mon.state
    · refine inv_of_stays h _ hsame hwaits (fun _ ↦ received) fun r hr ↦ ?_
      rw [List.mem_singleton.mp hr]
      exact ⟨nofun, hfits False⟩
    · refine inv_of_moves h _ hsame hwaits (fun _ ↦ received) (Nat.le_refl _) (fun r hr ↦ ?_) ?_ ?_
      · rw [List.mem_singleton.mp hr]
        exact hfits True
      · exact fun t ht ↦ absurd ht (by omega)
      · exact fun hpos ↦ absurd hpos (by omega)
  | begun before received after waits sent =>
    subst sent
    have hrank : m.state.rank = 0 := by rw [after]; rfl
    refine inv_of_moves h _ ?_ (fun _ ↦ waits) ?_ (Nat.le_refl _) (fun r hr ↦ ?_) ?_ ?_
    · rw [after, ← hst, before]
      exact nofun
    · rw [after]
      exact nofun
    · rw [List.mem_singleton.mp hr, after]
      exact .inr (.inr ⟨nofun, fun t ht ↦ ⟨ht, nofun⟩⟩)
    · exact fun t ht ↦ absurd ht (by omega)
    · exact fun hpos ↦ absurd hpos (by omega)
  | skipped before received node after waits few sent =>
    obtain ⟨hdone, hspares⟩ := skip (hst.symm.trans before) received node
    have hrank : m.state.rank = 1 := by rw [after]; rfl
    refine inv_of_moves h _ ?_ (fun _ ↦ waits) ?_ few (fun r hr ↦ ?_) (fun t ht ↦ ?_)
      fun _ n r hr hn ↦ ?_
    · rw [after, ← hst, before]
      exact nofun
    · rw [after]
      exact nofun
    · refine .inr (.inr ⟨?_, fun t ht ↦ ⟨?_, fun _ ↦ trivial⟩⟩)
      · rintro rfl
        cases sent _ hr
      · rw [after, ← ht, sent r hr]
        rfl
    · have hzero : t.rank = Task.activate.rank := Nat.lt_one_iff.mp (hrank ▸ ht)
      rw [Task.rank_inj hzero]
      exact hdone
    · refine ⟨(hspares n r hr hn).1, fun _ ↦ ?_⟩
      rw [after]
      exact nofun
  | repeated t before after waits sent =>
    have htask : m.state.task = some t := by rw [after, before]
    refine inv_of_stays h _ (after.trans hst) (fun _ ↦ waits) ?_ fun r hr ↦ ?_
    · intro hdrequest
      rw [hdrequest] at htask
      cases htask
    · obtain ⟨hr, hearly⟩ := sent r hr
      refine ⟨hearly, .inr (.inr ⟨?_, fun t' ht' ↦ ⟨?_, fun he ↦ absurd he hearly⟩⟩)⟩
      · rintro rfl
        cases hr
      · rw [htask, ← hr, ht']
  | advanced t before success' after task waits few sent =>
    obtain ⟨hdone, hspares⟩ := success t (hst ▸ before) success'
    have hrank : w.mon.state.rank = t.rank := rank_of_task (hst ▸ before)
    refine inv_of_moves h _ ?_ ?_ ?_ few (fun r hr ↦ ?_) (fun t' ht' ↦ ?_) fun _ n r hr hn ↦ ?_
    · intro hsame
      rw [hsame] at after
      omega
    · intro hne
      refine waits fun hready ↦ hne ?_
      rw [hready]
      rfl
    · intro hdrequest
      rw [hdrequest] at after
      exact absurd after (by simp [MonState.rank])
    · obtain ⟨hreset, hr⟩ := sent r hr
      refine .inr (.inr ⟨hreset, fun t' ht' ↦ ⟨?_, fun _ ↦ trivial⟩⟩)
      rcases hr with hr | hr
      · rw [ht'] at hr
        cases hr
      · rw [← hr, ht']
    · by_cases hlast : t'.rank = t.rank
      · rw [Task.rank_inj hlast]
        exact hdone
      · exact h.held t' (by omega)
    · obtain ⟨hreset, hearly⟩ := hspares n r hr hn
      refine ⟨hreset, fun he hready ↦ hearly he ?_⟩
      rw [hready] at after
      exact Task.rank_inj (Nat.succ.inj after)

/-- lrmond reads a timely line. -/
theorem inv_receive (clock : HostClock) {w : World σ} {rs : List Request} (h : Inv w rs)
    (hclear : Clear w (.receive clock)) : ∃ rs', Inv (receive clock w) rs' := by
  unfold receive
  rcases hread : w.printed[w.heard]? with _ | ⟨tag, line⟩
  · exact ⟨rs, h⟩
  · obtain ⟨hsuccess, hnode⟩ := hclear (tag, line) (by rw [hread]; rfl)
    have hrest : Inv { w with heard := w.heard + 1 } rs :=
      { lines := h.lines, reads := h.reads, place := h.place, up := h.up, noWait := h.noWait
        waits := h.waits, asked := h.asked, fits := h.fits, held := h.held, ahead := h.ahead
        tags := h.tags, acked := h.acked }
    dsimp only at hsuccess hnode ⊢
    rcases parseData_cases clock line.text w.mon with hsame | ⟨m₀, heq, hst, hfs, hreceived⟩
    · rw [hsame]
      exact ⟨rs ++ [], inv_of_stays hrest [] rfl h.waits h.asked nofun⟩
    · obtain ⟨new, htext, hturned⟩ := turned_stateMachine clock m₀
      refine ⟨rs ++ new, ?_⟩
      rw [heq, ← Prod.eta (stateMachine clock m₀), htext]
      refine inv_of_turned hrest hturned hst (fun t ht hzero ↦ ?_) fun hst' hrec hone ↦ ?_
      · dsimp only at ht
        obtain ⟨⟨tag', line'⟩, hmem, hack, n, htag, hle, hfirst⟩ := hsuccess (by
          rw [ht]
          exact nofun) (hfs hzero)
        cases htag
        have hthree : t = .channel 3 → w.mon.state = .activateCh 3 := by
          rintro rfl
          cases hstate : w.mon.state <;> rw [hstate] at ht <;> cases ht
          rfl
        refine ⟨h.acked n line' hmem hack hle t ht fun ht3 ↦ hfirst (hthree ht3),
          fun k r hr hk ↦ ?_⟩
        -- a line that is still to be read was not written before the one that was answered
        have hnk : n ≤ k := Nat.le_trans (h.tags n line' hmem).1 hk
        rcases h.fits k r hr (Nat.le_trans hle hnk) with hbad | hbad | ⟨hreset, htask⟩
        · rw [hbad] at ht
          cases ht
        · rw [hbad] at ht
          cases ht
        · refine ⟨hreset, fun he ht3 ↦ ?_⟩
          have hk' := (htask (.channel 3) (by rw [he]; rfl)).2 he
          have := hfirst (hthree ht3.symm)
          omega
      · dsimp only at hst'
        obtain ⟨hactive, hle⟩ := hnode hst' (by
          rcases hreceived with hsame | hn
          · exact absurd (hsame.trans (h.asked hst')) hrec
          · rw [hn, hone])
        refine ⟨hactive, fun k r hr hk ↦ ?_⟩
        rcases h.fits k r hr (Nat.le_trans hle hk) with hbad | hbad | ⟨hreset, -⟩
        · rw [hbad] at hst'
          cases hst'
        · rw [hbad] at hst'
          cases hst'
        · exact ⟨hreset, fun _ hthree ↦ by cases hthree⟩

/-- The timer of `state_machine` expires: nothing has been heard. -/
theorem inv_timer (clock : HostClock) {w : World σ} {rs : List Request} (h : Inv w rs) :
    ∃ rs', Inv (w.monTurn (stateMachine clock w.mon)) rs' := by
  obtain ⟨new, htext, hturned⟩ := turned_stateMachine clock w.mon
  refine ⟨rs ++ new, ?_⟩
  rw [← Prod.eta (stateMachine clock w.mon), htext]
  refine inv_of_turned h hturned rfl (fun t ht hzero ↦ ?_) fun hst hrec ↦ ?_
  · refine absurd hzero (h.waits ?_)
    rw [ht]
    exact nofun
  · exact absurd (h.asked hst) hrec

/-- lrmond starts anew. -/
theorem inv_restart {w : World σ} {rs : List Request} (h : Inv w rs) :
    Inv (restart w) (rs ++ [.bootstrap]) := by
  have hlines : w.lines ++ [bootstrap] = (rs ++ [Request.bootstrap]).map Request.line :=
    lines_written h.lines [Request.bootstrap]
  refine
    { lines := hlines
      reads := ?_
      place := h.place.imp_left fun hlt ↦ ?_
      up := h.up
      noWait := h.noWait
      waits := fun hne ↦ absurd rfl hne
      asked := nofun
      fits := fun n r hr hn ↦ .inl rfl
      held := fun t ht ↦ absurd ht (Nat.not_lt_zero _)
      ahead := fun hrank ↦ absurd hrank (Nat.lt_irrefl 0)
      tags := fun n line hup ↦ ?_
      acked := fun n line hup hack hn t ht ↦ nomatch ht }
  · have hreading := reading_append h.place [bootstrap]
    dsimp only [World.reading, restart, World.write] at hreading ⊢
    rw [hreading]
    exact h.reads
  · dsimp only [restart, World.write]
    rw [List.length_append]
    omega
  · refine ⟨(h.tags n line hup).1, Nat.lt_of_lt_of_le (h.tags n line hup).2 ?_⟩
    dsimp only [restart, World.write]
    rw [List.length_append]
    exact Nat.le_add_right _ _

/-- A part of the controller's loop that reads no character. -/
theorem inv_act (b : Board σ) {w : World σ} {rs : List Request} (h : Inv w rs) {a : Ctl.Act}
    (ha : a = .tick ∨ a = .poll ∨ ∃ between inSend, a = .check between inSend ∧
      ¬ w.ctl.SlotOverwrites between) :
    Inv (w.ctlTurn none (Ctl.step b w.ctl a)) rs := by
  have hnoWait : (Ctl.step b w.ctl a).NoWait :=
    Ctl.noWait_step b h.noWait fun ch hact ↦ by
      rcases ha with rfl | rfl | ⟨between, inSend, rfl, -⟩ <;> cases hact
  rcases ha with rfl | rfl | ⟨between, inSend, rfl, hslot⟩
  · have halike := Ctl.alike_tick b w.ctl
    refine inv_of_unheard h (fun line hreads ↦ ?_) (Ctl.unheard_tick b w.ctl)
      ⟨[], halike.hist, nofun⟩ hnoWait
    exact hreads.of_same ⟨halike.state, halike.value, halike.currChp⟩ fun _ ↦ by
      rw [halike.chan]
  · have hsame : Ctl.step b w.ctl .poll = w.ctl := by
      rw [Ctl.step, Ctl.poll, h.noWait.respChp]
    rw [hsame]
    exact inv_of_unheard h (fun _ hreads ↦ hreads) (.refl _) ⟨[], rfl, nofun⟩ h.noWait
  · refine inv_of_unheard h (fun line hreads ↦ Ctl.reads_check b hreads hslot)
      (Ctl.unheard_check b between inSend ?_) (Ctl.hist_check b between inSend w.ctl) hnoWait
    exact h.up.imp_right Ctl.IsActive.radioActive

/-- Every clear event keeps the invariant. -/
theorem inv_step (b : Board σ) (w : World σ) (e : Event) (h : ∃ rs, Inv w rs)
    (hclear : Clear w e) : ∃ rs, Inv (step b w e) rs := by
  obtain ⟨rs, h⟩ := h
  cases e with
  | restart => exact ⟨_, inv_restart h⟩
  | timer clock =>
    unfold step
    dsimp only
    split
    · exact ⟨rs, h⟩
    · exact inv_timer clock h
  | statusTimer =>
    unfold step
    dsimp only
    split
    · exact ⟨rs, h⟩
    · have hturn : dynamicStatusTimer w.mon =
          ({ w.mon with statusTimer := some 300 }, [Request.status true].map Request.text) := rfl
      rw [hturn]
      refine ⟨rs ++ [.status true], inv_of_stays h [.status true] ?_ ?_ ?_ fun r hr ↦ ?_⟩
      · rfl
      · exact h.waits
      · exact h.asked
      · rw [List.mem_singleton.mp hr]
        exact ⟨nofun, .inr (.inr ⟨nofun, nofun⟩)⟩
  | receive clock => exact inv_receive clock h hclear
  | deliver => exact ⟨rs, inv_deliver b h⟩
  | tick => exact ⟨rs, inv_act b h (.inl rfl)⟩
  | poll => exact ⟨rs, inv_act b h (.inr (.inl rfl))⟩
  | check between inSend => exact ⟨rs, inv_act b h (.inr (.inr ⟨between, inSend, rfl, hclear⟩))⟩

/-- Both programs have been started. -/
theorem inv_initial (b : Board σ) (chip : σ) (eeprom : UInt16 → UInt8) (beyondData : UInt8) :
    ∃ rs, Inv (initial b chip eeprom beyondData) rs := by
  have hchan := Ctl.chan_start b chip eeprom beyondData
  have hstate : (Ctl.start b chip eeprom beyondData).state = .newline := rfl
  have hwarm : (Ctl.start b chip eeprom beyondData).dev.radio.state = LIBRADIO_STATE_WARM :=
    state_libradioSetState _ _
  unfold initial
  dsimp only
  generalize Ctl.start b chip eeprom beyondData = ctl at hchan hstate hwarm ⊢
  refine ⟨[] ++ [.bootstrap], inv_restart ?_⟩
  exact
    { lines := rfl
      reads := by
        rw [Ctl.Reads, hstate]
        exact Requests.nil
      place := .inr rfl
      up := .inl (by rw [hwarm]; decide)
      noWait := fun d ↦
        ⟨by rw [(hchan d).2.1]; exact (Option.some_ne_none d).symm, by rw [(hchan d).1]; decide⟩
      waits := fun hne ↦ absurd rfl hne
      asked := fun hst ↦ by cases hst
      fits := fun n r hr ↦ by cases hr
      held := fun t ht ↦ absurd ht (Nat.not_lt_zero _)
      ahead := fun hlt ↦ absurd hlt (Nat.lt_irrefl 0)
      tags := fun n line hup ↦ by
        obtain ⟨l, -, heq⟩ := List.mem_map.mp hup
        cases heq
      acked := fun n line hup hack hn t ht ↦ by cases ht }

/-- In `STATE_READY` everything has been done. -/
theorem agrees_of_inv {w : World σ} {rs : List Request} (h : Inv w rs)
    (hready : w.mon.state = .ready) : Agrees w := by
  have hdone (t : Task) : t.Done w.lines w.ctl := by
    refine h.held t ?_
    rw [hready]
    cases t with
    | channel i =>
      simp only [Task.rank, MonState.rank]
      omega
    | _ => decide
  refine ⟨hdone .activate, hdone .time, hdone .date, fun c hc ↦ ?_, hdone (.channel 3)⟩
  have hi := hdone (.channel ⟨c.val, by omega⟩)
  have hempty : chstate ⟨c.val, by omega⟩ = ChState.empty.toNat :=
    if_neg fun h3 ↦ by
      have := congrArg Fin.val h3
      dsimp only at this
      omega
  rw [Task.Done, hempty] at hi
  exact hi

/-- For every run of the two programs, with lines under way for any time, timers that expire at
any time and a radio that powers up or fails at any attempt: as long as every event is clear,
the controller is set up whenever lrmond is in `STATE_READY`. -/
theorem ready_agrees (b : Board σ) (chip : σ) (eeprom : UInt16 → UInt8) (beyondData : UInt8)
    (es : List Event)
    (hclear : Along (step b) Clear (initial b chip eeprom beyondData) es)
    (hready : (run (step b) (initial b chip eeprom beyondData) es).mon.state = .ready) :
    Agrees (run (step b) (initial b chip eeprom beyondData) es) := by
  obtain ⟨rs, h⟩ := run_inv (step b) (I := fun w ↦ ∃ rs, Inv w rs) (inv_step b)
    (inv_initial b chip eeprom beyondData) hclear
  exact agrees_of_inv h hready

/-! ### Two runs -/

private def noon : HostClock := ⟨some (43200, 0), 86400⟩

private def anyRadio : Board Nat := .scripted fun _ _ ↦ SI4463_STATE_READY

private def fresh : World Nat := initial anyRadio 0 (fun _ ↦ 0) 0

-- The controller reads what has been written, then lrmond reads one line; `n` times.
private def rounds (n : Nat) : List Event :=
  (List.replicate n (List.replicate 27 .deliver ++ [.receive noon])).flatten

-- After ten rounds lrmond has asked for EMPTY on channel 3; its timer expires before it reads the
-- next line.
private def patient : List Event :=
  rounds 10 ++ List.replicate 27 .deliver ++ .timer noon :: rounds 1

/-- lrmond is ready, and has asked for READ on channel 3. -/
theorem ready_agrees_patient : Agrees (run (step anyRadio) fresh patient) :=
  ready_agrees anyRadio 0 (fun _ ↦ 0) 0 patient (by decide +kernel) (by decide +kernel)

/-- Without delays and failures lrmond is ready with channel 3 set to EMPTY. -/
theorem ready_on_empty :
    ¬ ∀ es : List Event, (run (step anyRadio) fresh es).mon.state = .ready →
      Agrees (run (step anyRadio) fresh es) := by
  intro h
  have hread := (h (rounds 11) (by decide +kernel)).read
  exact absurd hread (by decide +kernel)

end Startup
end Libradio
