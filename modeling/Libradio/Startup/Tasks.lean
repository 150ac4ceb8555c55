import Libradio.Startup.Requests

/-!
# The tasks of the start-up

What the controller does with one character of a line of lrmond's: a task that is answered
with `<+` is done, and what has been done stays done until a reset.
-/

namespace Libradio
open Libradio.Base

namespace Startup
open Lrmon

/-- The channel of the controller that a task of lrmond's sets up. -/
def channelOf (i : Fin 4) : Fin 6 := ⟨i.val, Nat.lt_of_lt_of_le i.isLt (Nat.le_of_ble_eq_true rfl)⟩

/-- The task has been done since the controller's last start. -/
def Task.Done {σ : Type} (lines : List (List UInt8)) (s : Ctl σ) : Task → Prop
  | .activate => s.dev.radio.state = LIBRADIO_STATE_ACTIVE
  | .time => ∃ p, lastExec RADIO_CMD_SET_TIME s.hist = some p ∧ Sent lines p
  | .date => ∃ p, lastExec RADIO_CMD_SET_DATE s.hist = some p ∧ Sent lines p ∧
      s.dev.radio.date = word (dataByte p.data 0) (dataByte p.data 1)
  | .channel i => lastConfig (channelOf i) s.hist = some (UInt8.ofNat (chstate i))

/-- The controller is down, or it is active as node 1 and its radio is in use. -/
def IsUp (r : Radio) : Prop := r.state < LIBRADIO_STATE_LISTEN ∨ Ctl.IsActive 1 r

private theorem lastExec_append {cmd : UInt8} {pre h : List Obs} (hpre : ∀ o ∈ pre, o.IsIdle) :
    lastExec cmd (pre ++ h) = lastExec cmd h := by
  induction pre with
  | nil => rfl
  | cons o pre ih =>
    have ho := hpre o List.mem_cons_self
    rw [← ih fun x hx ↦ hpre x (List.mem_cons_of_mem _ hx)]
    cases o <;> first | rfl | exact absurd ho id

private theorem lastConfig_append {c : Fin 6} {pre h : List Obs} (hpre : ∀ o ∈ pre, o.IsIdle) :
    lastConfig c (pre ++ h) = lastConfig c h := by
  induction pre with
  | nil => rfl
  | cons o pre ih =>
    have ho := hpre o List.mem_cons_self
    rw [← ih fun x hx ↦ hpre x (List.mem_cons_of_mem _ hx)]
    cases o <;> first | rfl | exact absurd ho id

/-! ### What becomes of a character -/

variable {σ : Type}

/-- What the controller has made of one character of line `r`. -/
inductive Taken (b : Board σ) (r : Request) (s s' : Ctl σ) : Prop
  | kept (kept : Ctl.Kept s s')
  | restarted (eq : r = .reset) (t : Ctl σ) (out : t.out = s.out) (boot : s' = Ctl.boot b t)
  | queued (l : CommandLine) (command : r.command = some l) (p : Packet)
      (writes : l.Writes p.content) (own : ¬ Ctl.IsLocal s.dev.radio p.content)
      (active : s.dev.radio.state = LIBRADIO_STATE_ACTIVE) (radio : s'.dev.radio = s.dev.radio)
      (hist : ∃ pre, s'.hist = pre ++ s.hist ∧ ∀ o ∈ pre, o.IsIdle)
  | executed (l : CommandLine) (command : r.command = some l) (p : Packet)
      (writes : l.Writes p.content) (own : Ctl.IsLocal s.dev.radio p.content) (t : Ctl σ)
      (before : t.dev.radio = s.dev.radio)
      (radio : s'.dev.radio = (Ctl.mycommand b p t).1.dev.radio)
      (hist : ∃ pre, s'.hist = .finish l.channel :: .exec p.content (Ctl.mycommand b p t).2 ::
        (Ctl.configObs p.content ++ (pre ++ s.hist)) ∧ ∀ o ∈ pre, o.IsIdle)
      (acked : (∃ line ∈ Ctl.printed s s', line.IsAck) → (Ctl.mycommand b p t).2 = 0)

/-- Every character of a line is taken in one of these ways. -/
theorem taken_processInput (b : Board σ) {r : Request} {k : Nat} {ch : UInt8} {s : Ctl σ}
    (hch : r.line[k]? = some ch) (h : s.Reads (currentLine (r.line.take k))) :
    Taken b r s (Ctl.processInput b ch s) := by
  by_cases hcomp : Ctl.Completes s ch
  · obtain ⟨st, -, heq⟩ := Ctl.processInput_of_completes b hcomp
    obtain ⟨-, -, -, -, hdev, hhist⟩ := Ctl.filled_spec ch s
    have hout : (Ctl.filled ch s).out = s.out := by
      unfold Ctl.filled
      split
      · rfl
      · split <;> rfl
    obtain ⟨l, hcmd, hchan, hw⟩ := Request.command_of_completed hch h
      (by rw [Ctl.completed, if_pos hcomp])
    have hsettled := Ctl.settled_enqueue b s.currChp (Ctl.filled ch s)
    rw [heq]
    generalize Ctl.filled ch s = t at hdev hhist hout hw hsettled ⊢
    generalize Ctl.enqueue b s.currChp t = s' at hsettled ⊢
    cases hsettled with
    | executed own radio hist acked =>
      rw [hdev] at own
      rw [Ctl.printed, hout] at acked
      refine .executed l hcmd _ hw own (Ctl.executing s.currChp t) (congrArg Dev.radio hdev) radio
        ⟨[.handed s.currChp (t.chan s.currChp).packet.content, .input ch], ?_, ?_⟩ acked
      · rw [hchan]
        exact hist.trans (by rw [hhist]; rfl)
      · exact idle_cons trivial (idle_cons trivial idle_nil)
    | refused radio hist unacked =>
      refine .kept ⟨radio.trans (congrArg Dev.radio hdev), ⟨[.finish s.currChp,
        .handed s.currChp (t.chan s.currChp).packet.content, .input ch], ?_, ?_⟩, ?_⟩
      · exact hist.trans (by rw [hhist]; rfl)
      · exact idle_cons trivial (idle_cons trivial (idle_cons trivial idle_nil))
      · exact (Ctl.Unacked.of_eq hout).trans unacked
    | queued own active radio hist =>
      rw [hdev] at own active
      refine .queued l hcmd _ hw own active (radio.trans (congrArg Dev.radio hdev))
        ⟨[.ack s.currChp (t.chan s.currChp).packet.content,
          .handed s.currChp (t.chan s.currChp).packet.content, .input ch], ?_, ?_⟩
      · exact hist.trans (by rw [hhist]; rfl)
      · exact idle_cons trivial (idle_cons trivial (idle_cons trivial idle_nil))
  · rcases Ctl.kept_processInput b hcomp with ⟨hst, rfl, hboot⟩ | hkept
    · exact .restarted (Request.eq_reset_of_restart hch h hst) (s.note (.input chR)) rfl hboot
    · exact .kept hkept

/-- The record after an executed command. -/
theorem lastExec_executed {cmd : UInt8} {c : Fin 6} {p : Packet.Content} {code : UInt8}
    {pre h h' : List Obs} (hh : h' = .finish c :: .exec p code :: (Ctl.configObs p ++ (pre ++ h)))
    (hpre : ∀ o ∈ pre, o.IsIdle) :
    lastExec cmd h' = if p.cmd = cmd ∧ code = 0 then some p else lastExec cmd h := by
  have hbefore : lastExec cmd (pre ++ h) = lastExec cmd h := lastExec_append hpre
  have hconfig : lastExec cmd (Ctl.configObs p ++ (pre ++ h)) = lastExec cmd (pre ++ h) := by
    rcases hc : Ctl.configOf p with _ | ⟨e, config⟩ <;> rw [Ctl.configObs, hc] <;> rfl
  rw [hh, ← hbefore, ← hconfig]
  rfl

private theorem lastConfig_executed {d c : Fin 6} {p : Packet.Content} {code : UInt8}
    {pre h h' : List Obs} (hh : h' = .finish c :: .exec p code :: (Ctl.configObs p ++ (pre ++ h)))
    (hpre : ∀ o ∈ pre, o.IsIdle) :
    lastConfig d h' = match Ctl.configOf p with
      | some (e, config) => if e = d then some config else lastConfig d h
      | none => lastConfig d h := by
  have hbefore : lastConfig d (pre ++ h) = lastConfig d h := lastConfig_append hpre
  rw [hh, ← hbefore]
  rcases hc : Ctl.configOf p with _ | ⟨e, config⟩ <;> rw [Ctl.configObs, hc] <;> rfl

/-- What a packet that a line of lrmond's writes asks for. -/
inductive Asks (r : Request) (p : Packet) : Prop
  | activate (eq : r = .activate) (node : p.node = 0) (cmd : p.cmd = RADIO_CMD_ACTIVATE)
      (len : p.len = 3) (data : dataByte p.data 1 = 1)
  | time (task : r.task = some .time) (node : p.node = 1) (cmd : p.cmd = RADIO_CMD_SET_TIME)
      (len : p.len = 3)
  | date (task : r.task = some .date) (node : p.node = 1) (cmd : p.cmd = RADIO_CMD_SET_DATE)
      (len : p.len = 2)
  | channel (i : Fin 4) (config : UInt8) (task : r.task = some (.channel i)) (node : p.node = 1)
      (cmd : p.cmd = RADIO_CMD_SET_CHANNEL) (len : p.len = 2)
      (of : Ctl.configOf p.content = some (channelOf i, config))
      (value : r ≠ .early → config = UInt8.ofNat (chstate i))

/-- A packet that a line writes asks for what the request asks for. -/
theorem asks_of_writes {r : Request} {l : CommandLine} (h : r.command = some l) {p : Packet}
    (hw : l.Writes p.content) : Asks r p := by
  have hconfig {i : Fin 4} {config : Nat} (hcmd : p.cmd = RADIO_CMD_SET_CHANNEL)
      (hlen : p.len = 2) (h₀ : dataByte p.data 0 = UInt8.ofNat i.val)
      (h₁ : dataByte p.data 1 = UInt8.ofNat config) :
      Ctl.configOf p.content = some (channelOf i, UInt8.ofNat config) := by
    have hi : (dataByte p.content.data 0).toNat = i.val := by
      change (dataByte p.data 0).toNat = i.val
      rw [h₀, UInt8.toNat_ofNat', Nat.mod_eq_of_lt (by omega)]
    have hlt : (dataByte p.content.data 0).toNat < 6 := by omega
    rw [Ctl.configOf, dif_pos ⟨hcmd, hlen, hlt⟩]
    refine congrArg some (Prod.ext ?_ h₁)
    exact Fin.ext hi
  cases r with
  | bootstrap | reset | status dynamic => cases h
  | activate =>
    cases h
    obtain ⟨hnode, hcmd, hlen, hdata⟩ := fields_of_writes hw
    exact .activate rfl hnode hcmd hlen (hdata 1 1 rfl)
  | time high low tens =>
    cases h
    obtain ⟨hnode, hcmd, hlen, -⟩ := fields_of_writes hw
    exact .time rfl hnode hcmd hlen
  | date high low =>
    cases h
    obtain ⟨hnode, hcmd, hlen, -⟩ := fields_of_writes hw
    exact .date rfl hnode hcmd hlen
  | channel i =>
    cases h
    obtain ⟨hnode, hcmd, hlen, hdata⟩ := fields_of_writes hw
    exact .channel i _ rfl hnode hcmd hlen (hconfig hcmd hlen (hdata 0 _ rfl) (hdata 1 _ rfl))
      fun _ ↦ rfl
  | early =>
    cases h
    obtain ⟨hnode, hcmd, hlen, hdata⟩ := fields_of_writes hw
    exact .channel 3 _ rfl hnode hcmd hlen (hconfig hcmd hlen (hdata 0 _ rfl) (hdata 1 _ rfl))
      fun h ↦ absurd rfl h

/-- Only the variables that the host sets up count for being up. -/
theorem IsUp.of_setup {r r' : Radio} (h : IsUp r) (state : r'.state = r.state)
    (radioActive : r'.radioActive = r.radioActive) (myNodeId : r'.myNodeId = r.myNodeId) :
    IsUp r' := by
  rcases h with h | h
  · exact .inl (state ▸ h)
  · exact .inr ⟨state.trans h.state, radioActive.trans h.radioActive, myNodeId.trans h.myNodeId⟩

/-- Whatever line is read, the controller is up as node 1 or not at all. -/
theorem isUp_of_taken {b : Board σ} {r : Request} {s s' : Ctl σ} (h : Taken b r s s')
    (hup : IsUp s.dev.radio) : IsUp s'.dev.radio := by
  have hsetup {r r' : Radio} (hup : IsUp r) (h : r'.setup = r.setup) : IsUp r' :=
    hup.of_setup (congrArg Setup.state h) (congrArg Setup.radioActive h)
      (congrArg Setup.myNodeId h)
  cases h with
  | kept kept => rwa [kept.radio]
  | restarted eq t out boot =>
    have hstate : s'.dev.radio.state = LIBRADIO_STATE_WARM := by
      rw [boot]
      exact state_libradioSetState _ _
    exact .inl (by rw [hstate]; decide)
  | queued l command p writes own active radio hist => rwa [radio]
  | executed l command p writes own t before radio hist acked =>
    rw [← before] at hup
    rw [radio]
    cases asks_of_writes command writes with
    | activate eq node cmd len data =>
      rcases Ctl.mycommand_activate b t cmd len with ⟨-, hactive⟩ | ⟨-, hfailed⟩
      · rw [data] at hactive
        exact .inr hactive
      · exact .inl (by rw [hfailed]; decide)
    | time task node cmd len => exact hsetup hup (Ctl.mycommand_setTime b t cmd len).2
    | date task node cmd len =>
      have h := (Ctl.mycommand_setDate b t cmd len).2
      exact hup.of_setup (congrArg Setup.state h) (congrArg Setup.radioActive h)
        (congrArg Setup.myNodeId h)
    | channel i config task node cmd len of value =>
      exact hsetup hup (Ctl.mycommand_setChannel b t cmd len).2

/-- A controller that is up and in the state ACTIVE is node 1. -/
theorem IsUp.isActive {r : Radio} (h : IsUp r) (hst : r.state = LIBRADIO_STATE_ACTIVE) :
    Ctl.IsActive 1 r := by
  refine h.resolve_left fun hlt ↦ ?_
  rw [hst] at hlt
  exact absurd hlt (by decide)

/-- The record of tasks does not see idle entries. -/
theorem Task.Done.of_idle {lines : List (List UInt8)} {s s' : Ctl σ} {t : Task}
    (h : t.Done lines s) (setup : s'.dev.radio.setup = s.dev.radio.setup)
    (hist : ∃ pre, s'.hist = pre ++ s.hist ∧ ∀ o ∈ pre, o.IsIdle) : t.Done lines s' := by
  obtain ⟨pre, hhist, hpre⟩ := hist
  cases t with
  | activate => exact (congrArg Setup.state setup).trans h
  | time =>
    rw [Task.Done, hhist, lastExec_append hpre]
    exact h
  | date =>
    have hdate : s'.dev.radio.date = s.dev.radio.date := congrArg Setup.date setup
    rw [Task.Done, hhist, lastExec_append hpre, hdate]
    exact h
  | channel i =>
    rw [Task.Done, hhist, lastConfig_append hpre]
    exact h

/-- The task of a command that an active controller executes is done. -/
theorem done_of_executed {b : Board σ} {r : Request} {s' t : Ctl σ} {l : CommandLine}
    (command : r.command = some l) {lines : List (List UInt8)} (hmem : r.line ∈ lines)
    {p : Packet} (writes : l.Writes p.content) {h : List Obs}
    (hactive : t.dev.radio.state = LIBRADIO_STATE_ACTIVE)
    (radio : s'.dev.radio = (Ctl.mycommand b p t).1.dev.radio) {pre : List Obs}
    (hist : s'.hist = .finish l.channel :: .exec p.content (Ctl.mycommand b p t).2 ::
      (Ctl.configObs p.content ++ (pre ++ h))) (hpre : ∀ o ∈ pre, o.IsIdle) {task : Task}
    (htask : r.task = some task) (hne : task ≠ .activate) (hearly : r ≠ .early) :
    task.Done lines s' := by
  have hsent : Sent lines p.content := by
    refine ⟨l, ?_, writes⟩
    rw [← (Request.text_of_command command).1]
    exact hmem
  cases asks_of_writes command writes with
  | activate eq node cmd len data =>
    rw [eq] at htask
    cases htask
    exact absurd rfl hne
  | time task' node cmd len =>
    cases task'.symm.trans htask
    have hcode := (Ctl.mycommand_setTime b t cmd len).1
    refine ⟨p.content, ?_, hsent⟩
    rw [lastExec_executed hist hpre, if_pos ⟨cmd, hcode⟩]
  | date task' node cmd len =>
    cases task'.symm.trans htask
    obtain ⟨hcode, hsetup⟩ := Ctl.mycommand_setDate b t cmd len
    refine ⟨p.content, ?_, hsent, ?_⟩
    · rw [lastExec_executed hist hpre, if_pos ⟨cmd, hcode⟩]
    · rw [radio]
      have hdate := congrArg Setup.date hsetup
      dsimp only at hdate
      rw [hactive, if_neg (by decide)] at hdate
      exact hdate
  | channel i config task' node cmd len of value =>
    cases task'.symm.trans htask
    rw [Task.Done, lastConfig_executed hist hpre, of]
    dsimp only
    rw [if_pos rfl, value hearly]

/-- The command of a packet tells which task its line is for. -/
structure Tells (r : Request) (p : Packet) : Prop where
  activate : r.task ≠ some .activate
  time : p.cmd = RADIO_CMD_SET_TIME → r.task = some .time
  date : p.cmd = RADIO_CMD_SET_DATE → r.task = some .date
  channel : ∀ {i config}, Ctl.configOf p.content = some (channelOf i, config) →
    r.task = some (.channel i)

private theorem channelOf_inj {i j : Fin 4} (h : channelOf i = channelOf j) : i = j :=
  Fin.ext (Fin.mk.inj h)

/-- A line that an active controller executes is not for its activation; the state is kept, and
the date by all but SET_DATE. -/
theorem asked_of_active {b : Board σ} {r : Request} {s t : Ctl σ} {l : CommandLine}
    (command : r.command = some l) {p : Packet} (writes : l.Writes p.content)
    (own : Ctl.IsLocal s.dev.radio p.content) (hnode : s.dev.radio.myNodeId = 1)
    (hactive : s.dev.radio.state = LIBRADIO_STATE_ACTIVE) :
    Tells r p ∧ (Ctl.mycommand b p t).1.dev.radio.state = t.dev.radio.state ∧
      (p.cmd ≠ RADIO_CMD_SET_DATE →
        (Ctl.mycommand b p t).1.dev.radio.date = t.dev.radio.date) := by
  have hcmd {c d : UInt8} (h : p.cmd = c) (hne : c ≠ d) {P : Prop} (hd : p.cmd = d) : P :=
    absurd (h.symm.trans hd) hne
  have hconfig {c : UInt8} (h : p.cmd = c) (hne : c ≠ RADIO_CMD_SET_CHANNEL) {i : Fin 4}
      {config : UInt8} {P : Prop} (hof : Ctl.configOf p.content = some (channelOf i, config)) :
      P := by
    have hnone : Ctl.configOf p.content = none := Ctl.configOf_of_ne fun hc ↦ hne (h.symm.trans hc)
    rw [hnone] at hof
    cases hof
  have hsame {u : Ctl σ} (h : u.dev.radio.setup = t.dev.radio.setup) :
      u.dev.radio.state = t.dev.radio.state ∧
        (p.cmd ≠ RADIO_CMD_SET_DATE → u.dev.radio.date = t.dev.radio.date) :=
    ⟨congrArg Setup.state h, fun _ ↦ congrArg Setup.date h⟩
  cases asks_of_writes command writes with
  | activate eq node cmd len data =>
    rcases own with h | ⟨-, h⟩
    · have hzero : p.node = 1 := h.trans hnode
      rw [node] at hzero
      exact absurd hzero (by decide)
    · rw [hactive] at h
      exact absurd h (by decide)
  | time task node cmd len =>
    refine ⟨⟨?_, fun _ ↦ task, hcmd cmd (by decide), hconfig cmd (by decide)⟩, hsame ?_⟩
    · rw [task]
      exact nofun
    · exact (Ctl.mycommand_setTime b t cmd len).2
  | date task node cmd len =>
    refine ⟨⟨?_, hcmd cmd (by decide), fun _ ↦ task, hconfig cmd (by decide)⟩, ?_,
      fun h ↦ absurd cmd h⟩
    · rw [task]
      exact nofun
    · exact congrArg Setup.state (Ctl.mycommand_setDate b t cmd len).2
  | channel i config task node cmd len of value =>
    refine ⟨⟨?_, hcmd cmd (by decide), hcmd cmd (by decide), fun hof ↦ ?_⟩, hsame ?_⟩
    · rw [task]
      exact nofun
    · rw [of] at hof
      cases channelOf_inj (congrArg Prod.fst (Option.some.inj hof))
      exact task
    · exact (Ctl.mycommand_setChannel b t cmd len).2

/-- What has been done stays done, whatever line but a reset is read; only the line that is
called early may undo the task of channel 3. -/
theorem done_of_taken {b : Board σ} {r : Request} {s s' : Ctl σ} (h : Taken b r s s')
    {lines : List (List UInt8)} (hmem : r.line ∈ lines) (hr : r ≠ .reset)
    (hup : IsUp s.dev.radio) (hactive : Task.activate.Done lines s) {task : Task}
    (hearly : r = .early → task ≠ .channel 3) (hdone : task.Done lines s) :
    task.Done lines s' := by
  cases h with
  | kept kept => exact hdone.of_idle (congrArg Radio.setup kept.radio) kept.hist
  | restarted eq t out boot => exact absurd eq hr
  | queued l command p writes own active radio hist =>
    exact hdone.of_idle (congrArg Radio.setup radio) hist
  | executed l command p writes own t before radio hist acked =>
    obtain ⟨pre, hhist, hpre⟩ := hist
    have hst : t.dev.radio.state = LIBRADIO_STATE_ACTIVE :=
      (congrArg Radio.state before).trans hactive
    have hnode : s.dev.radio.myNodeId = 1 := (hup.isActive hactive).myNodeId
    obtain ⟨hother, hradio⟩ := asked_of_active command writes own hnode hactive
    rw [← radio, before] at hradio
    by_cases htask : r.task = some task
    · refine done_of_executed command hmem writes hst radio hhist hpre htask ?_ fun he ↦ ?_
      · rintro rfl
        exact hother.activate htask
      · rw [he] at htask
        cases htask
        exact hearly he rfl
    · cases task with
      | activate => exact hradio.1.trans hactive
      | time =>
        rw [Task.Done, lastExec_executed hhist hpre, if_neg fun h ↦ htask (hother.time h.1)]
        exact hdone
      | date =>
        have hcmd : p.cmd ≠ RADIO_CMD_SET_DATE := fun h ↦ htask (hother.date h)
        rw [Task.Done, lastExec_executed hhist hpre, if_neg fun h ↦ hcmd h.1, hradio.2 hcmd]
        exact hdone
      | channel i =>
        rw [Task.Done, lastConfig_executed hhist hpre]
        rcases hof : Ctl.configOf p.content with _ | ⟨c, config⟩
        · exact hdone
        · dsimp only
          rw [if_neg]
          · exact hdone
          · rintro rfl
            exact htask (hother.channel hof)

/-- A line that is answered with `<+` was for a task, and the task is done: the activation in
any case, any other task if the controller is active. -/
theorem done_of_ack {b : Board σ} {r : Request} {s s' : Ctl σ} (h : Taken b r s s')
    (hack : ∃ line ∈ Ctl.printed s s', line.IsAck) {lines : List (List UInt8)}
    (hmem : r.line ∈ lines) (hup : IsUp s.dev.radio) :
    ∃ task, r.task = some task ∧
      ((task ≠ .activate → Task.activate.Done lines s) → r ≠ .early → task.Done lines s') := by
  obtain ⟨line, hline, hack'⟩ := hack
  cases h with
  | kept kept => exact absurd hack' (kept.unacked.printed line hline)
  | restarted eq t out boot =>
    have hquiet := (Ctl.Unacked.of_eq out).trans (Ctl.unacked_boot b t)
    rw [← boot] at hquiet
    exact absurd hack' (hquiet.printed line hline)
  | queued l command p writes own active radio hist =>
    have hnode : s.dev.radio.myNodeId = 1 := (hup.isActive active).myNodeId
    have hlocal (h : p.node = 1) : False := own (.inl (h.trans hnode.symm))
    cases asks_of_writes command writes with
    | activate eq node cmd len data =>
      refine ⟨.activate, by rw [eq]; rfl, fun _ _ ↦ ?_⟩
      rw [Task.Done, radio]
      exact active
    | time task node cmd len => exact (hlocal node).elim
    | date task node cmd len => exact (hlocal node).elim
    | channel i config task node cmd len of value => exact (hlocal node).elim
  | executed l command p writes own t before radio hist acked =>
    obtain ⟨pre, hhist, hpre⟩ := hist
    have hother {task : Task} (htask : r.task = some task) (hne : task ≠ .activate) :
        ∃ task, r.task = some task ∧
          ((task ≠ .activate → Task.activate.Done lines s) → r ≠ .early → task.Done lines s') :=
      ⟨task, htask, fun hactive hearly ↦ done_of_executed command hmem writes
        ((congrArg Radio.state before).trans (hactive hne)) radio hhist hpre htask hne hearly⟩
    cases asks_of_writes command writes with
    | activate eq node cmd len data =>
      refine ⟨.activate, by rw [eq]; rfl, fun _ _ ↦ ?_⟩
      rcases Ctl.mycommand_activate b t cmd len with ⟨-, hactive⟩ | ⟨hcode, -⟩
      · rw [Task.Done, radio]
        exact hactive.state
      · exact absurd (acked ⟨line, hline, hack'⟩) hcode
    | time task node cmd len => exact hother task nofun
    | date task node cmd len => exact hother task nofun
    | channel i config task node cmd len of value => exact hother task nofun

end Startup
end Libradio
