import Libradio.Control.ChannelEffects

/-!
# Reading the record of a run

What a run has put into a channel and not yet sent, and which actions can record a call of
`libradio_send`.
-/

namespace Libradio

/-- What waits in a channel: the packet of a line that was acknowledged, or the time packet
that a slot has built. -/
inductive Load
  | line (p : Packet.Content)
  | time (p : Packet.Content)
  deriving DecidableEq, Repr

namespace Load

/-- The packet itself. -/
def packet : Load → Packet.Content
  | line p => p
  | time p => p

/-- One entry of the record: an acknowledgement or a slot loads the channel; a successful
send, a configuration or a start unloads it. -/
def after (d : Fin 6) (o : Obs) (l : Option Load) : Option Load :=
  match o with
  | .ack c p => if c = d then some (line p) else l
  | .slot c p => if c = d then some (time p) else l
  | .send c _ _ ok => if c = d ∧ ok then none else l
  | .setChannel c config => if c = d ∧ config < 3 then none else l
  | .reset => none
  | _ => l

section Entries

variable (c d : Fin 6) (p : Packet.Content) (l : Option Load)

/-- An acknowledgement loads the line's packet. -/
@[simp] theorem after_ack : after d (.ack c p) l = if c = d then some (line p) else l := rfl

/-- A slot loads the time. -/
@[simp] theorem after_slot : after d (.slot c p) l = if c = d then some (time p) else l := rfl

/-- A transmission that worked unloads. -/
@[simp] theorem after_send (st : ChState) (ok : Bool) :
    after d (.send c st p ok) l = if c = d ∧ ok then none else l := rfl

/-- A SET_CHANNEL with a valid state unloads. -/
@[simp] theorem after_setChannel (config : UInt8) :
    after d (.setChannel c config) l = if c = d ∧ config < 3 then none else l := rfl

/-- A reset unloads. -/
@[simp] theorem after_reset : after d .reset l = none := rfl

end Entries

end Load

/-- What waits in channel `d` after a record, newest entry first. -/
def loaded (d : Fin 6) (h : List Obs) : Option Load := h.foldr (Load.after d) none

/-- The load after one more record. -/
@[simp] theorem loaded_cons (d : Fin 6) (o : Obs) (h : List Obs) :
    loaded d (o :: h) = Load.after d o (loaded d h) := rfl

/-- Entries about other channels change nothing. -/
theorem Load.after_of_not_concerns {d : Fin 6} {o : Obs} (h : o.concerns d = false)
    (l : Option Load) : Load.after d o l = l := by
  cases o with
  | reset => cases h
  | ack c p => rw [Load.after_ack, if_neg (by simpa [Obs.concerns] using h)]
  | slot c p => rw [Load.after_slot, if_neg (by simpa [Obs.concerns] using h)]
  | setChannel c config =>
    have hcd : c ≠ d := by simpa [Obs.concerns] using h
    rw [Load.after_setChannel, if_neg fun hc ↦ hcd hc.1]
  | send c st p ok =>
    have hcd : c ≠ d := by simpa [Obs.concerns] using h
    rw [Load.after_send, if_neg fun hc ↦ hcd hc.1]
  | _ => rfl

/-- A fold that passes over the entries about other channels can be taken over the part of
the record that concerns its own. -/
theorem foldr_concerns {α : Type} {d : Fin 6} {f : Obs → α → α}
    (hf : ∀ o x, o.concerns d = false → f o x = x) (z : α) (h : List Obs) :
    (h.filter (Obs.concerns d)).foldr f z = h.foldr f z := by
  rw [List.foldr_filter]
  congr 1
  funext o x
  split
  · rfl
  · next hno => rw [hf o x (by simpa using hno)]

/-- What waits in a channel can be read off the part of the record that concerns it. -/
theorem loaded_filter (d : Fin 6) (h : List Obs) :
    loaded d (h.filter (Obs.concerns d)) = loaded d h :=
  foldr_concerns (fun _ l ho ↦ Load.after_of_not_concerns ho l) none h

/-- Configurations of a channel leave a load or take it away. -/
theorem loaded_config {d : Fin 6} {config h : List Obs}
    (hc : ∀ o ∈ config, ∃ v, o = .setChannel d v) :
    loaded d (config ++ h) = loaded d h ∨ loaded d (config ++ h) = none := by
  induction config with
  | nil => exact .inl rfl
  | cons o config ih =>
    obtain ⟨v, rfl⟩ := hc _ List.mem_cons_self
    have hrest := ih fun o ho ↦ hc o (List.mem_cons_of_mem _ ho)
    rw [List.cons_append, loaded_cons, Load.after_setChannel]
    split
    · exact .inr rfl
    · exact hrest

namespace Ctl

variable {σ : Type}

/-- The records of a channel are enough for its load. -/
theorem loaded_track (s : Ctl σ) (d : Fin 6) : loaded d (s.track d) = loaded d s.hist :=
  loaded_filter d s.hist

/-- So the load is that of the channel's track. -/
theorem loaded_of_track {s : Ctl σ} {d : Fin 6} {h : List Obs} (ht : s.track d = h) :
    loaded d s.hist = loaded d h := by
  rw [← loaded_track, ht]

/-- The action has recorded a call of `libradio_send` as its last entry, over the record
`before` that it had built up by then. -/
def RecordsSend (s s' : Ctl σ) (c : Fin 6) (st : ChState) (p : Packet.Content) (ok : Bool)
    (before : List Obs) : Prop :=
  s'.hist = .send c st p ok :: before ∧ s.hist <:+ before

private theorem no_send_of_suffix {h before : List Obs} {o : Obs} (heq : h = o :: before)
    (hsuf : h <:+ before) : False := by
  have := hsuf.length_le
  rw [heq, List.length_cons] at this
  omega

/-- Only the transmissions of a pass call `libradio_send`. -/
theorem sent_of_recordsSend (b : Board σ) {s : Ctl σ} {a : Act} {c : Fin 6} {st : ChState}
    {p : Packet.Content} {ok : Bool} {before : List Obs}
    (h : RecordsSend s (step b s a) c st p ok before) :
    ∃ between inSend, a = .check between inSend ∧ s.respChp = none ∧
      Source between c s st p before := by
  obtain ⟨hhist, hsuf⟩ := h
  cases a with
  | tick => exact (no_send_of_suffix ((alike_tick b s).hist ▸ hhist) hsuf).elim
  | poll =>
    cases effect_poll b s with
    | idle none eq =>
      rw [step, eq] at hhist
      exact (no_send_of_suffix hhist hsuf).elim
    | waiting c some going own others respChp parser hist =>
      cases hist.symm.trans hhist
    | ended c some ends own others respChp parser hist =>
      cases hist.symm.trans hhist
  | input ch =>
    cases effect_processInput b ch s with
    | idle before after chan respChp hist => cases hist.symm.trans hhist
    | claimed before free own others after respChp hist => cases hist.symm.trans hhist
    | stored before after currChp state others respChp hist => cases hist.symm.trans hhist
    | left before leaves after chan respChp hist => cases hist.symm.trans hhist
    | handed before completes enqueued after =>
      cases enqueued.fate with
      | executed code own state others hist => cases hist.symm.trans hhist
      | refused own active state others hist => cases hist.symm.trans hhist
      | queued own active state others hist => cases hist.symm.trans hhist
    | reset eq =>
      have := (boot_fresh b (s.note (.input ch))).2.2.2
      rw [← eq] at this
      cases this.symm.trans hhist
  | check between inSend =>
    refine ⟨between, inSend, rfl, ?_⟩
    cases effect_check b between inSend s with
    | idle closed chan respChp parser hist =>
      exact (no_send_of_suffix (hist.symm.trans hhist) hsuf).elim
    | sent c' st' p' ok' before' none source hist own packet others respChp parser =>
      cases hist.symm.trans hhist
      exact ⟨none, source⟩

end Ctl
end Libradio
