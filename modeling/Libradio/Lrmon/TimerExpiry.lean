import Libradio.Lrmon.TimerRemoval

/-!
# Running the timers that are due

`timer_expiry` of `src/lrmon/timer.c:144-182` together with the functions that it calls, which
insert and remove timers themselves. The run queue is to be the front of the queue;
`src/lrmon/timer.c:161-162` moves `runq` itself, so it begins with the last timer that is due.
-/

namespace Libradio.Lrmon
open Libradio.Base

universe u

variable {F : Type u}

/-- What a called function does to the queue. -/
inductive TimerOp (F : Type u)
  | insert (func : F) (secs : Nat)
  | remove (func : F)

/-- One operation. -/
def TimerOp.apply [DecidableEq F] (t : Timers F) : TimerOp F → Timers F
  | .insert func secs => timerInsert func secs t
  | .remove func => timerRemove func t

/-- The run loop, `src/lrmon/timer.c:172-180`: `ops` is what the function of a cell does. -/
def runCells [DecidableEq F] (ops : Timerq F → List (TimerOp F)) :
    List (Timerq F) → Timers F → Timers F
  | [], t => t
  | cell :: rest, t => runCells ops rest (timerRan (run TimerOp.apply t (ops cell)))

/-- `timer_expiry` to its end. -/
def timerExpiryRun [DecidableEq F] (ops : Timerq F → List (TimerOp F)) (t : Timers F) : Timers F :=
  runCells ops (timerExpiry t).running (timerExpiry t)

/-- `P` holds of every operation of the functions that are called. -/
def AlongCalls [DecidableEq F] (P : Timers F → TimerOp F → Prop)
    (ops : Timerq F → List (TimerOp F)) : List (Timerq F) → Timers F → Prop
  | [], _ => True
  | cell :: rest, t =>
    Along TimerOp.apply P t (ops cell) ∧
      AlongCalls P ops rest (timerRan (run TimerOp.apply t (ops cell)))

namespace Timers

/-- A cell without its seconds. -/
def label (n : Timerq F) : Nat × F := (n.id, n.func)

/-- The timers that are due, in the order of the queue. -/
def due (t : Timers F) : List ((Nat × F) × Int) := t.deadlines.filter (·.2 ≤ t.now)

/-- An operation leaves the deadlines of the other timers as they are. -/
def OpKeeps [DecidableEq F] (t : Timers F) (op : TimerOp F) : Prop :=
  Agree t.deadlines (TimerOp.apply t op).deadlines

/-- The expiry calls the functions of the timers that are due, each once and in order, and no
others; each cell that was run is free afterwards, once; and the other timers keep their
deadlines, through the expiry itself and each operation of the functions that it calls. -/
structure ExpiryOk [DecidableEq F] (t : Timers F) (ops : Timerq F → List (TimerOp F)) : Prop where
  called : (timerExpiry t).running.map label = t.due.map Prod.fst
  freed : ∀ cell ∈ (timerExpiry t).running,
    ((timerExpiryRun ops t).tqFree.map Timerq.id).count cell.id = 1
  kept : ∀ x ∈ t.deadlines, t.now < x.2 → x ∈ (timerExpiry t).deadlines
  keeps : AlongCalls OpKeeps ops (timerExpiry t).running (timerExpiry t)

/-- An operation displaces nothing: nothing is behind the place where a timer is inserted, or
the new cell keeps no seconds there; nothing moves where one is removed. -/
def OpFits [DecidableEq F] (t : Timers F) : TimerOp F → Prop
  | .insert _ secs =>
    match t.timerq with
    | [] => True
    | head :: rest =>
      if head.seconds > secs then t.tval = head.seconds * 1000000
      else
        (stopFrom head rest secs).behind = [] ∨ sumSeconds (stopFrom head rest secs).before = secs
  | .remove func => Stays func t.timerq

/-- At most one timer is due, and no operation of a function that is called displaces another
timer. -/
def ExpiryFits [DecidableEq F] (t : Timers F) (ops : Timerq F → List (TimerOp F)) : Prop :=
  t.due.length ≤ 1 ∧ AlongCalls OpFits ops (timerExpiry t).running (timerExpiry t)

/-! ### The operations of the called functions -/

/-- An insertion leaves the others' deadlines alone exactly if it displaces nothing. -/
theorem agree_timerInsert [DecidableEq F] {t : Timers F} (h : t.Numbered) (func : F)
    (secs : Nat) :
    Agree t.deadlines (timerInsert func secs t).deadlines ↔ OpFits t (.insert func secs) := by
  have hlabels := h.labels
  have hfresh : (t.inserted, func) ∉ t.deadlines.map Prod.fst := by
    rw [labels_deadlines]
    intro hmem
    simp only [List.map_map, List.mem_map] at hmem
    obtain ⟨n, hn, heq⟩ := hmem
    have hid : n.id = t.inserted := congrArg Prod.fst heq
    have hlt : n.id < t.inserted := by
      apply h.fresh
      unfold ids
      rw [List.append_assoc]
      exact List.mem_map_of_mem (List.mem_append_left _ hn)
    omega
  unfold OpFits
  cases hq : t.timerq with
  | nil =>
    have hold : t.deadlines = [] := by rw [deadlines, hq]
    rw [hold]
    exact iff_of_true (fun _ _ hlabel ↦ absurd hlabel List.not_mem_nil) trivial
  | cons head rest =>
    dsimp only
    rw [hq] at hlabels
    by_cases hlt : head.seconds > secs
    · have htime : t.now + t.tval - head.seconds * 1000000 = t.now ↔
          t.tval = head.seconds * 1000000 := by omega
      rw [if_pos hlt, deadlines_timerInsert_head hq func hlt, agree_cons_fresh hfresh,
        deadlines_eq_undelta t hq, agree_undelta hlabels, htime]
      simp
    · obtain ⟨pre, m, hpre, -, hold, hnew⟩ := deadlines_timerInsert_behind hq func hlt
      have hsplit := stopFrom_split head rest secs
      rw [if_neg hlt, hnew]
      rw [hold] at hfresh ⊢
      rw [← hsplit] at hlabels
      generalize stopFrom head rest secs = r at hpre hlabels hfresh ⊢
      have hjoin : ((r.before ++ r.cell :: r.behind).map entry).map Prod.fst =
          pre.map Prod.fst ++ (r.behind.map entry).map Prod.fst := by
        rw [hpre, ← List.map_append, ← List.map_append, List.append_assoc, List.singleton_append]
      rw [hjoin, List.nodup_append] at hlabels
      obtain ⟨hfront, hbehind, hapart⟩ := hlabels
      rw [List.map_append, List.mem_append, map_fst_undelta, not_or] at hfresh
      have hnotin : ∀ x ∈ pre, x.1 ∉ (((t.inserted, func), m + (secs - sumSeconds r.before) *
          1000000) :: undelta (m + (secs - sumSeconds r.before) * 1000000)
            (r.behind.map entry)).map Prod.fst := by
        intro x hx hmem
        rw [List.map_cons, map_fst_undelta] at hmem
        rcases List.mem_cons.mp hmem with heq | hmem
        · exact hfresh.1 (List.mem_map.mpr ⟨x, hx, heq⟩)
        · exact hapart _ (List.mem_map_of_mem hx) _ hmem rfl
      have hnew' : (t.inserted, func) ∉ (undelta m (r.behind.map entry)).map Prod.fst := by
        rw [map_fst_undelta]
        exact hfresh.2
      have htime : m = m + (secs - sumSeconds r.before) * 1000000 ↔
          sumSeconds r.before = secs := by omega
      rw [agree_append hnotin hfront, agree_cons_fresh hnew', agree_undelta hbehind,
        List.map_eq_nil_iff, htime]

section Calls

variable [DecidableEq F]

/-- Every operation keeps the others' deadlines exactly if it displaces nothing. -/
theorem opKeeps_iff_fits {t : Timers F} (h : t.Numbered) (op : TimerOp F) :
    OpKeeps t op ↔ OpFits t op := by
  cases op with
  | insert func secs => exact agree_timerInsert h func secs
  | remove func => exact agree_timerRemove h func

private theorem numbered_apply {t : Timers F} (h : t.Numbered) (op : TimerOp F) :
    (TimerOp.apply t op).Numbered := by
  cases op with
  | insert func secs => exact numbered_step h (.insert func secs)
  | remove func => exact numbered_step h (.remove func)

private theorem numbered_operations {t : Timers F} (h : t.Numbered) (ops : List (TimerOp F)) :
    (run TimerOp.apply t ops).Numbered := by
  induction ops generalizing t with
  | nil => exact h
  | cons op ops ih => exact ih (numbered_apply h op)

private theorem alongCalls_iff {t : Timers F} (h : t.Numbered) (ops : Timerq F → List (TimerOp F))
    (cells : List (Timerq F)) :
    AlongCalls OpKeeps ops cells t ↔ AlongCalls OpFits ops cells t := by
  induction cells generalizing t with
  | nil => exact Iff.rfl
  | cons cell rest ih =>
    have hthis : Along TimerOp.apply OpKeeps t (ops cell) ↔
        Along TimerOp.apply OpFits t (ops cell) :=
      along_iff_of_inv TimerOp.apply (I := Numbered) (fun t op h _ ↦ numbered_apply h op)
        (fun t op h ↦ opKeeps_iff_fits h op) h
    exact and_congr hthis (ih (numbered_timerRan (numbered_operations h (ops cell))))

/-- The operations of a called function leave the run queue alone. -/
theorem running_operations (t : Timers F) (ops : List (TimerOp F)) :
    (run TimerOp.apply t ops).running = t.running := by
  induction ops generalizing t with
  | nil => rfl
  | cons op ops ih =>
    rw [run_cons, ih]
    cases op with
    | insert func secs =>
      rw [TimerOp.apply, timerInsert]
      dsimp only
      split
      · rfl
      · split <;> rfl
    | remove func => rfl

end Calls

/-! ### The split of the queue -/

/-- The timers that are due are the head, once its time has run out, and what is due behind
it. -/
theorem due_cons {t : Timers F} {head : Timerq F} {rest : List (Timerq F)}
    (hq : t.timerq = head :: rest) (hzero : t.tval = 0) :
    t.due = ((head.id, head.func), t.now) ::
      (undelta t.now (rest.map entry)).filter (·.2 ≤ t.now) := by
  rw [due, deadlines, hq]
  dsimp only
  rw [hzero, Int.add_zero, List.filter_cons_of_pos (by simp)]

/-- If nothing is due behind the head, the search for the last timer that is due ends there. -/
theorem lastDue_of_none {now : Int} (head : Timerq F) {rest : List (Timerq F)}
    (h : (undelta now (rest.map entry)).filter (·.2 ≤ now) = []) :
    lastDue head rest = (head, rest) := by
  cases rest with
  | nil => rfl
  | cons next more =>
    have hlate : ¬ now + (entry next).2 ≤ now := by
      intro hle
      rw [List.map_cons, undelta, List.filter_cons_of_pos (by simpa using hle)] at h
      cases h
    have hne : ¬ next.seconds = 0 := by
      intro hzero
      apply hlate
      simp [entry, hzero]
    rw [lastDue, if_neg hne]

private theorem running_timerExpiry {t : Timers F} {head : Timerq F} {rest : List (Timerq F)}
    (hq : t.timerq = head :: rest) : (timerExpiry t).running = [(lastDue head rest).1] := by
  simp only [timerExpiry, hq]
  split <;> rfl

/-- What is left of the queue keeps its deadlines if the head was the only timer due. -/
theorem deadlines_timerExpiry {t : Timers F} {head : Timerq F} {rest : List (Timerq F)}
    (hq : t.timerq = head :: rest) (hlast : lastDue head rest = (head, rest))
    (husec : t.tvUsec = 0) : (timerExpiry t).deadlines = undelta t.now (rest.map entry) := by
  cases rest with
  | nil =>
    simp only [timerExpiry, hq, hlast, deadlines]
    rfl
  | cons next more =>
    simp only [timerExpiry, hq, hlast, deadlines, tval, husec, List.map_cons, undelta, entry]
    rw [Int.add_zero]

/-- A cell whose function was run is free afterwards, once. -/
theorem count_timerRan {t : Timers F} (h : t.Numbered) {cell : Timerq F}
    (hrunning : t.running = [cell]) : ((timerRan t).tqFree.map Timerq.id).count cell.id = 1 := by
  have hfree : (timerRan t).tqFree = cell :: t.tqFree := by simp [timerRan, hrunning]
  have hdistinct : ((timerRan t).tqFree.map Timerq.id).Nodup := by
    refine (numbered_timerRan h).distinct.sublist ?_
    unfold ids
    exact (List.sublist_append_right _ _).map Timerq.id
  rw [hdistinct.count, hfree, if_pos]
  exact List.mem_cons_self

section Main

variable [DecidableEq F]

/-- The expiry of a queue whose cells are numbered is right exactly when it fits. -/
theorem expiryOk_iff_fits {t : Timers F} (h : t.Numbered) (hsec : t.tvSec = 0)
    (husec : t.tvUsec = 0) (hrunning : t.running = []) (ops : Timerq F → List (TimerOp F)) :
    ExpiryOk t ops ↔ ExpiryFits t ops := by
  have hkeeps := alongCalls_iff (numbered_timerExpiry h) ops (timerExpiry t).running
  have hzero : t.tval = 0 := by simp [tval, hsec, husec]
  cases hq : t.timerq with
  | nil =>
    have hold : t.deadlines = [] := by rw [deadlines, hq]
    have hdue : t.due = [] := by rw [due, hold, List.filter_nil]
    have hnone : (timerExpiry t).running = [] := by simp only [timerExpiry, hq, hrunning]
    rw [hnone] at hkeeps
    constructor
    · intro hok
      refine ⟨by rw [hdue]; exact Nat.zero_le 1, ?_⟩
      rw [hnone]
      trivial
    · intro _
      constructor
      · rw [hnone, hdue]
        rfl
      · rw [hnone]
        exact fun cell hcell ↦ absurd hcell List.not_mem_nil
      · rw [hold]
        exact fun x hx ↦ absurd hx List.not_mem_nil
      · rw [hnone]
        trivial
  | cons head rest =>
    have hrun := running_timerExpiry hq
    have hdue := due_cons hq hzero
    cases hrest : (undelta t.now (rest.map entry)).filter (·.2 ≤ t.now) with
    | nil =>
      rw [hrest] at hdue
      have hlast := lastDue_of_none head hrest
      rw [hlast] at hrun
      constructor
      · intro hok
        refine ⟨by rw [hdue]; exact Nat.le_refl 1, hkeeps.mp hok.keeps⟩
      · rintro ⟨-, hfits⟩
        refine ⟨?_, ?_, ?_, hkeeps.mpr hfits⟩
        · rw [hrun, hdue]
          rfl
        · intro cell hcell
          rw [hrun] at hcell
          obtain rfl := List.mem_singleton.mp hcell
          rw [timerExpiryRun, hrun, runCells, runCells]
          apply count_timerRan (numbered_operations (numbered_timerExpiry h) (ops cell))
          rw [running_operations, hrun]
        · intro x hx hlate
          rw [deadlines_timerExpiry hq hlast husec]
          rw [deadlines, hq] at hx
          dsimp only at hx
          rw [hzero, Int.add_zero] at hx
          rcases List.mem_cons.mp hx with rfl | hbehind
          · exact absurd hlate (Int.lt_irrefl _)
          · exact hbehind
    | cons x more =>
      rw [hrest] at hdue
      have hmany : ¬ t.due.length ≤ 1 := by
        rw [hdue]
        simp
      apply iff_of_false
      · intro hok
        have hlen := congrArg List.length hok.called
        rw [hrun, hdue] at hlen
        simp at hlen
      · exact fun hfits ↦ hmany hfits.1

/-- On every queue that a run can reach, when the time of the head has run out, the expiry is
right exactly when at most one timer is due and no operation of the function that is called
displaces another timer. -/
theorem expiries_right_iff (events : List (TimerEvent F))
    (hsec : (run step timerInit events).tvSec = 0)
    (husec : (run step timerInit events).tvUsec = 0)
    (hrunning : (run step timerInit events).running = [])
    (ops : Timerq F → List (TimerOp F)) :
    ExpiryOk (run step timerInit events) ops ↔ ExpiryFits (run step timerInit events) ops :=
  expiryOk_iff_fits (numbered_run numbered_timerInit events) hsec husec hrunning ops

end Main

-- A timer that inserts itself again, as `dynamic_status_timer` does.
private def again (cell : Timerq Bool) : List (TimerOp Bool) := [.insert cell.func 300]

/-- A single timer is run and pending again. -/
theorem expiry_single_timer :
    ExpiryOk (run step timerInit [.insert true 3, .elapse 3000000]) again :=
  (expiries_right_iff [.insert true 3, .elapse 3000000] (by decide) (by decide) (by decide)
    again).mpr ⟨by decide, ⟨trivial, trivial⟩, trivial⟩

/-- Of two timers that are due, only the second is run. -/
theorem expiry_loses_timer :
    ¬ ExpiryOk (run step timerInit [.insert true 3, .insert false 0, .elapse 3000000]) again := by
  intro h
  exact absurd h.called (by decide)

end Timers

end Libradio.Lrmon
