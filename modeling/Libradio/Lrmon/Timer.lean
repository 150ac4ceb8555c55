import Libradio.Base.Delta
import Libradio.Base.Run

/-!
# The timer queue of lrmond

`src/lrmon/timer.c` and the waiting part of `src/lrmon/main.c:111-130`. The queue is kept
as differences, and the delay of its head in the global `tval` that `select` counts down.
`deadlines` reads the queue as absolute times; the main theorem says for every run of the
queue exactly which insertions give the new timer its deadline, leave the others' alone and
keep the queue in order.
-/

namespace Libradio.Lrmon
open Libradio.Base

universe u

/-- `struct timerq`, `src/lrmon/lrmon.h:42-46`, for functions named by `F`. `id` numbers the
insertion that filled the cell. -/
structure Timerq (F : Type u) where
  id : Nat
  seconds : Int
  func : F

/-- The queue, the free list, the cells whose functions `timer_expiry` is still to run and
`tval`; `src/lrmon/timer.c:45-47`. `now`, in microseconds, and the number of insertions so
far are not stored by the program. -/
structure Timers (F : Type u) where
  timerq : List (Timerq F)
  tqFree : List (Timerq F)
  running : List (Timerq F)
  tvSec : Int
  tvUsec : Int
  now : Int
  inserted : Nat

variable {F : Type u}

/-- `timer_init`, `src/lrmon/timer.c:52-58`. -/
def timerInit : Timers F := ⟨[], [], [], 60, 0, 0, 0⟩

/-- The loop of `timer_insert` that looks for the insertion point behind `cur`,
`src/lrmon/timer.c:105-111`: the new cell loses the seconds of each cell it leaves. -/
def insertAfter (cur : Timerq F) : List (Timerq F) → Timerq F → List (Timerq F)
  | [], tqp => [tqp]
  | next :: rest, tqp =>
    if next.seconds > tqp.seconds then tqp :: next :: rest
    else next :: insertAfter next rest { tqp with seconds := tqp.seconds - cur.seconds }

/-- `timer_insert`, `src/lrmon/timer.c:63-114`. -/
def timerInsert (func : F) (secs : Int) (t : Timers F) : Timers F :=
  let tqp : Timerq F := ⟨t.inserted, secs, func⟩
  let t := { t with tqFree := t.tqFree.tail, inserted := t.inserted + 1 }
  match t.timerq with
  | [] => { t with timerq := [{ tqp with seconds := 0 }], tvSec := secs, tvUsec := 0 }
  | head :: rest =>
    if head.seconds > secs then
      { t with
        timerq := { tqp with seconds := 0 } ::
          { head with seconds := head.seconds - secs } :: rest
        tvSec := secs
        tvUsec := 0 }
    else { t with timerq := head :: insertAfter head rest tqp }

/-- `timer_remove`, `src/lrmon/timer.c:119-138`. -/
def timerRemove [DecidableEq F] (func : F) (t : Timers F) : Timers F :=
  { t with
    timerq := t.timerq.eraseP (·.func = func)
    tqFree := (t.timerq.find? (·.func = func)).toList ++ t.tqFree }

/-- The first loop of `timer_expiry`, `src/lrmon/timer.c:161-162`: the last of the cells that
are due with `cur`, and the cells behind it. -/
def lastDue (cur : Timerq F) : List (Timerq F) → Timerq F × List (Timerq F)
  | [] => (cur, [])
  | next :: rest => if next.seconds = 0 then lastDue next rest else (cur, next :: rest)

/-- `timer_expiry` up to the run queue, `src/lrmon/timer.c:144-169`. -/
def timerExpiry (t : Timers F) : Timers F :=
  match t.timerq with
  | [] => { t with tvSec := 60, tvUsec := 0 }
  | head :: rest =>
    let due := lastDue head rest
    match due.2 with
    | [] => { t with timerq := [], running := [due.1], tvSec := 60 }
    | next :: more =>
      { t with
        timerq := { next with seconds := 0 } :: more
        running := [due.1]
        tvSec := next.seconds }

/-- The end of one round of the run loop of `timer_expiry`, `src/lrmon/timer.c:172-180`. -/
def timerRan (t : Timers F) : Timers F :=
  { t with running := t.running.tail, tqFree := t.running.take 1 ++ t.tqFree }

namespace Timers

/-- The time that `select` waits at most, in microseconds. -/
def tval (t : Timers F) : Int := t.tvSec * 1000000 + t.tvUsec

/-- Time passes while `select` waits, which it does no longer than `tval`. -/
def elapse (d : Nat) (t : Timers F) : Timers F :=
  if (d : Int) ≤ t.tval then
    { t with
      now := t.now + d
      tvSec := (t.tval - d) / 1000000
      tvUsec := (t.tval - d) % 1000000 }
  else t

end Timers

/-- What can happen to the queue. The functions that `timer_expiry` runs insert and remove
timers themselves, between `expiry` and `ran`. -/
inductive TimerEvent (F : Type u)
  | insert (func : F) (secs : Nat)
  | remove (func : F)
  | expiry
  | ran
  | elapse (d : Nat)

namespace Timers

/-- One event; the main loop calls `timer_expiry` when `tval` has run out. -/
def step [DecidableEq F] (t : Timers F) : TimerEvent F → Timers F
  | .insert func secs => timerInsert func secs t
  | .remove func => timerRemove func t
  | .expiry => if t.tvSec = 0 ∧ t.tvUsec = 0 ∧ t.running = [] then timerExpiry t else t
  | .ran => timerRan t
  | .elapse d => t.elapse d

/-- A cell as an entry of a sequence of differences, in microseconds. -/
def entry (n : Timerq F) : (Nat × F) × Int := ((n.id, n.func), n.seconds * 1000000)

/-- The absolute deadlines of the pending timers: `now + tval` for the head and the previous
deadline plus its seconds for each later cell. -/
def deadlines (t : Timers F) : List ((Nat × F) × Int) :=
  match t.timerq with
  | [] => []
  | head :: rest =>
    ((head.id, head.func), t.now + t.tval) :: undelta (t.now + t.tval) (rest.map entry)

/-- The insertion adds one timer with the deadline asked for, leaves every other deadline
as it was, and the deadlines ascend afterwards. -/
def InsertOk (t : Timers F) (func : F) (secs : Nat) : Prop :=
  (∃ l₁ l₂, t.deadlines = l₁ ++ l₂ ∧ (timerInsert func secs t).deadlines =
    l₁ ++ ((t.inserted, func), t.now + secs * 1000000) :: l₂) ∧
  Ascending (timerInsert func secs t).deadlines

/-- Where an insertion of `secs` seconds leaves the search: the cells before the one it stops
at, that cell, and the cells behind it. -/
structure Stop (F : Type u) where
  before : List (Timerq F)
  cell : Timerq F
  behind : List (Timerq F)

/-- The search from `cur` on. -/
def stopFrom (cur : Timerq F) : List (Timerq F) → Int → Stop F
  | [], _ => ⟨[], cur, []⟩
  | next :: rest, secs =>
    if next.seconds > secs then ⟨[], cur, next :: rest⟩
    else
      let r := stopFrom next rest (secs - cur.seconds)
      { r with before := cur :: r.before }

/-- The seconds of a list of cells. -/
def sumSeconds : List (Timerq F) → Int
  | [] => 0
  | n :: ns => n.seconds + sumSeconds ns

/-- The queue and `tval` are such that the insertion comes out right: the queue is empty; or
the new timer goes to the head and `tval` is what the head has stored as its seconds; or the
cell that the search stops at makes up for the difference between these two, and the new
timer is due no earlier than that cell, and together with it if there are cells behind. -/
def Fits (t : Timers F) (secs : Nat) : Prop :=
  match t.timerq with
  | [] => True
  | head :: rest =>
    if head.seconds > secs then t.tval = head.seconds * 1000000
    else
      let r := stopFrom head rest secs
      t.tval + r.cell.seconds * 1000000 = head.seconds * 1000000 ∧
        sumSeconds r.before ≤ secs ∧ (r.behind = [] ∨ sumSeconds r.before = secs)

/-- What holds of every queue: cells behind the head have no negative seconds, and cells are
numbered below the number of insertions. -/
structure WellFormed (t : Timers F) : Prop where
  seconds : ∀ n ∈ t.timerq.tail, 0 ≤ n.seconds
  fresh : ∀ n ∈ t.timerq, n.id < t.inserted

/-- The seconds of the first timer and of the others. -/
@[simp] theorem sumSeconds_cons (n : Timerq F) (ns : List (Timerq F)) :
    sumSeconds (n :: ns) = n.seconds + sumSeconds ns := rfl

private theorem sumSeconds_concat (ns : List (Timerq F)) (n : Timerq F) :
    sumSeconds (ns ++ [n]) = sumSeconds ns + n.seconds := by
  induction ns with
  | nil => simp [sumSeconds]
  | cons m ns ih => rw [List.cons_append, sumSeconds_cons, ih, sumSeconds_cons, Int.add_assoc]

/-- The differences of some cells add up to their seconds. -/
theorem total_map_entry (ns : List (Timerq F)) :
    total (ns.map entry) = sumSeconds ns * 1000000 := by
  induction ns with
  | nil => simp [sumSeconds]
  | cons n ns ih =>
    rw [List.map_cons, total_cons, ih, sumSeconds_cons, entry, Int.add_mul]

/-- The search only splits the queue. -/
theorem stopFrom_split (cur : Timerq F) (rest : List (Timerq F)) (secs : Int) :
    (stopFrom cur rest secs).before ++ (stopFrom cur rest secs).cell ::
      (stopFrom cur rest secs).behind = cur :: rest := by
  induction rest generalizing cur secs with
  | nil => rfl
  | cons next rest ih =>
    unfold stopFrom
    split
    · rfl
    · simp only [List.cons_append, ih]

/-- The new cell comes right behind the one the search stops at, with what the cells before
that one leave of its seconds. -/
theorem insertAfter_eq (cur : Timerq F) (rest : List (Timerq F)) (tqp : Timerq F) :
    cur :: insertAfter cur rest tqp =
      (stopFrom cur rest tqp.seconds).before ++ (stopFrom cur rest tqp.seconds).cell ::
        { tqp with
          seconds := tqp.seconds - sumSeconds (stopFrom cur rest tqp.seconds).before } ::
        (stopFrom cur rest tqp.seconds).behind := by
  induction rest generalizing cur tqp with
  | nil => simp [insertAfter, stopFrom, sumSeconds]
  | cons next rest ih =>
    unfold insertAfter stopFrom
    split
    · simp [sumSeconds]
    · rw [ih]
      simp only [List.cons_append, sumSeconds_cons]
      rw [Int.sub_sub]

/-- The deadlines as one sequence of differences, counted from where the head's stored
seconds would have to start. -/
theorem deadlines_eq_undelta (t : Timers F) {head : Timerq F} {rest : List (Timerq F)}
    (h : t.timerq = head :: rest) :
    t.deadlines =
      undelta (t.now + t.tval - head.seconds * 1000000) ((head :: rest).map entry) := by
  have hbase : t.now + t.tval - head.seconds * 1000000 + head.seconds * 1000000 =
      t.now + t.tval := by omega
  simp only [deadlines, h, List.map_cons, undelta, entry, hbase]

/-- The deadlines ascend exactly when no cell behind the head has negative seconds. -/
theorem ascending_deadlines (t : Timers F) :
    Ascending t.deadlines ↔ ∀ n ∈ t.timerq.tail, 0 ≤ n.seconds := by
  unfold deadlines
  split
  · next h => simp [Ascending, h]
  · next head rest h =>
    rw [ascending_cons_undelta, h, List.tail_cons]
    simp only [List.forall_mem_map, entry]
    constructor
    · intro hall n hn
      have := hall n hn
      omega
    · intro hall n hn
      have := hall n hn
      omega

/-- The label of a new timer is on none of the cells. -/
theorem label_fresh {t : Timers F} (h : t.WellFormed) (func : F) {ns : List (Timerq F)}
    (hns : ∀ n ∈ ns, n ∈ t.timerq) : (t.inserted, func) ∉ (ns.map entry).map Prod.fst := by
  intro hmem
  simp only [List.map_map, List.mem_map, Function.comp_apply, entry] at hmem
  obtain ⟨n, hn, heq⟩ := hmem
  have hlt := h.fresh n (hns n hn)
  rw [(Prod.mk.inj heq).1] at hlt
  omega

/-- The queue after an insertion that does not go to the head. -/
theorem timerq_timerInsert {t : Timers F} {head : Timerq F} {rest : List (Timerq F)}
    (h : t.timerq = head :: rest) (func : F) {secs : Nat} (hlt : ¬ head.seconds > secs) :
    let r := stopFrom head rest secs
    (timerInsert func secs t).timerq = r.before ++ r.cell ::
      ⟨t.inserted, secs - sumSeconds r.before, func⟩ :: r.behind := by
  have := insertAfter_eq head rest ⟨t.inserted, secs, func⟩
  simp only [timerInsert, h, if_neg hlt, this]

/-- Behind the head, an insertion that does not go to the head only adds the new cell. -/
theorem seconds_timerInsert {t : Timers F} {head : Timerq F} {rest : List (Timerq F)}
    (h : t.timerq = head :: rest) (func : F) {secs : Nat} (hlt : ¬ head.seconds > secs)
    (hw : ∀ n ∈ t.timerq.tail, 0 ≤ n.seconds) :
    (∀ n ∈ (timerInsert func secs t).timerq.tail, 0 ≤ n.seconds) ↔
      sumSeconds (stopFrom head rest secs).before ≤ secs := by
  rw [timerq_timerInsert h func hlt]
  have hsplit := stopFrom_split head rest secs
  rw [h] at hw
  rw [← hsplit] at hw
  generalize stopFrom head rest secs = r at hw ⊢
  obtain ⟨before, cell, behind⟩ := r
  cases before with
  | nil =>
    simp only [List.nil_append, List.tail_cons] at hw ⊢
    simp only [List.forall_mem_cons]
    constructor
    · rintro ⟨hnew, -⟩
      omega
    · intro hle
      exact ⟨by omega, hw⟩
  | cons b before =>
    simp only [List.cons_append, List.tail_cons, List.forall_mem_append,
      List.forall_mem_cons] at hw ⊢
    constructor
    · rintro ⟨-, -, hnew, -⟩
      omega
    · intro hle
      exact ⟨hw.1, hw.2.1, by omega, hw.2.2⟩

/-- Inserting into an empty queue. -/
theorem insertOk_empty {t : Timers F} (h : t.timerq = []) (func : F) (secs : Nat) :
    InsertOk t func secs := by
  have hd : (timerInsert func secs t).deadlines =
      [((t.inserted, func), t.now + secs * 1000000)] := by
    simp [timerInsert, deadlines, h, undelta, tval]
  refine ⟨⟨[], [], ?_, ?_⟩, ?_⟩
  · rw [deadlines, h]
    rfl
  · rw [hd]
    rfl
  · rw [hd]
    simp [Ascending]

/-- A new head is due when it should be; the others are counted from now. -/
theorem deadlines_timerInsert_head {t : Timers F} {head : Timerq F} {rest : List (Timerq F)}
    (h : t.timerq = head :: rest) (func : F) {secs : Nat} (hlt : head.seconds > secs) :
    (timerInsert func secs t).deadlines = ((t.inserted, func), t.now + secs * 1000000) ::
      undelta t.now ((head :: rest).map entry) := by
  have hq : (timerInsert func secs t).timerq =
      ⟨t.inserted, 0, func⟩ :: { head with seconds := head.seconds - secs } :: rest := by
    simp only [timerInsert, h, if_pos hlt]
  have hnow : (timerInsert func secs t).now + (timerInsert func secs t).tval =
      t.now + secs * 1000000 := by
    simp [timerInsert, h, if_pos hlt, tval]
  rw [deadlines, hq]
  simp only [hnow, List.map_cons, undelta, entry, Int.sub_mul]
  have htime : t.now + (secs : Int) * 1000000 + (head.seconds * 1000000 - secs * 1000000) =
      t.now + head.seconds * 1000000 := by omega
  rw [htime]

/-- A new cell behind the head is counted from the cell that the search stops at, and the cells
behind it from the new one. -/
theorem deadlines_timerInsert_behind {t : Timers F} {head : Timerq F} {rest : List (Timerq F)}
    (h : t.timerq = head :: rest) (func : F) {secs : Nat} (hlt : ¬ head.seconds > secs) :
    let r := stopFrom head rest secs
    ∃ pre m, pre.map Prod.fst = ((r.before ++ [r.cell]).map entry).map Prod.fst ∧
      m = t.now + t.tval - head.seconds * 1000000 +
        (sumSeconds r.before + r.cell.seconds) * 1000000 ∧
      t.deadlines = pre ++ undelta m (r.behind.map entry) ∧
      (timerInsert func secs t).deadlines =
        pre ++ ((t.inserted, func), m + (secs - sumSeconds r.before) * 1000000) ::
          undelta (m + (secs - sumSeconds r.before) * 1000000) (r.behind.map entry) := by
  have hq := timerq_timerInsert h func hlt
  have hsplit := stopFrom_split head rest secs
  have hq' : (timerInsert func secs t).timerq =
      head :: insertAfter head rest ⟨t.inserted, secs, func⟩ := by
    simp only [timerInsert, h, if_neg hlt]
  have htime : (timerInsert func secs t).now = t.now ∧
      (timerInsert func secs t).tval = t.tval := by
    simp only [timerInsert, h, if_neg hlt, tval, and_self]
  have hold := deadlines_eq_undelta t h
  have hnew := deadlines_eq_undelta (timerInsert func secs t) hq'
  rw [← hq', htime.1, htime.2] at hnew
  dsimp only at hq ⊢
  rw [hold, hnew, hq, ← hsplit]
  generalize stopFrom head rest secs = r
  obtain ⟨before, cell, behind⟩ := r
  generalize t.now + t.tval - head.seconds * 1000000 = base
  -- everything up to the cell the search stops at
  have hcells (ns : List (Timerq F)) :
      (before ++ cell :: ns).map entry = (before ++ [cell]).map entry ++ ns.map entry := by
    rw [← List.map_append, List.append_assoc, List.singleton_append]
  have hT : total ((before ++ [cell]).map entry) =
      (sumSeconds before + cell.seconds) * 1000000 := by
    rw [total_map_entry, sumSeconds_concat]
  refine ⟨undelta base ((before ++ [cell]).map entry), _, map_fst_undelta _ _, rfl, ?_, ?_⟩
  · dsimp only
    rw [hcells, undelta_append, hT]
  · dsimp only
    rw [hcells, undelta_append, hT, List.map_cons, undelta]
    rfl

/-- Inserting at the head is right exactly when `tval` is what the head has stored. -/
theorem insertOk_head {t : Timers F} (hw : t.WellFormed) {head : Timerq F}
    {rest : List (Timerq F)} (h : t.timerq = head :: rest) (func : F) {secs : Nat}
    (hlt : head.seconds > secs) :
    InsertOk t func secs ↔ t.tval = head.seconds * 1000000 := by
  have hq : (timerInsert func secs t).timerq =
      ⟨t.inserted, 0, func⟩ :: { head with seconds := head.seconds - secs } :: rest := by
    simp only [timerInsert, h, if_pos hlt]
  have hold := deadlines_eq_undelta t h
  have hnew := deadlines_timerInsert_head h func hlt
  have hasc : Ascending (timerInsert func secs t).deadlines := by
    rw [ascending_deadlines, hq, List.tail_cons, List.forall_mem_cons]
    refine ⟨by simp only; omega, fun n hn ↦ hw.seconds n ?_⟩
    rw [h, List.tail_cons]
    exact hn
  unfold InsertOk
  rw [hold, hnew]
  constructor
  · rintro ⟨⟨l₁, l₂, h₁, h₂⟩, -⟩
    have hl₁ : (t.inserted, func) ∉ l₁.map Prod.fst := by
      intro hi
      refine label_fresh hw func (fun n hn ↦ h ▸ hn) ?_
      rw [← map_fst_undelta, h₁, List.map_append, List.mem_append]
      exact .inl hi
    have hnil : (t.inserted, func) ∉ ([] : List ((Nat × F) × Int)).map Prod.fst :=
      List.not_mem_nil
    obtain ⟨rfl, -, rfl⟩ := split_at_fresh (x := ((t.inserted, func), _))
      (y := ((t.inserted, func), _)) rfl hnil hl₁ h₂
    rcases undelta_left_inj.mp h₁ with hnil | heq
    · simp at hnil
    · omega
  · intro htval
    refine ⟨⟨[], _, ?_, rfl⟩, hnew ▸ hasc⟩
    rw [List.nil_append, htval]
    congr 1
    omega

/-- Inserting behind the head is right exactly when the cell it stops at makes up for the
difference between `tval` and what the head has stored, and the new cell displaces nothing. -/
theorem insertOk_behind {t : Timers F} (hw : t.WellFormed) {head : Timerq F}
    {rest : List (Timerq F)} (h : t.timerq = head :: rest) (func : F) {secs : Nat}
    (hlt : ¬ head.seconds > secs) :
    let r := stopFrom head rest secs
    InsertOk t func secs ↔
      t.tval + r.cell.seconds * 1000000 = head.seconds * 1000000 ∧
        sumSeconds r.before ≤ secs ∧ (r.behind = [] ∨ sumSeconds r.before = secs) := by
  have hasc : Ascending (timerInsert func secs t).deadlines ↔
      sumSeconds (stopFrom head rest secs).before ≤ secs := by
    rw [ascending_deadlines, seconds_timerInsert h func hlt hw.seconds]
  obtain ⟨pre, m, hpre, hm, hold, hnew⟩ := deadlines_timerInsert_behind h func hlt
  have hmem : ∀ n ∈ (stopFrom head rest secs).before ++ (stopFrom head rest secs).cell ::
      (stopFrom head rest secs).behind, n ∈ t.timerq := by
    rw [stopFrom_split, h]
    exact fun n hn ↦ hn
  unfold InsertOk
  rw [hasc, hold, hnew]
  dsimp only
  generalize stopFrom head rest secs = r at hpre hm hmem ⊢
  have hfresh : (t.inserted, func) ∉ pre.map Prod.fst := by
    rw [hpre]
    exact label_fresh hw func fun n hn ↦ hmem n (by
      simp only [List.mem_append, List.mem_singleton] at hn
      simp only [List.mem_append, List.mem_cons]
      exact hn.imp_right .inl)
  have hbehind : (t.inserted, func) ∉ (r.behind.map entry).map Prod.fst :=
    label_fresh hw func fun n hn ↦ hmem n (by simp [hn])
  rw [splice_iff hfresh hbehind]
  simp only [List.map_eq_nil_iff]
  constructor
  · rintro ⟨⟨hdue, hplace⟩, hle⟩
    exact ⟨by omega, hle, hplace.imp_right fun heq ↦ by omega⟩
  · rintro ⟨hcell, hle, hplace⟩
    exact ⟨⟨by omega, hplace.imp_right fun heq ↦ by omega⟩, hle⟩

/-- An insertion into a well-formed queue is right exactly when it fits. -/
theorem insertOk_iff_fits {t : Timers F} (hw : t.WellFormed) (func : F) (secs : Nat) :
    InsertOk t func secs ↔ Fits t secs := by
  unfold Fits
  split
  · next h => exact iff_of_true (insertOk_empty h func secs) trivial
  · next head rest h =>
    split
    · next hlt => exact insertOk_head hw h func hlt
    · next hlt => exact insertOk_behind hw h func hlt

/-- An insertion that comes out right leaves the queue well formed. -/
theorem wellFormed_timerInsert {t : Timers F} (hw : t.WellFormed) {func : F} {secs : Nat}
    (hok : InsertOk t func secs) : (timerInsert func secs t).WellFormed := by
  refine ⟨(ascending_deadlines _).mp hok.2, ?_⟩
  have hins : (timerInsert func secs t).inserted = t.inserted + 1 := by
    unfold timerInsert
    dsimp only
    split
    · rfl
    · split <;> rfl
  -- the cells' numbers are read off the labels of the deadlines
  have hlabels (u : Timers F) :
      u.deadlines.map (·.1.1) = u.timerq.map Timerq.id := by
    unfold deadlines
    split
    · next h => rw [h]; rfl
    · next head rest h =>
      have hfst := map_fst_undelta (u.now + u.tval) (rest.map entry)
      have hid := congrArg (List.map Prod.fst) hfst
      simp only [List.map_map] at hid
      rw [h, List.map_cons, List.map_cons]
      congr 1
  obtain ⟨l₁, l₂, h₁, h₂⟩ := hok.1
  have hold := hlabels t
  have hnew := hlabels (timerInsert func secs t)
  rw [h₁, List.map_append] at hold
  rw [h₂, List.map_append, List.map_cons] at hnew
  intro n hn
  rw [hins]
  have hmem : n.id ∈ (timerInsert func secs t).timerq.map Timerq.id := List.mem_map_of_mem hn
  rw [← hnew] at hmem
  simp only [List.mem_append, List.mem_cons] at hmem
  have hlt : ∀ i ∈ t.timerq.map Timerq.id, i < t.inserted := by
    simpa only [List.forall_mem_map] using hw.fresh
  rw [← hold] at hlt
  simp only [List.mem_append] at hlt
  rcases hmem with hmem | hmem | hmem
  · exact Nat.lt_succ_of_lt (hlt _ (.inl hmem))
  · omega
  · exact Nat.lt_succ_of_lt (hlt _ (.inr hmem))

/-- Removing a timer leaves the queue well formed. -/
theorem wellFormed_timerRemove [DecidableEq F] {t : Timers F} (hw : t.WellFormed) (func : F) :
    (timerRemove func t).WellFormed := by
  constructor
  · intro n hn
    cases hq : t.timerq with
    | nil => simp [timerRemove, hq] at hn
    | cons head rest =>
      have hrest : ∀ m ∈ rest, 0 ≤ m.seconds := by simpa [hq] using hw.seconds
      simp only [timerRemove, hq, List.eraseP_cons, cond_eq_ite] at hn
      split at hn
      · exact hrest n (List.mem_of_mem_tail hn)
      · exact hrest n (List.mem_of_mem_eraseP hn)
  · intro n hn
    exact hw.fresh n (List.mem_of_mem_eraseP hn)

/-- The cell whose function is run and those behind it are cells of the queue. -/
theorem lastDue_cons_suffix (cur : Timerq F) (rest : List (Timerq F)) :
    (lastDue cur rest).1 :: (lastDue cur rest).2 <:+ cur :: rest := by
  induction rest generalizing cur with
  | nil => exact List.suffix_rfl
  | cons next rest ih =>
    unfold lastDue
    split
    · exact (ih next).trans (List.suffix_cons cur _)
    · exact List.suffix_rfl

private theorem lastDue_suffix (cur : Timerq F) (rest : List (Timerq F)) :
    (lastDue cur rest).2 <:+ rest := by
  rcases List.suffix_cons_iff.mp (lastDue_cons_suffix cur rest) with heq | hsuf
  · exact ⟨[], (List.cons.inj heq).2⟩
  · exact (List.suffix_cons _ _).trans hsuf

/-- An expiry leaves the queue well formed. -/
theorem wellFormed_timerExpiry {t : Timers F} (hw : t.WellFormed) :
    (timerExpiry t).WellFormed := by
  unfold timerExpiry
  split
  · exact ⟨hw.seconds, hw.fresh⟩
  · next head rest h =>
    dsimp only
    have hsuf := lastDue_suffix head rest
    split
    · exact ⟨by simp, by simp⟩
    · next next more hmore =>
      rw [hmore] at hsuf
      have hin : ∀ n ∈ next :: more, n ∈ rest := fun n hn ↦ hsuf.mem hn
      refine ⟨fun n hn ↦ hw.seconds n ?_, fun n hn ↦ ?_⟩
      · rw [h]
        exact hin n (List.mem_cons_of_mem _ hn)
      · rcases List.mem_cons.mp hn with rfl | hn
        · exact hw.fresh next (h ▸ List.mem_cons_of_mem _ (hin next (by simp)))
        · exact hw.fresh n (h ▸ List.mem_cons_of_mem _ (hin n (by simp [hn])))

/-- What is asked of one event: that an insertion comes out right. -/
def InsertsRight (t : Timers F) : TimerEvent F → Prop
  | .insert func secs => InsertOk t func secs
  | _ => True

/-- The condition on one event: that an insertion fits the queue it finds. -/
def InsertFits (t : Timers F) : TimerEvent F → Prop
  | .insert _ secs => Fits t secs
  | _ => True

/-- One event whose insertions fit leaves the queue well formed. -/
theorem wellFormed_step [DecidableEq F] (t : Timers F) (e : TimerEvent F) (hw : t.WellFormed)
    (hfits : InsertFits t e) : (step t e).WellFormed := by
  cases e with
  | insert func secs =>
    exact wellFormed_timerInsert hw ((insertOk_iff_fits hw func secs).mpr hfits)
  | remove func => exact wellFormed_timerRemove hw func
  | expiry =>
    simp only [step]
    split
    · exact wellFormed_timerExpiry hw
    · exact hw
  | ran => exact ⟨hw.seconds, hw.fresh⟩
  | elapse d =>
    simp only [step, elapse]
    split
    · exact ⟨hw.seconds, hw.fresh⟩
    · exact hw

/-- In every run of the queue, every insertion adds one timer with its own deadline, keeps
the other deadlines and the ascending order exactly when every insertion fits. -/
theorem insertions_right_iff [DecidableEq F] (events : List (TimerEvent F)) :
    Along step InsertsRight timerInit events ↔ Along step InsertFits timerInit events := by
  refine along_iff_of_inv step (I := WellFormed) wellFormed_step ?_ ⟨by simp [timerInit], ?_⟩
  · intro t e hw
    cases e with
    | insert func secs => exact insertOk_iff_fits hw func secs
    | remove func => exact Iff.rfl
    | expiry => exact Iff.rfl
    | ran => exact Iff.rfl
    | elapse d => exact Iff.rfl
  · simp [timerInit]

/-- A timer of ten seconds inserted while one of thirty is pending is put behind it and gets
a deadline forty seconds ahead. -/
theorem second_timer_late :
    ¬ Along step InsertsRight timerInit [.insert false 30, .insert true 10] ∧
      (run step timerInit [.insert false 30, .insert true 10]).deadlines =
        [((0, false), 30000000), ((1, true), 40000000)] := by
  constructor
  · intro h
    have hw : (run step timerInit [.insert false 30]).WellFormed :=
      wellFormed_step timerInit (.insert false 30) ⟨by simp [timerInit], by simp [timerInit]⟩
        trivial
    have hfits := (insertOk_iff_fits hw true 10).mp h.2.1
    simp [Fits, step, timerInit, timerInsert, stopFrom, tval] at hfits
  · decide

end Timers

end Libradio.Lrmon
