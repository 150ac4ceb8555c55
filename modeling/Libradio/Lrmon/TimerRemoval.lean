import Libradio.Lrmon.Timer

/-!
# Removing a timer

`timer_remove` of `src/lrmon/timer.c:119-138` takes the first cell that calls the function out of
the queue and leaves the seconds of the others, and `tval`, as they are. What is pending behind
it moves by what the cell, or the new head, has stored.
-/

namespace Libradio.Lrmon
open Libradio.Base

universe u

variable {F : Type u}

namespace Timers

/-! ### The numbers of the cells -/

/-- The numbers of all cells: those of the queue, those whose functions are still to run, and
the free ones. -/
def ids (t : Timers F) : List Nat := (t.timerq ++ t.running ++ t.tqFree).map Timerq.id

/-- No two cells have the same number, and an insertion gets a new one. This holds of every
queue, whatever was inserted. -/
structure Numbered (t : Timers F) : Prop where
  fresh : ∀ i ∈ t.ids, i < t.inserted
  distinct : t.ids.Nodup

/-- The empty queue is numbered. -/
theorem numbered_timerInit : (timerInit : Timers F).Numbered :=
  ⟨fun _ h ↦ absurd h List.not_mem_nil, List.nodup_nil⟩

/-- Cells are only moved, or lost. -/
theorem Numbered.of_sublist {t t' : Timers F} (h : t.Numbered) {l : List Nat}
    (hperm : t'.ids.Perm l) (hsub : l.Sublist t.ids) (hins : t'.inserted = t.inserted) :
    t'.Numbered := by
  constructor
  · intro i hi
    rw [hins]
    exact h.fresh i (hsub.subset (hperm.subset hi))
  · exact hperm.symm.nodup (h.distinct.sublist hsub)

/-- One cell gets a new number. -/
theorem Numbered.of_insert {t t' : Timers F} (h : t.Numbered) {l : List Nat}
    (hperm : t'.ids.Perm (t.inserted :: l)) (hsub : l.Sublist t.ids)
    (hins : t'.inserted = t.inserted + 1) : t'.Numbered := by
  constructor
  · intro i hi
    rw [hins]
    rcases List.mem_cons.mp (hperm.subset hi) with rfl | hl
    · exact Nat.lt_succ_self _
    · exact Nat.lt_succ_of_lt (h.fresh i (hsub.subset hl))
  · refine hperm.symm.nodup (List.nodup_cons.mpr ⟨?_, h.distinct.sublist hsub⟩)
    intro hmem
    exact Nat.lt_irrefl _ (h.fresh _ (hsub.subset hmem))

/-- The search for the insertion point moves no cell. -/
theorem ids_insertAfter (cur : Timerq F) (rest : List (Timerq F)) (tqp : Timerq F) :
    ((insertAfter cur rest tqp).map Timerq.id).Perm (tqp.id :: rest.map Timerq.id) := by
  induction rest generalizing cur tqp with
  | nil => exact .refl _
  | cons next rest ih =>
    unfold insertAfter
    split
    · exact .refl _
    · exact ((ih next _).cons next.id).trans (.swap _ _ _)

private theorem ids_timerInsert (func : F) (secs : Int) (t : Timers F) :
    (timerInsert func secs t).ids.Perm
        (t.inserted :: (t.timerq ++ t.running ++ t.tqFree.tail).map Timerq.id) ∧
      (timerInsert func secs t).inserted = t.inserted + 1 := by
  unfold timerInsert ids
  dsimp only
  cases t.timerq with
  | nil => exact ⟨.refl _, rfl⟩
  | cons head rest =>
    dsimp only
    split
    · exact ⟨.refl _, rfl⟩
    · refine ⟨?_, rfl⟩
      have hperm := ids_insertAfter head rest ⟨t.inserted, secs, func⟩
      simp only [List.cons_append, List.map_cons, List.map_append]
      exact (((hperm.append_right _).append_right _).cons head.id).trans (.swap _ _ _)

/-- What is taken out of a list, in front of what is left. -/
theorem perm_find?_eraseP {α : Type u} (p : α → Bool) (l : List α) :
    ((l.find? p).toList ++ l.eraseP p).Perm l := by
  induction l with
  | nil => exact .refl _
  | cons x l ih =>
    rw [List.find?_cons, List.eraseP_cons]
    cases p x with
    | true => exact .refl _
    | false =>
      dsimp only [cond_false]
      exact List.perm_middle.trans (ih.cons x)

private theorem ids_timerRemove [DecidableEq F] (func : F) (t : Timers F) :
    (timerRemove func t).ids.Perm t.ids := by
  unfold timerRemove ids
  dsimp only
  apply List.Perm.map
  have hperm := perm_find?_eraseP (fun n : Timerq F ↦ decide (n.func = func)) t.timerq
  generalize (t.timerq.find? fun n ↦ decide (n.func = func)).toList = found at hperm ⊢
  generalize t.timerq.eraseP (fun n ↦ decide (n.func = func)) = left at hperm ⊢
  have hmove : (left ++ t.running ++ (found ++ t.tqFree)).Perm
      (found ++ left ++ t.running ++ t.tqFree) := by
    rw [← List.append_assoc (left ++ t.running)]
    exact (List.perm_append_comm.trans (by rw [List.append_assoc])).append_right t.tqFree
  exact hmove.trans ((hperm.append_right t.running).append_right t.tqFree)

/-- An expiry keeps the numbers. -/
theorem numbered_timerExpiry {t : Timers F} (h : t.Numbered) : (timerExpiry t).Numbered := by
  unfold timerExpiry
  split
  · exact h.of_sublist (.refl _) (.refl _) rfl
  · next head rest hq =>
    have hsuf := (lastDue_cons_suffix head rest).sublist
    have hall : (((lastDue head rest).1 :: (lastDue head rest).2 ++ t.tqFree).map
        Timerq.id).Sublist t.ids := by
      unfold ids
      rw [hq]
      apply List.Sublist.map
      exact (hsuf.trans (List.sublist_append_left _ _)).append (.refl _)
    have hperm : ((((lastDue head rest).2 ++ [(lastDue head rest).1]) ++ t.tqFree).map
        Timerq.id).Perm (((lastDue head rest).1 :: (lastDue head rest).2 ++ t.tqFree).map
          Timerq.id) := by
      apply List.Perm.map
      exact List.Perm.append_right t.tqFree List.perm_append_comm
    dsimp only
    split
    · next hnil =>
      rw [hnil] at hperm hall
      exact h.of_sublist hperm hall rfl
    · next next more hcons =>
      rw [hcons] at hperm hall
      exact h.of_sublist hperm hall rfl

/-- The end of a run keeps the numbers. -/
theorem numbered_timerRan {t : Timers F} (h : t.Numbered) : (timerRan t).Numbered := by
  refine h.of_sublist (l := t.ids) ?_ (.refl _) rfl
  unfold timerRan ids
  dsimp only
  apply List.Perm.map
  have hsplit : t.running = t.running.take 1 ++ t.running.tail := by
    cases t.running <;> rfl
  have hmove : (t.timerq ++ t.running.tail ++ (t.running.take 1 ++ t.tqFree)).Perm
      (t.timerq ++ (t.running.take 1 ++ t.running.tail) ++ t.tqFree) := by
    rw [← List.append_assoc, List.append_assoc t.timerq]
    exact (List.Perm.append_left t.timerq List.perm_append_comm).append_right t.tqFree
  rw [← hsplit] at hmove
  exact hmove

/-- One event keeps the numbers. -/
theorem numbered_step [DecidableEq F] {t : Timers F} (h : t.Numbered) (e : TimerEvent F) :
    (step t e).Numbered := by
  cases e with
  | insert func secs =>
    obtain ⟨hperm, hins⟩ := ids_timerInsert func secs t
    refine h.of_insert hperm ?_ hins
    exact List.Sublist.map _ ((List.Sublist.refl _).append (List.tail_sublist _))
  | remove func => exact h.of_sublist (ids_timerRemove func t) (.refl _) rfl
  | expiry =>
    simp only [step]
    split
    · exact numbered_timerExpiry h
    · exact h
  | ran => exact numbered_timerRan h
  | elapse d =>
    simp only [step, elapse]
    split
    · exact ⟨h.fresh, h.distinct⟩
    · exact h

/-- So do any number of events. -/
theorem numbered_run [DecidableEq F] {t : Timers F} (h : t.Numbered)
    (events : List (TimerEvent F)) : (run step t events).Numbered := by
  induction events generalizing t with
  | nil => exact h
  | cons e es ih => exact ih (numbered_step h e)

/-- The labels of pending cells are their own. -/
theorem Numbered.labels {t : Timers F} (h : t.Numbered) :
    ((t.timerq.map entry).map Prod.fst).Nodup := by
  have hids : (t.timerq.map Timerq.id).Nodup := by
    refine h.distinct.sublist ?_
    unfold ids
    rw [List.append_assoc, List.map_append]
    exact List.sublist_append_left _ _
  have hcomp : ((t.timerq.map entry).map Prod.fst).map Prod.fst = t.timerq.map Timerq.id := by
    rw [List.map_map, List.map_map]
    rfl
  rw [← hcomp] at hids
  exact (List.pairwise_map.mp hids).imp fun hne heq ↦ hne (congrArg Prod.fst heq)

/-! ### What is left -/

/-- The removal takes every timer that calls the function, and leaves the others' deadlines as
they were. -/
def RemoveOk [DecidableEq F] (t : Timers F) (func : F) : Prop :=
  Without (fun label ↦ label.2 = func) t.deadlines (timerRemove func t).deadlines

/-- Nothing behind a cell that is removed moves: it is the last, or has no seconds of its own. -/
def StaysBehind [DecidableEq F] (func : F) : List (Timerq F) → Prop
  | [] => True
  | n :: ns => if n.func = func then ns = [] ∨ n.seconds = 0 else StaysBehind func ns

/-- Nothing moves in the whole queue: for the head it is the next one that must not have seconds
of its own. -/
def Stays [DecidableEq F] (func : F) : List (Timerq F) → Prop
  | [] => True
  | head :: rest =>
    if head.func = func then ∀ next ∈ rest.head?, next.seconds = 0 else StaysBehind func rest

/-- At most one cell calls the function, and nothing moves when it is removed. -/
def RemoveFits [DecidableEq F] (t : Timers F) (func : F) : Prop :=
  (t.timerq.filter (·.func = func)).length ≤ 1 ∧ Stays func t.timerq

/-- The labels of the deadlines are those of the cells. -/
theorem labels_deadlines (t : Timers F) :
    t.deadlines.map Prod.fst = (t.timerq.map entry).map Prod.fst := by
  unfold deadlines
  split
  · next h =>
    rw [h]
    rfl
  · next head rest h =>
    rw [h, List.map_cons, map_fst_undelta]
    rfl

section Removal

variable [DecidableEq F]

/-- The labels that a removal leaves. -/
theorem labels_eraseP (func : F) (ns : List (Timerq F)) :
    (((ns.eraseP (·.func = func)).map entry).map Prod.fst).Sublist
      ((ns.map entry).map Prod.fst) :=
  (List.eraseP_sublist.map entry).map Prod.fst

/-- Behind the head, the cell that is removed takes its seconds with it. -/
theorem agree_eraseP (func : F) (u : Int) {ns : List (Timerq F)}
    (h : ((ns.map entry).map Prod.fst).Nodup) :
    Agree (undelta u (ns.map entry)) (undelta u ((ns.eraseP (·.func = func)).map entry)) ↔
      StaysBehind func ns := by
  induction ns generalizing u with
  | nil => exact iff_of_true (fun _ h ↦ absurd h List.not_mem_nil) trivial
  | cons n ns ih =>
    rw [List.map_cons, List.map_cons, List.nodup_cons] at h
    rw [StaysBehind, List.map_cons, undelta]
    by_cases hfunc : n.func = func
    · have hgone : (entry n).1 ∉ (undelta u (ns.map entry)).map Prod.fst := by
        rw [map_fst_undelta]
        exact h.1
      have htime : u + (entry n).2 = u ↔ n.seconds = 0 := by
        simp only [entry]
        omega
      rw [if_pos hfunc, List.eraseP_cons_of_pos (by simpa using hfunc),
        agree_cons_gone (x := ((entry n).1, u + (entry n).2)) hgone, agree_undelta h.2,
        List.map_eq_nil_iff, htime]
    · have hfront : (entry n).1 ∉ (undelta (u + (entry n).2)
          ((ns.eraseP (·.func = func)).map entry)).map Prod.fst := by
        rw [map_fst_undelta]
        exact fun hmem ↦ h.1 ((labels_eraseP func ns).subset hmem)
      rw [if_neg hfunc, List.eraseP_cons_of_neg (by simpa using hfunc), List.map_cons, undelta,
        agree_cons (x := ((entry n).1, u + (entry n).2)) hfront]
      exact ih _ h.2

/-- What is left of a queue keeps its deadlines exactly if nothing moves. -/
theorem agree_timerRemove {t : Timers F} (h : t.Numbered) (func : F) :
    Agree t.deadlines (timerRemove func t).deadlines ↔ Stays func t.timerq := by
  have hlabels := h.labels
  cases hq : t.timerq with
  | nil =>
    have hnew : (timerRemove func t).deadlines = [] := by
      simp only [deadlines, timerRemove, hq, List.eraseP_nil]
    rw [hnew]
    exact iff_of_true (fun _ h ↦ absurd h List.not_mem_nil) trivial
  | cons head rest =>
    rw [hq, List.map_cons, List.map_cons, List.nodup_cons] at hlabels
    have hold : t.deadlines =
        ((head.id, head.func), t.now + t.tval) :: undelta (t.now + t.tval) (rest.map entry) := by
      rw [deadlines, hq]
    rw [Stays, hold]
    by_cases hfunc : head.func = func
    · have hleft : (timerRemove func t).timerq = rest := by
        simp only [timerRemove, hq]
        exact List.eraseP_cons_of_pos (by simpa using hfunc)
      rw [if_pos hfunc]
      cases rest with
      | nil =>
        have hnew : (timerRemove func t).deadlines = [] := by rw [deadlines, hleft]
        rw [hnew]
        exact iff_of_true (fun _ h ↦ absurd h List.not_mem_nil) fun _ h ↦ by cases h
      | cons next more =>
        have hnew := deadlines_eq_undelta (timerRemove func t) hleft
        have htime : (timerRemove func t).now + (timerRemove func t).tval = t.now + t.tval := rfl
        have hgone : (head.id, head.func) ∉ (timerRemove func t).deadlines.map Prod.fst := by
          rw [labels_deadlines, hleft]
          exact hlabels.1
        have hshift : t.now + t.tval = t.now + t.tval - next.seconds * 1000000 ↔
            next.seconds = 0 := by omega
        rw [agree_cons_gone hgone, hnew, htime, agree_undelta hlabels.2, hshift]
        simp
    · have hleft : (timerRemove func t).timerq = head :: rest.eraseP (·.func = func) := by
        simp only [timerRemove, hq]
        exact List.eraseP_cons_of_neg (by simpa using hfunc)
      have hnew : (timerRemove func t).deadlines = ((head.id, head.func), t.now + t.tval) ::
          undelta (t.now + t.tval) ((rest.eraseP (·.func = func)).map entry) := by
        rw [deadlines, hleft]
        rfl
      have hfront : (head.id, head.func) ∉ (undelta (t.now + t.tval)
          ((rest.eraseP (·.func = func)).map entry)).map Prod.fst := by
        rw [map_fst_undelta]
        exact fun hmem ↦ hlabels.1 ((labels_eraseP func rest).subset hmem)
      rw [if_neg hfunc, hnew, agree_cons hfront]
      exact agree_eraseP func _ hlabels.2

/-- Nothing that is left calls the function exactly if at most one cell did. -/
theorem forall_eraseP_iff (func : F) (ns : List (Timerq F)) :
    (∀ n ∈ ns.eraseP (·.func = func), n.func ≠ func) ↔
      (ns.filter (·.func = func)).length ≤ 1 := by
  induction ns with
  | nil => exact iff_of_true (fun _ h ↦ absurd h List.not_mem_nil) (Nat.zero_le 1)
  | cons n ns ih =>
    by_cases hfunc : n.func = func
    · have hnone : (ns.filter (·.func = func)).length = 0 ↔ ∀ m ∈ ns, m.func ≠ func := by
        rw [List.length_eq_zero_iff, List.filter_eq_nil_iff]
        simp
      rw [List.eraseP_cons_of_pos (by simpa using hfunc),
        List.filter_cons_of_pos (by simpa using hfunc), List.length_cons, ← hnone]
      omega
    · rw [List.eraseP_cons_of_neg (by simpa using hfunc),
        List.filter_cons_of_neg (by simpa using hfunc), List.forall_mem_cons, and_iff_right hfunc]
      exact ih

/-- A removal is right exactly when it fits. -/
theorem removeOk_iff_fits {t : Timers F} (h : t.Numbered) (func : F) :
    RemoveOk t func ↔ RemoveFits t func := by
  have hlabels := labels_deadlines (timerRemove func t)
  have hsub : ((timerRemove func t).deadlines.map Prod.fst).Sublist
      (t.deadlines.map Prod.fst) := by
    rw [hlabels, labels_deadlines]
    exact labels_eraseP func t.timerq
  have hdistinct : (t.deadlines.map Prod.fst).Nodup := by
    rw [labels_deadlines]
    exact h.labels
  have hleft : ∀ i ∈ t.deadlines.map Prod.fst, ¬ i.2 = func →
      i ∈ (timerRemove func t).deadlines.map Prod.fst := by
    rw [hlabels, labels_deadlines]
    simp only [List.forall_mem_map]
    intro n hn hfunc
    have hne : ¬ n.func = func := hfunc
    apply List.mem_map_of_mem
    apply List.mem_map_of_mem
    exact (List.mem_eraseP_of_neg (by simpa using hne)).mpr hn
  have hgone : (∀ x ∈ (timerRemove func t).deadlines, ¬ x.1.2 = func) ↔
      (t.timerq.filter (·.func = func)).length ≤ 1 := by
    have hmap : (∀ x ∈ (timerRemove func t).deadlines, ¬ x.1.2 = func) ↔
        ∀ i ∈ (timerRemove func t).deadlines.map Prod.fst, ¬ i.2 = func := by
      simp
    rw [hmap, hlabels, ← forall_eraseP_iff]
    simp only [List.forall_mem_map]
    exact Iff.rfl
  rw [RemoveOk, without_iff_agree hdistinct hsub hleft, hgone, agree_timerRemove h, RemoveFits]

/-- What is asked of one event: that a removal comes out right. -/
def RemovesRight (t : Timers F) : TimerEvent F → Prop
  | .remove func => RemoveOk t func
  | _ => True

/-- The condition on one event: that a removal fits the queue it finds. -/
def RemovalFits (t : Timers F) : TimerEvent F → Prop
  | .remove func => RemoveFits t func
  | _ => True

/-- On every queue that a run can reach, the removal of any function is right exactly when it
fits; and in every run, every removal is right exactly when every removal fits. -/
theorem removals_right_iff (events : List (TimerEvent F)) :
    (∀ func, RemoveOk (run step timerInit events) func ↔
      RemoveFits (run step timerInit events) func) ∧
    (Along step RemovesRight timerInit events ↔ Along step RemovalFits timerInit events) := by
  constructor
  · exact removeOk_iff_fits (numbered_run numbered_timerInit events)
  · refine along_iff_of_inv step (I := Numbered) (fun t e h _ ↦ numbered_step h e) ?_
      numbered_timerInit
    intro t e h
    cases e with
    | insert func secs => exact Iff.rfl
    | remove func => exact removeOk_iff_fits h func
    | expiry => exact Iff.rfl
    | ran => exact Iff.rfl
    | elapse d => exact Iff.rfl

end Removal

/-- Of two timers, due in thirty and in forty seconds, the first is removed: the second is now
due in thirty. -/
theorem second_timer_early :
    ¬ Along step RemovesRight timerInit [.insert false 30, .insert true 10, .remove false] := by
  intro h
  have hkept := h.2.2.1.kept ((1, true), 40000000) (by decide) (by decide)
  exact absurd hkept (by decide)

end Timers

end Libradio.Lrmon
