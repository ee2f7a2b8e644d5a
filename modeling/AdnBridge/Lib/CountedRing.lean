import Mathlib.Tactic.Common
import Mathlib.Data.List.Basic
import Mathlib.Data.Nat.ModEq

namespace AdnBridge
set_option autoImplicit true

/-- A circular buffer with the number of its elements, so that it can be full. -/
structure CountedRing (α : Type*) (n : Nat) where
  cells : Vector α n
  rd : Nat
  wr : Nat
  count : Nat
  rd_lt : rd < n
  wr_lt : wr < n

namespace CountedRing

variable {n : Nat}

theorem size_pos (q : CountedRing α n) : 0 < n := Nat.zero_lt_of_lt q.rd_lt

def cellAt (q : CountedRing α n) (i : Nat) (h : i < n) : α := q.cells[i]

def push (q : CountedRing α n) (x : α) : CountedRing α n :=
  { q with
    cells := q.cells.set q.wr x q.wr_lt, wr := (q.wr + 1) % n, count := q.count + 1,
    wr_lt := Nat.mod_lt _ q.size_pos }

/-- One element after the other, until the buffer is full. -/
def pushAll (q : CountedRing α n) : List α → CountedRing α n
  | [] => q
  | x :: xs => if q.count ≥ n then q else (q.push x).pushAll xs

def front (q : CountedRing α n) : α := q.cellAt q.rd q.rd_lt

def pop (q : CountedRing α n) : CountedRing α n :=
  { q with rd := (q.rd + 1) % n, count := q.count - 1, rd_lt := Nat.mod_lt _ q.size_pos }

/-- The oldest elements, at most `k` of them, and the buffer without them. -/
def popMany (q : CountedRing α n) : Nat → List α × CountedRing α n
  | 0 => ([], q)
  | k + 1 =>
    if q.count = 0 then ([], q)
    else (q.front :: (q.pop.popMany k).1, (q.pop.popMany k).2)

def clear (q : CountedRing α n) : CountedRing α n :=
  { q with rd := 0, wr := 0, count := 0, rd_lt := q.size_pos, wr_lt := q.size_pos }

/-- The positions and the count agree. -/
structure Wf (q : CountedRing α n) : Prop where
  count_le : q.count ≤ n
  wr_eq : q.wr = (q.rd + q.count) % n

def nth (q : CountedRing α n) (i : Nat) : α :=
  q.cellAt ((q.rd + i) % n) (Nat.mod_lt _ q.size_pos)

/-- What the buffer holds, oldest first. -/
def view (q : CountedRing α n) : List α := (List.range q.count).map q.nth

@[simp] theorem view_length (q : CountedRing α n) : q.view.length = q.count := by
  rw [view, List.length_map, List.length_range]

theorem Wf.clear (q : CountedRing α n) : q.clear.Wf :=
  ⟨Nat.zero_le _, (Nat.zero_mod n).symm⟩

theorem Wf.push {q : CountedRing α n} (h : q.Wf) (x : α) (hc : q.count < n) : (q.push x).Wf := by
  refine ⟨hc, ?_⟩
  change (q.wr + 1) % n = (q.rd + (q.count + 1)) % n
  rw [h.wr_eq, Nat.mod_add_mod, Nat.add_assoc]

theorem nth_push_count {q : CountedRing α n} (h : q.Wf) (x : α) : (q.push x).nth q.count = x := by
  have hw : (q.rd + q.count) % n = q.wr := h.wr_eq.symm
  simp only [nth, cellAt, CountedRing.push, hw, Vector.getElem_set_self]

theorem nth_push_lt {q : CountedRing α n} (h : q.Wf) (x : α) (hi : i < q.count)
    (hc : q.count < n) : (q.push x).nth i = q.nth i := by
  have hne : q.wr ≠ (q.rd + i) % n := by
    rw [h.wr_eq]
    intro he
    have hm : i % n = q.count % n := Nat.ModEq.add_left_cancel' q.rd he.symm
    rw [Nat.mod_eq_of_lt hc, Nat.mod_eq_of_lt (Nat.lt_trans hi hc)] at hm
    omega
  simp only [nth, cellAt, CountedRing.push]
  exact Vector.getElem_set_ne _ _ hne

theorem view_push {q : CountedRing α n} (h : q.Wf) (x : α) (hc : q.count < n) :
    (q.push x).view = q.view ++ [x] := by
  have hcount : (q.push x).count = q.count + 1 := rfl
  rw [view, hcount, List.range_succ, List.map_append, List.map_singleton, nth_push_count h, view]
  congr 1
  exact List.map_congr_left fun i hi => nth_push_lt h x (List.mem_range.1 hi) hc

/-- As many elements are taken as there is room for. -/
theorem pushAll_spec {q : CountedRing α n} (h : q.Wf) (xs : List α) :
    (q.pushAll xs).Wf ∧ (q.pushAll xs).view = q.view ++ xs.take (n - q.count) := by
  induction xs generalizing q with
  | nil =>
    rw [List.take_nil, List.append_nil]
    exact ⟨h, rfl⟩
  | cons x xs ih =>
    rw [pushAll]
    split
    next hfull =>
      have hroom : n - q.count = 0 := Nat.sub_eq_zero_of_le hfull
      rw [hroom, List.take_zero, List.append_nil]
      exact ⟨h, rfl⟩
    next hfull =>
      have hc : q.count < n := Nat.lt_of_not_le hfull
      obtain ⟨hwf, hview⟩ := ih (h.push x hc)
      have hroom : n - q.count = n - (q.push x).count + 1 := by
        change _ = n - (q.count + 1) + 1
        omega
      rw [hview, view_push h x hc, hroom, List.take_succ_cons, List.append_assoc]
      exact ⟨hwf, rfl⟩

theorem Wf.pop {q : CountedRing α n} (h : q.Wf) (hc : 0 < q.count) : q.pop.Wf := by
  refine ⟨Nat.le_trans (Nat.sub_le _ _) h.count_le, ?_⟩
  change q.wr = ((q.rd + 1) % n + (q.count - 1)) % n
  have hsum : q.rd + 1 + (q.count - 1) = q.rd + q.count := by omega
  rw [h.wr_eq, Nat.mod_add_mod, hsum]

theorem nth_pop (q : CountedRing α n) (i : Nat) : q.pop.nth i = q.nth (i + 1) := by
  have he : (q.pop.rd + i) % n = (q.rd + (i + 1)) % n := by
    change ((q.rd + 1) % n + i) % n = _
    rw [Nat.mod_add_mod]
    congr 1
    omega
  simp only [nth, cellAt, he]
  rfl

theorem front_eq_nth (q : CountedRing α n) : q.front = q.nth 0 := by
  have he : (q.rd + 0) % n = q.rd := Nat.mod_eq_of_lt q.rd_lt
  simp only [front, nth, cellAt, he]

theorem view_pop (q : CountedRing α n) (hc : 0 < q.count) : q.view = q.front :: q.pop.view := by
  have hcount : q.count = q.pop.count + 1 := by
    change _ = q.count - 1 + 1
    omega
  rw [view, hcount, List.range_succ_eq_map, List.map_cons, List.map_map, front_eq_nth, view]
  congr 1
  exact List.map_congr_left fun i _ => (nth_pop q i).symm

theorem popMany_spec {q : CountedRing α n} (h : q.Wf) (k : Nat) :
    (q.popMany k).2.Wf ∧ (q.popMany k).1 = q.view.take k ∧
      (q.popMany k).2.view = q.view.drop k := by
  induction k generalizing q with
  | zero => exact ⟨h, rfl, rfl⟩
  | succ k ih =>
    rw [popMany]
    split
    next h0 =>
      have hview : q.view = [] := List.length_eq_zero_iff.1 (q.view_length.trans h0)
      rw [hview]
      exact ⟨h, rfl, rfl⟩
    next h0 =>
      have hc : 0 < q.count := Nat.pos_of_ne_zero h0
      obtain ⟨hwf, htake, hdrop⟩ := ih (h.pop hc)
      rw [view_pop q hc]
      exact ⟨hwf, congrArg _ htake, hdrop⟩

end CountedRing

end AdnBridge
