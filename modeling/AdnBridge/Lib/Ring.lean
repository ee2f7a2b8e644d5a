import Mathlib.Tactic.Common
import Mathlib.Data.List.Basic
import Mathlib.Data.Nat.ModEq

namespace AdnBridge
set_option autoImplicit true

/-- A circular buffer; the read and write positions stay inside it, and meet when it is empty. -/
structure Ring (α : Type*) (n : Nat) where
  cells : Vector α n
  rd : Nat
  wr : Nat
  rd_lt : rd < n
  wr_lt : wr < n

namespace Ring

variable {n : Nat}

def next (n i : Nat) : Nat := if i + 1 = n then 0 else i + 1

theorem next_lt (h : i < n) : next n i < n := by
  unfold next
  split <;> omega

theorem next_eq_mod (h : i < n) : next n i = (i + 1) % n := by
  unfold next
  split
  next hi => rw [hi, Nat.mod_self]
  next hi => rw [Nat.mod_eq_of_lt (by omega)]

def cellAt (r : Ring α n) (i : Nat) (h : i < n) : α := r.cells[i]

def size (r : Ring α n) : Nat := if r.rd ≤ r.wr then r.wr - r.rd else n - (r.rd - r.wr)

theorem size_lt (r : Ring α n) : r.size < n := by
  have := r.rd_lt
  have := r.wr_lt
  unfold size
  split <;> omega

theorem wr_eq_mod (r : Ring α n) : r.wr = (r.rd + r.size) % n := by
  have hr := r.rd_lt
  have hw := r.wr_lt
  unfold size
  split
  next h => rw [Nat.add_sub_cancel' h, Nat.mod_eq_of_lt hw]
  next h =>
    have he : r.rd + (n - (r.rd - r.wr)) = r.wr + n := by omega
    rw [he, Nat.add_mod_right, Nat.mod_eq_of_lt hw]

def push (r : Ring α n) (x : α) : Ring α n where
  cells := r.cells.set r.wr x r.wr_lt
  rd := r.rd
  wr := next n r.wr
  rd_lt := r.rd_lt
  wr_lt := next_lt r.wr_lt

def front (r : Ring α n) : α := r.cellAt r.rd r.rd_lt

def pop (r : Ring α n) : Ring α n where
  cells := r.cells
  rd := next n r.rd
  wr := r.wr
  rd_lt := next_lt r.rd_lt
  wr_lt := r.wr_lt

def nth (r : Ring α n) (i : Nat) : α :=
  r.cellAt ((r.rd + i) % n) (Nat.mod_lt _ (Nat.zero_lt_of_lt r.rd_lt))

/-- What the ring holds, oldest first. -/
def view (r : Ring α n) : List α := (List.range r.size).map r.nth

@[simp] theorem view_length (r : Ring α n) : r.view.length = r.size := by
  rw [view, List.length_map, List.length_range]

theorem size_push (r : Ring α n) (x : α) (h : r.size + 1 < n) :
    (r.push x).size = r.size + 1 := by
  have hr := r.rd_lt
  have hw := r.wr_lt
  simp only [size, push, next] at h ⊢
  split at h <;> split <;> split <;> omega

theorem size_pop (r : Ring α n) (h : 0 < r.size) : r.pop.size + 1 = r.size := by
  have hr := r.rd_lt
  have hw := r.wr_lt
  simp only [size, pop, next] at h ⊢
  split at h <;> split <;> split <;> omega

theorem nth_push_size (r : Ring α n) (x : α) : (r.push x).nth r.size = x := by
  have hw : (r.rd + r.size) % n = r.wr := r.wr_eq_mod.symm
  simp only [nth, cellAt, push, hw, Vector.getElem_set_self]

theorem nth_push_lt (r : Ring α n) (x : α) (h : i < r.size) : (r.push x).nth i = r.nth i := by
  have hs := r.size_lt
  have hr := r.rd_lt
  have hne : r.wr ≠ (r.rd + i) % n := by
    rw [r.wr_eq_mod]
    intro he
    have hm : i % n = r.size % n := Nat.ModEq.add_left_cancel' r.rd he.symm
    rw [Nat.mod_eq_of_lt hs, Nat.mod_eq_of_lt (by omega)] at hm
    omega
  simp only [nth, cellAt, push]
  exact Vector.getElem_set_ne _ _ hne

theorem nth_pop (r : Ring α n) (i : Nat) : r.pop.nth i = r.nth (i + 1) := by
  have he : (r.pop.rd + i) % n = (r.rd + (i + 1)) % n := by
    change (next n r.rd + i) % n = _
    rw [next_eq_mod r.rd_lt, Nat.mod_add_mod]
    congr 1
    omega
  simp only [nth, cellAt, he]
  rfl

theorem front_eq_nth (r : Ring α n) : r.front = r.nth 0 := by
  have he : (r.rd + 0) % n = r.rd := Nat.mod_eq_of_lt r.rd_lt
  simp only [front, nth, cellAt, he]

theorem view_push (r : Ring α n) (x : α) (h : r.size + 1 < n) :
    (r.push x).view = r.view ++ [x] := by
  rw [view, size_push r x h, List.range_succ, List.map_append, List.map_singleton,
    nth_push_size, view]
  congr 1
  exact List.map_congr_left fun i hi => nth_push_lt r x (List.mem_range.1 hi)

theorem view_pop (r : Ring α n) (h : 0 < r.size) : r.view = r.front :: r.pop.view := by
  rw [view, view, ← size_pop r h, List.range_succ_eq_map, List.map_cons, List.map_map,
    front_eq_nth]
  congr 1
  exact List.map_congr_left fun i _ => (nth_pop r i).symm

theorem size_eq_zero_iff (r : Ring α n) : r.size = 0 ↔ r.rd = r.wr := by
  have hr := r.rd_lt
  have hw := r.wr_lt
  unfold size
  split <;> omega

def pushAll (r : Ring α n) : List α → Ring α n
  | [] => r
  | x :: xs => (r.push x).pushAll xs

/-- The `k` oldest elements, and the ring without them. -/
def popMany (r : Ring α n) : Nat → List α × Ring α n
  | 0 => ([], r)
  | k + 1 => (r.front :: (r.pop.popMany k).1, (r.pop.popMany k).2)

theorem view_pushAll (r : Ring α n) (xs : List α) (h : r.size + xs.length < n) :
    (r.pushAll xs).view = r.view ++ xs := by
  induction xs generalizing r with
  | nil => exact (List.append_nil _).symm
  | cons x xs ih =>
    rw [List.length_cons] at h
    have hs := size_push r x (by omega)
    rw [pushAll, ih _ (by omega), view_push r x (by omega), List.append_assoc]
    rfl

theorem popMany_view (r : Ring α n) (k : Nat) (h : k ≤ r.size) :
    (r.popMany k).1 = r.view.take k ∧ (r.popMany k).2.view = r.view.drop k := by
  induction k generalizing r with
  | zero => exact ⟨rfl, rfl⟩
  | succ k ih =>
    have hs := size_pop r (by omega)
    obtain ⟨h1, h2⟩ := ih r.pop (by omega)
    rw [view_pop r (by omega)]
    exact ⟨congrArg _ h1, h2⟩

end Ring

end AdnBridge
