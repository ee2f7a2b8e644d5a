import Mathlib.Data.List.OfFn

namespace AdnBridge
set_option autoImplicit true

/-- A buffer of `n` cells that is written at `wr` and read at `rd`. -/
structure LinearBuffer (α : Type*) (n : Nat) where
  cells : Fin n → α
  rd : Nat
  wr : Nat
  rd_le : rd ≤ wr
  wr_le : wr ≤ n

namespace LinearBuffer

variable {n : Nat} {b : LinearBuffer α n}

theorem index_lt (b : LinearBuffer α n) (h : i < b.wr - b.rd) : b.rd + i < n :=
  Nat.lt_of_lt_of_le (Nat.add_lt_of_lt_sub' h) b.wr_le

theorem offset_lt {i wr len : Nat} (h : wr ≤ i ∧ i < wr + len) : i - wr < len :=
  Nat.sub_lt_left_of_lt_add h.1 h.2

/-- What was written and not read yet, oldest first. -/
def view (b : LinearBuffer α n) : List α :=
  List.ofFn fun i : Fin (b.wr - b.rd) => b.cells ⟨b.rd + i, b.index_lt i.isLt⟩

/-- The cells with nothing in them. -/
def ofCells (cells : Fin n → α) : LinearBuffer α n :=
  ⟨cells, 0, 0, Nat.le_refl 0, Nat.zero_le n⟩

def clear (b : LinearBuffer α n) : LinearBuffer α n := ofCells b.cells

/-- What is unread, at the beginning of the cells. -/
def moveDown (b : LinearBuffer α n) : LinearBuffer α n where
  cells i := if h : i.val < b.wr - b.rd then b.cells ⟨b.rd + i, b.index_lt h⟩ else b.cells i
  rd := 0
  wr := b.wr - b.rd
  rd_le := Nat.zero_le _
  wr_le := Nat.le_trans (Nat.sub_le _ _) b.wr_le

/-- All the room that there is, behind what is unread. -/
def makeRoom (b : LinearBuffer α n) : LinearBuffer α n :=
  if b.rd > 0 ∧ b.wr - b.rd > 0 then b.moveDown else if b.rd > 0 then b.clear else b

def append (b : LinearBuffer α n) (xs : List α) (h : b.wr + xs.length ≤ n) :
    LinearBuffer α n where
  cells i :=
    if h : b.wr ≤ i.val ∧ i.val < b.wr + xs.length then xs.get ⟨i - b.wr, offset_lt h⟩
    else b.cells i
  rd := b.rd
  wr := b.wr + xs.length
  rd_le := Nat.le_trans b.rd_le (Nat.le_add_right _ _)
  wr_le := h

/-- Past the first `k` elements; a buffer that is read to its end starts over. -/
def skip (b : LinearBuffer α n) (k : Nat) : LinearBuffer α n :=
  if h : b.rd + k < b.wr then { b with rd := b.rd + k, rd_le := Nat.le_of_lt h } else b.clear

@[simp] theorem view_length (b : LinearBuffer α n) : b.view.length = b.wr - b.rd :=
  List.length_ofFn

theorem view_getElem (b : LinearBuffer α n) (h : i < b.view.length) :
    b.view[i] = b.cells ⟨b.rd + i, b.index_lt (b.view_length ▸ h)⟩ := List.getElem_ofFn ..

@[simp] theorem view_clear (b : LinearBuffer α n) : b.clear.view = [] := rfl

theorem view_eq_nil : b.view = [] ↔ ¬b.wr - b.rd > 0 := by
  rw [← List.length_eq_zero_iff, view_length, Nat.not_lt, Nat.le_zero]

theorem view_moveDown (b : LinearBuffer α n) : b.moveDown.view = b.view := by
  apply List.ext_getElem
  · rw [view_length, view_length]
    rfl
  · intro i hi h
    have hlt : i < b.wr - b.rd := b.view_length ▸ h
    rw [view_getElem, view_getElem]
    simp only [moveDown, Nat.zero_add, hlt, dif_pos]

/-- Nothing is lost, and only what is unread takes room. -/
theorem makeRoom_spec (b : LinearBuffer α n) :
    b.makeRoom.view = b.view ∧ b.makeRoom.wr = b.view.length := by
  rw [makeRoom, view_length]
  split
  · exact ⟨b.view_moveDown, rfl⟩
  next hu =>
    split
    next hr =>
      have hw : ¬b.wr - b.rd > 0 := fun hw => hu ⟨hr, hw⟩
      refine ⟨(view_eq_nil.2 hw).symm, ?_⟩
      change 0 = _
      omega
    next hr =>
      refine ⟨rfl, ?_⟩
      omega

theorem view_append (b : LinearBuffer α n) (xs : List α) (h : b.wr + xs.length ≤ n) :
    (b.append xs h).view = b.view ++ xs := by
  have hle := b.rd_le
  have hwr : (b.append xs h).wr = b.wr + xs.length := rfl
  have hrd : (b.append xs h).rd = b.rd := rfl
  apply List.ext_getElem
  · rw [view_length, List.length_append, view_length, hwr, hrd]
    omega
  · intro i hi hi'
    rw [view_getElem]
    by_cases hlt : i < b.view.length
    · have hout : ¬(b.wr ≤ b.rd + i ∧ b.rd + i < b.wr + xs.length) := by
        rw [view_length] at hlt
        omega
      rw [List.getElem_append_left hlt, view_getElem]
      simp only [append, hout, dif_neg, not_false_eq_true]
    · have hin : b.wr ≤ b.rd + i ∧ b.rd + i < b.wr + xs.length := by
        rw [view_length] at hlt hi
        rw [hwr, hrd] at hi
        omega
      have hidx : b.rd + i - b.wr = i - b.view.length := by
        rw [view_length] at hlt ⊢
        omega
      rw [List.getElem_append_right (Nat.not_lt.1 hlt)]
      simp only [append, hin, and_self, dif_pos, List.get_eq_getElem, hidx]

theorem view_skip (b : LinearBuffer α n) (k : Nat) : (b.skip k).view = b.view.drop k := by
  have hle := b.rd_le
  rw [skip]
  split
  next h =>
    apply List.ext_getElem
    · rw [List.length_drop, view_length, view_length]
      change b.wr - (b.rd + k) = _
      omega
    · intro i hi hi'
      rw [List.getElem_drop, view_getElem, view_getElem]
      simp only [Nat.add_assoc]
  next h =>
    rw [view_clear, List.drop_eq_nil_of_le]
    rw [view_length]
    omega

end LinearBuffer

end AdnBridge
