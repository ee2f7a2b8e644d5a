import AdnBridge.Lib.Ring

namespace AdnBridge
set_option autoImplicit true

/-- `CRingBuffer<T>` of `m_length` cells; `rd` is `m_oPtr` and `wr` is `m_iPtr`. -/
abbrev CRingBuffer (T : Type) (length : Nat) := Ring T length

namespace CRingBuffer

variable {T : Type} {n : Nat}

def freeSpace (b : CRingBuffer T n) : Nat :=
  if b.rd > b.wr then b.rd - b.wr
  else if b.wr > b.rd then n - (b.wr - b.rd)
  else n

def dataSize (b : CRingBuffer T n) : Nat := n - b.freeSpace

def new [Inhabited T] (hn : 0 < n) : CRingBuffer T n where
  cells := Vector.replicate n default
  rd := 0
  wr := 0
  rd_lt := hn
  wr_lt := hn

def clear [Inhabited T] (b : CRingBuffer T n) : CRingBuffer T n :=
  new (Nat.zero_lt_of_lt b.rd_lt)

/-- The new buffer, and whether the data went in; on overflow the whole buffer is cleared. -/
def addData [Inhabited T] (b : CRingBuffer T n) (data : List T) : CRingBuffer T n × Bool :=
  if data.length ≥ b.freeSpace then (b.clear, false) else (b.pushAll data, true)

def getData (b : CRingBuffer T n) (nSamples : Nat) : Option (List T × CRingBuffer T n) :=
  if b.dataSize < nSamples then none else some (b.popMany nSamples)

def peek (b : CRingBuffer T n) (nSamples : Nat) : Option (List T) :=
  if b.dataSize < nSamples then none else some (b.popMany nSamples).1

theorem freeSpace_eq (b : CRingBuffer T n) : b.freeSpace = n - b.size := by
  have hr := b.rd_lt
  have hw := b.wr_lt
  unfold freeSpace Ring.size
  split <;> split <;> first | omega | (split <;> omega)

@[simp] theorem dataSize_eq (b : CRingBuffer T n) : b.dataSize = b.view.length := by
  have hs := b.size_lt
  rw [dataSize, freeSpace_eq, Ring.view_length]
  omega

theorem view_length_lt (b : CRingBuffer T n) : b.view.length < n := by
  rw [Ring.view_length]
  exact b.size_lt

@[simp] theorem view_new [Inhabited T] (hn : 0 < n) : (new hn : CRingBuffer T n).view = [] := by
  rw [← List.length_eq_zero_iff, Ring.view_length, Ring.size_eq_zero_iff]
  rfl

@[simp] theorem view_clear [Inhabited T] (b : CRingBuffer T n) : b.clear.view = [] :=
  view_new _

theorem addData_fits_iff [Inhabited T] (b : CRingBuffer T n) (data : List T) :
    (b.addData data).2 = true ↔ b.view.length + data.length < n := by
  have hs := b.view_length_lt
  rw [addData, freeSpace_eq, ← Ring.view_length]
  split
  next h => exact ⟨fun he => Bool.noConfusion he, fun he => by omega⟩
  next h => exact ⟨fun _ => by omega, fun _ => rfl⟩

theorem view_addData [Inhabited T] (b : CRingBuffer T n) (data : List T)
    (h : b.view.length + data.length < n) : (b.addData data).1.view = b.view ++ data := by
  have hs := b.view_length_lt
  have hf : ¬data.length ≥ b.freeSpace := by
    rw [freeSpace_eq, ← Ring.view_length]
    omega
  rw [addData, if_neg hf]
  refine b.view_pushAll data ?_
  rw [← Ring.view_length]
  exact h

theorem view_addData_overflow [Inhabited T] (b : CRingBuffer T n) (data : List T)
    (h : n ≤ b.view.length + data.length) : (b.addData data).1.view = [] := by
  have hf : data.length ≥ b.freeSpace := by
    rw [freeSpace_eq, ← Ring.view_length]
    omega
  rw [addData, if_pos hf]
  exact b.view_clear

theorem getData_some (b : CRingBuffer T n) (k : Nat) (h : k ≤ b.view.length) :
    ∃ b', b.getData k = some (b.view.take k, b') ∧ b'.view = b.view.drop k := by
  have hs : k ≤ b.size := by rwa [← Ring.view_length]
  obtain ⟨h1, h2⟩ := b.popMany_view k hs
  refine ⟨(b.popMany k).2, ?_, h2⟩
  rw [getData, dataSize_eq, if_neg (by omega), ← h1]

theorem getData_none (b : CRingBuffer T n) (k : Nat) (h : b.view.length < k) :
    b.getData k = none := by
  rw [getData, dataSize_eq, if_pos h]

theorem peek_some (b : CRingBuffer T n) (k : Nat) (h : k ≤ b.view.length) :
    b.peek k = some (b.view.take k) := by
  have hs : k ≤ b.size := by rwa [← Ring.view_length]
  rw [peek, dataSize_eq, if_neg (by omega), (b.popMany_view k hs).1]

theorem peek_none (b : CRingBuffer T n) (k : Nat) (h : b.view.length < k) :
    b.peek k = none := by
  rw [peek, dataSize_eq, if_pos h]

end CRingBuffer

end AdnBridge
