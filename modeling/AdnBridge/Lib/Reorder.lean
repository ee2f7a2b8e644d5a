import Mathlib.Data.List.Basic

namespace AdnBridge
set_option autoImplicit true

section
variable {f : σ → α → σ} {key : α → κ} {l l' : List α} {a : α} {s : σ}

/-- A step passes all those with another key. -/
theorem foldl_pass (hcomm : ∀ a b, key a ≠ key b → ∀ s, f (f s a) b = f (f s b) a)
    (h : ∀ b ∈ l, key b ≠ key a) (s : σ) : f (l.foldl f s) a = l.foldl f (f s a) := by
  induction l generalizing s with
  | nil => rfl
  | cons b l ih =>
    have hb : key a ≠ key b := (h b List.mem_cons_self).symm
    rw [List.foldl_cons, List.foldl_cons, hcomm a b hb,
      ih fun c hc => h c (List.mem_cons_of_mem b hc)]

variable [DecidableEq κ]

/-- The elements with the key `k`. -/
def keyed (key : α → κ) (k : κ) (l : List α) : List α := l.filter fun a => key a = k

theorem keyed_append (key : α → κ) (k : κ) (l l' : List α) :
    keyed key k (l ++ l') = keyed key k l ++ keyed key k l' := List.filter_append ..

theorem keyed_cons_self (h : key a = k) (l : List α) :
    keyed key k (a :: l) = a :: keyed key k l := List.filter_cons_of_pos (decide_eq_true h)

theorem keyed_cons_ne (h : key a ≠ k) (l : List α) : keyed key k (a :: l) = keyed key k l :=
  List.filter_cons_of_neg (by rwa [decide_eq_true_eq])

theorem keyed_eq_nil (h : ∀ b ∈ l, key b ≠ k) : keyed key k l = [] :=
  List.filter_eq_nil_iff.2 fun b hb => by rw [decide_eq_true_eq]; exact h b hb

theorem keyed_swap (h : key a ≠ key b) (k : κ) (l : List α) :
    keyed key k (a :: b :: l) = keyed key k (b :: a :: l) := by
  by_cases ha : key a = k
  · have hb : key b ≠ k := fun hb => h (ha.trans hb.symm)
    rw [keyed_cons_self ha, keyed_cons_ne hb, keyed_cons_ne hb, keyed_cons_self ha]
  · by_cases hb : key b = k
    · rw [keyed_cons_ne ha, keyed_cons_self hb, keyed_cons_self hb, keyed_cons_ne ha]
    · rw [keyed_cons_ne ha, keyed_cons_ne hb, keyed_cons_ne hb, keyed_cons_ne ha]

/-- The first element with a key stands behind elements with other keys. -/
theorem exists_append_of_keyed {rest : List α} (h : keyed key k l = a :: rest) :
    ∃ l₁ l₂, l = l₁ ++ a :: l₂ ∧ ∀ b ∈ l₁, key b ≠ k := by
  obtain ⟨l₁, l₂, hl, h1, -⟩ := List.filter_eq_cons_iff.1 h
  exact ⟨l₁, l₂, hl, fun b hb hk => h1 b hb (decide_eq_true hk)⟩

/-- Where steps with different keys commute, what counts is the order for each key. -/
theorem foldl_eq_of_keyed_eq (hcomm : ∀ a b, key a ≠ key b → ∀ s, f (f s a) b = f (f s b) a)
    (h : ∀ k, keyed key k l = keyed key k l') : l.foldl f s = l'.foldl f s := by
  induction l generalizing l' s with
  | nil =>
    cases l' with
    | nil => rfl
    | cons b l' =>
      have hb := h (key b)
      rw [keyed_cons_self rfl] at hb
      cases hb
  | cons a l ih =>
    have ha := h (key a)
    rw [keyed_cons_self rfl] at ha
    obtain ⟨l₁, l₂, rfl, h1⟩ := exists_append_of_keyed ha.symm
    rw [List.foldl_cons, List.foldl_append, List.foldl_cons, foldl_pass hcomm h1,
      ← List.foldl_append]
    apply ih
    intro k
    have hk := h k
    rw [keyed_append] at hk ⊢
    by_cases hka : key a = k
    · rw [← hka] at hk ⊢
      rw [keyed_cons_self rfl, keyed_cons_self rfl, keyed_eq_nil h1] at hk
      rw [keyed_eq_nil h1]
      exact (List.cons.inj hk).2
    · rwa [keyed_cons_ne hka, keyed_cons_ne hka] at hk

end

end AdnBridge
