import Mathlib.Tactic.Common
import Mathlib.Data.List.Basic

namespace AdnBridge
set_option autoImplicit true

/-- A trellis in which each state is entered from two predecessors; `cost r s d` is what it costs
to enter `s` from its predecessor `d` on the received symbol `r`. -/
structure Trellis (σ ι : Type*) where
  pred : σ → Bool → σ
  cost : ι → σ → Bool → Nat

namespace Trellis

variable (T : Trellis σ ι)

/-- The cost of the best path that ends in a state, over symbols with the last one first. -/
def metric : List ι → σ → Nat
  | [], _ => 0
  | r :: rs, s =>
    min (metric rs (T.pred s false) + T.cost r s false) (metric rs (T.pred s true) + T.cost r s true)

/-- Which predecessor the survivor comes from; the second one when both are as good. -/
def decision (rs : List ι) (r : ι) (s : σ) : Bool :=
  decide (T.metric rs (T.pred s true) + T.cost r s true ≤
    T.metric rs (T.pred s false) + T.cost r s false)

/-- The decisions along the survivor of a state, the last one first. -/
def survivor : List ι → σ → List Bool
  | [], _ => []
  | r :: rs, s => T.decision rs r s :: survivor rs (T.pred s (T.decision rs r s))

def pathCost : List ι → σ → List Bool → Nat
  | r :: rs, s, d :: ds => pathCost rs (T.pred s d) ds + T.cost r s d
  | _, _, _ => 0

variable {T} {rs : List ι} {s : σ} {ds ds' : List Bool}

@[simp] theorem survivor_length (rs : List ι) (s : σ) : (T.survivor rs s).length = rs.length := by
  induction rs generalizing s with
  | nil => rfl
  | cons r rs ih => rw [survivor, List.length_cons, ih, List.length_cons]

theorem metric_cons (r : ι) (rs : List ι) (s : σ) : T.metric (r :: rs) s =
    T.metric rs (T.pred s (T.decision rs r s)) + T.cost r s (T.decision rs r s) := by
  rw [metric]
  by_cases h : T.metric rs (T.pred s true) + T.cost r s true ≤
      T.metric rs (T.pred s false) + T.cost r s false
  · rw [decision, decide_eq_true h, Nat.min_eq_right h]
  · rw [decision, decide_eq_false h, Nat.min_eq_left (Nat.le_of_not_le h)]

theorem metric_cons_le (r : ι) (rs : List ι) (s : σ) (d : Bool) :
    T.metric (r :: rs) s ≤ T.metric rs (T.pred s d) + T.cost r s d := by
  cases d with
  | false => exact Nat.min_le_left _ _
  | true => exact Nat.min_le_right _ _

theorem pathCost_survivor (rs : List ι) (s : σ) :
    T.pathCost rs s (T.survivor rs s) = T.metric rs s := by
  induction rs generalizing s with
  | nil => rfl
  | cons r rs ih => rw [survivor, pathCost, ih, metric_cons]

theorem metric_le_pathCost (h : ds.length = rs.length) :
    T.metric rs s ≤ T.pathCost rs s ds := by
  induction rs generalizing s ds with
  | nil => exact Nat.zero_le _
  | cons r rs ih =>
    cases ds with
    | nil => cases h
    | cons d ds =>
      apply Nat.le_trans (metric_cons_le r rs s d)
      exact Nat.add_le_add_right (ih (Nat.succ.inj h)) _

/-- No path into a state costs less than its survivor. -/
theorem survivor_best (h : ds.length = rs.length) :
    T.pathCost rs s (T.survivor rs s) ≤ T.pathCost rs s ds := by
  rw [pathCost_survivor]
  exact metric_le_pathCost h

/-- If the two decisions at a state cost at least `a` together, and any two decisions at the states
that they lead to at least `b`, then paths that cost less than `a + b` together differ in their
first decision at most. -/
theorem agree_of_cost (near : σ → σ → Prop) {a b : Nat}
    (hsplit : ∀ r s d, a ≤ T.cost r s d + T.cost r s (!d))
    (hnear : ∀ s d, near (T.pred s d) (T.pred s (!d)))
    (hnext : ∀ r s s' d d', near s s' → b ≤ T.cost r s d + T.cost r s' d')
    (h : ds.length = rs.length) (h' : ds'.length = rs.length)
    (hc : T.pathCost rs s ds + T.pathCost rs s ds' < a + b) : ds.dropLast = ds'.dropLast := by
  induction rs generalizing s ds ds' with
  | nil => rw [List.length_eq_zero_iff.1 h, List.length_eq_zero_iff.1 h']
  | cons r rs ih =>
    obtain ⟨d, ds, rfl⟩ := List.exists_cons_of_length_eq_add_one h
    obtain ⟨d', ds', rfl⟩ := List.exists_cons_of_length_eq_add_one h'
    have hl := Nat.succ.inj h
    have hl' := Nat.succ.inj h'
    rw [pathCost, pathCost] at hc
    by_cases hd : d' = d
    · subst hd
      have he := ih (s := T.pred s d') hl hl' (by omega)
      cases ds with
      | nil => rw [List.length_eq_zero_iff.1 (hl'.trans hl.symm)]
      | cons e ds =>
        obtain ⟨e', ds', rfl⟩ := List.exists_cons_of_length_eq_add_one (hl'.trans hl.symm)
        rw [List.dropLast_cons_cons, List.dropLast_cons_cons, he]
    · have hd' : d' = !d := Bool.eq_not_of_ne hd
      subst hd'
      have ha := hsplit r s d
      cases rs with
      | nil =>
        rw [List.length_eq_zero_iff.1 hl, List.length_eq_zero_iff.1 hl']
        rfl
      | cons r' rs =>
        obtain ⟨e, ds, rfl⟩ := List.exists_cons_of_length_eq_add_one hl
        obtain ⟨e', ds', rfl⟩ := List.exists_cons_of_length_eq_add_one hl'
        rw [pathCost, pathCost] at hc
        have hb := hnext r' _ _ e e' (hnear s d)
        omega

end Trellis

end AdnBridge
