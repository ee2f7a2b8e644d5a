import Mathlib.Tactic.Common

namespace AdnBridge
set_option autoImplicit true

/-- Events from time `t` to time `t'`, each in a window of its own, one window after the other. -/
inductive Timed (within : ε → Int → Int → Prop) : Int → List ε → Int → Prop
  | nil : Timed within t [] t
  | cons : within ev t u → t ≤ u → Timed within u evs t' → Timed within t (ev :: evs) t'

/-- As long as the goal is away, a state has a rank and a time from which the next event brings the
rank down; events come at most `d` apart, and the wait after one is at most `q`. -/
structure Waits (step : σ → ε → σ) (within : ε → Int → Int → Prop) (d q : Int) (goal : σ → Prop)
    (I : Int → σ → Nat → Int → Prop) : Prop where
  gap : ∀ {ev t u}, within ev t u → u ≤ t + d
  stays : ∀ {ev t u s}, within ev t u → goal s → goal (step s ev)
  turn : ∀ {ev t u s n r}, within ev t u → t ≤ u → I t s n r →
    goal (step s ev) ∨ ∃ n' r', I u (step s ev) n' r' ∧
      (n' < n ∧ r' ≤ u + q ∨ n' = n ∧ r' = r ∧ (u = t ∨ t < r))

namespace Timed

variable {within within' : ε → Int → Int → Prop} {es fs : List ε} {t t' t'' : Int}

theorem append (h : Timed within t es t') (h' : Timed within t' fs t'') :
    Timed within t (es ++ fs) t'' := by
  induction h with
  | nil => exact h'
  | cons hw htu _ ih => exact .cons hw htu (ih h')

/-- An invariant in time. -/
theorem foldl {step : σ → ε → σ} {I : Int → σ → Prop}
    (hstep : ∀ s ev t u, I t s → within ev t u → t ≤ u → I u (step s ev)) (hs : I t s)
    (h : Timed within t es t') : I t' (es.foldl step s) := by
  induction h generalizing s with
  | nil => exact hs
  | cons hw htu _ ih => exact ih (hstep _ _ _ _ hs hw htu)

end Timed

namespace Waits

variable {step : σ → ε → σ} {within : ε → Int → Int → Prop} {d q : Int} {goal : σ → Prop}
variable {I : Int → σ → Nat → Int → Prop} {es : List ε} {t t' r : Int} {n : Nat}

/-- A goal that has been reached is kept. -/
theorem kept (hW : Waits step within d q goal I) (hg : goal s) (h : Timed within t es t') :
    goal (es.foldl step s) := by
  induction h generalizing s with
  | nil => exact hg
  | cons hw _ _ ih => exact ih (hW.stays hw hg)

theorem reaches_of_budget (hW : Waits step within d q goal I) (hd : 0 < d) (hq : 0 ≤ q)
    (hs : I t s n r) (h : Timed within t es t')
    (hb : r ≤ t ∧ t + d + n * (q + 2 * d) ≤ t' ∨ t ≤ r ∧ r + 2 * d + n * (q + 2 * d) ≤ t') :
    goal (es.foldl step s) := by
  induction h generalizing s n r with
  | @nil t =>
    have hn : 0 ≤ (n : Int) * (q + 2 * d) :=
      Int.mul_nonneg (Int.natCast_nonneg n) (by omega)
    omega
  | @cons ev t u evs t' hw htu hrest ih =>
    have hgap := hW.gap hw
    rw [List.foldl_cons]
    rcases hW.turn hw htu hs with hg | ⟨n', r', hs', ⟨hn, hr⟩ | ⟨rfl, rfl, hr⟩⟩
    · exact hW.kept hg hrest
    · have hm : ((n' : Int) + 1) * (q + 2 * d) ≤ n * (q + 2 * d) :=
        Int.mul_le_mul_of_nonneg_right (by omega) (by omega)
      rw [Int.add_mul, Int.one_mul] at hm
      apply ih hs'
      by_cases hru : r' ≤ u
      · exact .inl ⟨hru, by omega⟩
      · exact .inr ⟨by omega, by omega⟩
    · apply ih hs'
      by_cases hru : r' ≤ u
      · exact .inl ⟨hru, by omega⟩
      · exact .inr ⟨by omega, by omega⟩

/-- The goal is reached in the time that the rank and the first wait allow for. -/
theorem reaches (hW : Waits step within d q goal I) (hd : 0 < d) (hq : 0 ≤ q) (hs : I t s n r)
    (hr : r ≤ t + q) (h : Timed within t es t') (ht : t + (n + 1) * (q + 2 * d) ≤ t') :
    goal (es.foldl step s) := by
  rw [Int.add_mul, Int.one_mul] at ht
  apply hW.reaches_of_budget hd hq hs h
  by_cases hrt : r ≤ t
  · exact .inl ⟨hrt, by omega⟩
  · exact .inr ⟨by omega, by omega⟩

end Waits

end AdnBridge
