import Mathlib.Tactic.Common
import Mathlib.Data.List.Basic

namespace AdnBridge
set_option autoImplicit true

/-- A way to cut frames off the front of a stream: `none` as long as no whole frame is there. -/
structure Framing (α β : Type*) where
  cut : List α → Option (β × List α)
  length_lt : cut xs = some (f, rest) → rest.length < xs.length
  append : cut xs = some (f, rest) → ∀ ys, cut (xs ++ ys) = some (f, rest ++ ys)

namespace Framing

variable {F : Framing α β} {xs ys rest : List α} {f : β}

/-- At most `n` frames, and what is left. -/
def splitUpTo (F : Framing α β) : Nat → List α → List β × List α
  | 0, xs => ([], xs)
  | n + 1, xs =>
    match F.cut xs with
    | none => ([], xs)
    | some (f, rest) => (f :: (splitUpTo F n rest).1, (splitUpTo F n rest).2)

/-- All the whole frames of a stream, and what is left. -/
def split (F : Framing α β) (xs : List α) : List β × List α := F.splitUpTo xs.length xs

theorem splitUpTo_enough (h : xs.length ≤ n) : F.splitUpTo n xs = F.split xs := by
  have key : ∀ m n (xs : List α), xs.length ≤ m → xs.length ≤ n →
      F.splitUpTo m xs = F.splitUpTo n xs := by
    intro m
    induction m with
    | zero =>
      intro n xs hm _
      obtain rfl := List.length_eq_zero_iff.1 (Nat.le_zero.1 hm)
      cases n with
      | zero => rfl
      | succ n =>
        cases hc : F.cut [] with
        | none => simp only [splitUpTo, hc]
        | some r => exact absurd (F.length_lt hc) (Nat.not_lt_zero _)
    | succ m ih =>
      intro n xs hm hn
      cases hc : F.cut xs with
      | none =>
        cases n with
        | zero => simp only [splitUpTo, hc]
        | succ n => simp only [splitUpTo, hc]
      | some r =>
        have hl := F.length_lt hc
        cases n with
        | zero => exact absurd hl (by omega)
        | succ n => simp only [splitUpTo, hc, ih n r.2 (by omega) (by omega)]
  exact key n xs.length xs h (Nat.le_refl _)

theorem split_none (h : F.cut xs = none) : F.split xs = ([], xs) := by
  rw [← splitUpTo_enough (Nat.le_succ _), splitUpTo, h]

theorem split_some (h : F.cut xs = some (f, rest)) :
    F.split xs = (f :: (F.split rest).1, (F.split rest).2) := by
  have hl := F.length_lt h
  rw [← splitUpTo_enough (Nat.le_succ _), splitUpTo, h]
  simp only [splitUpTo_enough (Nat.le_of_lt hl)]

/-- Induction along the frames of a stream. -/
theorem induction (F : Framing α β) {P : List α → Prop} (hnone : ∀ xs, F.cut xs = none → P xs)
    (hsome : ∀ xs f rest, F.cut xs = some (f, rest) → P rest → P xs) (xs : List α) : P xs := by
  induction h : xs.length using Nat.strongRecOn generalizing xs with
  | _ n ih =>
    cases hc : F.cut xs with
    | none => exact hnone xs hc
    | some r =>
      apply hsome xs r.1 r.2 hc
      exact ih r.2.length (h ▸ F.length_lt hc) r.2 rfl

/-- The frames do not depend on the portions in which the stream comes in. -/
theorem split_append (F : Framing α β) (xs ys : List α) :
    F.split (xs ++ ys) =
      ((F.split xs).1 ++ (F.split ((F.split xs).2 ++ ys)).1,
        (F.split ((F.split xs).2 ++ ys)).2) := by
  induction xs using F.induction with
  | hnone xs h =>
    rw [split_none h]
    rfl
  | hsome xs f rest h ih =>
    rw [split_some h, split_some (F.append h ys), ih]
    rfl

theorem split_rest (F : Framing α β) (xs : List α) :
    F.split (F.split xs).2 = ([], (F.split xs).2) := by
  induction xs using F.induction with
  | hnone xs h => rw [split_none h, split_none h]
  | hsome xs f rest h ih => rw [split_some h, ih]

/-- The state after items are handled one after the other, as long as it is live. -/
def handleWhile (live : σ → Bool) (step : σ → β → σ) : σ → List β → σ
  | s, [] => s
  | s, f :: fs => if live (step s f) then handleWhile live step (step s f) fs else step s f

/-- The items that are handled, up to and including the one that ends it. -/
def handled (live : σ → Bool) (step : σ → β → σ) : σ → List β → List β
  | _, [] => []
  | s, f :: fs => f :: if live (step s f) then handled live step (step s f) fs else []

section
variable {live : σ → Bool} {step : σ → β → σ} {s : σ}

theorem handleWhile_append (fs gs : List β) (hs : live s = true) :
    handleWhile live step s (fs ++ gs) =
      if live (handleWhile live step s fs) then
        handleWhile live step (handleWhile live step s fs) gs
      else handleWhile live step s fs := by
  induction fs generalizing s with
  | nil => exact (if_pos hs).symm
  | cons f fs ih =>
    rw [List.cons_append, handleWhile, handleWhile]
    by_cases hl : live (step s f) = true
    · simp only [if_pos hl]
      exact ih hl
    · simp only [if_neg hl]

theorem handled_append (fs gs : List β) (hs : live s = true) :
    handled live step s (fs ++ gs) =
      handled live step s fs ++
        if live (handleWhile live step s fs) then
          handled live step (handleWhile live step s fs) gs
        else [] := by
  induction fs generalizing s with
  | nil =>
    rw [handleWhile, if_pos hs]
    rfl
  | cons f fs ih =>
    rw [List.cons_append, handled, handled, handleWhile, List.cons_append]
    by_cases hl : live (step s f) = true
    · simp only [if_pos hl]
      exact congrArg (f :: ·) (ih hl)
    · simp only [if_neg hl, List.append_nil]

/-- Every item is handled when the state is live in the end. -/
theorem handled_eq (fs : List β) (h : live (handleWhile live step s fs) = true) :
    handled live step s fs = fs := by
  induction fs generalizing s with
  | nil => rfl
  | cons f fs ih =>
    rw [handleWhile] at h
    rw [handled]
    by_cases hl : live (step s f) = true
    · rw [if_pos hl] at h ⊢
      rw [ih h]
    · rw [if_neg hl] at h
      exact absurd h hl

end

end Framing

end AdnBridge
