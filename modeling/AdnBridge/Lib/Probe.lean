import Mathlib.Tactic.Common
import Mathlib.Data.List.Basic

namespace AdnBridge
set_option autoImplicit true

/-! Open addressing with linear probing: a table is searched from a slot on, all the way round. -/

namespace Probe

/-- The first slot at which to stop, looking at `k` slots from `i` on. -/
def seekFrom (stop : α → Bool) (t : Vector α n) : Nat → Nat → Option (Fin n)
  | 0, _ => none
  | k + 1, i =>
    if h : i < n then
      if stop t[i] then some ⟨i, h⟩ else seekFrom stop t k ((i + 1) % n)
    else none

/-- The slot where a search ends; `none` if it goes round for ever. -/
def seek (stop : α → Bool) (t : Vector α n) (h : Nat) : Option (Fin n) :=
  seekFrom stop t n (h % n)

/-- How far a slot is from the one where a search begins. -/
def steps (h : Nat) (j : Fin n) : Nat := (j + (n - h % n)) % n

variable {stop : α → Bool} {t : Vector α n}

theorem steps_lt (h : Nat) (j : Fin n) : steps h j < n := Nat.mod_lt _ j.pos

theorem add_steps (h : Nat) (j : Fin n) : (h + steps h j) % n = j := by
  have hlt : h % n < n := Nat.mod_lt _ j.pos
  rw [steps, Nat.add_mod_mod, ← Nat.mod_add_mod]
  have heq : h % n + (j + (n - h % n)) = j + n := by omega
  rw [heq, Nat.add_mod_right, Nat.mod_eq_of_lt j.isLt]

theorem steps_of_eq {h d : Nat} {j : Fin n} (hd : d < n) (hj : (h + d) % n = j) :
    steps h j = d := by
  have hlt : h % n < n := Nat.mod_lt _ j.pos
  have hdiv := Nat.div_add_mod h n
  rw [steps, ← hj, Nat.mod_add_mod]
  have heq : h + d + (n - h % n) = d + n + n * (h / n) := by omega
  rw [heq, Nat.add_mul_mod_self_left, Nat.add_mod_right, Nat.mod_eq_of_lt hd]

theorem steps_inj {h : Nat} {i j : Fin n} (hs : steps h i = steps h j) : i = j := by
  have hi := add_steps h i
  rw [hs, add_steps h j] at hi
  exact Fin.ext hi.symm

theorem seekFrom_some {h d k : Nat} (hk : d + k = n) (j : Fin n) :
    seekFrom stop t k ((h + d) % n) = some j ↔
      stop (t.get j) = true ∧ d ≤ steps h j ∧
        ∀ m, d ≤ steps h m → steps h m < steps h j → stop (t.get m) = false := by
  induction k generalizing d with
  | zero =>
    have hlt := steps_lt h j
    constructor
    · intro hs
      cases hs
    · intro hs
      omega
  | succ k ih =>
    have hn : 0 < n := by omega
    have hi : (h + d) % n < n := Nat.mod_lt _ hn
    have hst : steps h ⟨(h + d) % n, hi⟩ = d := steps_of_eq (by omega) rfl
    rw [seekFrom, dif_pos hi]
    change (if stop (t.get ⟨(h + d) % n, hi⟩) then _ else _) = _ ↔ _
    cases hs : stop (t.get ⟨(h + d) % n, hi⟩) with
    | true =>
      rw [if_pos rfl]
      constructor
      · intro hj
        obtain rfl := Option.some.inj hj
        refine ⟨hs, Nat.le_of_eq hst.symm, fun m hm hlt => ?_⟩
        omega
      · rintro ⟨_, hd, hall⟩
        congr 1
        apply steps_inj (h := h)
        by_contra hne
        have hf := hall ⟨(h + d) % n, hi⟩ (Nat.le_of_eq hst.symm) (by omega)
        rw [hs] at hf
        cases hf
    | false =>
      rw [if_neg Bool.false_ne_true, Nat.mod_add_mod, Nat.add_assoc, ih (by omega)]
      constructor
      · rintro ⟨hj, hd, hall⟩
        refine ⟨hj, by omega, fun m hm hlt => ?_⟩
        rcases Nat.eq_or_lt_of_le hm with hm | hm
        · obtain rfl := steps_inj (hst.trans hm)
          exact hs
        · exact hall m hm hlt
      · rintro ⟨hj, hd, hall⟩
        refine ⟨hj, ?_, fun m hm hlt => hall m (by omega) hlt⟩
        rcases Nat.eq_or_lt_of_le hd with hd | hd
        · obtain rfl := steps_inj (hst.trans hd)
          rw [hs] at hj
          cases hj
        · exact hd

/-- A search ends at the first slot that stops it. -/
theorem seek_eq_some {h : Nat} {j : Fin n} : seek stop t h = some j ↔
    stop (t.get j) = true ∧ ∀ m, steps h m < steps h j → stop (t.get m) = false := by
  have hs : seekFrom stop t n ((h + 0) % n) = some j ↔ _ := seekFrom_some (Nat.zero_add n) j
  rw [Nat.add_zero] at hs
  rw [seek, hs]
  constructor
  · rintro ⟨hj, _, hall⟩
    exact ⟨hj, fun m hm => hall m (Nat.zero_le _) hm⟩
  · rintro ⟨hj, hall⟩
    exact ⟨hj, Nat.zero_le _, fun m _ hm => hall m hm⟩

/-- A search ends if some slot stops it. -/
theorem seek_isSome_iff {h : Nat} : (seek stop t h).isSome = true ↔ ∃ j, stop (t.get j) = true := by
  constructor
  · intro hs
    obtain ⟨j, hj⟩ := Option.isSome_iff_exists.1 hs
    exact ⟨j, (seek_eq_some.1 hj).1⟩
  · rintro ⟨j, hj⟩
    induction hd : steps h j using Nat.strongRecOn generalizing j with
    | ind d ih =>
      by_cases hall : ∀ m, steps h m < steps h j → stop (t.get m) = false
      · rw [seek_eq_some.2 ⟨hj, hall⟩]
        rfl
      · obtain ⟨m, hm⟩ := not_forall.1 hall
        obtain ⟨hlt, hstop⟩ := Classical.not_imp.1 hm
        exact ih _ (hd ▸ hlt) m (eq_true_of_ne_false hstop) rfl

end Probe

end AdnBridge
