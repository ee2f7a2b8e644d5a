import Mathlib.Tactic.Common
import Mathlib.Data.List.Basic

namespace AdnBridge
set_option autoImplicit true

/-- Why a reader of a packet stops early: a read outside the packet, a loop that does not end, or
its own refusal. -/
inductive Stop where
  | outside
  | endless
  | refused
deriving DecidableEq

abbrev Reads (α : Type*) := Except Stop α

namespace Reads

def readByte (pkt : List UInt8) (i : Nat) : Reads UInt8 :=
  match pkt[i]? with
  | some b => .ok b
  | none => .error .outside

def readBytes (pkt : List UInt8) (i n : Nat) : Reads (List UInt8) :=
  if i + n ≤ pkt.length then .ok ((pkt.drop i).take n) else .error .outside

/-- Turns of a loop that goes on with `inl` and ends with `inr`, as far as the fuel lasts. -/
def loop (turn : σ → Reads (σ ⊕ α)) : Nat → σ → Reads α
  | 0, _ => .error .endless
  | fuel + 1, s =>
    match turn s with
    | .error e => .error e
    | .ok (.inr a) => .ok a
    | .ok (.inl s') => loop turn fuel s'

/-- The reader stays inside the packet and comes to its end; it refuses only where `R` lets it,
and its result is good. -/
def Safe (R : Prop) (P : α → Prop) : Reads α → Prop
  | .ok a => P a
  | .error e => e = .refused ∧ R

variable {pkt : List UInt8} {R : Prop} {P : α → Prop} {Q : β → Prop} {m : Reads α}
variable {k : α → Reads β}

theorem Safe.bind (h : m.Safe R P) (hk : ∀ a, P a → (k a).Safe R Q) : (m >>= k).Safe R Q := by
  cases m with
  | ok a => exact hk a h
  | error e => exact h

theorem Safe.exists_ok (h : m.Safe False P) : ∃ a, m = .ok a ∧ P a := by
  cases m with
  | ok a => exact ⟨a, rfl, h⟩
  | error e => exact h.2.elim

theorem readByte_eq (h : pkt.drop i = b :: rest) : readByte pkt i = .ok b := by
  have hi : pkt[i]? = some b := by
    rw [← Nat.add_zero i, ← List.getElem?_drop, h]
    rfl
  rw [readByte, hi]

theorem readByte_safe (h : i < pkt.length) : (readByte pkt i).Safe R fun _ => True := by
  rw [readByte, List.getElem?_eq_getElem h]
  trivial

theorem readBytes_eq (hi : i ≤ pkt.length) (h : pkt.drop i = text ++ rest) :
    readBytes pkt i text.length = .ok text := by
  have hlen := congrArg List.length h
  rw [List.length_drop, List.length_append] at hlen
  rw [readBytes, if_pos (by omega), h, List.take_left]

theorem readBytes_safe (h : i + n ≤ pkt.length) : (readBytes pkt i n).Safe R fun _ => True := by
  rw [readBytes, if_pos h]
  trivial

/-- What follows a text that was read. -/
theorem drop_add (h : pkt.drop i = text ++ rest) : pkt.drop (i + text.length) = rest := by
  rw [← List.drop_drop, h, List.drop_left]

theorem loop_next {turn : σ → Reads (σ ⊕ α)} (h : turn s = .ok (.inl s')) (fuel : Nat) :
    loop turn (fuel + 1) s = loop turn fuel s' := by
  rw [loop, h]

theorem loop_done {turn : σ → Reads (σ ⊕ α)} (h : turn s = .ok (.inr a)) (fuel : Nat) :
    loop turn (fuel + 1) s = .ok a := by
  rw [loop, h]

/-- A loop each of whose turns lowers a measure ends, and is as safe as its turns. -/
theorem loop_safe {turn : σ → Reads (σ ⊕ α)} {I : σ → Prop} {μ : σ → Nat}
    (hturn : ∀ s, I s → (turn s).Safe R (Sum.elim (fun s' => I s' ∧ μ s' < μ s) P)) (hs : I s)
    (hfuel : μ s < fuel) : (loop turn fuel s).Safe R P := by
  induction fuel generalizing s with
  | zero => cases hfuel
  | succ fuel ih =>
    have h := hturn s hs
    rw [loop]
    cases ht : turn s with
    | error e =>
      rw [ht] at h
      exact h
    | ok r =>
      rw [ht] at h
      cases r with
      | inl s' =>
        have hlt : μ s' < μ s := h.2
        exact ih h.1 (by omega)
      | inr a => exact h

end Reads

end AdnBridge
