import AdnBridge.Lib.Bits
import AdnBridge.Ysf.Frame
import Mathlib.Data.List.Induction
import Mathlib.Tactic.Common

namespace AdnBridge
set_option autoImplicit true

namespace Ysfd

/-- What is known of the place of the next voice frame, after this frame of the call. -/
def next (place : Option Nat) (f : Ysfd) : Option Nat :=
  if f.fi = ysfFiHeader then some 0
  else if f.fi = ysfFiCommunications then place.map (· + 1)
  else none

/-- The number, the counter and the DCH label of voice frame `i` of a call. -/
structure Numbered (f : Ysfd) (i : Nat) : Prop where
  fn : f.fn.toNat = i % 7
  netCnt : f.netCnt.toNat = 2 * (i + 1) % 256
  slot : ∃ voice dst, f.payload = some (voice, ysfDchSlot f.src dst (UInt8.ofNat (i % 7)))

/-- What the bridges make of a voice frame when the counter stands at `n`. -/
structure CountedBy (f : Ysfd) (n : UInt8) : Prop where
  fn : f.fn = ysfVoiceFn n
  netCnt : f.netCnt = ysfVoiceNet n
  slot : ∃ voice dst, f.payload = some (voice, ysfDchSlot f.src dst (ysfVoiceFn n))

end Ysfd

/-- The place that the next voice frame of a call has after the HEADER, if there was one. -/
def ysfPlace (fs : List Ysfd) : Option Nat := fs.foldl Ysfd.next none

/-- `f` is frame `i` of the voice that follows a HEADER of the call. -/
def VoiceAt (fs : List Ysfd) (i : Nat) (f : Ysfd) : Prop :=
  f.fi = ysfFiCommunications ∧ ∃ before after, fs = before ++ f :: after ∧ ysfPlace before = some i

theorem ysfPlace_append (fs : List Ysfd) (f : Ysfd) :
    ysfPlace (fs ++ [f]) = f.next (ysfPlace fs) := by
  rw [ysfPlace, List.foldl_append]
  rfl

theorem ysfVoiceFn_toNat (n : UInt8) : (ysfVoiceFn n).toNat = (n.toNat + 255) % 256 % 7 := by
  revert n
  apply forall_byte
  decide +kernel

theorem ysfVoiceNet_toNat (n : UInt8) : (ysfVoiceNet n).toNat = 2 * n.toNat % 256 := by
  revert n
  apply forall_byte
  decide +kernel

/-- The counter is right for the network byte; for the frame number only where the multiples of
256 passed so far are a multiple of 7. -/
theorem Ysfd.CountedBy.numbered_iff {f : Ysfd} (h : f.CountedBy n)
    (hn : n.toNat = (i + 1) % 256) : f.Numbered i ↔ i % 1792 < 256 := by
  have hfn : f.fn.toNat = (i + 256) % 256 % 7 := by
    rw [h.fn, ysfVoiceFn_toNat, hn]
    omega
  constructor
  · intro hi
    have heq := hi.fn
    omega
  · intro hi
    have heq : f.fn.toNat = i % 7 := by omega
    refine ⟨heq, ?_, ?_⟩
    · rw [h.netCnt, ysfVoiceNet_toNat, hn]
      omega
    · obtain ⟨voice, dst, hp⟩ := h.slot
      refine ⟨voice, dst, ?_⟩
      rw [hp, ← heq, ← h.fn, UInt8.ofNat_toNat]

/-- Every voice frame of the call has been counted by its place. -/
def VoiceCounted (fs : List Ysfd) : Prop :=
  ∀ i f, VoiceAt fs i f → ∃ n : UInt8, n.toNat = (i + 1) % 256 ∧ f.CountedBy n

/-- The counter stands where the frames sent for the call have brought it. -/
structure Counting (fs : List Ysfd) (n : UInt8) : Prop where
  sent : VoiceCounted fs
  next : ∀ i, ysfPlace fs = some i → n.toNat = (i + 1) % 256

theorem counting_nil (n : UInt8) : Counting [] n := by
  constructor
  · rintro i f ⟨_, before, after, h, _⟩
    exact absurd h (by simp)
  · intro i h
    cases h

theorem voiceAt_append (h : VoiceAt (fs ++ [g]) i f) :
    VoiceAt fs i f ∨ f = g ∧ f.fi = ysfFiCommunications ∧ ysfPlace fs = some i := by
  obtain ⟨hf, before, after, he, hp⟩ := h
  rcases List.eq_nil_or_concat after with rfl | ⟨after, x, rfl⟩
  · obtain ⟨rfl, hg⟩ := List.append_inj' he rfl
    cases hg
    exact .inr ⟨rfl, hf, hp⟩
  · left
    refine ⟨hf, before, after, ?_, hp⟩
    rw [List.concat_eq_append, ← List.cons_append, ← List.append_assoc] at he
    exact (List.append_inj' he rfl).1

theorem VoiceCounted.other (h : VoiceCounted fs) (hg : g.fi ≠ ysfFiCommunications) :
    VoiceCounted (fs ++ [g]) := by
  intro i f hf
  rcases voiceAt_append hf with hf | ⟨rfl, hc, _⟩
  · exact h i f hf
  · exact absurd hc hg

namespace Counting

/-- The counter starts at 1 behind a HEADER. -/
theorem header (h : Counting fs n) (hg : g.fi = ysfFiHeader) : Counting (fs ++ [g]) 1 := by
  have hne : g.fi ≠ ysfFiCommunications := by
    rw [hg]
    decide
  refine ⟨h.sent.other hne, fun i hi => ?_⟩
  rw [ysfPlace_append, Ysfd.next, if_pos hg] at hi
  cases hi
  rfl

theorem voice (h : Counting fs n) (hg : g.CountedBy n) (hfi : g.fi = ysfFiCommunications) :
    Counting (fs ++ [g]) (n + 1) := by
  constructor
  · intro i f hf
    rcases voiceAt_append hf with hf | ⟨rfl, _, hi⟩
    · exact h.sent i f hf
    · exact ⟨n, h.next i hi, hg⟩
  · intro i hi
    have hne : g.fi ≠ ysfFiHeader := by
      rw [hfi]
      decide
    rw [ysfPlace_append, Ysfd.next, if_neg hne, if_pos hfi] at hi
    obtain ⟨j, hj, rfl⟩ := Option.map_eq_some_iff.1 hi
    have hn := h.next j hj
    rw [UInt8.toNat_add, hn]
    simp

/-- A TERMINATOR ends the count. -/
theorem terminator (h : Counting fs n) (hg : g.fi = ysfFiTerminator) (m : UInt8) :
    Counting (fs ++ [g]) m := by
  have hne : g.fi ≠ ysfFiCommunications := by
    rw [hg]
    decide
  refine ⟨h.sent.other hne, fun i hi => ?_⟩
  have hnh : g.fi ≠ ysfFiHeader := by
    rw [hg]
    decide
  rw [ysfPlace_append, Ysfd.next, if_neg hnh, if_neg hne] at hi
  cases hi

end Counting

/-- A call that has come to a place has sent a voice frame for every place before it. -/
theorem exists_voiceAt {n : Nat} (h : ysfPlace fs = some n) (hi : i < n) : ∃ f, VoiceAt fs i f := by
  induction fs using List.reverseRec generalizing n with
  | nil => cases h
  | append_singleton fs g ih =>
    have hold {f : Ysfd} (hf : VoiceAt fs i f) : VoiceAt (fs ++ [g]) i f := by
      obtain ⟨hfi, before, after, he, hp⟩ := hf
      exact ⟨hfi, before, after ++ [g], by rw [he, List.append_assoc]; rfl, hp⟩
    rw [ysfPlace_append, Ysfd.next] at h
    split at h
    · cases h
      exact absurd hi (Nat.not_lt_zero i)
    next hh =>
      split at h
      next hc =>
        obtain ⟨m, hm, rfl⟩ := Option.map_eq_some_iff.1 h
        rcases Nat.lt_succ_iff_lt_or_eq.1 hi with hi | rfl
        · obtain ⟨f, hf⟩ := ih hm hi
          exact ⟨f, hold hf⟩
        · exact ⟨g, hc, fs, [], rfl, hm⟩
      next => cases h

/-- A frame of a counted call is rightly numbered exactly in the first of every seven rounds of
the counter. -/
theorem VoiceCounted.numbered_iff (h : VoiceCounted fs) (hf : VoiceAt fs i f) :
    f.Numbered i ↔ i % 1792 < 256 := by
  obtain ⟨n, hn, hc⟩ := h i f hf
  exact hc.numbered_iff hn

end AdnBridge
