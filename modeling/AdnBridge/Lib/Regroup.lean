import Mathlib.Tactic.Common
import Mathlib.Data.Nat.ModEq
import Mathlib.Data.List.Forall2

namespace AdnBridge
set_option autoImplicit true

/-- An entry of a tagged queue: a voice sub-frame, or a marker between calls. -/
inductive Entry (μ β : Type*) where
  | mark (m : μ)
  | voice (v : β)
deriving DecidableEq

namespace Regroup

def isVoice : Entry μ β → Bool
  | .mark _ => false
  | .voice _ => true

/-- Take the next piece off the queue: a marker alone, or whatever `g` entries come first
when a sub-frame is in front. -/
def pull (g : Nat) : List (Entry μ β) → Option (List (Entry μ β) × List (Entry μ β))
  | [] => none
  | .mark m :: q => some ([.mark m], q)
  | .voice v :: q =>
    if g ≤ q.length + 1 then some ((.voice v :: q).take g, (.voice v :: q).drop g) else none

def drain (g : Nat) : Nat → List (Entry μ β) → List (List (Entry μ β)) × List (Entry μ β)
  | 0, q => ([], q)
  | n + 1, q =>
    match pull g q with
    | none => ([], q)
    | some (p, q') => (p :: (drain g n q').1, (drain g n q').2)

/-- Pull until nothing more comes: the pieces, and what stays behind. -/
def drainAll (g : Nat) (q : List (Entry μ β)) : List (List (Entry μ β)) × List (Entry μ β) :=
  drain g q.length q

/-- `Pulls g E ps q`: pulling the pieces `ps` off `E`, one after another, leaves `q`. -/
inductive Pulls (g : Nat) :
    List (Entry μ β) → List (List (Entry μ β)) → List (Entry μ β) → Prop where
  | nil : Pulls g q [] q
  | cons : pull g E = some (p, E') → Pulls g E' ps q → Pulls g E (p :: ps) q

variable {g : Nat} {p q q' e E E' : List (Entry μ β)} {ps : List (List (Entry μ β))}

theorem pull_eq_append (h : pull g q = some (p, q')) : q = p ++ q' := by
  cases q with
  | nil => cases h
  | cons a q =>
    cases a with
    | mark m => cases h; rfl
    | voice v =>
      simp only [pull] at h
      split at h
      · cases h; exact (List.take_append_drop g _).symm
      · cases h

theorem pull_length (hg : 0 < g) (h : pull g q = some (p, q')) : q'.length < q.length := by
  cases q with
  | nil => cases h
  | cons a q =>
    cases a with
    | mark m => cases h; exact Nat.lt_succ_self _
    | voice v =>
      simp only [pull] at h
      split at h
      · cases h
        simp only [List.length_drop, List.length_cons]
        omega
      · cases h

/-- What is pulled does not depend on what is queued behind it. -/
theorem pull_append (h : pull g q = some (p, q')) (e : List (Entry μ β)) :
    pull g (q ++ e) = some (p, q' ++ e) := by
  cases q with
  | nil => cases h
  | cons a q =>
    cases a with
    | mark m => cases h; rfl
    | voice v =>
      simp only [pull] at h
      split at h
      next hl =>
        cases h
        have hl' : g ≤ (q ++ e).length + 1 := by
          simp only [List.length_append]
          omega
        have hlen : g ≤ (Entry.voice v :: q : List (Entry μ β)).length := hl
        rw [List.cons_append, pull, if_pos hl', ← List.cons_append,
          List.take_append_of_le_length hlen, List.drop_append_of_le_length hlen]
      · cases h

/-- Exactly `g` sub-frames come off together. -/
theorem pull_voices (hg : 0 < g) (vs : List β) (h : vs.length = g) :
    pull g (vs.map (Entry.voice (μ := μ))) = some (vs.map .voice, []) := by
  cases vs with
  | nil => exact absurd (h ▸ hg) (lt_irrefl _)
  | cons v vs =>
    have hlen : ((v :: vs).map (Entry.voice (μ := μ))).length = g := (List.length_map _).trans h
    have hle : g ≤ (vs.map (Entry.voice (μ := μ))).length + 1 := hlen ▸ Nat.le_refl _
    rw [List.map_cons, pull, if_pos hle]
    rw [List.map_cons] at hlen
    rw [List.take_of_length_le hlen.le, List.drop_of_length_le hlen.le]

theorem drain_fuel (hg : 0 < g) (hn : q.length ≤ n) (hm : q.length ≤ m) :
    drain g n q = drain g m q := by
  induction n generalizing m q with
  | zero =>
    rw [List.length_eq_zero_iff.1 (Nat.le_zero.1 hn)]
    cases m <;> rfl
  | succ n ih =>
    cases m with
    | zero =>
      rw [List.length_eq_zero_iff.1 (Nat.le_zero.1 hm)]
      rfl
    | succ m =>
      rw [drain, drain]
      cases hp : pull g q with
      | none => rfl
      | some r =>
        obtain ⟨p, q'⟩ := r
        have hl := pull_length hg hp
        have he : drain g n q' = drain g m q' := ih (by omega) (by omega)
        simp only [he]

theorem drainAll_none (h : pull g q = none) : drainAll g q = ([], q) := by
  cases q with
  | nil => rfl
  | cons a q => simp only [drainAll, List.length_cons, drain, h]

theorem drainAll_some (hg : 0 < g) (h : pull g q = some (p, q')) :
    drainAll g q = (p :: (drainAll g q').1, (drainAll g q').2) := by
  have hl := pull_length hg h
  obtain ⟨n, hn⟩ : ∃ n, q.length = n + 1 := ⟨q.length - 1, by omega⟩
  have he : drain g n q' = drainAll g q' := drain_fuel hg (by omega) le_rfl
  rw [drainAll, hn, drain, h]
  simp only [he]

theorem Pulls.eq_append (h : Pulls g E ps q) : E = ps.flatten ++ q := by
  induction h with
  | nil => rfl
  | cons hp _ ih => rw [pull_eq_append hp, ih, List.flatten_cons, List.append_assoc]

theorem Pulls.append (h : Pulls g E ps q) (e : List (Entry μ β)) :
    Pulls g (E ++ e) ps (q ++ e) := by
  induction h with
  | nil => exact .nil
  | cons hp _ ih => exact .cons (pull_append hp e) ih

theorem Pulls.snoc (h : Pulls g E ps q) (hp : pull g q = some (p, q')) :
    Pulls g E (ps ++ [p]) q' := by
  induction h with
  | nil => exact .cons hp .nil
  | cons hp' _ ih => exact .cons hp' (ih hp)

/-- Pulling now and draining later gives the pieces that draining everything would have given. -/
theorem Pulls.drainAll (hg : 0 < g) (h : Pulls g E ps q) :
    drainAll g E = (ps ++ (drainAll g q).1, (drainAll g q).2) := by
  induction h with
  | nil => rfl
  | cons hp _ ih => rw [drainAll_some hg hp, ih]; rfl

theorem drainAll_pulls (hg : 0 < g) (q : List (Entry μ β)) :
    Pulls g q (Regroup.drainAll g q).1 (Regroup.drainAll g q).2 := by
  generalize hn : q.length = n
  induction n using Nat.strong_induction_on generalizing q with
  | _ n ih =>
    cases hp : pull g q with
    | none => rw [drainAll_none hp]; exact .nil
    | some r =>
      obtain ⟨p, q'⟩ := r
      rw [drainAll_some hg hp]
      exact .cons hp (ih q'.length (hn ▸ pull_length hg hp) q' rfl)

/-- The sub-frames of a queue. -/
def voices : List (Entry μ β) → List β
  | [] => []
  | .mark _ :: q => voices q
  | .voice v :: q => v :: voices q

@[simp] theorem voices_append (p q : List (Entry μ β)) : voices (p ++ q) = voices p ++ voices q := by
  induction p with
  | nil => rfl
  | cons a p ih =>
    cases a with
    | mark m => exact ih
    | voice v => exact congrArg (v :: ·) ih

@[simp] theorem voices_map (vs : List β) : voices (vs.map (Entry.voice (μ := μ))) = vs := by
  induction vs with
  | nil => rfl
  | cons v vs ih => exact congrArg (v :: ·) ih

theorem isVoice_of_mem_map (vs : List β) :
    ∀ e ∈ vs.map (Entry.voice (μ := μ)), isVoice e = true := by
  intro e he
  obtain ⟨v, -, rfl⟩ := List.mem_map.1 he
  rfl

/-- A queue of sub-frames alone. -/
theorem map_voices {q : List (Entry μ β)} (h : ∀ e ∈ q, isVoice e = true) :
    (voices q).map .voice = q := by
  induction q with
  | nil => rfl
  | cons a q ih =>
    obtain ⟨ha, hq⟩ := List.forall_mem_cons.1 h
    cases a with
    | mark m => cases ha
    | voice v => exact congrArg (Entry.voice v :: ·) (ih hq)

theorem voices_length {q : List (Entry μ β)} (h : ∀ e ∈ q, isVoice e = true) :
    (voices q).length = q.length := by
  conv_rhs => rw [← map_voices h, List.length_map]

/-- After draining nothing more can be pulled. -/
theorem pull_drainAll (hg : 0 < g) (q : List (Entry μ β)) :
    pull g (Regroup.drainAll g q).2 = none := by
  generalize hn : q.length = n
  induction n using Nat.strong_induction_on generalizing q with
  | _ n ih =>
    cases hp : pull g q with
    | none =>
      rw [drainAll_none hp]
      exact hp
    | some r =>
      obtain ⟨p, q'⟩ := r
      rw [drainAll_some hg hp]
      exact ih q'.length (hn ▸ pull_length hg hp) q' rfl

theorem length_of_pull_none (hg : 0 < g) (h : pull g q = none) : q.length < g := by
  cases q with
  | nil => exact hg
  | cons a q =>
    cases a with
    | mark m => cases h
    | voice v =>
      rw [pull] at h
      by_contra hl
      rw [List.length_cons, Nat.not_lt] at hl
      rw [if_pos hl] at h
      cases h

/-- A piece is intact when it is one marker, or `g` sub-frames and nothing else. -/
def Intact (g : Nat) (p : List (Entry μ β)) : Prop :=
  (∃ m, p = [.mark m]) ∨ (p.length = g ∧ ∀ e ∈ p, isVoice e = true)

/-- Draining gives intact pieces only, and leaves no marker behind. -/
def Sound (g : Nat) (E : List (Entry μ β)) : Prop :=
  (∀ p ∈ (drainAll g E).1, Intact g p) ∧ ∀ e ∈ (drainAll g E).2, isVoice e = true

/-- Each marker comes after a multiple of `g` sub-frames, `k` of them ahead of the list. -/
def Aligned (g : Nat) : Nat → List (Entry μ β) → Prop
  | _, [] => True
  | k, .voice _ :: q => Aligned g (k + 1) q
  | k, .mark _ :: q => g ∣ k ∧ Aligned g 0 q

/-- How many sub-frames stand at the end of the list, `k` of them ahead of it. -/
def trailing : Nat → List (Entry μ β) → Nat
  | k, [] => k
  | k, .voice _ :: q => trailing (k + 1) q
  | _, .mark _ :: q => trailing 0 q

@[simp] theorem trailing_append (k : Nat) (p q : List (Entry μ β)) :
    trailing k (p ++ q) = trailing (trailing k p) q := by
  induction p generalizing k with
  | nil => rfl
  | cons a p ih => cases a <;> exact ih _

theorem trailing_voices (k : Nat) (h : ∀ e ∈ p, isVoice e = true) :
    trailing k p = k + p.length := by
  induction p generalizing k with
  | nil => rfl
  | cons a p ih =>
    obtain ⟨ha, hp⟩ := List.forall_mem_cons.1 h
    cases a with
    | mark m => cases ha
    | voice v =>
      rw [trailing, ih _ hp, List.length_cons]
      omega

theorem trailing_modEq (h : k ≡ k' [MOD g]) (q : List (Entry μ β)) :
    trailing k q ≡ trailing k' q [MOD g] := by
  induction q generalizing k k' with
  | nil => exact h
  | cons a q ih =>
    cases a with
    | mark m => exact Nat.ModEq.refl _
    | voice v => exact ih (h.add_right 1)

theorem Intact.trailing (h : Intact g p) : trailing 0 p ≡ 0 [MOD g] := by
  rcases h with ⟨m, rfl⟩ | ⟨hl, hv⟩
  · exact Nat.ModEq.refl _
  · rw [trailing_voices 0 hv, hl, Nat.zero_add]
    exact Nat.modEq_zero_iff_dvd.2 dvd_rfl

theorem Pulls.trailing (h : Pulls g E ps q) (hi : ∀ p ∈ ps, Intact g p) :
    trailing 0 E ≡ trailing 0 q [MOD g] := by
  induction h with
  | nil => exact Nat.ModEq.refl _
  | cons hp _ ih =>
    obtain ⟨hp', hi⟩ := List.forall_mem_cons.1 hi
    rw [pull_eq_append hp, trailing_append]
    exact (trailing_modEq hp'.trailing _).trans (ih hi)

theorem Aligned.mod (h : k ≡ k' [MOD g]) (hq : Aligned g k q) : Aligned g k' q := by
  induction q generalizing k k' with
  | nil => trivial
  | cons a q ih =>
    cases a with
    | voice v => exact ih (h.add_right 1) hq
    | mark m => exact ⟨(h.dvd_iff dvd_rfl).1 hq.1, hq.2⟩

theorem aligned_append (k : Nat) (p q : List (Entry μ β)) :
    Aligned g k (p ++ q) ↔ Aligned g k p ∧ Aligned g (trailing k p) q := by
  induction p generalizing k with
  | nil => exact ⟨fun h => ⟨trivial, h⟩, fun h => h.2⟩
  | cons a p ih =>
    cases a with
    | voice v => exact ih _
    | mark m => exact (and_congr_right fun _ => ih _).trans and_assoc.symm

theorem aligned_voices (k : Nat) (h : ∀ e ∈ p, isVoice e = true) : Aligned g k p := by
  induction p generalizing k with
  | nil => trivial
  | cons a p ih =>
    obtain ⟨ha, hp⟩ := List.forall_mem_cons.1 h
    cases a with
    | mark m => cases ha
    | voice v => exact ih _ hp

/-- In an aligned queue fewer than `g` sub-frames never stand before a marker. -/
theorem Aligned.short_voices (h : Aligned g k q) (hk : 0 < k) (hl : k + q.length ≤ g) :
    ∀ e ∈ q, isVoice e = true := by
  induction q generalizing k with
  | nil => intro e he; cases he
  | cons a q ih =>
    rw [List.length_cons] at hl
    cases a with
    | mark m =>
      have hd := Nat.le_of_dvd hk h.1
      omega
    | voice v =>
      intro e he
      rcases List.mem_cons.1 he with rfl | he
      · rfl
      · exact ih h (Nat.succ_pos k) (by omega) e he

theorem Aligned.pull (hg : 0 < g) (h : Aligned g 0 q) (hp : pull g q = some (p, q')) :
    Intact g p ∧ Aligned g 0 q' := by
  have he := pull_eq_append hp
  cases q with
  | nil => cases hp
  | cons a q =>
    cases a with
    | mark m =>
      cases hp
      exact ⟨.inl ⟨m, rfl⟩, h.2⟩
    | voice v =>
      simp only [Regroup.pull] at hp
      split at hp
      next hl =>
        cases hp
        rw [he, aligned_append] at h
        have hlen : ((Entry.voice v :: q : List (Entry _ _)).take g).length = g :=
          List.length_take_of_le hl
        have hv : ∀ e ∈ (Entry.voice v :: q : List (Entry _ _)).take g, isVoice e = true := by
          obtain ⟨n, rfl⟩ : ∃ n, g = n + 1 := ⟨g - 1, by omega⟩
          have h1 := h.1
          rw [List.take_succ_cons] at h1 ⊢
          refine List.forall_mem_cons.2 ⟨rfl, Aligned.short_voices (k := 1) h1 one_pos ?_⟩
          rw [List.length_take]
          omega
        refine ⟨.inr ⟨hlen, hv⟩, h.2.mod ?_⟩
        rw [trailing_voices 0 hv, hlen, Nat.zero_add]
        exact Nat.modEq_zero_iff_dvd.2 dvd_rfl
      · cases hp

theorem Aligned.stuck (h : Aligned g 0 q) (hp : Regroup.pull g q = none) :
    ∀ e ∈ q, isVoice e = true := by
  cases q with
  | nil => intro e he; cases he
  | cons a q =>
    cases a with
    | mark m => cases hp
    | voice v =>
      simp only [Regroup.pull] at hp
      split at hp
      · cases hp
      next hl =>
        refine List.forall_mem_cons.2 ⟨rfl, Aligned.short_voices (k := 1) h one_pos ?_⟩
        omega

theorem Intact.aligned (h : Intact g p) : Aligned g 0 p := by
  rcases h with ⟨m, rfl⟩ | ⟨_, hv⟩
  · exact ⟨dvd_zero g, trivial⟩
  · exact aligned_voices 0 hv

/-- Draining a queue is sound exactly when every marker in it is aligned. -/
theorem sound_iff_aligned (hg : 0 < g) (E : List (Entry μ β)) : Sound g E ↔ Aligned g 0 E := by
  generalize hn : E.length = n
  induction n using Nat.strong_induction_on generalizing E with
  | _ n ih =>
    cases hp : Regroup.pull g E with
    | none =>
      rw [Sound, drainAll_none hp]
      exact ⟨fun h => aligned_voices 0 h.2, fun h => ⟨List.forall_mem_nil _, h.stuck hp⟩⟩
    | some r =>
      obtain ⟨p, E'⟩ := r
      have ih' := ih E'.length (hn ▸ pull_length hg hp) E' rfl
      rw [Sound, drainAll_some hg hp, List.forall_mem_cons, and_assoc]
      constructor
      · rintro ⟨hi, hs⟩
        rw [pull_eq_append hp, aligned_append]
        exact ⟨hi.aligned, (ih'.1 hs).mod hi.trailing.symm⟩
      · intro h
        obtain ⟨hi, ha⟩ := h.pull hg hp
        exact ⟨hi, ih'.2 ha⟩

def fill (g n : Nat) : Nat := g - n % g

/-- The sub-frames `v` that pad a queue of `n` entries, and the marker behind them. -/
def finishing (g n : Nat) (m : μ) (v : β) : List (Entry μ β) :=
  List.replicate (fill g n) (.voice v) ++ [.mark m]

theorem aligned_finishing (k n : Nat) (m : μ) (v : β) :
    Aligned g k (finishing g n m v) ↔ g ∣ k + fill g n := by
  have hv : ∀ e ∈ List.replicate (fill g n) (Entry.voice v : Entry μ β), isVoice e = true := by
    intro e he
    rw [List.eq_of_mem_replicate he]
    rfl
  rw [finishing, aligned_append, trailing_voices k hv, List.length_replicate]
  exact ⟨fun h => h.2.1, fun h => ⟨aligned_voices k hv, h, trivial⟩⟩

theorem aligned_mark (k : Nat) (m : μ) : Aligned g k [(.mark m : Entry μ β)] ↔ g ∣ k :=
  ⟨fun h => h.1, fun h => ⟨h, trivial⟩⟩

/-- A regrouping queue in use: what waits, all that was put so far, the pieces taken so far. -/
structure Line (μ β : Type*) where
  queue : List (Entry μ β)
  put : List (Entry μ β)
  pulled : List (List (Entry μ β))

def Line.empty : Line μ β := ⟨[], [], []⟩

def Line.add (l : Line μ β) (e : List (Entry μ β)) : Line μ β :=
  { l with queue := l.queue ++ e, put := l.put ++ e }

def Line.take (l : Line μ β) (p q : List (Entry μ β)) : Line μ β :=
  { l with queue := q, pulled := l.pulled ++ [p] }

/-- The pieces taken so far are those that draining everything put so far begins with. -/
def Line.Valid (g : Nat) (l : Line μ β) : Prop := Pulls g l.put l.pulled l.queue

namespace Line.Valid

variable {l : Line μ β}

theorem empty : Valid g (Line.empty : Line μ β) := Pulls.nil

theorem add (h : l.Valid g) (e : List (Entry μ β)) : (l.add e).Valid g := Pulls.append h e

theorem take (h : l.Valid g) (hp : Regroup.pull g l.queue = some (p, q)) :
    (l.take p q).Valid g := Pulls.snoc h hp

theorem pieces (hg : 0 < g) (h : l.Valid g) :
    Regroup.drainAll g l.put =
      (l.pulled ++ (Regroup.drainAll g l.queue).1, (Regroup.drainAll g l.queue).2) :=
  Pulls.drainAll hg h

theorem trailing (hg : 0 < g) (h : l.Valid g) (ha : Aligned g 0 l.put) :
    Regroup.trailing 0 l.put ≡ Regroup.trailing 0 l.queue [MOD g] := by
  refine Pulls.trailing h fun p hp => ?_
  have hs := ((sound_iff_aligned hg _).2 ha).1
  rw [h.pieces hg] at hs
  exact hs p (List.mem_append_left _ hp)

/-- Whether more entries keep all that was put aligned shows in what still waits. -/
theorem aligned_add (hg : 0 < g) (h : l.Valid g) (ha : Aligned g 0 l.put)
    (e : List (Entry μ β)) :
    Aligned g 0 (l.add e).put ↔ Aligned g (Regroup.trailing 0 l.queue) e := by
  have ht := h.trailing hg ha
  rw [Line.add, aligned_append]
  exact ⟨fun he => he.2.mod ht, fun he => ⟨ha, he.mod ht.symm⟩⟩

end Line.Valid

end Regroup

end AdnBridge
