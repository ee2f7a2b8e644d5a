import Mathlib.Tactic.Common
import Mathlib.Data.List.Basic

namespace AdnBridge
set_option autoImplicit true

/-- An event-driven machine; a step is `none` where the call it stands for never returns. -/
structure Machine (σ ε : Type*) where
  init : σ
  step : σ → ε → Option σ

namespace Machine

def runFrom (M : Machine σ ε) : σ → List ε → Option σ
  | s, [] => some s
  | s, e :: es => (M.step s e).bind fun s' => runFrom M s' es

/-- The state after a whole run from the initial state. -/
def run (M : Machine σ ε) (es : List ε) : Option σ := M.runFrom M.init es

/-- Every step that a run takes and that returns is taken under the condition `C`. -/
def Meets (M : Machine σ ε) (C : σ → ε → Prop) : σ → List ε → Prop
  | _, [] => True
  | s, e :: es => ∀ s', M.step s e = some s' → C s e ∧ Meets M C s' es

/-- `P` holds in every state that a run goes through, the first one included. -/
def Always (M : Machine σ ε) (P : σ → Prop) : σ → List ε → Prop
  | s, [] => P s
  | s, e :: es => P s ∧ ∀ s', M.step s e = some s' → Always M P s' es

variable {M : Machine σ ε} {C : σ → ε → Prop} {I P : σ → Prop}

theorem runFrom_cons (s : σ) (e : ε) (es : List ε) :
    M.runFrom s (e :: es) = (M.step s e).bind fun s' => M.runFrom s' es := rfl

theorem runFrom_cons_some : M.runFrom s (e :: es) = some t ↔
    ∃ s', M.step s e = some s' ∧ M.runFrom s' es = some t := by
  simp only [runFrom_cons, Option.bind_eq_some_iff]

theorem runFrom_append (s : σ) (es fs : List ε) :
    M.runFrom s (es ++ fs) = (M.runFrom s es).bind fun t => M.runFrom t fs := by
  induction es generalizing s with
  | nil => rfl
  | cons e es ih =>
    simp only [List.cons_append, runFrom_cons, Option.bind_assoc]
    exact congrArg _ (funext fun s' => ih s')

/-- A run is a fold that may fail. -/
theorem runFrom_foldlM (s : σ) (es : List ε) : M.runFrom s es = es.foldlM M.step s := by
  induction es generalizing s with
  | nil => rfl
  | cons e es ih =>
    rw [runFrom_cons, List.foldlM_cons]
    exact congrArg _ (funext ih)

/-- A machine whose steps all return runs to where folding them ends. -/
theorem runFrom_foldl {f : σ → ε → σ} (hf : ∀ s e, M.step s e = some (f s e)) (s : σ)
    (es : List ε) : M.runFrom s es = some (es.foldl f s) := by
  induction es generalizing s with
  | nil => rfl
  | cons e es ih =>
    rw [runFrom_cons, hf, Option.bind_some]
    exact ih (f s e)

theorem meets_true (s : σ) (es : List ε) : M.Meets (fun _ _ => True) s es := by
  induction es generalizing s with
  | nil => trivial
  | cons e es ih => exact fun s' _ => ⟨trivial, ih s'⟩

/-- What every step under `C` preserves, every run under `C` preserves. -/
theorem runFrom_invariant (hstep : ∀ s e s', I s → C s e → M.step s e = some s' → I s')
    (hs : I s) (hC : M.Meets C s es) (hr : M.runFrom s es = some t) : I t := by
  induction es generalizing s with
  | nil => cases hr; exact hs
  | cons e es ih =>
    obtain ⟨s', he, hr⟩ := runFrom_cons_some.1 hr
    obtain ⟨hc, hC⟩ := hC s' he
    exact ih (hstep s e s' hs hc he) hC hr

theorem run_invariant (hstep : ∀ s e s', I s → M.step s e = some s' → I s')
    (hs : I M.init) (hr : M.run es = some t) : I t :=
  runFrom_invariant (C := fun _ _ => True) (fun s e s' hi _ => hstep s e s' hi) hs
    (meets_true _ es) hr

/-- What every step keeps true of the events so far and the state, every run keeps true. -/
theorem runFrom_history {I : List ε → σ → Prop}
    (hstep : ∀ es s e s', I es s → M.step s e = some s' → I (es ++ [e]) s')
    (hs : I fs s) (hr : M.runFrom s es = some t) : I (fs ++ es) t := by
  induction es generalizing fs s with
  | nil =>
    cases hr
    rwa [List.append_nil]
  | cons e es ih =>
    obtain ⟨s', he, hr⟩ := runFrom_cons_some.1 hr
    have h := ih (hstep fs s e s' hs he) hr
    rwa [List.append_assoc] at h

theorem run_history {I : List ε → σ → Prop} (h0 : I [] M.init)
    (hstep : ∀ es s e s', I es s → M.step s e = some s' → I (es ++ [e]) s')
    (hr : M.run es = some t) : I es t :=
  runFrom_history hstep h0 hr

theorem Meets.append_left (h : M.Meets C s (es ++ fs)) : M.Meets C s es := by
  induction es generalizing s with
  | nil => trivial
  | cons e es ih =>
    intro s' he
    exact ⟨(h s' he).1, ih (h s' he).2⟩

/-- The condition holds where a run that meets it takes its next step. -/
theorem Meets.next (h : M.Meets C s (es ++ e :: fs)) (hr : M.runFrom s es = some t)
    (he : M.step t e = some t') : C t e := by
  induction es generalizing s with
  | nil =>
    cases hr
    exact (h t' he).1
  | cons a es ih =>
    obtain ⟨s', ha, hr⟩ := runFrom_cons_some.1 hr
    exact ih (h s' ha).2 hr

theorem meets_congr {D : σ → ε → Prop}
    (h : ∀ s e s', M.step s e = some s' → (C s e ↔ D s e)) : M.Meets C s es ↔ M.Meets D s es := by
  induction es generalizing s with
  | nil => exact Iff.rfl
  | cons e es ih =>
    constructor
    · intro hm s' he
      exact ⟨(h s e s' he).1 (hm s' he).1, ih.1 (hm s' he).2⟩
    · intro hm s' he
      exact ⟨(h s e s' he).2 (hm s' he).1, ih.2 (hm s' he).2⟩

theorem meets_cons_some (h : M.step s e = some t) :
    M.Meets C s (e :: es) ↔ C s e ∧ M.Meets C t es := by
  constructor
  · intro hm
    exact hm t h
  · intro hm s' hs
    cases h.symm.trans hs
    exact hm

/-- A condition that can be decided can be decided along a run. -/
instance decidableMeets [∀ s e, Decidable (C s e)] (s : σ) (es : List ε) :
    Decidable (M.Meets C s es) :=
  match es with
  | [] => isTrue trivial
  | e :: es =>
    match h : M.step s e with
    | none => isTrue fun _ hs => nomatch h.symm.trans hs
    | some t =>
      haveI := decidableMeets t es
      decidable_of_iff (C s e ∧ M.Meets C t es) (meets_cons_some h).symm

theorem always_nil : M.Always P s [] ↔ P s := Iff.rfl

theorem always_cons_some (h : M.step s e = some t) :
    M.Always P s (e :: es) ↔ P s ∧ M.Always P t es := by
  constructor
  · intro ha
    exact ⟨ha.1, ha.2 t h⟩
  · intro ha
    refine ⟨ha.1, fun s' hs => ?_⟩
    cases h.symm.trans hs
    exact ha.2

theorem Always.head (h : M.Always P s es) : P s := by
  cases es with
  | nil => exact h
  | cons => exact h.1

/-- A machine whose steps all return ends where folding them ends. -/
theorem Always.foldl {f : σ → ε → σ} (hf : ∀ s e, M.step s e = some (f s e))
    (h : M.Always P s es) : P (es.foldl f s) := by
  induction es generalizing s with
  | nil => exact h
  | cons e es ih => exact ih (h.2 _ (hf s e))

/-- `Always` is about the states at the end of every initial part of the run. -/
theorem always_iff : M.Always P s es ↔
    ∀ fs t, fs <+: es → M.runFrom s fs = some t → P t := by
  induction es generalizing s with
  | nil =>
    constructor
    · intro h fs t hp hr
      rw [List.prefix_nil.1 hp] at hr
      cases hr
      exact h
    · intro h
      exact h [] s (List.prefix_refl _) rfl
  | cons e es ih =>
    constructor
    · intro h fs t hp hr
      cases fs with
      | nil => cases hr; exact h.1
      | cons f fs =>
        obtain ⟨rfl, hq⟩ := List.cons_prefix_cons.1 hp
        obtain ⟨s', he, hr⟩ := runFrom_cons_some.1 hr
        exact ih.1 (h.2 s' he) fs t hq hr
    · intro h
      refine ⟨h [] s List.nil_prefix rfl, fun s' he => ih.2 fun fs t hp hr => ?_⟩
      exact h (e :: fs) t (List.cons_prefix_cons.2 ⟨rfl, hp⟩) (runFrom_cons_some.2 ⟨s', he, hr⟩)

/-- What holds initially and every step under `C` preserves holds all along a run under `C`. -/
theorem Meets.always (hstep : ∀ s e s', I s → C s e → M.step s e = some s' → I s')
    (hP : ∀ s, I s → P s) (hs : I s) (h : M.Meets C s es) : M.Always P s es := by
  induction es generalizing s with
  | nil => exact hP s hs
  | cons e es ih =>
    refine ⟨hP s hs, fun s' he => ?_⟩
    obtain ⟨hc, h⟩ := h s' he
    exact ih (hstep s e s' hs hc he) h

theorem always_of_invariant (hstep : ∀ s e s', I s → M.step s e = some s' → I s')
    (hP : ∀ s, I s → P s) (hs : I s) (es : List ε) : M.Always P s es :=
  Meets.always (C := fun _ _ => True) (fun s e s' hi _ => hstep s e s' hi) hP hs (meets_true s es)

/-- A condition that an invariant gives of the steps under another condition. -/
theorem Meets.of_invariant {D : σ → ε → Prop}
    (hstep : ∀ s e s', I s → C s e → M.step s e = some s' → I s') (hD : ∀ s e, I s → C s e → D s e)
    (hs : I s) (h : M.Meets C s es) : M.Meets D s es := by
  induction es generalizing s with
  | nil => trivial
  | cons e es ih =>
    intro s' he
    obtain ⟨hc, h⟩ := h s' he
    exact ⟨hD s e hs hc, ih (hstep s e s' hs hc he) h⟩

theorem always_true (s : σ) (es : List ε) : M.Always (fun _ => True) s es :=
  always_of_invariant (I := fun _ => True) (fun _ _ _ _ _ => trivial) (fun _ _ => trivial) trivial
    es

/-- If, as long as `R` holds, `C` keeps an invariant that gives `P`, and leaving `C` breaks `P` at
once, then `P` holds along a run in `R` exactly when every step of the run meets `C`. -/
theorem always_iff_meets_while {R : σ → Prop}
    (hstep : ∀ s e s', I s → C s e → M.step s e = some s' → R s' → I s') (hP : ∀ s, I s → P s)
    (hbad : ∀ s e s', I s → ¬C s e → M.step s e = some s' → R s' → ¬P s') (hs : I s)
    (hR : M.Always R s es) : M.Always P s es ↔ M.Meets C s es := by
  induction es generalizing s with
  | nil => exact ⟨fun _ => trivial, fun _ => hP s hs⟩
  | cons e es ih =>
    constructor
    · intro h s' he
      have hr := (hR.2 s' he).head
      have hc : C s e := by
        by_contra hc
        exact hbad s e s' hs hc he hr (h.2 s' he).head
      exact ⟨hc, (ih (hstep s e s' hs hc he hr) (hR.2 s' he)).1 (h.2 s' he)⟩
    · intro h
      refine ⟨hP s hs, fun s' he => ?_⟩
      have hr := hR.2 s' he
      exact (ih (hstep s e s' hs (h s' he).1 he hr.head) hr).2 (h s' he).2

theorem always_iff_meets (hstep : ∀ s e s', I s → C s e → M.step s e = some s' → I s')
    (hP : ∀ s, I s → P s) (hbad : ∀ s e s', I s → ¬C s e → M.step s e = some s' → ¬P s')
    (hs : I s) : M.Always P s es ↔ M.Meets C s es :=
  always_iff_meets_while (fun s e s' hi hc he _ => hstep s e s' hi hc he) hP
    (fun s e s' hi hc he _ => hbad s e s' hi hc he) hs (always_true s es)

/-- What an invariant gives of the states and of the steps of a run, as long as `R` holds. -/
theorem always_and_meets {R : σ → Prop}
    (hstep : ∀ s e s', I s → M.step s e = some s' → R s' → I s') (hP : ∀ s, I s → P s)
    (hC : ∀ s e s', I s → M.step s e = some s' → R s' → C s e) (hs : I s)
    (hR : M.Always R s es) : M.Always P s es ∧ M.Meets C s es := by
  induction es generalizing s with
  | nil => exact ⟨hP s hs, trivial⟩
  | cons e es ih =>
    have hnext (s' : σ) (he : M.step s e = some s') : M.Always P s' es ∧ M.Meets C s' es :=
      ih (hstep s e s' hs he (hR.2 s' he).head) (hR.2 s' he)
    constructor
    · exact ⟨hP s hs, fun s' he => (hnext s' he).1⟩
    · intro s' he
      exact ⟨hC s e s' hs he (hR.2 s' he).head, (hnext s' he).2⟩

/-- The machine with a record that every step adds to. -/
def observe (M : Machine σ ε) (r : ρ) (note : ρ → σ → ε → σ → ρ) : Machine (σ × ρ) ε where
  init := (M.init, r)
  step p e := (M.step p.1 e).map fun s' => (s', note p.2 p.1 e s')

theorem observe_step {note : ρ → σ → ε → σ → ρ} (h : (M.observe r note).step p e = some q) :
    M.step p.1 e = some q.1 ∧ q.2 = note p.2 p.1 e q.1 := by
  obtain ⟨s', hs, rfl⟩ := Option.map_eq_some_iff.1 h
  exact ⟨hs, rfl⟩

end Machine

end AdnBridge
