import AdnBridge.Lib.Run

namespace AdnBridge
set_option autoImplicit true

namespace Machine

/-- A part of the state of `M` that moves as `N` does, on the events that each step has for it. -/
structure Component (M : Machine σ ε) (N : Machine τ δ) (part : σ → τ)
    (events : σ → ε → List δ) : Prop where
  init : part M.init = N.init
  step : ∀ {s e s'}, M.step s e = some s' → N.runFrom (part s) (events s e) = some (part s')

/-- The events that a run has for a component. -/
def eventsFrom (M : Machine σ ε) (events : σ → ε → List δ) : σ → List ε → List δ
  | _, [] => []
  | s, e :: es => events s e ++ ((M.step s e).map fun s' => eventsFrom M events s' es).getD []

variable {M : Machine σ ε} {N : Machine τ δ} {part : σ → τ} {events : σ → ε → List δ}

theorem eventsFrom_cons (he : M.step s e = some s') (es : List ε) :
    M.eventsFrom events s (e :: es) = events s e ++ M.eventsFrom events s' es := by
  rw [eventsFrom, he]
  rfl

theorem mem_eventsFrom (h : d ∈ M.eventsFrom events s es) : ∃ s' e, e ∈ es ∧ d ∈ events s' e := by
  induction es generalizing s with
  | nil => cases h
  | cons e es ih =>
    rcases List.mem_append.1 h with h | h
    · exact ⟨s, e, List.mem_cons_self, h⟩
    · cases hs : M.step s e with
      | none =>
        rw [hs] at h
        cases h
      | some s' =>
        rw [hs] at h
        obtain ⟨s'', e', he', hd⟩ := ih h
        exact ⟨s'', e', List.mem_cons_of_mem e he', hd⟩

namespace Component

theorem runFrom (h : Component M N part events) (hr : M.runFrom s es = some t) :
    N.runFrom (part s) (M.eventsFrom events s es) = some (part t) := by
  induction es generalizing s with
  | nil =>
    cases hr
    rfl
  | cons e es ih =>
    obtain ⟨s', he, hr⟩ := runFrom_cons_some.1 hr
    rw [eventsFrom_cons he, runFrom_append, h.step he, Option.bind_some]
    exact ih hr

/-- A run of the whole is a run of the component. -/
theorem run (h : Component M N part events) (hr : M.run es = some t) :
    N.run (M.eventsFrom events M.init es) = some (part t) := by
  rw [Machine.run, ← h.init]
  exact h.runFrom hr

end Component

end Machine

end AdnBridge
