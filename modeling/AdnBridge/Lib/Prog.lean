import Mathlib.Tactic.Common

namespace AdnBridge
set_option autoImplicit true

/-- A program that calls its system with `e : ε` and goes on with the answer in `ρ e`; one that
hangs never goes on. -/
inductive Prog (ε : Type) (ρ : ε → Type) (α : Type) where
  | ret (a : α)
  | hang
  | call (e : ε) (k : ρ e → Prog ε ρ α)

namespace Prog

variable {ε : Type} {ρ : ε → Type} {α β : Type}

def bind : Prog ε ρ α → (α → Prog ε ρ β) → Prog ε ρ β
  | ret a, f => f a
  | hang, _ => hang
  | call e k, f => call e fun r => (k r).bind f

instance : Monad (Prog ε ρ) where
  pure := ret
  bind := bind

def sys (e : ε) : Prog ε ρ (ρ e) := call e ret

def result : Prog ε ρ α → Option α
  | ret a => some a
  | _ => none

theorem bind_assoc (m : Prog ε ρ α) (f : α → Prog ε ρ β) (g : β → Prog ε ρ γ) :
    m >>= f >>= g = m >>= fun a => f a >>= g := by
  induction m with
  | ret a => rfl
  | hang => rfl
  | call e k ih => exact congrArg (call e) (funext ih)

/-- One call of a program, answered by the system `exec` in the state `s`. -/
def advance (exec : σ → (e : ε) → ω → ρ e × σ) (s : σ) (o : ω) : Prog ε ρ α → Prog ε ρ α × σ
  | ret a => (ret a, s)
  | hang => (hang, s)
  | call e k => (k (exec s e o).1, (exec s e o).2)

/-- A program makes calls of this kind only. -/
def Only (C : ε → Prop) : Prog ε ρ α → Prop
  | ret _ => True
  | hang => True
  | call e k => C e ∧ ∀ r, Only C (k r)

theorem Only.bind {C : ε → Prop} {m : Prog ε ρ α} {f : α → Prog ε ρ β} (h : m.Only C)
    (hf : ∀ a, (f a).Only C) : (m >>= f).Only C := by
  induction m with
  | ret a => exact hf a
  | hang => trivial
  | call e k ih => exact ⟨h.1, fun r => ih r (h.2 r)⟩

theorem Only.map {C : ε → Prop} {m : Prog ε ρ α} (h : m.Only C) (f : α → β) :
    (f <$> m).Only C :=
  h.bind fun _ => trivial

theorem Only.mono {C D : ε → Prop} {m : Prog ε ρ α} (h : m.Only C) (hD : ∀ e, C e → D e) :
    m.Only D := by
  induction m with
  | ret a => trivial
  | hang => trivial
  | call e k ih => exact ⟨hD e h.1, fun r => ih r (h.2 r)⟩

/-- Whatever its calls are answered, the program ends with a result in `P` if it ends. -/
def Results (P : α → Prop) : Prog ε ρ α → Prop
  | ret a => P a
  | hang => True
  | call _ k => ∀ r, Results P (k r)

theorem Results.bind {P : α → Prop} {Q : β → Prop} {m : Prog ε ρ α} {f : α → Prog ε ρ β}
    (h : m.Results P) (hf : ∀ a, P a → (f a).Results Q) : (m >>= f).Results Q := by
  induction m with
  | ret a => exact hf a h
  | hang => trivial
  | call e k ih => exact fun r => ih r (h r)

theorem Results.mono {P Q : α → Prop} {m : Prog ε ρ α} (h : m.Results P) (hQ : ∀ a, P a → Q a) :
    m.Results Q := by
  induction m with
  | ret a => exact hQ a h
  | hang => trivial
  | call e k ih => exact fun r => ih r (h r)

theorem Results.map {P : α → Prop} {Q : β → Prop} {m : Prog ε ρ α} {f : α → β}
    (h : m.Results P) (hf : ∀ a, P a → Q (f a)) : (f <$> m).Results Q :=
  h.bind hf

theorem results_true (m : Prog ε ρ α) : m.Results fun _ => True := by
  induction m with
  | ret a => trivial
  | hang => trivial
  | call e k ih => exact ih

theorem Results.advance {P : α → Prop} {m : Prog ε ρ α} {exec : σ → (e : ε) → ω → ρ e × σ}
    (h : m.Results P) (s : σ) (o : ω) : (m.advance exec s o).1.Results P := by
  cases m with
  | ret a => exact h
  | hang => trivial
  | call e k => exact h _

/-- A program makes each of its calls only where `G` allows it, and ends where `Q` holds, as far as
its own part `l` of the state is concerned, which changes with its own calls only, as `N` says. -/
def Safe {L : Type} (G : ε → L → Prop) (N : (e : ε) → L → ρ e → L → Prop) (Q : α → L → Prop) :
    Prog ε ρ α → L → Prop
  | ret a, l => Q a l
  | hang, _ => True
  | call e k, l => G e l ∧ ∀ r l', N e l r l' → Safe G N Q (k r) l'

section
variable {L : Type} {G : ε → L → Prop} {N : (e : ε) → L → ρ e → L → Prop} {l : L}

theorem Safe.bind {Q : α → L → Prop} {R : β → L → Prop} {m : Prog ε ρ α}
    {f : α → Prog ε ρ β} (h : m.Safe G N Q l) (hf : ∀ a l, Q a l → (f a).Safe G N R l) :
    (m >>= f).Safe G N R l := by
  induction m generalizing l with
  | ret a => exact hf a l h
  | hang => trivial
  | call e k ih => exact ⟨h.1, fun r l' hn => ih r (h.2 r l' hn)⟩

theorem safe_true (m : Prog ε ρ α) (hG : ∀ e l, G e l) :
    m.Safe G N (fun _ _ => True) l := by
  induction m generalizing l with
  | ret a => trivial
  | hang => trivial
  | call e k ih => exact ⟨hG e l, fun r l' _ => ih r⟩

/-- Calls that leave the own part of the state as it is are safe. -/
theorem Only.safe {C : ε → Prop} {m : Prog ε ρ α} (h : m.Only C)
    (hC : ∀ e, C e → G e l ∧ ∀ r l', N e l r l' → l' = l) : m.Safe G N (fun _ l' => l' = l) l := by
  induction m with
  | ret a => exact rfl
  | hang => trivial
  | call e k ih =>
    refine ⟨(hC e h.1).1, fun r l' hn => ?_⟩
    rw [(hC e h.1).2 r l' hn]
    exact ih r (h.2 r)

end

/-- Every run of a program from the state `s` ends where `Q` holds, or hangs where `H` allows it to,
if the system `exec` has outcomes that meet `ok` only. -/
def Wp (exec : σ → (e : ε) → ω → ρ e × σ) (ok : ε → ω → Prop) (H : Prop) (Q : α → σ → Prop) :
    Prog ε ρ α → σ → Prop
  | ret a, s => Q a s
  | hang, _ => H
  | call e k, s => ∀ o, ok e o → Wp exec ok H Q (k (exec s e o).1) (exec s e o).2

/-- Some run of a program from the state `s` ends with `b` in the state `t`. -/
def Ends (exec : σ → (e : ε) → ω → ρ e × σ) (ok : ε → ω → Prop) :
    Prog ε ρ α → σ → α → σ → Prop
  | ret a, s, b, t => b = a ∧ t = s
  | hang, _, _, _ => False
  | call e k, s, b, t => ∃ o, ok e o ∧ Ends exec ok (k (exec s e o).1) (exec s e o).2 b t

section
variable {exec : σ → (e : ε) → ω → ρ e × σ} {ok : ε → ω → Prop} {H : Prop} {s : σ}

theorem Wp.bind {Q : α → σ → Prop} {R : β → σ → Prop} {m : Prog ε ρ α} {f : α → Prog ε ρ β}
    (h : m.Wp exec ok H Q s) (hf : ∀ a t, Q a t → (f a).Wp exec ok H R t) :
    (m >>= f).Wp exec ok H R s := by
  induction m generalizing s with
  | ret a => exact hf a s h
  | hang => exact h
  | call e k ih =>
    intro o ho
    exact ih _ (h o ho)

theorem Wp.mono {Q R : α → σ → Prop} {m : Prog ε ρ α} (h : m.Wp exec ok H Q s)
    (hQ : ∀ a t, Q a t → R a t) : m.Wp exec ok H R s := by
  induction m generalizing s with
  | ret a => exact hQ a s h
  | hang => exact h
  | call e k ih =>
    intro o ho
    exact ih _ (h o ho)

theorem Results.wp {P : α → Prop} {m : Prog ε ρ α} (h : m.Results P) :
    m.Wp exec ok True (fun a _ => P a) s := by
  induction m generalizing s with
  | ret a => exact h
  | hang => trivial
  | call e k ih =>
    intro o _
    exact ih _ (h _)

theorem Wp.ends {Q : α → σ → Prop} {m : Prog ε ρ α} (h : m.Wp exec ok True Q s)
    (he : m.Ends exec ok s a t) : Q a t := by
  induction m generalizing s with
  | ret b =>
    obtain ⟨rfl, rfl⟩ := he
    exact h
  | hang => exact he.elim
  | call e k ih =>
    obtain ⟨o, ho, he⟩ := he
    exact ih _ (h o ho) he

theorem Ends.bind {m : Prog ε ρ α} {f : α → Prog ε ρ β} (h : m.Ends exec ok s a t)
    (hf : (f a).Ends exec ok t b u) : (m >>= f).Ends exec ok s b u := by
  induction m generalizing s with
  | ret c =>
    obtain ⟨rfl, rfl⟩ := h
    exact hf
  | hang => exact h.elim
  | call e k ih =>
    obtain ⟨o, ho, h⟩ := h
    exact ⟨o, ho, ih _ h⟩

/-- A run of one program after the other. -/
theorem ends_bind {m : Prog ε ρ α} {f : α → Prog ε ρ β} :
    (m >>= f).Ends exec ok s b u ↔ ∃ a t, m.Ends exec ok s a t ∧ (f a).Ends exec ok t b u := by
  constructor
  · intro h
    induction m generalizing s with
    | ret a => exact ⟨a, s, ⟨rfl, rfl⟩, h⟩
    | hang => exact h.elim
    | call e k ih =>
      obtain ⟨o, ho, h⟩ := h
      obtain ⟨a, t, h, hf⟩ := ih _ h
      exact ⟨a, t, ⟨o, ho, h⟩, hf⟩
  · rintro ⟨a, t, h, hf⟩
    exact h.bind hf

/-- A program that never hangs has a run. -/
theorem Wp.exists_ends {Q : α → σ → Prop} {m : Prog ε ρ α} (h : m.Wp exec ok False Q s)
    (hok : ∀ e, ∃ o, ok e o) : ∃ a t, m.Ends exec ok s a t ∧ Q a t := by
  induction m generalizing s with
  | ret a => exact ⟨a, s, ⟨rfl, rfl⟩, h⟩
  | hang => exact h.elim
  | call e k ih =>
    obtain ⟨o, ho⟩ := hok e
    obtain ⟨a, t, he, hq⟩ := ih _ (h o ho)
    exact ⟨a, t, ⟨o, ho, he⟩, hq⟩

/-- The run in which every call has the same outcome. -/
def runWith (exec : σ → (e : ε) → ω → ρ e × σ) (o : ω) : Prog ε ρ α → σ → Option (α × σ)
  | ret a, s => some (a, s)
  | hang, _ => none
  | call e k, s => runWith exec o (k (exec s e o).1) (exec s e o).2

theorem ends_of_runWith {m : Prog ε ρ α} {o : ω} (ho : ∀ e, ok e o)
    (h : m.runWith exec o s = some (a, t)) : m.Ends exec ok s a t := by
  induction m generalizing s with
  | ret b =>
    cases h
    exact ⟨rfl, rfl⟩
  | hang => cases h
  | call e k ih => exact ⟨o, ho e, ih _ h⟩

/-- The run in which the calls have these outcomes. -/
def runScript (exec : σ → (e : ε) → ω → ρ e × σ) :
    Prog ε ρ α → List ω → σ → Option (α × σ)
  | ret a, [], s => some (a, s)
  | call e k, o :: os, s => runScript exec (k (exec s e o).1) os (exec s e o).2
  | _, _, _ => none

theorem ends_of_runScript {m : Prog ε ρ α} {os : List ω}
    (h : m.runScript exec os s = some (a, t)) :
    m.Ends exec (fun _ _ => True) s a t := by
  induction m generalizing os s with
  | ret b =>
    cases os with
    | nil => cases h; exact ⟨rfl, rfl⟩
    | cons o os => cases h
  | hang =>
    cases os with
    | nil => cases h
    | cons o os => cases h
  | call e k ih =>
    cases os with
    | nil => cases h
    | cons o os => exact ⟨o, trivial, ih _ h⟩

end

end Prog

end AdnBridge
