import AdnBridge.Aliases.Kept

namespace AdnBridge
set_option autoImplicit true

/-- What a process does with its aliases: nothing, deciding whether to build them, building them
(with the old ones, and whether a download went before), or ending the call. -/
inductive Task where
  | idle (a : Option Aliases)
  | deciding (m : AliasProg (Option Bool × Option Aliases))
  | building (m : AliasProg (Option Aliases)) (did : Bool) (old : Option Aliases)
  | ending (m : AliasProg (Option Aliases))

/-- A process beside others that share its data directory. -/
structure Refresher where
  fs : Fs
  task : Task

/-- The process calls `ysf2dmr_aliases_maybe_refresh`, or its call goes on; other processes change
the directory. -/
inductive RefreshEvent where
  | refresh
  | step (o : Outcome)
  | others (fs : Fs)

/-- The files change only when newer ones are renamed into place. -/
def Newer (s t : Fs) : Prop :=
  ∀ f, t.file f = s.file f ∨
    (t.file f).isSome = true ∧ mtimeOf (s.file f) < mtimeOf (t.file f)

instance (s t : Fs) : Decidable (Newer s t) :=
  let P f := t.file f = s.file f ∨
    (t.file f).isSome = true ∧ mtimeOf (s.file f) < mtimeOf (t.file f)
  decidable_of_iff (P .subscriber ∧ P .localOverlay ∧ P .checksum) (by
    constructor
    · rintro ⟨h1, h2, h3⟩ f
      cases f with
      | subscriber => exact h1
      | localOverlay => exact h2
      | checksum => exact h3
    · exact fun h => ⟨h .subscriber, h .localOverlay, h .checksum⟩)

section
variable (cfg : AliasesCfg) (e : AliasEnv) (p fuel : Nat)

/-- The start of `ysf2dmr_aliases_load`. -/
def Task.load : Task :=
  .deciding ((fun did => (some did, none)) <$> aliasesDownload cfg e p fuel false)

/-- The start of `ysf2dmr_aliases_maybe_refresh`. -/
def Task.refresh (a : Aliases) : Task :=
  .deciding ((fun w => (w.1, some w.2)) <$> refreshWanted cfg e p fuel a)

/-- The end of the one or of the other. -/
def Task.finish (did : Bool) (old b : Option Aliases) : AliasProg (Option Aliases) :=
  match old with
  | none => finishLoad cfg did b
  | some a => (fun r => some r.2) <$> swapAliases a did b

/-- What is left of the call. -/
def Task.program : Task → AliasProg (Option Aliases)
  | .idle a => pure a
  | .deciding m => do
    let w ← m
    match w with
    | (none, a) => pure a
    | (some did, old) => do
      let b ← aliasesBuild cfg e
      Task.finish cfg did old b
  | .building m did old => do
    let b ← m
    Task.finish cfg did old b
  | .ending m => m

namespace Refresher

def guard (s : Refresher) (t : Refresher) : Option Refresher :=
  if Newer s.fs t.fs then some t else none

/-- One step; `none` if it is not one of a directory whose files only get newer. -/
def step (s : Refresher) : RefreshEvent → Option Refresher
  | .refresh =>
    match s.task with
    | .idle (some a) => some { s with task := .refresh cfg e p fuel a }
    | _ => some s
  | .others fs => s.guard { s with fs := fs }
  | .step o =>
    match s.task with
    | .idle _ => some s
    | .deciding (.ret (none, a)) => some { s with task := .idle a }
    | .deciding (.ret (some did, old)) =>
      some { s with task := .building (aliasesBuild cfg e) did old }
    | .deciding m =>
      s.guard ⟨(m.advance (Fs.exec p) s.fs o).2, .deciding (m.advance (Fs.exec p) s.fs o).1⟩
    | .building (.ret b) did old => some { s with task := .ending (Task.finish cfg did old b) }
    | .building m did old =>
      s.guard ⟨(m.advance (Fs.exec p) s.fs o).2, .building (m.advance (Fs.exec p) s.fs o).1 did old⟩
    | .ending (.ret a) => some { s with task := .idle a }
    | .ending m =>
      s.guard ⟨(m.advance (Fs.exec p) s.fs o).2, .ending (m.advance (Fs.exec p) s.fs o).1⟩

/-- The call that `aliases_build` makes in the next step. -/
def building (s : Refresher) : Option Sys :=
  match s.task with
  | .building (.call c _) _ _ => some c
  | _ => none

end Refresher

/-- The files as they were when the building process last looked at them. -/
abbrev SeenFiles := DataFile → Option (Option File)

namespace Refresher

def note (g : SeenFiles) (s : Refresher) (ev : RefreshEvent) (_ : Refresher) : SeenFiles :=
  match ev with
  | .step _ =>
    match s.building with
    | some (.access f) => Function.update g f (some (s.fs.file f))
    | some (.read f) => Function.update g f (some (s.fs.file f))
    | _ => g
  | _ => g

/-- The process, which starts with `ysf2dmr_aliases_load`, with what it has seen of the files. -/
def machine (fs : Fs) : Machine (Refresher × SeenFiles) RefreshEvent :=
  Machine.observe ⟨⟨fs, .load cfg e p fuel⟩, step cfg e p fuel⟩ (fun _ => none) note

end Refresher

end

section
variable {cfg : AliasesCfg} {e : AliasEnv} {p fuel : Nat}

/-- The phases of a process that starts are those of `ysf2dmr_aliases_load`. -/
theorem Task.load_program :
    (Task.load cfg e p fuel).program cfg e = aliasesLoad cfg e p fuel :=
  Prog.bind_assoc _ _ _

/-- The phases of a refresh are those of `ysf2dmr_aliases_maybe_refresh`. -/
theorem Task.refresh_program (a : Aliases) : (Task.refresh cfg e p fuel a).program cfg e =
    (fun r => some r.2) <$> aliasesMaybeRefresh cfg e p fuel a := by
  refine (Prog.bind_assoc _ _ _).trans (Eq.trans ?_ (Prog.bind_assoc _ _ _).symm)
  refine congrArg (Prog.bind (refreshWanted cfg e p fuel a)) (funext fun w => ?_)
  obtain ⟨want, b⟩ := w
  cases want with
  | none => rfl
  | some did => exact (Prog.bind_assoc _ _ _).symm

/-- A step of the process is one call of what is left of its program, or leads to the next phase. -/
theorem Refresher.step_program {s t : Refresher} {o : Outcome}
    (h : s.step cfg e p fuel (.step o) = some t) :
    t.fs = s.fs ∧ t.task.program cfg e = s.task.program cfg e ∨
      (t.task.program cfg e, t.fs) = (s.task.program cfg e).advance (Fs.exec p) s.fs o := by
  obtain ⟨fs, task⟩ := s
  have hguard {u : Refresher} (hu : guard ⟨fs, task⟩ u = some t) : t = u := by
    rw [guard] at hu
    split at hu
    next => exact (Option.some.inj hu).symm
    next => cases hu
  cases task with
  | idle a =>
    cases h
    exact .inl ⟨rfl, rfl⟩
  | deciding m =>
    cases m with
    | ret w =>
      obtain ⟨want, a⟩ := w
      cases want <;> (cases h; exact .inl ⟨rfl, rfl⟩)
    | hang =>
      obtain rfl := hguard h
      exact .inl ⟨rfl, rfl⟩
    | call c k =>
      obtain rfl := hguard h
      exact .inr rfl
  | building m did old =>
    cases m with
    | ret b =>
      cases h
      exact .inl ⟨rfl, rfl⟩
    | hang =>
      obtain rfl := hguard h
      exact .inl ⟨rfl, rfl⟩
    | call c k =>
      obtain rfl := hguard h
      exact .inr rfl
  | ending m =>
    cases m with
    | ret a =>
      cases h
      exact .inl ⟨rfl, rfl⟩
    | hang =>
      obtain rfl := hguard h
      exact .inl ⟨rfl, rfl⟩
    | call c k =>
      obtain rfl := hguard h
      exact .inr rfl

end

/-- A step of `aliases_build` that finds the time of a file finds it of the file that was last
opened or looked for; and the overlay is read without an error. -/
def Undisturbed (s : Refresher × SeenFiles) : RefreshEvent → Prop
  | .step o =>
    match s.1.building with
    | some (.stat f) => ∀ v, s.2 f = some v → s.1.fs.file f = v
    | some (.read f) => f = .localOverlay → o.ok = true
    | _ => True
  | _ => True

namespace SeenFiles

/-- What the calls of an undisturbed `aliases_build` answer, and what it has then seen. -/
def Answers : (c : Sys) → SeenFiles → c.Res → SeenFiles → Prop
  | .access f, l, r, l' => ∃ v, l' = Function.update l f (some v) ∧ r = (readable v).isSome
  | .read f, l, r, l' => ∃ v ok, l' = Function.update l f (some v) ∧
      r = v.bind (fun x => x.read ok) ∧ (f = .localOverlay → ok = true)
  | .stat f, l, r, l' => l' = l ∧ ∀ v, l f = some v → r = v.map File.mtime
  | _, l, _, l' => l' = l

/-- The file that was last looked at is `x`; one that is not configured never is. -/
def Tracks (cfg : AliasesCfg) (l : SeenFiles) (f : DataFile) (x : Option File) : Prop :=
  if cfg.hasFile f then l f = some x else x = none

/-- Aliases that are made of the files `x` and `y`. -/
structure MadeOf (e : AliasEnv) (x y : Option File) (a : Aliases) : Prop where
  tab : ∃ rows, mainRows e x = some rows ∧ tableOf rows (overlayRows e y) = some a.tab
  subscriberMtime : a.subscriberMtime = mtimeOf x
  localMtime : a.localMtime = mtimeOf y

section
variable {cfg : AliasesCfg} {e : AliasEnv} {l : SeenFiles} {f : DataFile} {x : Option File}

theorem tracks_hasFile (h : cfg.hasFile f = true) : Tracks cfg l f x ↔ l f = some x := by
  rw [Tracks, if_pos h]

theorem tracks_not_hasFile (h : cfg.hasFile f = false) : Tracks cfg l f x ↔ x = none := by
  rw [Tracks, h]
  exact Iff.rfl

theorem tracks_congr {l' : SeenFiles} (h : l' f = l f) :
    Tracks cfg l' f x ↔ Tracks cfg l f x := by
  rw [Tracks, Tracks, h]

theorem readable_of_read {ok : Bool} {data : List UInt8}
    (h : x.bind (fun x => x.read ok) = some data) : readable x = some data := by
  obtain ⟨y, rfl, hy⟩ := Option.bind_eq_some_iff.1 h
  rw [File.read] at hy
  cases hr : y.readable with
  | false =>
    rw [hr] at hy
    cases hy
  | true =>
    cases ok with
    | false =>
      rw [hr] at hy
      cases hy
    | true => exact h

abbrev Undisturbed (Q : α → SeenFiles → Prop) (m : AliasProg α) (l : SeenFiles) : Prop :=
  m.Safe (fun _ _ => True) Answers Q l

theorem access_undisturbed : Undisturbed (fun r l' => ∃ v, l' = Function.update l f (some v) ∧
    r = (readable v).isSome) (AliasProg.access f) l :=
  ⟨trivial, fun _ _ h => h⟩

theorem read_undisturbed : Undisturbed (fun r l' => ∃ v ok, l' = Function.update l f (some v) ∧
    r = v.bind (fun x => x.read ok) ∧ (f = .localOverlay → ok = true)) (AliasProg.read f) l :=
  ⟨trivial, fun _ _ h => h⟩

theorem parseMain_undisturbed (t : AliasTab) : Undisturbed (fun r l' => r.1 < 0 ∨
    ∃ v rows, l' f = some v ∧ mainRows e v = some rows ∧ r.1 = 0 ∧
      t.putRows false rows = some r.2) (parseSubscriberJson e t f false) l := by
  refine read_undisturbed.bind fun r l' ⟨v, ok, hl', hr, _⟩ => ?_
  cases r with
  | none => exact .inl (by decide : (-1 : Int) < 0)
  | some data =>
    have hx := readable_of_read hr.symm
    simp only
    cases hrows : e.rowsOf data with
    | none => exact .inl (by decide : (-1 : Int) < 0)
    | some rows =>
      simp only
      cases ht : t.putRows false rows with
      | none => trivial
      | some t' =>
        by_cases hne : rows = []
        · exact .inl (lt_of_eq_of_lt (if_pos hne) (by decide))
        · refine .inr ⟨v, rows, ?_, mainRows_some hx hrows hne, if_neg hne, ht⟩
          rw [hl', Function.update_self]

theorem loadMain_undisturbed (expected : List UInt8) : Undisturbed (fun r l' => r.1 < 0 ∨
    ∃ x rows, Tracks cfg l' .subscriber x ∧ mainRows e x = some rows ∧
      AliasTab.empty.putRows false rows = some r.2) (loadMain cfg e expected) l := by
  rw [loadMain]
  cases hf : cfg.hasFile .subscriber with
  | false => exact .inr ⟨none, [], (tracks_not_hasFile hf).2 rfl, rfl, rfl⟩
  | true =>
    have hmissing {l l' : SeenFiles} {v : Option File} (hl : l' = Function.update l .subscriber
        (some v)) (hv : false = (readable v).isSome) : ∃ x rows, Tracks cfg l' .subscriber x ∧
          mainRows e x = some rows ∧ AliasTab.empty.putRows false rows = some .empty := by
      refine ⟨v, [], (tracks_hasFile hf).2 ?_, mainRows_none ?_, rfl⟩
      · rw [hl, Function.update_self]
      · cases hx : readable v with
        | none => rfl
        | some data =>
          rw [hx] at hv
          cases hv
    refine access_undisturbed.bind ?_
    rintro there l1 ⟨v, hl1, hv⟩
    cases there with
    | false => exact .inr (hmissing hl1 hv)
    | true =>
      change (loadFile cfg e .empty .subscriber false expected).Safe _ _ _ _
      rw [loadFile, hf]
      refine access_undisturbed.bind ?_
      rintro there l2 ⟨v, hl2, hv⟩
      cases there with
      | false => exact .inr (hmissing hl2 hv)
      | true =>
        rw [if_pos rfl]
        refine (Prog.safe_true _ fun _ _ => trivial).bind fun verified l3 _ => ?_
        cases verified with
        | false => exact .inl (by decide : (-1 : Int) < 0)
        | true =>
          rw [if_pos rfl]
          refine (parseMain_undisturbed .empty).bind ?_
          rintro ⟨rc, t⟩ l4 (hneg | ⟨v, rows, hl4, hrows, hrc, ht⟩)
          · refine .inl (lt_of_eq_of_lt (if_neg ?_) hneg)
            exact fun h => by cases h.2
          · exact .inr ⟨v, rows, (tracks_hasFile hf).2 hl4, hrows, ht⟩

/-- What the overlay makes of the tables, and what of the main file is remembered meanwhile. -/
theorem loadOverlay_undisturbed (t : AliasTab) : Undisturbed (fun r l' =>
    l' .subscriber = l .subscriber ∧ ∃ y, Tracks cfg l' .localOverlay y ∧
      t.putRows true (overlayRows e y) = some r.2) (loadFile cfg e t .localOverlay true []) l := by
  rw [loadFile]
  cases hf : cfg.hasFile .localOverlay with
  | false =>
    refine ⟨rfl, none, (tracks_not_hasFile hf).2 rfl, ?_⟩
    rw [overlayRows_none rfl]
    rfl
  | true =>
    have hother {l l' : SeenFiles} {v : Option File}
        (hl : l' = Function.update l .localOverlay (some v)) : l' .subscriber = l .subscriber := by
      rw [hl, Function.update_of_ne (by decide)]
    have hkept {l l' : SeenFiles} {v : Option File}
        (hl : l' = Function.update l .localOverlay (some v)) : Tracks cfg l' .localOverlay v := by
      rw [tracks_hasFile hf, hl, Function.update_self]
    refine access_undisturbed.bind ?_
    rintro there l1 ⟨v, hl1, hv⟩
    cases there with
    | false =>
      refine ⟨hother hl1, v, hkept hl1, ?_⟩
      have hx : readable v = none := by
        cases hx : readable v with
        | none => rfl
        | some data =>
          rw [hx] at hv
          cases hv
      rw [overlayRows_none hx]
      rfl
    | true =>
      rw [if_pos rfl]
      have hparse : Undisturbed (fun r l' => l' .subscriber = l1 .subscriber ∧
          ∃ y, Tracks cfg l' .localOverlay y ∧ t.putRows true (overlayRows e y) = some r.2)
          (parseSubscriberJson e t .localOverlay true) l1 := by
        refine read_undisturbed.bind ?_
        rintro r l2 ⟨v, ok, hl2, hr, hok⟩
        rw [hok rfl] at hr
        have hx : readable v = r := hr.symm
        cases r with
        | none =>
          refine ⟨hother hl2, v, hkept hl2, ?_⟩
          rw [overlayRows_none hx]
          rfl
        | some data =>
          have hrows := overlayRows_some (e := e) hx
          simp only
          cases hr : e.rowsOf data with
          | none =>
            refine ⟨hother hl2, v, hkept hl2, ?_⟩
            rw [hrows, hr]
            rfl
          | some rows =>
            simp only
            cases ht : t.putRows true rows with
            | none => trivial
            | some t' =>
              refine ⟨hother hl2, v, hkept hl2, ?_⟩
              rw [hrows, hr]
              exact ht
      refine Prog.Safe.bind (Q := fun r l' => r = true ∧ l' = l1) ⟨rfl, rfl⟩ ?_
      rintro verified l2 ⟨rfl, rfl⟩
      rw [if_pos rfl]
      refine hparse.bind ?_
      rintro r l3 ⟨hsub, hy⟩
      exact ⟨hsub.trans (hother hl1), hy⟩

theorem configuredMtime_undisturbed (hx : Tracks cfg l f x) :
    Undisturbed (fun r l' => l' = l ∧ r = mtimeOf x) (configuredMtime cfg f) l := by
  rw [configuredMtime]
  cases hf : cfg.hasFile f with
  | false =>
    rw [tracks_not_hasFile hf] at hx
    subst hx
    exact ⟨rfl, rfl⟩
  | true =>
    rw [tracks_hasFile hf] at hx
    refine ⟨trivial, ?_⟩
    rintro r l' ⟨hl, hr⟩
    refine ⟨hl, ?_⟩
    rw [hr x hx]
    rfl

/-- An undisturbed `aliases_build` makes the aliases of the files that it has last seen. -/
theorem aliasesBuild_undisturbed : Undisturbed (fun b l' => ∀ a, b = some a →
    ∃ x y, MadeOf e x y a ∧ Tracks cfg l' .subscriber x ∧ Tracks cfg l' .localOverlay y)
      (aliasesBuild cfg e) l := by
  refine (Prog.safe_true _ fun _ _ => trivial).bind fun expected l1 _ => ?_
  refine (loadMain_undisturbed expected).bind ?_
  rintro ⟨rc, t⟩ l2 hmain
  by_cases hneg : rc < 0
  · simp only [if_pos hneg]
    intro a ha
    cases ha
  · simp only [if_neg hneg]
    obtain ⟨x, rows, hx, hrows, ht⟩ := hmain.resolve_left hneg
    refine (loadOverlay_undisturbed t).bind ?_
    rintro ⟨rc', t'⟩ l3 ⟨hsub, y, hy, ht'⟩
    have hx3 : Tracks cfg l3 .subscriber x := (tracks_congr hsub).2 hx
    simp only
    refine Prog.Safe.bind (Q := fun (b : Aliases) l' => MadeOf e x y b ∧ l' = l3) ?_ ?_
    · refine (configuredMtime_undisturbed hx3).bind ?_
      rintro mx l4 ⟨rfl, rfl⟩
      refine (configuredMtime_undisturbed hy).bind ?_
      rintro my l5 ⟨rfl, rfl⟩
      refine ⟨trivial, fun now l6 hl6 => ⟨⟨⟨rows, hrows, ?_⟩, rfl, rfl⟩, hl6⟩⟩
      rw [tableOf, ht]
      exact ht'
    · rintro b l4 ⟨hb, rfl⟩ a ha
      cases ha
      exact ⟨x, y, hb, hx3, hy⟩

end

end SeenFiles

section
variable (cfg : AliasesCfg) (e : AliasEnv)

/-- The file is the one in the directory, or an older one. -/
def Stands (s : Fs) (f : DataFile) (x : Option File) : Prop :=
  x = cfg.seen s f ∨ cfg.hasFile f = true ∧ mtimeOf x < mtimeOf (cfg.seen s f)

/-- The aliases are made of files that are in the directory, or were there before newer ones. -/
def Traced (s : Fs) (a : Aliases) : Prop :=
  ∃ x y, SeenFiles.MadeOf e x y a ∧ Stands cfg s .subscriber x ∧ Stands cfg s .localOverlay y

/-- What holds of the aliases in each phase. -/
def TaskInv (s : Fs) (g : SeenFiles) : Task → Prop
  | .idle a => ∀ b, a = some b → Traced cfg e s b
  | .deciding m => m.Results fun w => ∀ b, w.2 = some b → Traced cfg e s b
  | .building m _ old => SeenFiles.Undisturbed (fun b l' => ∀ a, b = some a →
      ∃ x y, SeenFiles.MadeOf e x y a ∧ SeenFiles.Tracks cfg l' .subscriber x ∧
        SeenFiles.Tracks cfg l' .localOverlay y) m g ∧ ∀ b, old = some b → Traced cfg e s b
  | .ending m => m.Results fun a => ∀ b, a = some b → Traced cfg e s b

/-- What has been seen of the files is there, or was before newer ones. -/
def SeenInv (s : Fs) (g : SeenFiles) : Prop :=
  ∀ f v, g f = some v → v = s.file f ∨ mtimeOf v < mtimeOf (s.file f)

end

section
variable {cfg : AliasesCfg} {e : AliasEnv} {s t : Fs} {g : SeenFiles} {f : DataFile}
variable {x : Option File} {a : Aliases}

theorem Stands.newer (h : Stands cfg s f x) (ht : Newer s t) : Stands cfg t f x := by
  cases hf : cfg.hasFile f with
  | false =>
    rcases h with h | h
    · rw [seen_of_not_hasFile hf] at h
      exact .inl (h.trans (seen_of_not_hasFile hf).symm)
    · rw [hf] at h
      cases h.1
  | true =>
    rw [Stands, seen_of_hasFile hf] at h ⊢
    rcases ht f with heq | ⟨_, hlt⟩
    · rw [heq]
      exact h
    · refine .inr ⟨hf, ?_⟩
      rcases h with rfl | ⟨_, hx⟩
      · exact hlt
      · exact Int.lt_trans hx hlt

theorem Traced.newer (h : Traced cfg e s a) (ht : Newer s t) : Traced cfg e t a := by
  obtain ⟨x, y, hm, hx, hy⟩ := h
  exact ⟨x, y, hm, hx.newer ht, hy.newer ht⟩

theorem SeenInv.newer (h : SeenInv s g) (ht : Newer s t) : SeenInv t g := by
  intro f v hv
  rcases ht f with heq | ⟨_, hlt⟩
  · rw [heq]
    exact h f v hv
  · refine .inr ?_
    rcases h f v hv with rfl | hx
    · exact hlt
    · exact Int.lt_trans hx hlt

theorem TaskInv.newer {task : Task} (h : TaskInv cfg e s g task) (ht : Newer s t) :
    TaskInv cfg e t g task := by
  cases task with
  | idle a => exact fun b hb => (h b hb).newer ht
  | deciding m => exact Prog.Results.mono h fun w hw b hb => (hw b hb).newer ht
  | building m did old => exact ⟨h.1, fun b hb => (h.2 b hb).newer ht⟩
  | ending m => exact Prog.Results.mono h fun w hw b hb => (hw b hb).newer ht

theorem SeenInv.stands (h : SeenInv s g) (hx : SeenFiles.Tracks cfg g f x) :
    Stands cfg s f x := by
  cases hf : cfg.hasFile f with
  | false =>
    rw [SeenFiles.tracks_not_hasFile hf] at hx
    exact .inl (hx.trans (seen_of_not_hasFile hf).symm)
  | true =>
    rw [SeenFiles.tracks_hasFile hf] at hx
    rw [Stands, seen_of_hasFile hf]
    exact (h f x hx).imp_right fun hlt => ⟨hf, hlt⟩

theorem SeenInv.look (h : SeenInv s g) (f : DataFile) :
    SeenInv s (Function.update g f (some (s.file f))) := by
  intro f' v hv
  by_cases hf : f' = f
  · rw [hf, Function.update_self] at hv
    exact .inl (hf ▸ (Option.some.inj hv).symm)
  · rw [Function.update_of_ne hf] at hv
    exact h f' v hv

/-- Aliases with other times of the last check and download. -/
theorem Traced.times (h : Traced cfg e s a) (check fetch : Int) :
    Traced cfg e s { a with lastMtimeCheck := check, lastFetchTime := fetch } := by
  obtain ⟨x, y, hm, hx, hy⟩ := h
  exact ⟨x, y, ⟨hm.tab, hm.subscriberMtime, hm.localMtime⟩, hx, hy⟩

theorem finishLoad_results {did : Bool} {b : Option Aliases}
    (h : ∀ a, b = some a → Traced cfg e s a) :
    (finishLoad cfg did b).Results fun r => ∀ a, r = some a → Traced cfg e s a := by
  cases b with
  | none => exact h
  | some b =>
    have hb := h b rfl
    cases did with
    | true =>
      rintro now a ha
      cases ha
      exact hb.times _ _
    | false =>
      change (some <$> alignFetchTime cfg b).Results _
      refine Prog.Results.map (P := Traced cfg e s) ?_ ?_
      · rw [alignFetchTime]
        split
        next =>
          refine (Prog.results_true _).bind fun mt _ => ?_
          split
          next =>
            refine (Prog.results_true _).bind fun stale _ => ?_
            cases stale with
            | true => exact hb
            | false => exact hb.times _ _
          next => exact hb
        next => exact hb
      · rintro a ha c hc
        cases hc
        exact ha

theorem finish_results {did : Bool} {old b : Option Aliases}
    (h : ∀ a, b = some a → Traced cfg e s a) (hold : ∀ a, old = some a → Traced cfg e s a) :
    (Task.finish cfg did old b).Results fun r => ∀ a, r = some a → Traced cfg e s a := by
  cases old with
  | none => exact finishLoad_results h
  | some a =>
    refine Prog.Results.map (P := fun r => Traced cfg e s r.2) ?_ ?_
    · cases b with
      | none => exact hold a rfl
      | some b =>
        rw [swapAliases]
        split
        next => exact hold a rfl
        next =>
          cases did with
          | true => exact fun now => (h b rfl).times _ _
          | false => exact (h b rfl).times _ _
    · rintro r hr c hc
      cases hc
      exact hr

end

namespace Refresher

variable {cfg : AliasesCfg} {e : AliasEnv} {p fuel : Nat}

theorem guard_eq_some {s t u : Refresher} : s.guard t = some u ↔ Newer s.fs t.fs ∧ u = t := by
  rw [guard]
  split
  next h => exact ⟨fun ht => ⟨h, (Option.some.inj ht).symm⟩, fun ht => congrArg some ht.2.symm⟩
  next h => exact ⟨fun ht => (nomatch ht), fun ht => (h ht.1).elim⟩

/-- What holds of the process in every run. -/
structure Inv (cfg : AliasesCfg) (e : AliasEnv) (s : Refresher × SeenFiles) : Prop where
  task : TaskInv cfg e s.1.fs s.2 s.1.task
  seen : SeenInv s.1.fs s.2

theorem inv_init (cfg : AliasesCfg) (e : AliasEnv) (p fuel : Nat) (fs : Fs) :
    Inv cfg e (machine cfg e p fuel fs).init := by
  refine ⟨?_, fun _ _ h => (nomatch h)⟩
  change Prog.Results _ ((fun did => (some did, none)) <$> aliasesDownload cfg e p fuel false)
  exact (Prog.results_true _).map fun did _ b hb => (nomatch hb)

/-- What an undisturbed call of `aliases_build` answers. -/
theorem answers_of_undisturbed {s : Refresher} {g : SeenFiles} {c : Sys} {o : Outcome}
    {t : Refresher} (hc : s.building = some c) (h : Undisturbed (s, g) (.step o)) :
    SeenFiles.Answers c g (s.fs.exec p c o).1 (note g s (.step o) t) := by
  rw [Undisturbed, hc] at h
  rw [note, hc]
  cases c with
  | access f =>
    refine ⟨s.fs.file f, rfl, ?_⟩
    exact any_readable (s.fs.file f)
  | read f => exact ⟨s.fs.file f, o.ok, rfl, rfl, h⟩
  | stat f =>
    refine ⟨rfl, fun v hv => ?_⟩
    rw [← h v hv]
    rfl
  | _ => exact rfl

theorem note_seenInv {s t : Refresher} {g : SeenFiles} {ev : RefreshEvent}
    (h : SeenInv s.fs g) : SeenInv s.fs (note g s ev t) := by
  cases ev with
  | step o =>
    rw [note]
    split
    next => exact h.look _
    next => exact h.look _
    next => exact h
  | _ => exact h

/-- A step that is none of `aliases_build` sees nothing more. -/
theorem note_other {s t : Refresher} {g : SeenFiles} {ev : RefreshEvent}
    (h : s.building = none) : note g s ev t = g := by
  cases ev with
  | step o => rw [note, h]
  | _ => rfl

theorem step_inv {s s' : Refresher × SeenFiles} {ev : RefreshEvent} {fs : Fs}
    (h : Inv cfg e s) (hC : Undisturbed s ev)
    (hs : (machine cfg e p fuel fs).step s ev = some s') : Inv cfg e s' := by
  obtain ⟨hstep, hnote⟩ := Machine.observe_step hs
  obtain ⟨⟨fs, task⟩, g⟩ := s
  obtain ⟨t, g'⟩ := s'
  have htask := h.task
  have hg : g' = note g ⟨fs, task⟩ ev t := hnote
  have hseen : SeenInv fs g' := by
    rw [hg]
    exact note_seenInv (s := ⟨fs, task⟩) h.seen
  have hquiet (hb : building ⟨fs, task⟩ = none) : g' = g := hnote.trans (note_other hb)
  cases ev with
  | refresh =>
    obtain rfl : g' = g := hnote
    cases task with
    | idle a =>
      cases a with
      | none =>
        cases hstep
        exact h
      | some a =>
        cases hstep
        refine ⟨?_, h.seen⟩
        change Prog.Results _ ((fun w => (w.1, some w.2)) <$> refreshWanted cfg e p fuel a)
        refine refreshWanted_results.map fun w hw b hb => ?_
        cases hb
        rw [hw]
        exact (htask a rfl).times _ _
    | _ =>
      cases hstep
      exact h
  | others fs' =>
    obtain rfl : g' = g := hnote
    obtain ⟨hnew, rfl⟩ := guard_eq_some.1 hstep
    exact ⟨htask.newer hnew, h.seen.newer hnew⟩
  | step o =>
    cases task with
    | idle a =>
      cases hstep
      rw [hquiet rfl]
      exact h
    | deciding m =>
      obtain rfl := hquiet rfl
      cases m with
      | ret w =>
        obtain ⟨want, a⟩ := w
        cases want with
        | none =>
          cases hstep
          exact ⟨htask, h.seen⟩
        | some did =>
          cases hstep
          exact ⟨⟨SeenFiles.aliasesBuild_undisturbed, htask⟩, h.seen⟩
      | hang =>
        obtain ⟨hnew, rfl⟩ := guard_eq_some.1 hstep
        exact ⟨trivial, h.seen.newer hnew⟩
      | call c k =>
        obtain ⟨hnew, rfl⟩ := guard_eq_some.1 hstep
        have hadv : ((Prog.call c k).advance (Fs.exec p) fs o).1.Results _ :=
          Prog.Results.advance htask fs o
        have hres : TaskInv cfg e fs g' (.deciding (k (fs.exec p c o).1)) := hadv
        exact ⟨hres.newer hnew, h.seen.newer hnew⟩
    | building m did old =>
      cases m with
      | ret b =>
        obtain rfl := hquiet rfl
        cases hstep
        refine ⟨finish_results (fun a ha => ?_) htask.2, h.seen⟩
        obtain ⟨x, y, hm, hx, hy⟩ := htask.1 a ha
        exact ⟨x, y, hm, h.seen.stands hx, h.seen.stands hy⟩
      | hang =>
        obtain rfl := hquiet rfl
        obtain ⟨hnew, rfl⟩ := guard_eq_some.1 hstep
        exact ⟨⟨trivial, fun b hb => (htask.2 b hb).newer hnew⟩, h.seen.newer hnew⟩
      | call c k =>
        obtain ⟨hnew, rfl⟩ := guard_eq_some.1 hstep
        have hans := answers_of_undisturbed (p := p) (t := ⟨(fs.exec p c o).2,
          .building (k (fs.exec p c o).1) did old⟩) (s := ⟨fs, .building (.call c k) did old⟩)
          rfl hC
        have hsafe := htask.1.2 _ _ hans
        have hg' : g' = note g ⟨fs, .building (.call c k) did old⟩ (.step o) ⟨(fs.exec p c o).2,
          .building (k (fs.exec p c o).1) did old⟩ := hg
        rw [← hg'] at hsafe
        exact ⟨⟨hsafe, fun b hb => (htask.2 b hb).newer hnew⟩, hseen.newer hnew⟩
    | ending m =>
      obtain rfl := hquiet rfl
      cases m with
      | ret a =>
        cases hstep
        exact ⟨htask, h.seen⟩
      | hang =>
        obtain ⟨hnew, rfl⟩ := guard_eq_some.1 hstep
        exact ⟨trivial, h.seen.newer hnew⟩
      | call c k =>
        obtain ⟨hnew, rfl⟩ := guard_eq_some.1 hstep
        have hadv : ((Prog.call c k).advance (Fs.exec p) fs o).1.Results _ :=
          Prog.Results.advance htask fs o
        have hres : TaskInv cfg e fs g' (.ending (k (fs.exec p c o).1)) := hadv
        exact ⟨hres.newer hnew, h.seen.newer hnew⟩

end Refresher

/-- The calls of a refresh whose reload interval has elapsed, on files that nobody replaces. -/
structure AliasesCfg.Due (cfg : AliasesCfg) (a : Aliases) (c : Sys) (o : Outcome) : Prop where
  elapsed : o.now - a.lastMtimeCheck ≥ cfg.reloadMinutes * 60
  reads : ∀ f, c = .read f → o.ok = true
  still : ∀ f, c = .renameTmp f → o.ok = false

/-- The tables are those of the files of the directory. -/
def AliasesCfg.TableOf (cfg : AliasesCfg) (e : AliasEnv) (s : Fs) (t : AliasTab) : Prop :=
  ∃ rows, mainRows e (cfg.seen s .subscriber) = some rows ∧
    tableOf rows (overlayRows e (cfg.seen s .localOverlay)) = some t

/-- The files of the directory load: the main file is there, passes its checksum and makes tables
that are not empty. -/
structure AliasesCfg.Loads (cfg : AliasesCfg) (e : AliasEnv) (s : Fs) : Prop where
  main : cfg.hasFile .subscriber = true → cfg.MainReadable s
  passes : Passes e (cfg.expected e s) (cfg.seen s .subscriber)
  table : ∃ t, cfg.TableOf e s t ∧ t.count ≠ 0

/-- The next refresh that is due, on files that load and nobody replaces, ends with the tables of
these files; it hangs only where a download does. -/
def FreshNext (cfg : AliasesCfg) (e : AliasEnv) (p fuel : Nat) (s : Fs) (a : Aliases) : Prop :=
  cfg.reloadMinutes > 0 → cfg.Loads e s → ∀ H : Prop,
    (∀ force t, (aliasesDownload cfg e p fuel force).Wp (Fs.exec p) (cfg.Due a) H
      (fun _ _ => True) t) →
    (aliasesMaybeRefresh cfg e p fuel a).Wp (Fs.exec p) (cfg.Due a) H
      (fun r _ => cfg.TableOf e s r.2.tab) s

section
variable {cfg : AliasesCfg} {e : AliasEnv} {p fuel : Nat} {s t : Fs} {a : Aliases} {H : Prop}

theorem AliasesCfg.due_reads : ReadsWhole (cfg.Due a) := fun f _ h => h.reads f rfl

theorem Fs.exec_file {c : Sys} {o : Outcome} (h : ∀ f, c = .renameTmp f → o.ok = false) :
    (s.exec p c o).2.file = s.file := by
  cases c with
  | openLock f =>
    simp only [Fs.exec]
    split
    next => rfl
    next => split <;> rfl
  | writeLock f =>
    simp only [Fs.exec]
    split
    next =>
      cases s.lock f with
      | none => rfl
      | some l => simp only; split <;> rfl
    next => rfl
  | renameTmp f =>
    simp only [Fs.exec, h f rfl]
    cases s.tmp f p <;> rfl
  | _ => rfl

/-- Nobody replaces a file. -/
theorem wp_file {m : AliasProg α} {Q : α → Fs → Prop} (h : m.Wp (Fs.exec p) (cfg.Due a) H Q s) :
    m.Wp (Fs.exec p) (cfg.Due a) H (fun r t => Q r t ∧ t.file = s.file) s := by
  induction m generalizing s with
  | ret r => exact ⟨h, rfl⟩
  | hang => exact h
  | call c k ih =>
    intro o ho
    have hfile := Fs.exec_file (p := p) (s := s) ho.still
    refine (ih _ (h o ho)).mono fun r t hr => ⟨hr.1, hr.2.trans hfile⟩

theorem seen_congr (h : t.file = s.file) (f : DataFile) : cfg.seen t f = cfg.seen s f := by
  rw [AliasesCfg.seen, h]
  rfl

theorem AliasesCfg.expected_congr (h : t.file = s.file) : cfg.expected e t = cfg.expected e s := by
  rw [AliasesCfg.expected, seen_congr h]
  rfl

/-- Files that load are built. -/
theorem rebuild_loads (h : cfg.Loads e s) (ht : t.file = s.file) (did : Bool) (b : Aliases) :
    (rebuild cfg e (some did, b)).Wp (Fs.exec p) (cfg.Due a) H
      (fun r _ => cfg.TableOf e s r.2.tab) t := by
  obtain ⟨tab, ⟨rows, hrows, htab⟩, hcount⟩ := h.table
  have hpass := h.passes
  rw [← seen_congr ht] at hrows htab hpass
  rw [← AliasesCfg.expected_congr ht] at hpass
  refine (rebuild_wp AliasesCfg.due_reads fun rows' hrows' hnone => ?_).mono ?_
  · cases hrows.symm.trans hrows'
    cases htab.symm.trans hnone
  · rintro r u ⟨rfl, hr⟩
    have hof {c : Aliases} {rows' : List AliasRow} (hc : BuiltFrom cfg e u c rows') :
        c.tab = tab := by
      cases hrows.symm.trans hc.loads
      exact Option.some.inj (hc.tab.symm.trans htab)
    cases hr with
    | failed hfails =>
      rcases hfails with hf | hf
      · exact (hf hpass).elim
      · cases hrows.symm.trans hf
    | emptied c rows' hc h0 _ =>
      rw [hof hc] at h0
      exact (hcount h0).elim
    | replaced c rows' hc _ =>
      have htc := hof hc
      rw [seen_congr ht] at hrows
      rw [seen_congr ht] at htab
      exact ⟨rows, hrows, htc ▸ htab⟩

theorem fileStale_wp {ok : Sys → Outcome → Prop} (f : DataFile) (staleMinutes : Int) :
    (fileStale f staleMinutes).Wp (Fs.exec p) ok H (fun _ t => t = s) s := by
  rw [fileStale]
  split
  next => exact rfl
  next =>
    refine Prog.Wp.bind (Q := fun _ t => t = s) (fun o _ => rfl) ?_
    rintro r t rfl
    cases r with
    | none => exact rfl
    | some mtime => exact fun o _ => rfl

theorem checksumMismatch_wp {ok : Sys → Outcome → Prop} (hok : ReadsWhole ok) :
    (checksumMismatch cfg e).Wp (Fs.exec p) ok H (fun _ t => t = s) s := by
  refine (loadSubscriberChecksum_wp hok).bind ?_
  rintro expected t ⟨_, rfl⟩
  by_cases hexp : expected = []
  · simp only [if_pos hexp]
    exact rfl
  · simp only [if_neg hexp]
    refine Prog.Wp.bind (Q := fun _ u => u = t) (access_wp rfl) ?_
    rintro there u rfl
    cases there with
    | false => exact rfl
    | true =>
      refine Prog.Wp.bind (Q := fun _ v => v = u) ?_ fun r v hv => hv
      rw [blake2bMatches, if_neg hexp]
      refine Prog.Wp.bind (Q := fun _ v => v = u) (read_wp hok rfl) ?_
      rintro r v rfl
      cases r <;> exact rfl

theorem aliasesNeedsDownload_wp {ok : Sys → Outcome → Prop} (hok : ReadsWhole ok) :
    (aliasesNeedsDownload cfg e a).Wp (Fs.exec p) ok H (fun _ t => t = s) s := by
  rw [aliasesNeedsDownload]
  split
  next => exact rfl
  next =>
    split
    next =>
      refine Prog.Wp.bind (Q := fun _ t => t = s) (fun o _ => rfl) ?_
      rintro now t rfl
      split
      next => exact rfl
      next =>
        refine (fileStale_wp .subscriber cfg.staleMinutes).bind ?_
        rintro stale u rfl
        cases stale with
        | true => exact rfl
        | false => exact checksumMismatch_wp hok
    next => exact rfl

theorem subscriberMissing_wp {ok : Sys → Outcome → Prop}
    (h : cfg.hasFile .subscriber = true → cfg.MainReadable s) :
    (subscriberMissing cfg).Wp (Fs.exec p) ok H (fun r t => r = false ∧ t = s) s := by
  rw [subscriberMissing]
  cases hf : cfg.hasFile .subscriber with
  | false => exact ⟨rfl, rfl⟩
  | true =>
    have hmain := h hf
    rw [AliasesCfg.MainReadable, seen_of_hasFile hf] at hmain
    refine Prog.Wp.bind (Q := fun r t => r = true ∧ t = s) (access_wp ⟨hmain, rfl⟩) ?_
    rintro r t ⟨rfl, rfl⟩
    exact ⟨rfl, rfl⟩

theorem fileNewer_wp {ok : Sys → Outcome → Prop} (f : DataFile) (mtime : Int) :
    (fileNewer cfg f mtime).Wp (Fs.exec p) ok H (fun r t => t = s ∧
      (r = true ↔ cfg.hasFile f = true ∧ mtimeOf (cfg.seen s f) > mtime)) s := by
  rw [fileNewer]
  cases hf : cfg.hasFile f with
  | false => exact ⟨rfl, fun h => (nomatch h), fun h => (nomatch h.1)⟩
  | true =>
    rw [seen_of_hasFile hf]
    refine Prog.Wp.bind (Q := fun r t => r = mtimeOf (s.file f) ∧ t = s) (fileMtime_wp ⟨rfl, rfl⟩) ?_
    rintro mt t ⟨rfl, rfl⟩
    exact ⟨rfl, fun h => ⟨rfl, of_decide_eq_true h⟩, fun h => decide_eq_true h.2⟩

/-- Files that are not found to be newer are the ones that the aliases are made of. -/
theorem aliasesDiskNewer_wp {ok : Sys → Outcome → Prop} (h : Traced cfg e s a) :
    (aliasesDiskNewer cfg a).Wp (Fs.exec p) ok H
      (fun r t => t = s ∧ (r = false → cfg.TableOf e s a.tab)) s := by
  refine (fileNewer_wp .subscriber a.subscriberMtime).bind ?_
  rintro r t ⟨rfl, hr⟩
  cases r with
  | true => exact ⟨rfl, fun h => by cases h⟩
  | false =>
    refine (fileNewer_wp .localOverlay a.localMtime).mono ?_
    rintro r' u ⟨rfl, hr'⟩
    refine ⟨rfl, ?_⟩
    rintro rfl
    obtain ⟨x, y, hm, hx, hy⟩ := h
    obtain ⟨rows, hrows, htab⟩ := hm.tab
    rw [hm.subscriberMtime] at hr
    rw [hm.localMtime] at hr'
    obtain rfl := hx.resolve_right fun hx => nomatch hr.2 hx
    obtain rfl := hy.resolve_right fun hy => nomatch hr'.2 hy
    exact ⟨rows, hrows, htab⟩

theorem Traced.freshNext (h : Traced cfg e s a) : FreshNext cfg e p fuel s a := by
  intro hpos hloads H hdown
  have hok : ReadsWhole (cfg.Due a) := AliasesCfg.due_reads
  have hwanted : (refreshWanted cfg e p fuel a).Wp (Fs.exec p) (cfg.Due a) H
      (fun w t => t.file = s.file ∧ (w.1 = none → cfg.TableOf e s w.2.tab)) s := by
    refine Prog.Wp.bind (Q := fun now t => now - a.lastMtimeCheck ≥ cfg.reloadMinutes * 60 ∧ t = s)
      (fun o ho => ⟨ho.elapsed, rfl⟩) ?_
    rintro now t ⟨hnow, rfl⟩
    refine (aliasesNeedsDownload_wp hok).bind ?_
    rintro needs u rfl
    cases needs with
    | true =>
      refine (wp_file (hdown false u)).bind ?_
      rintro did v ⟨_, hv⟩
      exact ⟨hv, fun h => by cases h⟩
    | false =>
      change (reloadWanted cfg e p fuel now a).Wp _ _ _ _ _
      rw [reloadWanted, if_pos ⟨hpos, hnow⟩]
      refine (subscriberMissing_wp hloads.main).bind ?_
      rintro missing v ⟨rfl, rfl⟩
      refine (aliasesDiskNewer_wp (h.times now a.lastFetchTime)).bind ?_
      rintro newer w ⟨rfl, hnewer⟩
      cases newer with
      | true => exact ⟨rfl, fun h => by cases h⟩
      | false => exact ⟨rfl, fun _ => hnewer rfl⟩
  refine hwanted.bind ?_
  rintro ⟨want, b⟩ t ⟨ht, hnone⟩
  cases want with
  | none => exact hnone rfl
  | some did => exact rebuild_loads hloads ht did b

/-- As long as no file is replaced between its last reading in `aliases_build` and the recording of
its time, and the overlay is read without an error, no update of the files is missed. -/
theorem freshNext_run (cfg : AliasesCfg) (e : AliasEnv) (p fuel : Nat) (fs : Fs)
    (evs : List RefreshEvent)
    (h : (Refresher.machine cfg e p fuel fs).Meets Undisturbed
      (Refresher.machine cfg e p fuel fs).init evs) :
    (Refresher.machine cfg e p fuel fs).Always
      (fun s => ∀ a, s.1.task = .idle (some a) → FreshNext cfg e p fuel s.1.fs a)
      (Refresher.machine cfg e p fuel fs).init evs := by
  refine Machine.Meets.always (I := Refresher.Inv cfg e) (fun s ev s' hi hc he => ?_)
    (fun s hi a ha => ?_) (Refresher.inv_init cfg e p fuel fs) h
  · exact Refresher.step_inv hi hc he
  · have htask := hi.task
    rw [ha] at htask
    exact Traced.freshNext (htask a rfl)

end

/-- The configuration of a bridge with a main file only, and no URL. -/
def mainOnlyCfg : AliasesCfg where
  staleMinutes := 0
  reloadMinutes := 15
  hasFile f := f == .subscriber
  hasUrl _ := false

/-- A data directory without files. -/
def emptyDir : Fs := ⟨fun _ => none, fun _ => none, fun _ _ => none⟩

/-- The same with a main file, of the time 10. -/
def mainDir : Fs := emptyDir.setFile .subscriber (some ⟨oneRowText, 10, true⟩)

/-- Every call at the time 20. -/
def atTwenty : Outcome := ⟨20, true, 0, none⟩

theorem mainDir_loads : mainOnlyCfg.Loads oneRowEnv mainDir := by
  have hfit : KeysFit [(1, [0x41])] := by
    intro row hrow _
    rw [List.mem_singleton.1 hrow]
    decide
  have hfit' : KeysFit ([(1, [0x41])] ++ []) := hfit
  obtain ⟨t, ht⟩ := (tableOf_represents hfit').1.1 ⟨by decide, trivial⟩
  refine ⟨fun _ => rfl, fun _ _ => .inl rfl, t, ⟨_, rfl, ht⟩, fun h0 => ?_⟩
  exact (tableOf_count ht).1 h0 _ (List.mem_singleton_self _) ⟨by decide, by decide⟩

/-- A process that starts without files, and a main file that is renamed into place afterwards. -/
theorem freshNext_run_sample : (Refresher.machine mainOnlyCfg oneRowEnv 0 0 emptyDir).Always
    (fun s => ∀ a, s.1.task = .idle (some a) → FreshNext mainOnlyCfg oneRowEnv 0 0 s.1.fs a)
    (Refresher.machine mainOnlyCfg oneRowEnv 0 0 emptyDir).init
    [.step atTwenty, .step atTwenty, .step atTwenty, .step atTwenty, .step atTwenty,
      .step atTwenty, .others mainDir] := by
  apply freshNext_run
  refine (Machine.meets_cons_some rfl).2 ⟨trivial, ?_⟩
  refine (Machine.meets_cons_some rfl).2 ⟨trivial, ?_⟩
  refine (Machine.meets_cons_some rfl).2 ⟨fun v hv => Option.some.inj hv, ?_⟩
  refine (Machine.meets_cons_some rfl).2 ⟨trivial, ?_⟩
  refine (Machine.meets_cons_some rfl).2 ⟨trivial, ?_⟩
  refine (Machine.meets_cons_some rfl).2 ⟨trivial, ?_⟩
  exact (Machine.meets_cons_some rfl).2 ⟨trivial, trivial⟩

/-- The main file is renamed into place after `aliases_build` has found none, and before it asks for
its time: the process never loads it. -/
theorem not_freshNext_run : ¬(Refresher.machine mainOnlyCfg oneRowEnv 0 0 emptyDir).Always
    (fun s => ∀ a, s.1.task = .idle (some a) → FreshNext mainOnlyCfg oneRowEnv 0 0 s.1.fs a)
    (Refresher.machine mainOnlyCfg oneRowEnv 0 0 emptyDir).init
    [.step atTwenty, .step atTwenty, .others mainDir, .step atTwenty, .step atTwenty,
      .step atTwenty, .step atTwenty] := by
  intro h
  have hrun : ∃ g, (Refresher.machine mainOnlyCfg oneRowEnv 0 0 emptyDir).runFrom
      (Refresher.machine mainOnlyCfg oneRowEnv 0 0 emptyDir).init
      [.step atTwenty, .step atTwenty, .others mainDir, .step atTwenty, .step atTwenty,
        .step atTwenty, .step atTwenty] = some (⟨mainDir, .idle (some ⟨.empty, 10, 0, 20, 0⟩)⟩, g) :=
    ⟨_, rfl⟩
  obtain ⟨g, hrun⟩ := hrun
  have hfresh := Machine.always_iff.1 h _ _ (List.prefix_refl _) hrun _ rfl
  have hwp := hfresh (by decide) mainDir_loads False fun force t => trivial
  have hdue (c : Sys) (hc : ∀ f, c ≠ .renameTmp f) :
      mainOnlyCfg.Due ⟨.empty, 10, 0, 20, 0⟩ c ⟨1000, true, 0, none⟩ :=
    ⟨by decide, fun _ _ => rfl, fun f hf => (hc f hf).elim⟩
  -- the time, whether the main file is there, and its own time
  obtain ⟨rows, hrows, htab⟩ := hwp _ (hdue .time fun f hf => nomatch hf) _
    (hdue (.access .subscriber) fun f hf => nomatch hf) _
    (hdue (.stat .subscriber) fun f hf => nomatch hf)
  cases hrows
  exact (tableOf_count htab).1 rfl _ (List.mem_singleton_self _) ⟨by decide, by decide⟩

end AdnBridge
