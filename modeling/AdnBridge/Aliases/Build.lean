import AdnBridge.Aliases.Refresh

namespace AdnBridge
set_option autoImplicit true

/-- What can be read of a file that is there or not. -/
def readable (x : Option File) : Option (List UInt8) := x.bind fun x => x.read true

/-- `file_mtime`: 0 without a file. -/
def mtimeOf (x : Option File) : Int := (x.map File.mtime).getD 0

/-- The rows of the main file, none without one; `none` where it will not load. -/
def mainRows (e : AliasEnv) (x : Option File) : Option (List AliasRow) :=
  match readable x with
  | none => some []
  | some data => (e.rowsOf data).filter fun rows => rows ≠ []

/-- The rows of the overlay, none where it will not load. -/
def overlayRows (e : AliasEnv) (y : Option File) : List AliasRow :=
  ((readable y).bind e.rowsOf).getD []

/-- The main file, if there is one, has the digest that is expected. -/
def Passes (e : AliasEnv) (expected : List UInt8) (x : Option File) : Prop :=
  ∀ data, readable x = some data → expected = [] ∨ e.blake2b data = expected

/-- The file as the process sees it, which does without those that are not configured. -/
def AliasesCfg.seen (cfg : AliasesCfg) (s : Fs) (f : DataFile) : Option File :=
  if cfg.hasFile f then s.file f else none

/-- The digest that the directory holds for the main file. -/
def AliasesCfg.expected (cfg : AliasesCfg) (e : AliasEnv) (s : Fs) : List UInt8 :=
  ((readable (cfg.seen s .checksum)).map e.expectedOf).getD []

/-- A file that may be read is read to its end. -/
def ReadsWhole (ok : Sys → Outcome → Prop) : Prop :=
  ∀ f o, ok (.read f) o → o.ok = true

theorem mainRows_none {e : AliasEnv} {x : Option File} (h : readable x = none) :
    mainRows e x = some [] := by
  rw [mainRows, h]

theorem mainRows_some {e : AliasEnv} {x : Option File} {data : List UInt8} {rows : List AliasRow}
    (h : readable x = some data) (hrows : e.rowsOf data = some rows) (hne : rows ≠ []) :
    mainRows e x = some rows := by
  rw [mainRows, h]
  exact Option.filter_eq_some_iff.2 ⟨hrows, decide_eq_true hne⟩

theorem mainRows_corrupt {e : AliasEnv} {x : Option File} {data : List UInt8}
    (h : readable x = some data) (hrows : ∀ rows, e.rowsOf data = some rows → rows = []) :
    mainRows e x = none := by
  rw [mainRows, h]
  refine Option.filter_eq_none_iff.2 fun rows hr => ?_
  rw [hrows rows hr]
  decide

/-- A main file that loads is not there, or has rows. -/
theorem mainRows_eq_some {e : AliasEnv} {x : Option File} {rows : List AliasRow}
    (h : mainRows e x = some rows) : readable x = none ∧ rows = [] ∨
      ∃ data, readable x = some data ∧ e.rowsOf data = some rows ∧ rows ≠ [] := by
  rw [mainRows] at h
  cases hx : readable x with
  | none =>
    rw [hx] at h
    cases h
    exact .inl ⟨rfl, rfl⟩
  | some data =>
    rw [hx] at h
    obtain ⟨hr, hne⟩ := Option.filter_eq_some_iff.1 h
    exact .inr ⟨data, rfl, hr, of_decide_eq_true hne⟩

section
variable {cfg : AliasesCfg} {e : AliasEnv} {p : Nat} {s : Fs} {f : DataFile}
variable {ok : Sys → Outcome → Prop} {H : Prop}

open AliasProg

theorem any_readable (x : Option File) : x.any File.readable = (readable x).isSome := by
  cases x with
  | none => rfl
  | some x =>
    change x.readable = (if x.readable && true then some x.data else none).isSome
    cases x.readable <;> rfl

theorem access_wp {Q : Bool → Fs → Prop} (h : Q (readable (s.file f)).isSome s) :
    (access f).Wp (Fs.exec p) ok H Q s := by
  intro o _
  change Q ((s.file f).any File.readable) s
  rwa [any_readable]

theorem read_wp {Q : Option (List UInt8) → Fs → Prop} (hok : ReadsWhole ok)
    (h : Q (readable (s.file f)) s) : (read f).Wp (Fs.exec p) ok H Q s := by
  intro o ho
  change Q ((s.file f).bind fun x => x.read o.ok) s
  rwa [hok f o ho]

theorem fileMtime_wp {Q : Int → Fs → Prop} (h : Q (mtimeOf (s.file f)) s) :
    (fileMtime f).Wp (Fs.exec p) ok H Q s := by
  intro o _
  exact h

theorem seen_of_hasFile (h : cfg.hasFile f = true) : cfg.seen s f = s.file f := if_pos h

theorem seen_of_not_hasFile (h : cfg.hasFile f = false) : cfg.seen s f = none := by
  rw [AliasesCfg.seen, h]
  rfl

theorem loadSubscriberChecksum_wp (hok : ReadsWhole ok) :
    (loadSubscriberChecksum cfg e).Wp (Fs.exec p) ok H
      (fun r t => r = cfg.expected e s ∧ t = s) s := by
  rw [loadSubscriberChecksum]
  cases hf : cfg.hasFile .checksum with
  | false =>
    refine ⟨?_, rfl⟩
    rw [AliasesCfg.expected, seen_of_not_hasFile hf]
    rfl
  | true =>
    refine Prog.Wp.bind (Q := fun r t => r = (readable (s.file .checksum)).isSome ∧ t = s)
      (access_wp ⟨rfl, rfl⟩) ?_
    rintro r t ⟨hr, rfl⟩
    rw [AliasesCfg.expected, seen_of_hasFile hf]
    cases hx : readable (t.file .checksum) with
    | none =>
      rw [hx] at hr
      subst hr
      exact ⟨rfl, rfl⟩
    | some data =>
      rw [hx] at hr
      subst hr
      refine Prog.Wp.bind (Q := fun r u => r = some data ∧ u = t) (read_wp hok ⟨hx, rfl⟩) ?_
      rintro r u ⟨rfl, rfl⟩
      exact ⟨rfl, rfl⟩

theorem loadVerified_wp (hok : ReadsWhole ok) {data : List UInt8}
    (hx : readable (s.file f) = some data) (localOverride : Bool) (expected : List UInt8) :
    (loadVerified e f localOverride expected).Wp (Fs.exec p) ok H
      (fun r t => (r = true ↔ localOverride = true ∨ expected = [] ∨ e.blake2b data = expected) ∧
        t = s) s := by
  cases localOverride with
  | true => exact ⟨⟨fun _ => .inl rfl, fun _ => rfl⟩, rfl⟩
  | false =>
    change (blake2bMatches e (read f) expected).Wp _ _ _ _ _
    rw [blake2bMatches]
    by_cases hexp : expected = []
    · rw [if_pos hexp]
      exact ⟨⟨fun _ => .inr (.inl hexp), fun _ => rfl⟩, rfl⟩
    · rw [if_neg hexp]
      refine Prog.Wp.bind (Q := fun r u => r = some data ∧ u = s) (read_wp hok ⟨hx, rfl⟩) ?_
      rintro r u ⟨rfl, rfl⟩
      refine ⟨?_, rfl⟩
      rw [beq_iff_eq]
      constructor
      · intro h
        exact .inr (.inr h)
      · rintro (h | h | h)
        · cases h
        · exact absurd h hexp
        · exact h

theorem parseSubscriberJson_wp (hok : ReadsWhole ok) {data : List UInt8}
    (hx : readable (s.file f) = some data) (t : AliasTab) (localOverride : Bool)
    (hH : ∀ rows, e.rowsOf data = some rows → t.putRows localOverride rows = none → H) :
    (parseSubscriberJson e t f localOverride).Wp (Fs.exec p) ok H
      (fun r u => u = s ∧
        t.putRows localOverride ((e.rowsOf data).getD []) = some r.2 ∧
        r.1 = if (e.rowsOf data).getD [] = [] then -1 else 0) s := by
  refine Prog.Wp.bind (Q := fun r u => r = some data ∧ u = s) (read_wp hok ⟨hx, rfl⟩) ?_
  rintro r u ⟨rfl, rfl⟩
  simp only
  cases hr : e.rowsOf data with
  | none => exact ⟨rfl, rfl, rfl⟩
  | some rows =>
    simp only [Option.getD_some]
    cases ht : t.putRows localOverride rows with
    | none => exact hH rows hr ht
    | some t' => exact ⟨rfl, rfl, rfl⟩

theorem overlayRows_none {y : Option File} (h : readable y = none) : overlayRows e y = [] := by
  rw [overlayRows, h]
  rfl

theorem overlayRows_some {y : Option File} {data : List UInt8} (h : readable y = some data) :
    overlayRows e y = (e.rowsOf data).getD [] := by
  rw [overlayRows, h]
  rfl

/-- The overlay is loaded as far as it can be. -/
theorem loadFile_overlay_wp (hok : ReadsWhole ok) (t : AliasTab)
    (hH : t.putRows true (overlayRows e (cfg.seen s f)) = none → H) :
    (loadFile cfg e t f true []).Wp (Fs.exec p) ok H
      (fun r u => u = s ∧ t.putRows true (overlayRows e (cfg.seen s f)) = some r.2) s := by
  rw [loadFile]
  cases hf : cfg.hasFile f with
  | false =>
    rw [seen_of_not_hasFile hf, overlayRows_none rfl]
    exact ⟨rfl, rfl⟩
  | true =>
    rw [seen_of_hasFile hf] at hH ⊢
    refine Prog.Wp.bind (Q := fun r t => r = (readable (s.file f)).isSome ∧ t = s)
      (access_wp ⟨rfl, rfl⟩) ?_
    rintro r u ⟨rfl, rfl⟩
    cases hx : readable (u.file f) with
    | none =>
      rw [overlayRows_none hx]
      exact ⟨rfl, rfl⟩
    | some data =>
      rw [overlayRows_some hx] at hH ⊢
      refine Prog.Wp.bind (loadVerified_wp hok hx true []) ?_
      rintro r v ⟨hr, rfl⟩
      rw [hr.2 (.inl rfl)]
      refine Prog.Wp.bind (parseSubscriberJson_wp hok hx t true fun rows hrows hnone => ?_) ?_
      · rw [hrows] at hH
        exact hH hnone
      · rintro ⟨rc, t'⟩ w ⟨rfl, ht, -⟩
        exact ⟨rfl, ht⟩

/-- The main file is loaded if it passes its checksum and has rows. -/
theorem loadFile_main_wp (hok : ReadsWhole ok) (t : AliasTab) (expected : List UInt8)
    (hH : ∀ rows, Passes e expected (cfg.seen s f) → mainRows e (cfg.seen s f) = some rows →
      t.putRows false rows = none → H) :
    (loadFile cfg e t f false expected).Wp (Fs.exec p) ok H
      (fun r u => u = s ∧
        (r.1 < 0 ∧ (¬Passes e expected (cfg.seen s f) ∨ mainRows e (cfg.seen s f) = none) ∨
          r.1 = 0 ∧ Passes e expected (cfg.seen s f) ∧
            ∃ rows, mainRows e (cfg.seen s f) = some rows ∧ t.putRows false rows = some r.2)) s := by
  rw [loadFile]
  cases hf : cfg.hasFile f with
  | false =>
    rw [seen_of_not_hasFile hf]
    exact ⟨rfl, .inr ⟨rfl, fun _ h => (nomatch h), [], rfl, rfl⟩⟩
  | true =>
    rw [seen_of_hasFile hf] at hH ⊢
    refine Prog.Wp.bind (Q := fun r t => r = (readable (s.file f)).isSome ∧ t = s)
      (access_wp ⟨rfl, rfl⟩) ?_
    rintro r u ⟨rfl, rfl⟩
    cases hx : readable (u.file f) with
    | none =>
      refine ⟨rfl, .inr ⟨rfl, fun _ h => ?_, [], mainRows_none hx, rfl⟩⟩
      cases hx.symm.trans h
    | some data =>
      refine Prog.Wp.bind (loadVerified_wp hok hx false expected) ?_
      rintro r v ⟨hr, rfl⟩
      cases r with
      | false =>
        refine ⟨rfl, .inl ⟨(by decide : (-1 : Int) < 0), .inl fun hpass => ?_⟩⟩
        have h := hr.2 (.inr (hpass data hx))
        cases h
      | true =>
        have hpass : Passes e expected (v.file f) := by
          intro d hd
          cases hx.symm.trans hd
          rcases hr.1 rfl with h | h
          · cases h
          · exact h
        refine Prog.Wp.bind (parseSubscriberJson_wp hok hx t false fun rows hrows hnone => ?_) ?_
        · refine hH rows hpass (mainRows_some hx hrows ?_) hnone
          rintro rfl
          cases hnone
        · rintro ⟨rc, t'⟩ w ⟨rfl, ht, hrc⟩
          have hif : (if rc < 0 ∧ false = true then 0 else rc) = rc := if_neg fun h => nomatch h.2
          refine ⟨rfl, ?_⟩
          simp only [hif]
          cases hrows : e.rowsOf data with
          | none =>
            rw [hrows] at hrc
            have hneg : rc = -1 := hrc
            refine .inl ⟨by omega, .inr (mainRows_corrupt hx fun rows h => ?_)⟩
            cases hrows.symm.trans h
          | some rows =>
            rw [hrows] at hrc ht
            by_cases hne : rows = []
            · subst hne
              subst hrc
              refine .inl ⟨by decide, .inr (mainRows_corrupt hx fun rows h => ?_)⟩
              cases hrows.symm.trans h
              rfl
            · have h0 : rc = 0 := hrc.trans (if_neg hne)
              subst h0
              exact .inr ⟨rfl, hpass, rows, mainRows_some hx hrows hne, ht⟩

theorem configuredMtime_wp {Q : Int → Fs → Prop} (h : Q (mtimeOf (cfg.seen s f)) s) :
    (configuredMtime cfg f).Wp (Fs.exec p) ok H Q s := by
  rw [configuredMtime]
  cases hf : cfg.hasFile f with
  | false =>
    rw [seen_of_not_hasFile hf] at h
    exact h
  | true =>
    rw [seen_of_hasFile hf] at h
    exact fileMtime_wp h

theorem aliasesRecordMtimes_wp (a : Aliases) :
    (aliasesRecordMtimes cfg a).Wp (Fs.exec p) ok H
      (fun b t => t = s ∧ b.tab = a.tab ∧ b.subscriberMtime = mtimeOf (cfg.seen s .subscriber) ∧
        b.localMtime = mtimeOf (cfg.seen s .localOverlay)) s := by
  refine Prog.Wp.bind (Q := fun r t => r = mtimeOf (cfg.seen s .subscriber) ∧ t = s)
    (configuredMtime_wp ⟨rfl, rfl⟩) ?_
  rintro r t ⟨rfl, rfl⟩
  refine Prog.Wp.bind (Q := fun r u => r = mtimeOf (cfg.seen t .localOverlay) ∧ u = t)
    (configuredMtime_wp ⟨rfl, rfl⟩) ?_
  rintro r u ⟨rfl, rfl⟩
  exact fun o _ => ⟨rfl, rfl, rfl, rfl⟩

/-- The main file will not load. -/
def AliasesCfg.MainFails (cfg : AliasesCfg) (e : AliasEnv) (s : Fs) : Prop :=
  ¬Passes e (cfg.expected e s) (cfg.seen s .subscriber) ∨
    mainRows e (cfg.seen s .subscriber) = none

/-- Aliases that are made of the files of a directory, in which the main file loads. -/
structure BuiltFrom (cfg : AliasesCfg) (e : AliasEnv) (s : Fs) (a : Aliases)
    (rows : List AliasRow) : Prop where
  passes : Passes e (cfg.expected e s) (cfg.seen s .subscriber)
  loads : mainRows e (cfg.seen s .subscriber) = some rows
  tab : tableOf rows (overlayRows e (cfg.seen s .localOverlay)) = some a.tab
  subscriberMtime : a.subscriberMtime = mtimeOf (cfg.seen s .subscriber)
  localMtime : a.localMtime = mtimeOf (cfg.seen s .localOverlay)

theorem aliasesBuild_wp (hok : ReadsWhole ok)
    (hH : ∀ rows, Passes e (cfg.expected e s) (cfg.seen s .subscriber) →
      mainRows e (cfg.seen s .subscriber) = some rows →
      tableOf rows (overlayRows e (cfg.seen s .localOverlay)) = none → H) :
    (aliasesBuild cfg e).Wp (Fs.exec p) ok H
      (fun r t => t = s ∧ (r = none ∧ cfg.MainFails e s ∨
        ∃ a rows, r = some a ∧ BuiltFrom cfg e s a rows)) s := by
  refine Prog.Wp.bind (loadSubscriberChecksum_wp hok) ?_
  rintro expected t ⟨rfl, rfl⟩
  have hmain : (loadMain cfg e (cfg.expected e t)).Wp (Fs.exec p) ok H
      (fun r u => u = t ∧ (r.1 < 0 ∧ cfg.MainFails e t ∨
        r.1 = 0 ∧ Passes e (cfg.expected e t) (cfg.seen t .subscriber) ∧
          ∃ rows, mainRows e (cfg.seen t .subscriber) = some rows ∧
            AliasTab.empty.putRows false rows = some r.2)) t := by
    have hfile := @loadFile_main_wp cfg e p t .subscriber ok H hok .empty (cfg.expected e t) <| by
      intro rows hpass hrows hnone
      apply hH rows hpass hrows
      rw [tableOf, hnone]
      rfl
    rw [loadMain]
    cases hf : cfg.hasFile .subscriber with
    | false =>
      rw [loadFile, hf] at hfile
      exact hfile
    | true =>
      refine Prog.Wp.bind (Q := fun r u => r = (readable (t.file .subscriber)).isSome ∧ u = t)
        (access_wp ⟨rfl, rfl⟩) ?_
      rintro r u ⟨hr, rfl⟩
      cases r with
      | true => exact hfile
      | false =>
        have hx : readable (u.file .subscriber) = none := by
          cases hx : readable (u.file .subscriber) with
          | none => rfl
          | some data =>
            rw [hx] at hr
            cases hr
        rw [seen_of_hasFile hf]
        refine ⟨rfl, .inr ⟨rfl, fun d hd => ?_, [], mainRows_none hx, rfl⟩⟩
        cases hx.symm.trans hd
  refine hmain.bind ?_
  rintro ⟨rc, tm⟩ u ⟨rfl, hm⟩
  rcases hm with ⟨hrc, hfails⟩ | ⟨hrc, hpass, rows, hrows, htm⟩
  · have hneg : rc < 0 := hrc
    simp only [if_pos hneg]
    exact ⟨rfl, .inl ⟨rfl, hfails⟩⟩
  · have hneg : ¬rc < 0 := by
      have h0 : rc = 0 := hrc
      omega
    simp only [if_neg hneg]
    refine (loadFile_overlay_wp hok tm fun hnone => ?_).bind ?_
    · refine hH rows hpass hrows ?_
      rw [tableOf, htm]
      exact hnone
    · rintro ⟨rc', t'⟩ v ⟨rfl, ht'⟩
      refine (aliasesRecordMtimes_wp _).bind ?_
      rintro b w ⟨rfl, hb, hsub, hloc⟩
      refine ⟨rfl, .inr ⟨b, rows, rfl, hpass, hrows, ?_, hsub, hloc⟩⟩
      rw [tableOf, htm, hb]
      exact ht'

end

end AdnBridge
