import AdnBridge.Aliases.Build
import AdnBridge.Aliases.Lookup

namespace AdnBridge
set_option autoImplicit true

/-- The tables stay empty just if they take none of the rows. -/
theorem AliasTab.putRows_count {t u : AliasTab} {rows : List AliasRow} {b : Bool}
    (h : t.CountsIds) (hu : t.putRows b rows = some u) : u.CountsIds ∧
      (u.count = 0 ↔ t.count = 0 ∧ ∀ row ∈ rows, ¬Usable row.1 row.2) := by
  induction rows generalizing t with
  | nil =>
    cases hu
    exact ⟨h, fun h0 => ⟨h0, fun _ hr => (nomatch hr)⟩, fun h0 => h0.1⟩
  | cons row rows ih =>
    obtain ⟨v, hv, hu⟩ := Option.bind_eq_some_iff.1 ((AliasTab.putRows_cons ..).symm.trans hu)
    simp only [List.mem_cons, forall_eq_or_imp]
    by_cases hrow : Usable row.1 row.2
    · obtain ⟨_, _, _, hspec⟩ := putAlias_spec b h hrow
      obtain ⟨_, hcounts, hpos, _⟩ := hspec v hv
      obtain ⟨hu', hiff⟩ := ih hcounts hu
      refine ⟨hu', fun h0 => ?_, fun h0 => (h0.2.1 hrow).elim⟩
      have hv0 := (hiff.1 h0).1
      omega
    · cases (putAlias_refused hrow).symm.trans hv
      obtain ⟨hu', hiff⟩ := ih h hu
      refine ⟨hu', hiff.trans ⟨fun h0 => ⟨h0.1, hrow, h0.2⟩, fun h0 => ⟨h0.1, h0.2.2⟩⟩⟩

theorem tableOf_count {main overlay : List AliasRow} {t : AliasTab}
    (h : tableOf main overlay = some t) :
    t.count = 0 ↔ ∀ row ∈ main ++ overlay, ¬Usable row.1 row.2 := by
  obtain ⟨u, hu, ht⟩ := Option.bind_eq_some_iff.1 h
  obtain ⟨hcounts, hmain⟩ := AliasTab.putRows_count AliasTab.countsIds_empty hu
  rw [(AliasTab.putRows_count hcounts ht).2, hmain, List.forall_mem_append]
  exact ⟨fun h0 => ⟨h0.1.2, h0.2⟩, fun h0 => ⟨⟨rfl, h0.1⟩, h0.2⟩⟩

/-- A directory whose files are read as they are. -/
def Fs.Reads : Sys → Outcome → Prop
  | .read _, o => o.ok = true
  | _, _ => True

theorem Fs.reads_whole : ReadsWhole Fs.Reads := fun _ _ h => h

section
variable {cfg : AliasesCfg} {e : AliasEnv} {p fuel : Nat} {s : Fs} {a : Aliases}
variable {exec : σ → (c : Sys) → Outcome → c.Res × σ} {ok : Sys → Outcome → Prop}

/-- Deciding whether to reload changes only the time of the last look at the disk. -/
theorem refreshWanted_results : (refreshWanted cfg e p fuel a).Results
    fun w => w.2 = { a with lastMtimeCheck := w.2.lastMtimeCheck } := by
  refine (Prog.results_true AliasProg.time).bind fun now _ => ?_
  refine (Prog.results_true _).bind fun needs _ => ?_
  cases needs with
  | true => exact (Prog.results_true _).bind fun did _ => rfl
  | false =>
    change (reloadWanted cfg e p fuel now a).Results _
    rw [reloadWanted]
    split
    next =>
      refine (Prog.results_true _).bind fun missing _ => ?_
      cases missing with
      | true =>
        cases hurl : cfg.hasUrl .subscriber with
        | true => exact (Prog.results_true _).bind fun did _ => rfl
        | false => exact rfl
      | false =>
        refine (Prog.results_true _).bind fun newer _ => ?_
        cases newer <;> exact rfl
    next => exact rfl

/-- The main file is configured and can be read. -/
def AliasesCfg.MainReadable (cfg : AliasesCfg) (s : Fs) : Prop :=
  (readable (cfg.seen s .subscriber)).isSome = true

/-- The tables take no row of the overlay. -/
def AliasesCfg.OverlayUseless (cfg : AliasesCfg) (e : AliasEnv) (s : Fs) : Prop :=
  ∀ row ∈ overlayRows e (cfg.seen s .localOverlay), ¬Usable row.1 row.2

/-- A refresh that returns `r` does not lose the database: new aliases are made of a main file that
is there and is valid, and otherwise the old ones stay as they are. -/
def KeepsDatabase (cfg : AliasesCfg) (e : AliasEnv) (s : Fs) (a : Aliases) (r : Int × Aliases) :
    Prop :=
  (r.1 = 1 → cfg.MainReadable s ∧ ∃ rows, BuiltFrom cfg e s r.2 rows) ∧
    (r.1 ≠ 1 → r.2 = { a with lastMtimeCheck := r.2.lastMtimeCheck })

theorem BuiltFrom.fetched {b : Aliases} {rows : List AliasRow} (h : BuiltFrom cfg e s b rows)
    (t : Int) : BuiltFrom cfg e s { b with lastFetchTime := t } rows :=
  ⟨h.passes, h.loads, h.tab, h.subscriberMtime, h.localMtime⟩

/-- What a rebuild comes to. -/
inductive Rebuilt (cfg : AliasesCfg) (e : AliasEnv) (s : Fs) (a : Aliases) : Int × Aliases → Prop
  | failed (h : cfg.MainFails e s) : Rebuilt cfg e s a (-1, a)
  | emptied (b : Aliases) (rows : List AliasRow) (h : BuiltFrom cfg e s b rows)
      (h0 : b.tab.count = 0) (hpos : a.tab.count > 0) : Rebuilt cfg e s a (-1, a)
  | replaced (b : Aliases) (rows : List AliasRow) (h : BuiltFrom cfg e s b rows)
      (h0 : ¬(b.tab.count = 0 ∧ a.tab.count > 0)) : Rebuilt cfg e s a (1, b)

theorem rebuild_wp {H : Prop} {did : Bool} (hok : ReadsWhole ok)
    (hH : ∀ rows, mainRows e (cfg.seen s .subscriber) = some rows →
      tableOf rows (overlayRows e (cfg.seen s .localOverlay)) = none → H) :
    (rebuild cfg e (some did, a)).Wp (Fs.exec p) ok H
      (fun r t => t = s ∧ Rebuilt cfg e s a r) s := by
  refine (aliasesBuild_wp hok fun rows _ hrows hnone => hH rows hrows hnone).bind ?_
  rintro r t ⟨rfl, ⟨rfl, hfails⟩ | ⟨b, rows, rfl, hb⟩⟩
  · exact ⟨rfl, .failed hfails⟩
  · rw [swapAliases]
    by_cases h0 : b.tab.count = 0 ∧ a.tab.count > 0
    · rw [if_pos h0]
      exact ⟨rfl, .emptied b rows hb h0.1 h0.2⟩
    · rw [if_neg h0]
      cases did with
      | true => exact fun o _ => ⟨rfl, .replaced _ rows (hb.fetched _) h0⟩
      | false => exact ⟨rfl, .replaced _ rows (hb.fetched _) h0⟩

/-- Without the main file, the rows are those of the overlay. -/
theorem BuiltFrom.count_of_missing {b : Aliases} {rows : List AliasRow}
    (h : BuiltFrom cfg e s b rows) (hno : ¬cfg.MainReadable s) :
    b.tab.count = 0 ↔ cfg.OverlayUseless e s := by
  rcases mainRows_eq_some h.loads with ⟨_, rfl⟩ | ⟨data, hdata, _⟩
  · exact tableOf_count h.tab
  · rw [AliasesCfg.MainReadable, hdata] at hno
    exact (hno rfl).elim

/-- A rebuild keeps the database just if it finds the main file, or makes nothing of the overlay
that could replace what there is. -/
theorem Rebuilt.keepsDatabase_iff {a' : Aliases} {r : Int × Aliases} (h : Rebuilt cfg e s a' r)
    (ha : a' = { a with lastMtimeCheck := a'.lastMtimeCheck }) : KeepsDatabase cfg e s a r ↔
      cfg.MainReadable s ∨ cfg.OverlayUseless e s ∧ a.tab.count > 0 := by
  have htab : a'.tab = a.tab := by rw [ha]
  have hkept : KeepsDatabase cfg e s a (-1, a') :=
    ⟨fun h1 => absurd (show (-1 : Int) = 1 from h1) (by decide), fun _ => ha⟩
  cases h with
  | failed hfails =>
    refine ⟨fun _ => .inl ?_, fun _ => hkept⟩
    by_contra hno
    have hnone : readable (cfg.seen s .subscriber) = none := by
      cases hx : readable (cfg.seen s .subscriber) with
      | none => rfl
      | some data =>
        rw [AliasesCfg.MainReadable, hx] at hno
        exact (hno rfl).elim
    rcases hfails with hpass | hrows
    · refine hpass fun data hdata => ?_
      cases hnone.symm.trans hdata
    · rw [mainRows_none hnone] at hrows
      cases hrows
  | emptied b rows hb h0 hpos =>
    refine ⟨fun _ => ?_, fun _ => hkept⟩
    by_cases hmain : cfg.MainReadable s
    · exact .inl hmain
    · exact .inr ⟨(hb.count_of_missing hmain).1 h0, htab ▸ hpos⟩
  | replaced b rows hb h0 =>
    constructor
    · exact fun hk => .inl (hk.1 rfl).1
    · rintro (hmain | ⟨huse, hpos⟩)
      · exact ⟨fun _ => ⟨hmain, rows, hb⟩, fun h1 => (h1 rfl).elim⟩
      · by_cases hmain : cfg.MainReadable s
        · exact ⟨fun _ => ⟨hmain, rows, hb⟩, fun h1 => (h1 rfl).elim⟩
        · exact (h0 ⟨(hb.count_of_missing hmain).2 huse, htab.symm ▸ hpos⟩).elim

/-- Where no rebuild is wanted, the database is kept; a rebuild from the directory `s` that the
downloads have left keeps it just if the main file can be read there, or the overlay is no use and
there is a table. -/
theorem refresh_keepsDatabase {s₀ s t : Fs} {w : Option Bool × Aliases} {r : Int × Aliases}
    (hw : (refreshWanted cfg e p fuel a).Ends (Fs.exec p) (fun _ _ => True) s₀ w s)
    (hr : (rebuild cfg e w).Ends (Fs.exec p) Fs.Reads s r t) :
    (w.1 = none → KeepsDatabase cfg e s a r) ∧
      ∀ did, w.1 = some did → (KeepsDatabase cfg e s a r ↔
        cfg.MainReadable s ∨ cfg.OverlayUseless e s ∧ a.tab.count > 0) := by
  have ha := refreshWanted_results.wp.ends hw
  obtain ⟨want, a'⟩ := w
  cases want with
  | none =>
    obtain ⟨rfl, rfl⟩ := hr
    refine ⟨fun _ => ⟨fun h1 => ?_, fun _ => ha⟩, fun _ h1 => (nomatch h1)⟩
    exact absurd (show (0 : Int) = 1 from h1) (by decide)
  | some did =>
    refine ⟨fun h1 => (nomatch h1), fun _ _ => ?_⟩
    exact ((rebuild_wp Fs.reads_whole fun _ _ _ => trivial).ends hr).2.keepsDatabase_iff ha

/-- A run of `ysf2dmr_aliases_maybe_refresh` is one of its first part and a rebuild. -/
theorem maybeRefresh_ends {s₀ t : Fs} {r : Int × Aliases}
    (h : (aliasesMaybeRefresh cfg e p fuel a).Ends (Fs.exec p) ok s₀ r t) :
    ∃ w s, (refreshWanted cfg e p fuel a).Ends (Fs.exec p) ok s₀ w s ∧
      (rebuild cfg e w).Ends (Fs.exec p) ok s r t :=
  Prog.ends_bind.1 h

end

/-- The configuration of a bridge with a main file that has a URL, an overlay and no checksums. -/
def overlayCfg : AliasesCfg where
  staleMinutes := 24 * 60
  reloadMinutes := 15
  hasFile f := f != .checksum
  hasUrl f := f == .subscriber

/-- `{"results":[{"id":1,"callsign":"A"}]}`. -/
def oneRowText : List UInt8 :=
  [0x7B, 0x22, 0x72, 0x65, 0x73, 0x75, 0x6C, 0x74, 0x73, 0x22, 0x3A, 0x5B, 0x7B, 0x22, 0x69,
   0x64, 0x22, 0x3A, 0x31, 0x2C, 0x22, 0x63, 0x61, 0x6C, 0x6C, 0x73, 0x69, 0x67, 0x6E, 0x22,
   0x3A, 0x22, 0x41, 0x22, 0x7D, 0x5D, 0x7D]

/-- A JSON reader that knows the text with one subscriber, 1 with the callsign `A`. -/
def oneRowEnv : AliasEnv where
  json text := if text = oneRowText then some (.obj [(Json.resultsKey, .arr
    [.obj [(Json.idKey, .uint 1), (Json.callsignKey, .str [0x41])]])]) else none
  blake2b _ := []

/-- A data directory with an overlay and no main file. -/
def overlayOnly : Fs where
  file f := if f = .localOverlay then some ⟨oneRowText, 50, true⟩ else none
  lock _ := none
  tmp _ _ := none

/-- The aliases of a main file that has been removed since. -/
def oldAliases : Aliases := ⟨(tableOf [(2, [0x42])] []).getD .empty, 90, 50, 100, 100⟩

/-- Every call at the time 1000; `curl` fails. -/
def curlFails : Outcome := ⟨1000, true, 22, none⟩

theorem reads_curlFails (c : Sys) : Fs.Reads c curlFails := by
  cases c <;> first | rfl | trivial

/-- A rebuild from these files comes to its end. -/
theorem sample_rebuild {s : Fs} {a : Aliases} {main : List AliasRow}
    (hrows : mainRows oneRowEnv (overlayCfg.seen s .subscriber) = some main)
    (hmain : main = [] ∨ main = [(1, [0x41])])
    (hover : overlayRows oneRowEnv (overlayCfg.seen s .localOverlay) = [(1, [0x41])]) :
    ∃ r, (rebuild overlayCfg oneRowEnv (some false, a)).Ends (Fs.exec 0) Fs.Reads s r s ∧
      Rebuilt overlayCfg oneRowEnv s a r := by
  have hrun := @rebuild_wp overlayCfg oneRowEnv 0 s a _ False false Fs.reads_whole <| by
      intro rows hrows' hnone
      cases hrows.symm.trans hrows'
      rw [hover] at hnone
      have hfit : KeysFit (main ++ [(1, [0x41])]) := by
        intro row hrow _
        rcases hmain with rfl | rfl
        · rw [List.mem_singleton.1 hrow]
          decide
        · rcases List.mem_cons.1 hrow with rfl | hrow
          · decide
          · rw [List.mem_singleton.1 hrow]
            decide
      obtain ⟨t, ht⟩ := (tableOf_represents hfit).1.1 (by
        rcases hmain with rfl | rfl
        · exact ⟨by decide, trivial⟩
        · exact ⟨by decide, by decide, trivial⟩)
      cases hnone.symm.trans ht
  obtain ⟨r, t, hr, rfl, hreb⟩ := hrun.exists_ends fun c => ⟨curlFails, reads_curlFails c⟩
  exact ⟨r, hr, hreb⟩

/-- A data directory with a main file and an overlay. -/
def mainAndOverlay : Fs where
  file f := if f = .checksum then none else some ⟨oneRowText, 95, true⟩
  lock _ := none
  tmp _ _ := none

/-- A newer main file is loaded. -/
theorem refresh_keepsDatabase_sample : ∃ w r,
    (refreshWanted overlayCfg oneRowEnv 0 9 oldAliases).Ends (Fs.exec 0) (fun _ _ => True)
      mainAndOverlay w mainAndOverlay ∧
    (rebuild overlayCfg oneRowEnv w).Ends (Fs.exec 0) Fs.Reads mainAndOverlay r mainAndOverlay ∧
      KeepsDatabase overlayCfg oneRowEnv mainAndOverlay oldAliases r := by
  have hw : (refreshWanted overlayCfg oneRowEnv 0 9 oldAliases).Ends (Fs.exec 0)
      (fun _ _ => True) mainAndOverlay
      (some false, { oldAliases with lastMtimeCheck := 1000 }) mainAndOverlay :=
    Prog.ends_of_runWith (o := curlFails) (fun _ => trivial) rfl
  obtain ⟨r, hr, _⟩ := sample_rebuild (s := mainAndOverlay)
    (a := { oldAliases with lastMtimeCheck := 1000 }) rfl (.inr rfl) rfl
  exact ⟨_, r, hw, hr, ((refresh_keepsDatabase hw hr).2 false rfl).2 (.inl rfl)⟩

/-- The run in which the download fails: a rebuild is wanted, and the files are as they were. -/
theorem sample_wanted : ∃ w s, (refreshWanted overlayCfg oneRowEnv 0 9 oldAliases).Ends
    (Fs.exec 0) Fs.Reads overlayOnly w s ∧ w.1 = some false ∧
      ∀ f, s.file f = overlayOnly.file f := by
  have hrun : ((refreshWanted overlayCfg oneRowEnv 0 9 oldAliases).runWith (Fs.exec 0) curlFails
      overlayOnly).map (fun r => (r.1.1, r.2.file .subscriber, r.2.file .localOverlay,
        r.2.file .checksum)) = some (some false, none, some ⟨oneRowText, 50, true⟩, none) := by
    decide +kernel
  obtain ⟨⟨w, s⟩, hws, heq⟩ := Option.map_eq_some_iff.1 hrun
  simp only [Prod.mk.injEq] at heq
  refine ⟨w, s, Prog.ends_of_runWith (o := curlFails) (fun c => ?_) hws, heq.1, fun f => ?_⟩
  · exact reads_curlFails c
  · cases f with
    | subscriber => exact heq.2.1
    | localOverlay => exact heq.2.2.1
    | checksum => exact heq.2.2.2

/-- The main file is missing and its download fails: the table of the overlay alone replaces the
one there is. -/
theorem not_keepsDatabase : ∃ w s r t,
    (refreshWanted overlayCfg oneRowEnv 0 9 oldAliases).Ends (Fs.exec 0) Fs.Reads overlayOnly
      w s ∧ (rebuild overlayCfg oneRowEnv w).Ends (Fs.exec 0) Fs.Reads s r t ∧
        ¬KeepsDatabase overlayCfg oneRowEnv s oldAliases r := by
  obtain ⟨⟨want, a'⟩, s, hw, rfl, hfile⟩ := sample_wanted
  have hseen (f : DataFile) : overlayCfg.seen s f = overlayCfg.seen overlayOnly f := by
    rw [AliasesCfg.seen, AliasesCfg.seen, hfile]
  have hmain : readable (overlayCfg.seen s .subscriber) = none := by
    rw [hseen]
    rfl
  have hover : overlayRows oneRowEnv (overlayCfg.seen s .localOverlay) = [(1, [0x41])] := by
    rw [hseen]
    rfl
  have hone : Usable 1 [0x41] := ⟨by decide, by decide⟩
  obtain ⟨r, hr, hreb⟩ := sample_rebuild (a := a') (mainRows_none hmain) (.inl rfl) hover
  have ha := refreshWanted_results.wp.ends hw
  refine ⟨_, _, r, s, hw, hr, fun hk => ?_⟩
  rcases (hreb.keepsDatabase_iff ha).1 hk with hm | ⟨huse, _⟩
  · rw [AliasesCfg.MainReadable, hmain] at hm
    cases hm
  · rw [AliasesCfg.OverlayUseless, hover] at huse
    exact huse _ (List.mem_singleton_self _) hone

end AdnBridge
