import AdnBridge.Config
import AdnBridge.Lib.Reorder
import Mathlib.Data.List.TakeWhile

namespace AdnBridge
set_option autoImplicit true

namespace Config

/-- A line that begins a section and never closes the bracket. -/
def UnclosedSection (line : List UInt8) : Prop :=
  (trim (cString line)).head? = some chBracket ∧ chBracketEnd ∉ trim (cString line)

/-- A line that is neither blank nor a comment nor a section, and has no equals sign. -/
def WithoutEquals (line : List UInt8) : Prop :=
  (∃ c, (trim (cString line)).head? = some c ∧ c ≠ chHash ∧ c ≠ chSemicolon ∧ c ≠ chBracket) ∧
    chEquals ∉ trim (cString line)

theorem parseLine_malformedSection (line : List UInt8) :
    parseLine line = .malformedSection ↔ UnclosedSection line := by
  rw [parseLine, UnclosedSection]
  generalize trim (cString line) = p
  by_cases hskip : p = [] ∨ p.head? = some chHash ∨ p.head? = some chSemicolon
  · refine iff_of_false (by simp only [if_pos hskip, reduceCtorEq, not_false_eq_true]) ?_
    rintro ⟨hb, -⟩
    rw [hb] at hskip
    rcases hskip with rfl | h | h
    · cases hb
    · exact absurd (Option.some.inj h) (by decide)
    · exact absurd (Option.some.inj h) (by decide)
  · simp only [if_neg hskip]
    split
    next hb =>
      split
      next hend => exact iff_of_false Line.noConfusion fun h => h.2 hend
      next hend => exact iff_of_true rfl ⟨hb, hend⟩
    next hb =>
      split
      · exact iff_of_false Line.noConfusion fun h => hb h.1
      · exact iff_of_false Line.noConfusion fun h => hb h.1

theorem parseLine_noEquals (line : List UInt8) :
    parseLine line = .noEquals ↔ WithoutEquals line := by
  rw [parseLine, WithoutEquals]
  generalize trim (cString line) = p
  cases p with
  | nil => exact iff_of_false (by simp) fun h => by simp at h
  | cons c p =>
    simp only [reduceCtorEq, false_or, List.head?_cons, Option.some.injEq, exists_eq_left']
    by_cases hskip : c = chHash ∨ c = chSemicolon
    · rw [if_pos hskip]
      exact iff_of_false Line.noConfusion fun h => hskip.elim h.1.1 h.1.2.1
    · rw [if_neg hskip]
      rw [not_or] at hskip
      split
      next hb =>
        split
        · exact iff_of_false Line.noConfusion fun h => h.1.2.2 hb
        · exact iff_of_false Line.noConfusion fun h => h.1.2.2 hb
      next hb =>
        split
        next heq => exact iff_of_false Line.noConfusion fun h => h.2 heq
        next heq => exact iff_of_true rfl ⟨⟨hskip.1, hskip.2, hb⟩, heq⟩

section
variable {γ : Type} {g : GainOps γ} {cfg cfg' : Config γ} {s t : Config γ × List UInt8}

/-- The loop stops at the first line with an error. -/
theorem loadLines_error_iff {lines : List (List UInt8)} : loadLines g n s lines = .error e ↔
    ∃ pre line post, lines = pre ++ line :: post ∧
      (∀ l ∈ pre, ∀ k, (parseLine l).error k = none) ∧
      (parseLine line).error (n + pre.length + 1) = some e := by
  have hnone {x : Line} {k : Nat} (h : x.error k = none) (m : Nat) : x.error m = none := by
    cases x with
    | malformedSection => cases h
    | noEquals => cases h
    | _ => rfl
  induction lines generalizing n s with
  | nil =>
    constructor
    · nofun
    · rintro ⟨pre, line, post, hl, -⟩
      exact absurd hl.symm (List.append_ne_nil_of_right_ne_nil pre (List.cons_ne_nil line post))
  | cons l lines ih =>
    rw [loadLines]
    cases hl : (parseLine l).error (n + 1) with
    | some e' =>
      constructor
      · intro h
        cases h
        exact ⟨[], l, lines, rfl, List.forall_mem_nil _, hl⟩
      · rintro ⟨pre, line, post, heq, hpre, he⟩
        cases pre with
        | nil =>
          cases heq
          exact congrArg Except.error (Option.some.inj (hl.symm.trans he))
        | cons l' pre =>
          cases heq
          exact absurd (hl.symm.trans (hpre l List.mem_cons_self (n + 1))) nofun
    | none =>
      refine ih.trans ⟨?_, ?_⟩
      · rintro ⟨pre, line, post, rfl, hpre, he⟩
        refine ⟨l :: pre, line, post, rfl, List.forall_mem_cons.2 ⟨hnone hl, hpre⟩, ?_⟩
        rw [List.length_cons, ← Nat.add_assoc, Nat.add_right_comm n pre.length 1]
        exact he
      · rintro ⟨pre, line, post, heq, hpre, he⟩
        cases pre with
        | nil =>
          cases heq
          exact absurd (hl.symm.trans he) nofun
        | cons l' pre =>
          cases heq
          refine ⟨pre, line, post, rfl, (List.forall_mem_cons.1 hpre).2, ?_⟩
          rw [List.length_cons, ← Nat.add_assoc, Nat.add_right_comm n pre.length 1] at he
          exact he

/-- A file is refused for its first malformed line, and for nothing else. -/
theorem load_error_iff (g : GainOps γ) (text : List UInt8) (e : LoadError) :
    load g (some text) = .error e ↔
      ∃ pre line post, fgetsLines 511 text [] = pre ++ line :: post ∧
        (∀ l ∈ pre, ¬UnclosedSection l ∧ ¬WithoutEquals l) ∧
        (UnclosedSection line ∧ e = .malformedSection (pre.length + 1) ∨
          WithoutEquals line ∧ e = .expectedKeyValue (pre.length + 1)) := by
  have hgood (l : List UInt8) : (∀ k, (parseLine l).error k = none) ↔
      ¬UnclosedSection l ∧ ¬WithoutEquals l := by
    rw [← parseLine_malformedSection, ← parseLine_noEquals]
    cases parseLine l with
    | malformedSection => exact ⟨fun h => (nomatch h 0), fun h => absurd rfl h.1⟩
    | noEquals => exact ⟨fun h => (nomatch h 0), fun h => absurd rfl h.2⟩
    | _ => exact ⟨fun _ => ⟨nofun, nofun⟩, fun _ _ => rfl⟩
  have hbad (l : List UInt8) (k : Nat) : (parseLine l).error k = some e ↔
      UnclosedSection l ∧ e = .malformedSection k ∨
        WithoutEquals l ∧ e = .expectedKeyValue k := by
    rw [← parseLine_malformedSection, ← parseLine_noEquals]
    cases parseLine l with
    | malformedSection => simp [Line.error, eq_comm]
    | noEquals => simp [Line.error, eq_comm]
    | _ => simp [Line.error]
  have hmap : load g (some text) = .error e ↔
      loadLines g 0 (init g, []) (fgetsLines 511 text []) = .error e := by
    rw [load]
    cases loadLines g 0 (init g, []) (fgetsLines 511 text []) with
    | error e' =>
      rw [Except.map]
      exact ⟨fun h => congrArg _ (Except.error.inj h), fun h => congrArg _ (Except.error.inj h)⟩
    | ok s => exact ⟨nofun, nofun⟩
  rw [hmap, loadLines_error_iff]
  simp only [hgood, hbad, Nat.zero_add]

/-- Without an error every line takes its turn. -/
theorem loadLines_ok {lines : List (List UInt8)} (h : loadLines g n s lines = .ok t) :
    t = (lines.map parseLine).foldl (readLine g) s := by
  induction lines generalizing n s with
  | nil =>
    cases h
    rfl
  | cons l lines ih =>
    rw [loadLines] at h
    cases hl : (parseLine l).error (n + 1) with
    | some e =>
      rw [hl] at h
      cases h
    | none =>
      rw [hl] at h
      exact ih h

theorem load_ok (h : load g (some text) = .ok cfg) : cfg =
    (((fgetsLines 511 text []).map parseLine).foldl (readLine g) (init g, [])).1.applyDefaults := by
  rw [load] at h
  cases hl : loadLines g 0 (init g, []) (fgetsLines 511 text []) with
  | error e =>
    rw [hl] at h
    cases h
  | ok t =>
    rw [hl] at h
    cases h
    rw [loadLines_ok hl]

end

/-- A text that an array of `size` characters can hold, with its NUL. -/
def Fits (size : Nat) (s : List UInt8) : Prop := s.length < size ∧ 0 ∉ s

instance (size : Nat) (s : List UInt8) : Decidable (Fits size s) :=
  inferInstanceAs (Decidable (_ ∧ _))

/-- Every field is within its C type. -/
structure Bounded {γ : Type} (cfg : Config γ) : Prop where
  str : ∀ f, Fits f.size (cfg.str f)
  int : ∀ f, -2 ^ 31 ≤ cfg.int f ∧ cfg.int f < 2 ^ 31
  level : ∀ c, -1 ≤ cfg.level c ∧ cfg.level c ≤ 3
  serverCount : cfg.directoryServers.length ≤ elDirMax
  server : ∀ d ∈ cfg.directoryServers, d ≠ [] ∧ Fits 128 d

section
variable {γ : Type} {g : GainOps γ} {cfg : Config γ} {s t val : List UInt8}

theorem Fits.nil (h : 0 < n) : Fits n [] := ⟨h, List.not_mem_nil⟩

theorem Fits.setStr (hn : 0 < n) (hs : Fits n s) (hv : 0 ∉ val) : Fits n (setStr n s val) := by
  rw [Config.setStr]
  split
  · exact hs
  · refine ⟨?_, fun h => hv (List.mem_of_mem_take h)⟩
    rw [List.length_take]
    omega

theorem mem_trim (h : c ∈ trim s) : c ∈ s := by
  have h1 := (List.dropWhile_suffix isSpace).mem (List.mem_reverse.1 h)
  exact (List.dropWhile_suffix isSpace).mem (List.mem_reverse.1 h1)

theorem zero_notMem_cString (s : List UInt8) : 0 ∉ cString s := fun h =>
  absurd (List.mem_takeWhile_imp h) (by decide)

/-- A value has no NUL. -/
theorem assign_clean (h : parseLine line = .assign key val) : 0 ∉ val := by
  have hp : 0 ∉ trim (cString line) := fun h => zero_notMem_cString line (mem_trim h)
  rw [parseLine] at h
  split_ifs at h
  cases h
  exact fun h => hp ((List.dropWhile_suffix _).mem (List.mem_of_mem_tail (mem_trim h)))

/-- A token is not empty, and has the text's characters. -/
theorem mem_tokens {sep : UInt8 → Bool} (h : d ∈ tokens sep s t) :
    d ≠ [] ∧ ∀ c ∈ d, c ∈ t ∨ c ∈ s := by
  induction s generalizing t with
  | nil =>
    rw [tokens] at h
    split at h
    · cases h
    next hne =>
      rw [List.mem_singleton.1 h]
      exact ⟨hne, fun c hc => .inl hc⟩
  | cons a s ih =>
    have htail {t t' : List UInt8} (h : d ∈ tokens sep s t) (ht : ∀ c ∈ t, c ∈ t' ∨ c ∈ a :: s) :
        d ≠ [] ∧ ∀ c ∈ d, c ∈ t' ∨ c ∈ a :: s := by
      obtain ⟨hne, hc⟩ := ih h
      exact ⟨hne, fun c hcd => (hc c hcd).elim (ht c) fun hs => .inr (List.mem_cons_of_mem a hs)⟩
    rw [tokens] at h
    split_ifs at h with hsep ht
    · exact htail h nofun
    · rcases List.mem_cons.1 h with rfl | h
      · exact ⟨ht, fun c hc => .inl hc⟩
      · exact htail h nofun
    · refine htail h fun c hc => ?_
      rcases List.mem_append.1 hc with hc | hc
      · exact .inl hc
      · exact .inr (List.mem_singleton.1 hc ▸ List.mem_cons_self)

theorem atoiText_range (val : List UInt8) : -2 ^ 31 ≤ atoiText val ∧ atoiText val < 2 ^ 31 := by
  rw [atoiText]
  constructor
  · exact Int.le_bmod (by decide)
  · exact Int.bmod_lt (by decide)

theorem logLevelFromString_range (val : List UInt8) :
    -1 ≤ logLevelFromString val ∧ logLevelFromString val ≤ 3 := by
  rw [logLevelFromString]
  split_ifs <;> decide

theorem setInt_range {n : Int} (hn : -2 ^ 31 ≤ n ∧ n < 2 ^ 31) (val : List UInt8) :
    -2 ^ 31 ≤ setInt n val ∧ setInt n val < 2 ^ 31 := by
  rw [setInt]
  split
  · exact hn
  · exact atoiText_range val

theorem size_pos (f : StrField) : 0 < f.size := by
  cases f <;> decide

theorem forall_update [DecidableEq ι] {p : ι → α → Prop} {v : ι → α} (h : ∀ i, p i (v i))
    (ha : p i a) : ∀ j, p j (Function.update v i a j) := by
  intro j
  by_cases hj : j = i
  · subst hj
    rwa [Function.update_self]
  · rw [Function.update_of_ne hj]
    exact h j

theorem initStr_fits (f : StrField) : Fits f.size (initStr f) := by
  cases f <;> decide +kernel

theorem Bounded.init (g : GainOps γ) : (init g).Bounded where
  str := initStr_fits
  int f := by
    show -2 ^ 31 ≤ initInt f ∧ initInt f < 2 ^ 31
    cases f <;> decide
  level c := by
    show -1 ≤ (if c = .app then 1 else -1 : Int) ∧ (if c = .app then 1 else -1 : Int) ≤ 3
    split <;> decide
  serverCount := Nat.zero_le _
  server := List.forall_mem_nil _

theorem Bounded.updateStr (h : cfg.Bounded) {f : StrField} (hv : Fits f.size val) :
    Bounded { cfg with str := Function.update cfg.str f val } :=
  ⟨forall_update (p := fun f : StrField => Fits f.size) h.str hv, h.int, h.level,
    h.serverCount, h.server⟩

theorem Bounded.updateInt (h : cfg.Bounded) (f : IntField) {n : Int}
    (hn : -2 ^ 31 ≤ n ∧ n < 2 ^ 31) :
    Bounded { cfg with int := Function.update cfg.int f n } :=
  ⟨h.str, forall_update (p := fun _ n => -2 ^ 31 ≤ n ∧ n < 2 ^ 31) h.int hn, h.level,
    h.serverCount, h.server⟩

theorem Bounded.set (h : cfg.Bounded) (s : Setting) (hv : 0 ∉ val) :
    (cfg.set g s val).Bounded := by
  cases s with
  | mode => exact ⟨h.str, h.int, h.level, h.serverCount, h.server⟩
  | str f => exact h.updateStr ((h.str f).setStr (size_pos f) hv)
  | int f => exact h.updateInt f (setInt_range (h.int f) val)
  | level c =>
    exact ⟨h.str, h.int, forall_update (p := fun _ n => -1 ≤ n ∧ n ≤ 3) h.level
      (logLevelFromString_range val), h.serverCount, h.server⟩
  | clearDynamicTg => exact ⟨h.str, h.int, h.level, h.serverCount, h.server⟩
  | gain => exact ⟨h.str, h.int, h.level, h.serverCount, h.server⟩
  | directoryServers =>
    refine ⟨h.str, h.int, h.level, ?_, ?_⟩
    · show (parseDirectoryServers cfg.directoryServers val).length ≤ elDirMax
      rw [parseDirectoryServers]
      split
      · exact h.serverCount
      · rw [List.length_map, List.length_take]
        exact Nat.min_le_left _ _
    · show ∀ d ∈ parseDirectoryServers cfg.directoryServers val, _
      rw [parseDirectoryServers]
      split
      · exact h.server
      · intro d hd
        obtain ⟨tok, htok, rfl⟩ := List.mem_map.1 hd
        obtain ⟨hne, hmem⟩ := mem_tokens (List.mem_of_mem_take htok)
        have hclean : 0 ∉ tok := fun h0 =>
          (hmem 0 h0).elim List.not_mem_nil fun h' => hv (List.mem_of_mem_take h')
        refine ⟨?_, (Fits.nil (by decide)).setStr (by decide) hclean⟩
        rw [setStr, if_neg hne]
        cases tok with
        | nil => exact absurd rfl hne
        | cons c tok => exact List.cons_ne_nil _ _
  | staleDays =>
    exact h.updateInt .staleMinutes ⟨Int.le_bmod (by decide), Int.bmod_lt (by decide)⟩

theorem Bounded.readLine {s : Config γ × List UInt8} (h : s.1.Bounded) (line : List UInt8) :
    (readLine g s (parseLine line)).1.Bounded := by
  cases hl : parseLine line with
  | assign key val =>
    rw [Config.readLine, applyKey]
    cases settingOf s.2 key with
    | none => exact h
    | some x => exact h.set x (assign_clean hl)
  | _ => exact h

/-- What the defaults make of any configuration with fields in their bounds. -/
structure WellFormed (cfg : Config γ) : Prop extends Bounded cfg where
  options : cfg.str .dmrOptions ≠ ascii "\"\""
  servers : cfg.echolinkMode = true → cfg.directoryServers ≠ []
  proxyPort : cfg.str .proxyServer ≠ [] → 0 < cfg.int .proxyPort
  proxyPassword : cfg.str .proxyServer ≠ [] → cfg.str .proxyPassword ≠ []

theorem defaultServers_fit : ∀ d ∈ defaultServers, d ≠ [] ∧ Fits 128 d := by
  decide +kernel

theorem Bounded.clearOptions (h : cfg.Bounded) :
    cfg.clearOptions.Bounded ∧ cfg.clearOptions.str .dmrOptions ≠ ascii "\"\"" := by
  rw [Config.clearOptions]
  split
  · refine ⟨h.updateStr (Fits.nil (by decide)), ?_⟩
    show Function.update cfg.str .dmrOptions [] .dmrOptions ≠ _
    rw [Function.update_self]
    decide +kernel
  next hne => exact ⟨h, hne⟩

theorem Bounded.directoryDefaults (h : cfg.Bounded) : cfg.directoryDefaults.Bounded ∧
    (cfg.directoryDefaults.echolinkMode = true → cfg.directoryDefaults.directoryServers ≠ []) := by
  rw [Config.directoryDefaults]
  split
  · exact ⟨⟨h.str, h.int, h.level, (by decide : 4 ≤ 8), defaultServers_fit⟩,
      fun _ => List.cons_ne_nil _ _⟩
  next hne => exact ⟨h, fun hm hs => hne ⟨hm, hs⟩⟩

theorem directoryDefaults_str (cfg : Config γ) : cfg.directoryDefaults.str = cfg.str := by
  rw [Config.directoryDefaults]
  split <;> rfl

/-- The proxy's defaults leave the other fields alone. -/
theorem proxyDefaults_frame (cfg : Config γ) :
    cfg.proxyDefaults.mode = cfg.mode ∧
      cfg.proxyDefaults.directoryServers = cfg.directoryServers ∧
      ∀ f ≠ .proxyPassword, cfg.proxyDefaults.str f = cfg.str f := by
  rw [Config.proxyDefaults]
  simp only
  split_ifs <;> refine ⟨rfl, rfl, fun f hf => ?_⟩
  · rfl
  · exact Function.update_of_ne hf _ _
  · rfl
  · exact Function.update_of_ne hf _ _
  · rfl

theorem Bounded.proxyDefaults (h : cfg.Bounded) : cfg.proxyDefaults.Bounded ∧
    (cfg.str .proxyServer ≠ [] →
      0 < cfg.proxyDefaults.int .proxyPort ∧ cfg.proxyDefaults.str .proxyPassword ≠ []) := by
  rw [Config.proxyDefaults]
  split
  next hp => exact ⟨h, fun hn => absurd hp hn⟩
  · have hport : ∃ c : Config γ, (if cfg.int .proxyPort ≤ 0 then
        { cfg with int := Function.update cfg.int .proxyPort 8100 } else cfg) = c ∧ c.Bounded ∧
        0 < c.int .proxyPort := by
      refine ⟨_, rfl, ?_⟩
      split
      · refine ⟨h.updateInt .proxyPort (by decide), ?_⟩
        show 0 < Function.update cfg.int .proxyPort 8100 .proxyPort
        rw [Function.update_self]
        decide
      next hlt => exact ⟨h, Int.not_le.1 hlt⟩
    obtain ⟨c, hc, h, hlt⟩ := hport
    rw [hc]
    simp only
    split
    · refine ⟨h.updateStr (f := .proxyPassword) (by decide +kernel), fun _ => ⟨hlt, ?_⟩⟩
      show Function.update c.str .proxyPassword (ascii "PUBLIC") .proxyPassword ≠ []
      rw [Function.update_self]
      decide +kernel
    next hne => exact ⟨h, fun _ => ⟨hlt, hne⟩⟩

theorem Bounded.applyDefaults (h : cfg.Bounded) : cfg.applyDefaults.WellFormed := by
  rw [Config.applyDefaults]
  obtain ⟨h1, hopt⟩ := h.clearOptions
  obtain ⟨h2, hserv⟩ := h1.directoryDefaults
  obtain ⟨h3, hproxy⟩ := h2.proxyDefaults
  obtain ⟨hmode, hdir, hstr⟩ := cfg.clearOptions.directoryDefaults.proxyDefaults_frame
  have hserver := hstr .proxyServer (by decide)
  rw [← directoryDefaults_str, ← hstr .dmrOptions (by decide)] at hopt
  refine ⟨h3, hopt, fun hm => ?_, fun hn => ?_, fun hn => ?_⟩
  · rw [echolinkMode, hmode] at hm
    rw [hdir]
    exact hserv hm
  · exact (hproxy (hserver ▸ hn)).1
  · exact (hproxy (hserver ▸ hn)).2

/-- Whatever the file says, what is loaded fits the arrays, and the proxy and the directory have
what they need. -/
theorem load_wellFormed {text : Option (List UInt8)} (h : load g text = .ok cfg) :
    cfg.WellFormed := by
  cases text with
  | none => cases h
  | some text =>
    rw [load_ok h, List.foldl_map]
    apply Bounded.applyDefaults
    have hfold (lines : List (List UInt8)) (s : Config γ × List UInt8) (hs : s.1.Bounded) :
        (lines.foldl (fun s l => readLine g s (parseLine l)) s).1.Bounded := by
      induction lines generalizing s with
      | nil => exact hs
      | cons l lines ih => exact ih _ (hs.readLine l)
    exact hfold _ _ (Bounded.init g)

/-- Gains that are whole numbers. -/
def wholeGain : GainOps Nat where
  strtof s := if s ≠ [] ∧ s.all isDigit then
      some (s.foldl (fun n c => 10 * n + (c.toNat - 0x30)) 0)
    else none
  one := 1
  allowed n := decide (0 < n ∧ n ≤ 4)

theorem exists_of_isOk {x : Except ε α} (h : x.toOption.isSome = true) : ∃ a, x = .ok a := by
  cases x with
  | error e => cases h
  | ok a => exact ⟨a, rfl⟩

/-- A proxy without a port and a password, and a mode without directory servers. -/
theorem load_wellFormed_sample : ∃ cfg,
    load wholeGain (some (ascii "[bridge]\nmode=el-ysf\n[echolink]\nproxy_server = p.org\n")) =
      .ok cfg ∧ cfg.WellFormed := by
  obtain ⟨cfg, h⟩ := exists_of_isOk (x := load wholeGain
    (some (ascii "[bridge]\nmode=el-ysf\n[echolink]\nproxy_server = p.org\n"))) (by decide +kernel)
  exact ⟨cfg, h, load_wellFormed h⟩

end

/-- The settings that lines make, from a section on. -/
def assignments : List UInt8 → List Line → List (Setting × List UInt8)
  | _, [] => []
  | _, .sect name :: lines => assignments name lines
  | sec, .assign key val :: lines =>
    ((settingOf sec key).map fun s => (s, val)).toList ++ assignments sec lines
  | sec, _ :: lines => assignments sec lines

def fileAssignments (text : List UInt8) : List (Setting × List UInt8) :=
  assignments [] ((fgetsLines 511 text []).map parseLine)

/-- The field that a setting writes. -/
def Setting.slot : Setting → Setting
  | .staleDays => .int .staleMinutes
  | s => s

section
variable {γ : Type} {g : GainOps γ} {cfg cfg' : Config γ} {s t : Setting} {u v : List UInt8}

def apply (g : GainOps γ) (cfg : Config γ) (x : Setting × List UInt8) : Config γ :=
  cfg.set g x.1 x.2

theorem foldl_readLine (g : GainOps γ) (s : Config γ × List UInt8) (lines : List Line) :
    (lines.foldl (readLine g) s).1 = (assignments s.2 lines).foldl (apply g) s.1 := by
  induction lines generalizing s with
  | nil => rfl
  | cons line lines ih =>
    rw [List.foldl_cons, ih]
    cases line with
    | assign key val =>
      rw [assignments, List.foldl_append, readLine, applyKey]
      cases settingOf s.2 key <;> rfl
    | _ => rfl

theorem load_assignments (h : load g (some text) = .ok cfg) :
    cfg = ((fileAssignments text).foldl (apply g) (init g)).applyDefaults := by
  rw [load_ok h, foldl_readLine]
  rfl

/-- Settings of different fields commute. -/
theorem set_comm (h : s.slot ≠ t.slot) (cfg : Config γ) (u v : List UInt8) :
    (cfg.set g s u).set g t v = (cfg.set g t v).set g s u := by
  have hint {f f' : IntField} (hf : f ≠ f') (n n' : Int) :
      Function.update (Function.update cfg.int f n) f' n' =
        Function.update (Function.update cfg.int f' n') f n := Function.update_comm hf _ _ _
  cases s with
  | str f =>
    cases t with
    | str f' =>
      have hf : f ≠ f' := fun hf => h (congrArg Setting.str hf)
      simp only [Config.set, Function.update_of_ne hf, Function.update_of_ne hf.symm,
        Function.update_comm hf]
    | _ => rfl
  | level c =>
    cases t with
    | level c' =>
      have hc : c ≠ c' := fun hc => h (congrArg Setting.level hc)
      simp only [Config.set, Function.update_comm hc]
    | _ => rfl
  | int f =>
    cases t with
    | int f' =>
      have hf : f ≠ f' := fun hf => h (congrArg Setting.int hf)
      simp only [Config.set, Function.update_of_ne hf, Function.update_of_ne hf.symm, hint hf]
    | staleDays =>
      have hf : f ≠ .staleMinutes := fun hf => h (congrArg Setting.int hf)
      simp only [Config.set, Function.update_of_ne hf, Function.update_of_ne hf.symm, hint hf]
    | _ => rfl
  | staleDays =>
    cases t with
    | int f =>
      have hf : f ≠ .staleMinutes := fun hf => h (congrArg Setting.int hf.symm)
      simp only [Config.set, Function.update_of_ne hf, Function.update_of_ne hf.symm, hint hf]
    | staleDays => exact absurd rfl h
    | _ => rfl
  | mode =>
    cases t with
    | mode => exact absurd rfl h
    | _ => rfl
  | clearDynamicTg =>
    cases t with
    | clearDynamicTg => exact absurd rfl h
    | _ => rfl
  | gain =>
    cases t with
    | gain => exact absurd rfl h
    | _ => rfl
  | directoryServers =>
    cases t with
    | directoryServers => exact absurd rfl h
    | _ => rfl

/-- Two files that give each field the same values, in the same order, load as the same
configuration: where the sections stand and how they are interleaved does not count. -/
theorem load_reordered (h : load g (some text) = .ok cfg) (h' : load g (some text') = .ok cfg')
    (hsame : ∀ k, keyed (fun x => x.1.slot) k (fileAssignments text) =
      keyed (fun x => x.1.slot) k (fileAssignments text')) : cfg = cfg' := by
  rw [load_assignments h, load_assignments h',
    foldl_eq_of_keyed_eq (fun a b hab c => set_comm hab c a.2 b.2) hsame]

/-- The sections the other way round, with a comment and blanks, and the last line not ended. -/
theorem load_reordered_sample : ∃ cfg,
    load wholeGain (some (ascii "[ysf]\nhost=a\n[dmr]\ntg=7\n")) = .ok cfg ∧
      load wholeGain (some (ascii "[dmr]\n  tg = 7\n; room\n[ysf]\nhost=a")) = .ok cfg := by
  obtain ⟨cfg, h⟩ := exists_of_isOk (x := load wholeGain
    (some (ascii "[ysf]\nhost=a\n[dmr]\ntg=7\n"))) (by decide +kernel)
  obtain ⟨cfg', h'⟩ := exists_of_isOk (x := load wholeGain
    (some (ascii "[dmr]\n  tg = 7\n; room\n[ysf]\nhost=a"))) (by decide +kernel)
  have h1 : fileAssignments (ascii "[ysf]\nhost=a\n[dmr]\ntg=7\n") =
      [(.str .ysfHost, ascii "a"), (.int .dmrTg, ascii "7")] := by
    decide +kernel
  have h2 : fileAssignments (ascii "[dmr]\n  tg = 7\n; room\n[ysf]\nhost=a") =
      [(.int .dmrTg, ascii "7"), (.str .ysfHost, ascii "a")] := by
    decide +kernel
  have hsame : cfg = cfg' := by
    refine load_reordered h h' fun k => ?_
    rw [h1, h2]
    exact keyed_swap (by decide) k []
  exact ⟨cfg, h, hsame ▸ h'⟩

end

end Config

end AdnBridge
