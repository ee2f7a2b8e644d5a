import AdnBridge.Config.Loading
import AdnBridge.Lib.Bits

namespace AdnBridge
set_option autoImplicit true

namespace Config

/-- A value as it can stand behind the sign: it is on one line, and not trimmed. -/
structure Value (v : List UInt8) : Prop where
  head : ∀ c ∈ v.head?, isSpace c = false
  last : ∀ c ∈ v.getLast?, isSpace c = false
  newline : chNewline ∉ v
  zero : 0 ∉ v

instance (v : List UInt8) : Decidable (Value v) :=
  decidable_of_iff (v.head?.all (fun c => !isSpace c) = true ∧
    v.getLast?.all (fun c => !isSpace c) = true ∧ chNewline ∉ v ∧ 0 ∉ v) (by
      simp only [Option.all_eq_true, Bool.not_eq_true']
      exact ⟨fun h => ⟨h.1, h.2.1, h.2.2.1, h.2.2.2⟩, fun h => ⟨h.head, h.last, h.newline, h.zero⟩⟩)

/-- A key as the loader knows them. -/
structure Key (key : List UInt8) : Prop where
  nonempty : key ≠ []
  plain : ∀ c ∈ key, isSpace c = false ∧ c ≠ chEquals ∧ c ≠ 0
  start : ∀ c ∈ key.head?, c ≠ chHash ∧ c ≠ chSemicolon ∧ c ≠ chBracket

instance (key : List UInt8) : Decidable (Key key) :=
  decidable_of_iff (key ≠ [] ∧ key.all (fun c => !isSpace c && c != chEquals && c != 0) = true ∧
    key.head?.all (fun c => c != chHash && c != chSemicolon && c != chBracket) = true) (by
      simp only [List.all_eq_true, Option.all_eq_true, Bool.and_eq_true, Bool.not_eq_true',
        bne_iff_ne, and_assoc]
      exact ⟨fun h => ⟨h.1, h.2.1, h.2.2⟩, fun h => ⟨h.nonempty, h.plain, h.start⟩⟩)

section
variable {v key s : List UInt8}

theorem dropWhile_head (h : ∀ c ∈ v.head?, isSpace c = false) : v.dropWhile isSpace = v := by
  cases v with
  | nil => rfl
  | cons c v => exact List.dropWhile_cons_of_neg (by rw [h c rfl]; exact Bool.false_ne_true)

/-- Blanks behind a text are trimmed. -/
theorem trim_append (h : ∀ c ∈ v.head?, isSpace c = false)
    (hl : ∀ c ∈ v.getLast?, isSpace c = false) (hs : ∀ c ∈ s, isSpace c = true) :
    trim (v ++ s) = v := by
  cases v with
  | nil =>
    rw [trim, List.nil_append, List.dropWhile_eq_nil_iff.2 hs]
    rfl
  | cons c v =>
    have hfirst : (c :: v ++ s).dropWhile isSpace = c :: v ++ s := dropWhile_head h
    have hback : (c :: v).reverse.dropWhile isSpace = (c :: v).reverse :=
      dropWhile_head fun a ha => hl a (by rwa [List.head?_reverse] at ha)
    rw [trim, hfirst, List.reverse_append,
      List.dropWhile_append_of_pos fun a ha => hs a (List.mem_reverse.1 ha), hback,
      List.reverse_reverse]

theorem Value.trim (h : Value v) : Config.trim v = v := by
  have ht := trim_append h.head h.last (List.forall_mem_nil _)
  rwa [List.append_nil] at ht

theorem Key.trim (h : Key key) : Config.trim key = key := by
  have ht := trim_append (fun c hc => (h.plain c (List.mem_of_mem_head? hc)).1)
    (fun c hc => (h.plain c (List.mem_of_mem_getLast? hc)).1) (List.forall_mem_nil _)
  rwa [List.append_nil] at ht

/-- A line that gives a key a value. -/
theorem parseLine_assign (hk : Key key) (hv : Value v) :
    parseLine (key ++ [chEquals] ++ v ++ [chNewline]) = .assign key v := by
  obtain ⟨c, key, rfl⟩ := List.exists_cons_of_ne_nil hk.nonempty
  have hzero : cString (c :: key ++ [chEquals] ++ v ++ [chNewline]) =
      c :: key ++ [chEquals] ++ v ++ [chNewline] := by
    refine List.takeWhile_eq_self_iff.2 fun a ha => bne_iff_ne.2 fun h0 => ?_
    subst h0
    rcases List.mem_append.1 ha with ha | ha
    · rcases List.mem_append.1 ha with ha | ha
      · rcases List.mem_append.1 ha with ha | ha
        · exact (hk.plain 0 ha).2.2 rfl
        · exact absurd ha (by decide)
      · exact hv.zero ha
    · exact absurd ha (by decide)
  have hlast : ∀ a ∈ (c :: key ++ [chEquals] ++ v).getLast?, isSpace a = false := by
    intro a ha
    cases v with
    | nil =>
      rw [List.append_nil, List.getLast?_append_of_ne_nil _ (List.cons_ne_nil _ _)] at ha
      cases ha
      rfl
    | cons b v =>
      rw [List.getLast?_append_of_ne_nil _ (List.cons_ne_nil _ _)] at ha
      exact hv.last a ha
  have htrim : Config.trim (cString (c :: key ++ [chEquals] ++ v ++ [chNewline])) =
      c :: key ++ [chEquals] ++ v := by
    rw [hzero]
    refine trim_append (fun a ha => ?_) hlast (List.forall_mem_singleton.2 rfl)
    cases ha
    exact (hk.plain c List.mem_cons_self).1
  obtain ⟨h1, h2, h3⟩ := hk.start c rfl
  have heq : chEquals ∈ c :: key ++ [chEquals] ++ v :=
    List.mem_append_left v (List.mem_append_right _ (List.mem_singleton_self _))
  have htake : (c :: key ++ [chEquals] ++ v).takeWhile (· != chEquals) = c :: key := by
    rw [List.append_assoc, List.takeWhile_append_of_pos fun a ha =>
      bne_iff_ne.2 (hk.plain a ha).2.1]
    exact List.append_nil _
  have hdrop : (c :: key ++ [chEquals] ++ v).dropWhile (· != chEquals) = chEquals :: v := by
    rw [List.append_assoc, List.dropWhile_append_of_pos fun a ha =>
      bne_iff_ne.2 (hk.plain a ha).2.1]
    rfl
  rw [parseLine]
  simp only [htrim]
  rw [if_neg, if_neg, if_pos heq, htake, hdrop, List.tail_cons, hk.trim, hv.trim]
  · simpa using h3
  · simpa using ⟨h1, h2⟩

theorem fgetsLines_line {n : Nat} {line cur : List UInt8} (h : chNewline ∉ line)
    (hn : cur.length + line.length + 1 ≤ n) (rest : List UInt8) :
    fgetsLines n (line ++ [chNewline] ++ rest) cur =
      (cur ++ line ++ [chNewline]) :: fgetsLines n rest [] := by
  induction line generalizing cur with
  | nil =>
    rw [List.nil_append, List.singleton_append, fgetsLines, if_pos (.inl rfl), List.append_nil]
  | cons c line ih =>
    rw [List.length_cons] at hn
    have hc : ¬(c = chNewline ∨ cur.length + 1 = n) := by
      rintro (rfl | hc)
      · exact h List.mem_cons_self
      · omega
    rw [List.cons_append, List.cons_append, fgetsLines, if_neg hc,
      ih (fun hm => h (List.mem_cons_of_mem c hm)) (by rw [List.length_append]; simp; omega),
      List.append_assoc cur [c] line]
    rfl

/-- The lines of a text that is written line by line. -/
theorem fgetsLines_flatMap {n : Nat} {lines : List (List UInt8)}
    (h : ∀ l ∈ lines, chNewline ∉ l ∧ l.length < n) :
    fgetsLines n (lines.flatMap (· ++ [chNewline])) [] = lines.map (· ++ [chNewline]) := by
  induction lines with
  | nil => rfl
  | cons l lines ih =>
    obtain ⟨hl, hn⟩ := h l List.mem_cons_self
    rw [List.flatMap_cons, fgetsLines_line hl (by rw [List.length_nil]; omega),
      ih fun l' hl' => h l' (List.mem_cons_of_mem l hl')]
    rfl

theorem tokens_append {sep : UInt8 → Bool} {d cur : List UInt8} (hd : ∀ c ∈ d, sep c = false)
    (s : List UInt8) : tokens sep (d ++ s) cur = tokens sep s (cur ++ d) := by
  induction d generalizing cur with
  | nil => rw [List.nil_append, List.append_nil]
  | cons c d ih =>
    rw [List.cons_append, tokens, hd c List.mem_cons_self, if_neg Bool.false_ne_true,
      ih fun a ha => hd a (List.mem_cons_of_mem c ha), List.append_assoc]
    rfl

/-- The servers as the configuration lists them. -/
def joinServers : List (List UInt8) → List UInt8
  | [] => []
  | [d] => d
  | d :: ds => d ++ [chComma] ++ joinServers ds

theorem tokens_joinServers {ds : List (List UInt8)}
    (h : ∀ d ∈ ds, d ≠ [] ∧ ∀ c ∈ d, isServerSep c = false) :
    tokens isServerSep (joinServers ds) [] = ds := by
  induction ds with
  | nil => rfl
  | cons d ds ih =>
    obtain ⟨hne, hd⟩ := h d List.mem_cons_self
    cases ds with
    | nil =>
      have ht : tokens isServerSep (d ++ []) [] = tokens isServerSep [] ([] ++ d) :=
        tokens_append hd []
      rw [List.append_nil, List.nil_append] at ht
      rw [joinServers, ht, tokens, if_neg hne]
    | cons d' ds =>
      rw [joinServers, List.append_assoc, tokens_append hd, List.nil_append,
        List.singleton_append, tokens, if_pos (show isServerSep chComma = true from rfl),
        if_neg hne, ih fun a ha => h a (List.mem_cons_of_mem d ha)]
      exact List.cons_ne_nil _ _

end

/-- The section and the key of a field. -/
def StrField.place : StrField → List UInt8 × List UInt8
  | .callsign => (Ini.dmr, Ini.callsign)
  | .description => (Ini.dmr, Ini.description)
  | .location => (Ini.dmr, Ini.location)
  | .ysfHost => (Ini.ysf, Ini.host)
  | .dmrHost => (Ini.dmr, Ini.host)
  | .dmrOptions => (Ini.dmr, Ini.options)
  | .dmrPassword => (Ini.dmr, Ini.password)
  | .elCallsign => (Ini.echolink, Ini.callsign)
  | .elPassword => (Ini.echolink, Ini.password)
  | .bindAddr => (Ini.echolink, Ini.bindAddr)
  | .elHost => (Ini.echolink, Ini.host)
  | .qth => (Ini.echolink, Ini.qth)
  | .email => (Ini.echolink, Ini.email)
  | .proxyServer => (Ini.echolink, Ini.proxyServer)
  | .proxyPassword => (Ini.echolink, Ini.proxyPassword)
  | .vocoderHost => (Ini.vocoder, Ini.host)
  | .dataDir => (Ini.aliases, Ini.dataDir)
  | .subscriberFile => (Ini.aliases, Ini.subscriberFile)
  | .subscriberUrl => (Ini.aliases, Ini.subscriberUrl)
  | .localSubscriberFile => (Ini.aliases, Ini.localSubscriberFile)
  | .checksumFile => (Ini.aliases, Ini.checksumFile)
  | .checksumUrl => (Ini.aliases, Ini.checksumUrl)

def IntField.place : IntField → List UInt8 × List UInt8
  | .dmrid => (Ini.dmr, Ini.dmrid)
  | .ysfPort => (Ini.ysf, Ini.port)
  | .dgid => (Ini.ysf, Ini.dgid)
  | .dmrPort => (Ini.dmr, Ini.port)
  | .dmrTg => (Ini.dmr, Ini.tg)
  | .defaultYsfDmrid => (Ini.dmr, Ini.defaultYsfDmrid)
  | .loginInterval => (Ini.echolink, Ini.loginInterval)
  | .stationListInterval => (Ini.echolink, Ini.stationListInterval)
  | .proxyPort => (Ini.echolink, Ini.proxyPort)
  | .vocoderPort => (Ini.vocoder, Ini.port)
  | .staleMinutes => (Ini.aliases, Ini.staleMinutes)
  | .reloadMinutes => (Ini.aliases, Ini.reloadMinutes)

def LogChannel.place : LogChannel → List UInt8 × List UInt8
  | .app => (Ini.log, Ini.level)
  | .ysf => (Ini.ysf, Ini.logLevel)
  | .dmr => (Ini.dmr, Ini.logLevel)
  | .echolink => (Ini.echolink, Ini.logLevel)
  | .vocoder => (Ini.vocoder, Ini.logLevel)

def Setting.place : Setting → List UInt8 × List UInt8
  | .mode => (Ini.bridge, Ini.mode)
  | .str f => StrField.place f
  | .int f => IntField.place f
  | .level c => LogChannel.place c
  | .clearDynamicTg => (Ini.dmr, Ini.clearDynamicTg)
  | .gain => (Ini.echolink, Ini.gain)
  | .directoryServers => (Ini.echolink, Ini.directoryServers)
  | .staleDays => (Ini.aliases, Ini.staleDays)

/-- What the loader makes of the place of a setting. -/
structure Placed (s : Setting) : Prop where
  found : settingOf s.place.1 s.place.2 = some s
  sect : parseLine ([chBracket] ++ s.place.1 ++ [chBracketEnd] ++ [chNewline]) = .sect s.place.1
  sectLine : chNewline ∉ s.place.1 ∧ s.place.1.length ≤ 10
  key : Key s.place.2
  keyLine : s.place.2.length ≤ 25

instance (s : Setting) : Decidable (Placed s) :=
  decidable_of_iff (settingOf s.place.1 s.place.2 = some s ∧
    parseLine ([chBracket] ++ s.place.1 ++ [chBracketEnd] ++ [chNewline]) = .sect s.place.1 ∧
    (chNewline ∉ s.place.1 ∧ s.place.1.length ≤ 10) ∧ Key s.place.2 ∧ s.place.2.length ≤ 25)
    ⟨fun h => ⟨h.1, h.2.1, h.2.2.1, h.2.2.2.1, h.2.2.2.2⟩,
      fun h => ⟨h.found, h.sect, h.sectLine, h.key, h.keyLine⟩⟩

theorem placed (s : Setting) : Placed s := by
  cases s with
  | str f => cases f <;> decide +kernel
  | int f => cases f <;> decide +kernel
  | level c => cases c <;> decide +kernel
  | _ => decide +kernel

/-- A setting in the file, with its section. -/
def settingLines (x : Setting × List UInt8) : List (List UInt8) :=
  [[chBracket] ++ x.1.place.1 ++ [chBracketEnd], x.1.place.2 ++ [chEquals] ++ x.2]

def render (xs : List (Setting × List UInt8)) : List UInt8 :=
  (xs.flatMap settingLines).flatMap (· ++ [chNewline])

/-- A value with which the line of a key is short enough for the loader. -/
structure Entry (x : Setting × List UInt8) : Prop where
  value : Value x.2
  short : x.2.length ≤ 480

section
variable {γ : Type} {g : GainOps γ} {xs : List (Setting × List UInt8)}

theorem fgetsLines_render (h : ∀ x ∈ xs, Entry x) :
    fgetsLines 511 (render xs) [] = (xs.flatMap settingLines).map (· ++ [chNewline]) := by
  refine fgetsLines_flatMap fun l hl => ?_
  obtain ⟨x, hx, hl⟩ := List.mem_flatMap.1 hl
  have hp := placed x.1
  have hn : chNewline ∉ x.1.place.2 := fun hm => absurd (hp.key.plain _ hm).1 (by decide)
  rcases List.mem_cons.1 hl with rfl | hl
  · refine ⟨?_, ?_⟩
    · simp only [List.mem_append, not_or]
      exact ⟨⟨by decide, hp.sectLine.1⟩, by decide⟩
    · simp only [List.length_append, List.length_singleton]
      have := hp.sectLine.2
      omega
  · rw [List.mem_singleton.1 hl]
    refine ⟨?_, ?_⟩
    · simp only [List.mem_append, not_or]
      exact ⟨⟨hn, by decide⟩, (h x hx).value.newline⟩
    · simp only [List.length_append, List.length_singleton]
      have h1 := hp.keyLine
      have h2 := (h x hx).short
      omega

theorem parseLine_render (h : ∀ x ∈ xs, Entry x) :
    (fgetsLines 511 (render xs) []).map parseLine =
      xs.flatMap fun x => [.sect x.1.place.1, .assign x.1.place.2 x.2] := by
  rw [fgetsLines_render h]
  induction xs with
  | nil => rfl
  | cons x xs ih =>
    have hx := h x List.mem_cons_self
    rw [List.flatMap_cons, List.map_append, List.map_append,
      ih fun y hy => h y (List.mem_cons_of_mem x hy), List.flatMap_cons]
    simp only [settingLines, List.map_cons, List.map_nil]
    rw [(placed x.1).sect, parseLine_assign (placed x.1).key hx.value]

theorem fileAssignments_render (h : ∀ x ∈ xs, Entry x) : fileAssignments (render xs) = xs := by
  rw [fileAssignments, parseLine_render h]
  clear h
  generalize ([] : List UInt8) = sec
  induction xs generalizing sec with
  | nil => rfl
  | cons x xs ih =>
    rw [List.flatMap_cons, List.cons_append, assignments, List.cons_append, assignments,
      (placed x.1).found, List.nil_append, ih]
    rfl

/-- A file of entries is loaded, each of them in its turn. -/
theorem load_render (h : ∀ x ∈ xs, Entry x) :
    load g (some (render xs)) = .ok (xs.foldl (apply g) (init g)).applyDefaults := by
  cases hl : load g (some (render xs)) with
  | error e =>
    obtain ⟨pre, line, post, heq, -, hbad⟩ := (load_error_iff g _ e).1 hl
    have hmem : parseLine line ∈
        xs.flatMap fun x => [Line.sect x.1.place.1, .assign x.1.place.2 x.2] := by
      rw [← parseLine_render h, heq]
      exact List.mem_map_of_mem (List.mem_append_right pre List.mem_cons_self)
    obtain ⟨x, -, hx⟩ := List.mem_flatMap.1 hmem
    rcases hbad with ⟨hb, -⟩ | ⟨hb, -⟩
    · rw [(parseLine_malformedSection line).2 hb] at hx
      simp at hx
    · rw [(parseLine_noEquals line).2 hb] at hx
      simp at hx
  | ok cfg =>
    rw [load_assignments hl, fileAssignments_render h]

end

def StrField.all : List StrField :=
  [.callsign, .description, .location, .ysfHost, .dmrHost, .dmrOptions, .dmrPassword, .elCallsign,
    .elPassword, .bindAddr, .elHost, .qth, .email, .proxyServer, .proxyPassword, .vocoderHost,
    .dataDir, .subscriberFile, .subscriberUrl, .localSubscriberFile, .checksumFile, .checksumUrl]

def IntField.all : List IntField :=
  [.dmrid, .ysfPort, .dgid, .dmrPort, .dmrTg, .defaultYsfDmrid, .loginInterval,
    .stationListInterval, .proxyPort, .vocoderPort, .staleMinutes, .reloadMinutes]

def LogChannel.all : List LogChannel := [.app, .ysf, .dmr, .echolink, .vocoder]

/-- `ysf2dmr_mode_name`. -/
def modeName : Mode → List UInt8
  | .echolinkDmr => Ini.echolinkDmr
  | .echolinkYsf => Ini.echolinkYsf
  | .ysfDmr => Ini.ysfDmr

def intText (n : Int) : List UInt8 :=
  if n < 0 then chDash :: decimal n.natAbs else decimal n.natAbs

/-- A name that `log_level_from_string` takes for the level. -/
def levelName (n : Int) : List UInt8 :=
  if n = 0 then Ini.debug
  else if n = 2 then Ini.warning
  else if n = 3 then Ini.error
  else Ini.info

def strEntries (v : StrField → List UInt8) (fs : List StrField) : List (Setting × List UInt8) :=
  fs.flatMap fun f => if v f = [] then [] else [(.str f, v f)]

def intEntries (v : IntField → Int) (fs : List IntField) : List (Setting × List UInt8) :=
  fs.map fun f => (.int f, intText (v f))

def levelEntries (v : LogChannel → Int) (cs : List LogChannel) : List (Setting × List UInt8) :=
  cs.flatMap fun c => if v c = -1 then [] else [(.level c, levelName (v c))]

/-- All the settings of a configuration; what is empty or not set has no entry. -/
def entries {γ : Type} (print : γ → List UInt8) (cfg : Config γ) : List (Setting × List UInt8) :=
  [(.mode, modeName cfg.mode),
    (.clearDynamicTg, if cfg.clearDynamicTg then Ini.yes else Ini.no),
    (.gain, print cfg.gain)] ++
  strEntries cfg.str StrField.all ++ intEntries cfg.int IntField.all ++
  levelEntries cfg.level LogChannel.all ++
  if cfg.directoryServers = [] then [] else [(.directoryServers, joinServers cfg.directoryServers)]

/-- A configuration that a file can say: no value that would be trimmed, nothing emptied that has
a default, and a gain whose text `strtof` reads back. -/
structure Printable {γ : Type} (g : GainOps γ) (print : γ → List UInt8) (cfg : Config γ) : Prop
    extends WellFormed cfg where
  value : ∀ f, Value (cfg.str f)
  initial : ∀ f, cfg.str f = [] → initStr f = []
  appLevel : cfg.level .app ≠ -1
  serverText : ∀ d ∈ cfg.directoryServers, ∀ c ∈ d, isSpace c = false ∧ c ≠ chComma
  serverLine : (joinServers cfg.directoryServers).length ≤ 480
  gainEntry : print cfg.gain ≠ [] ∧ Entry (.gain, print cfg.gain)
  gainText : g.strtof (print cfg.gain) = some cfg.gain

section
variable {γ : Type} {g : GainOps γ} {print : γ → List UInt8} {cfg : Config γ}

theorem atoiText_intText {n : Int} (h : -2 ^ 31 ≤ n ∧ n < 2 ^ 31) : atoiText (intText n) = n := by
  have hdec (k : Nat) : (decimal k).takeWhile isDigit = decimal k :=
    List.takeWhile_eq_self_iff.2 (decimal_digit k)
  have hbmod (m : Int) (hm : -2 ^ 31 ≤ m ∧ m < 2 ^ 31) :
      Int.bmod (max (-2 ^ 63) (min m (2 ^ 63 - 1))) (2 ^ 32) = m := by
    have hclamp : max (-2 ^ 63) (min m (2 ^ 63 - 1)) = m := by omega
    rw [hclamp]
    exact Int.bmod_eq_of_le (by omega) (by omega)
  rw [intText]
  split
  next hneg =>
    rw [atoiText]
    have hspace : (chDash :: decimal n.natAbs).dropWhile isSpace = chDash :: decimal n.natAbs := rfl
    simp only [hspace, List.head?_cons, true_or, if_true, List.tail_cons, hdec, decimal_number]
    rw [show -(n.natAbs : Int) = n by omega]
    exact hbmod n h
  next hneg =>
    obtain ⟨c, ds, hds⟩ : ∃ c ds, decimal n.natAbs = c :: ds := by
      apply List.exists_cons_of_ne_nil
      rw [decimal, ne_eq, List.map_eq_nil_iff]
      exact Nat.toDigits_ne_nil
    have hc : isDigit c = true := decimal_digit n.natAbs c (hds ▸ List.mem_cons_self)
    have hplain : ∀ c : UInt8, isDigit c = true → isSpace c = false ∧ c ≠ chDash ∧ c ≠ 0x2B :=
      forall_byte (by decide +kernel)
    obtain ⟨h1, h2, h3⟩ := hplain c hc
    have hspace : (decimal n.natAbs).dropWhile isSpace = decimal n.natAbs := by
      rw [hds]
      exact dropWhile_head fun a ha => by cases ha; exact h1
    have hsign (x : UInt8) (hx : c ≠ x) : ¬(decimal n.natAbs).head? = some x := by
      rw [hds]
      exact fun hx' => hx (Option.some.inj hx')
    rw [atoiText]
    simp only [hspace, hsign chDash h2, hsign 0x2B h3, or_self, if_false, hdec, decimal_number]
    rw [show (n.natAbs : Int) = n by omega]
    exact hbmod n h

theorem update_eq_ite [DecidableEq ι] {p : ι → Prop} [DecidablePred p] {v w : ι → α} {i : ι}
    (L : List ι) (hi : p i) :
    (fun j => if j ∈ L ∧ p j then v j else Function.update w i (v i) j) =
      fun j => if j ∈ i :: L ∧ p j then v j else w j := by
  funext j
  by_cases hj : j = i
  · subst hj
    rw [Function.update_self, ite_self, if_pos ⟨List.mem_cons_self, hi⟩]
  · simp only [Function.update_of_ne hj, List.mem_cons, hj, false_or]

theorem ite_mem_skip [DecidableEq ι] {p : ι → Prop} [DecidablePred p] {v w : ι → α} {i : ι}
    (L : List ι) (hi : ¬p i) :
    (fun j => if j ∈ L ∧ p j then v j else w j) =
      fun j => if j ∈ i :: L ∧ p j then v j else w j := by
  funext j
  by_cases hj : j = i
  · subst hj
    rw [if_neg fun h => hi h.2, if_neg fun h => hi h.2]
  · simp only [List.mem_cons, hj, false_or]

theorem foldl_strEntries {v : StrField → List UInt8} (hv : ∀ f, (v f).length < f.size)
    (fs : List StrField) (c : Config γ) : (strEntries v fs).foldl (apply g) c =
      { c with str := fun f => if f ∈ fs ∧ v f ≠ [] then v f else c.str f } := by
  induction fs generalizing c with
  | nil =>
    simp only [List.not_mem_nil, false_and, if_false]
    rfl
  | cons f fs ih =>
    rw [strEntries, List.flatMap_cons, List.foldl_append, ← strEntries, ih]
    by_cases hf : v f = []
    · rw [if_pos hf]
      exact congrArg (fun w => { c with str := w })
        (ite_mem_skip (p := fun f => v f ≠ []) fs (not_not.2 hf))
    · have hset : setStr f.size (c.str f) (v f) = v f := by
        have := hv f
        rw [setStr, if_neg hf, List.take_of_length_le (by omega)]
      rw [if_neg hf, List.foldl_cons, List.foldl_nil, apply, Config.set, hset]
      exact congrArg (fun w => { c with str := w }) (update_eq_ite (p := fun f => v f ≠ []) fs hf)

theorem foldl_intEntries {v : IntField → Int} (hv : ∀ f, -2 ^ 31 ≤ v f ∧ v f < 2 ^ 31)
    (fs : List IntField) (c : Config γ) : (intEntries v fs).foldl (apply g) c =
      { c with int := fun f => if f ∈ fs ∧ True then v f else c.int f } := by
  induction fs generalizing c with
  | nil =>
    simp only [List.not_mem_nil, false_and, if_false]
    rfl
  | cons f fs ih =>
    have hne : intText (v f) ≠ [] := by
      rw [intText]
      split
      · exact List.cons_ne_nil _ _
      · rw [decimal, ne_eq, List.map_eq_nil_iff]
        exact Nat.toDigits_ne_nil
    have hset : setInt (c.int f) (intText (v f)) = v f := by
      rw [setInt, if_neg hne, atoiText_intText (hv f)]
    rw [intEntries, List.map_cons, List.foldl_cons, ← intEntries, ih, apply, Config.set, hset]
    exact congrArg (fun w => { c with int := w }) (update_eq_ite (p := fun _ => True) fs trivial)

theorem logLevelFromString_levelName {n : Int} (h : -1 ≤ n ∧ n ≤ 3) (hn : n ≠ -1) :
    logLevelFromString (levelName n) = n := by
  obtain rfl | rfl | rfl | rfl : n = 0 ∨ n = 1 ∨ n = 2 ∨ n = 3 := by omega
  all_goals decide +kernel

theorem foldl_levelEntries {v : LogChannel → Int} (hv : ∀ c, -1 ≤ v c ∧ v c ≤ 3)
    (chs : List LogChannel) (c : Config γ) : (levelEntries v chs).foldl (apply g) c =
      { c with level := fun ch => if ch ∈ chs ∧ v ch ≠ -1 then v ch else c.level ch } := by
  induction chs generalizing c with
  | nil =>
    simp only [List.not_mem_nil, false_and, if_false]
    rfl
  | cons ch chs ih =>
    rw [levelEntries, List.flatMap_cons, List.foldl_append, ← levelEntries, ih]
    by_cases hc : v ch = -1
    · rw [if_pos hc]
      exact congrArg (fun w => { c with level := w })
        (ite_mem_skip (p := fun c => v c ≠ -1) chs (not_not.2 hc))
    · rw [if_neg hc, List.foldl_cons, List.foldl_nil, apply, Config.set,
        logLevelFromString_levelName (hv ch) hc]
      exact congrArg (fun w => { c with level := w })
        (update_eq_ite (p := fun c => v c ≠ -1) chs hc)

/-- Nothing is left to the defaults. -/
theorem WellFormed.defaults (h : cfg.WellFormed) : cfg.applyDefaults = cfg := by
  have hdir : cfg.directoryDefaults = cfg := if_neg fun hd => h.servers hd.1 hd.2
  rw [applyDefaults, clearOptions, if_neg h.options, hdir, proxyDefaults]
  by_cases hp : cfg.str .proxyServer = []
  · rw [if_pos hp]
  · rw [if_neg hp, if_neg (Int.not_le.2 (h.proxyPort hp))]
    exact if_neg (h.proxyPassword hp)

theorem StrField.mem_all (f : StrField) : f ∈ StrField.all := by
  cases f <;> decide

theorem IntField.mem_all (f : IntField) : f ∈ IntField.all := by
  cases f <;> decide

theorem LogChannel.mem_all (c : LogChannel) : c ∈ LogChannel.all := by
  cases c <;> decide

/-- A text without blanks. -/
theorem Value.of_plain {v : List UInt8} (h : ∀ c ∈ v, isSpace c = false ∧ c ≠ 0) : Value v where
  head c hc := (h c (List.mem_of_mem_head? hc)).1
  last c hc := (h c (List.mem_of_mem_getLast? hc)).1
  newline hn := absurd (h _ hn).1 (by decide)
  zero h0 := (h 0 h0).2 rfl

theorem mem_joinServers {ds : List (List UInt8)} (h : c ∈ joinServers ds) :
    c = chComma ∨ ∃ d ∈ ds, c ∈ d := by
  induction ds with
  | nil => cases h
  | cons d ds ih =>
    cases ds with
    | nil => exact .inr ⟨d, List.mem_cons_self, h⟩
    | cons d' ds =>
      rw [joinServers, List.mem_append, List.mem_append, List.mem_singleton] at h
      rcases h with (h | h) | h
      · exact .inr ⟨d, List.mem_cons_self, h⟩
      · exact .inl h
      · exact (ih h).imp_right fun ⟨e, he, hc⟩ => ⟨e, List.mem_cons_of_mem d he, hc⟩
      · exact List.cons_ne_nil _ _

theorem Printable.servers_value (h : Printable g print cfg) :
    Value (joinServers cfg.directoryServers) := by
  refine .of_plain fun c hc => ?_
  rcases mem_joinServers hc with rfl | ⟨d, hd, hcd⟩
  · decide
  · exact ⟨(h.serverText d hd c hcd).1, fun h0 => (h.server d hd).2.2 (h0 ▸ hcd)⟩

theorem intText_value {n : Int} (h : -2 ^ 31 ≤ n ∧ n < 2 ^ 31) :
    Value (intText n) ∧ (intText n).length ≤ 480 := by
  have hdigit : ∀ c : UInt8, isDigit c = true → isSpace c = false ∧ c ≠ 0 :=
    forall_byte (by decide +kernel)
  have hdec : ∀ c ∈ decimal n.natAbs, isSpace c = false ∧ c ≠ 0 :=
    fun c hc => hdigit c (decimal_digit _ c hc)
  have hlen : (decimal n.natAbs).length ≤ 10 := by
    rw [decimal, List.length_map]
    exact (Nat.length_toDigits_le_iff (by decide) (by decide)).2 (by omega)
  rw [intText]
  split
  · refine ⟨.of_plain (List.forall_mem_cons.2 ⟨by decide, hdec⟩), ?_⟩
    rw [List.length_cons]
    omega
  · exact ⟨.of_plain hdec, by omega⟩

theorem Printable.entry (h : Printable g print cfg) : ∀ x ∈ entries print cfg, Entry x := by
  have hlevel (n : Int) : Value (levelName n) ∧ (levelName n).length ≤ 480 := by
    rw [levelName]
    split_ifs <;> decide +kernel
  have hsize (f : StrField) : f.size ≤ 256 := by
    cases f <;> decide
  intro x hx
  rw [entries, List.mem_append, List.mem_append, List.mem_append, List.mem_append] at hx
  rcases hx with (((hx | hx) | hx) | hx) | hx
  · rcases List.mem_cons.1 hx with rfl | hx
    · cases cfg.mode <;> exact ⟨by decide +kernel, by decide +kernel⟩
    · rcases List.mem_cons.1 hx with rfl | hx
      · cases cfg.clearDynamicTg <;> exact ⟨by decide +kernel, by decide +kernel⟩
      · rw [List.mem_singleton.1 hx]
        exact h.gainEntry.2
  · obtain ⟨f, -, hx⟩ := List.mem_flatMap.1 hx
    split_ifs at hx
    · cases hx
    · rw [List.mem_singleton.1 hx]
      have h1 := (h.str f).1
      have h2 := hsize f
      exact ⟨h.value f, by simp only; omega⟩
  · obtain ⟨f, -, rfl⟩ := List.mem_map.1 hx
    obtain ⟨h1, h2⟩ := intText_value (h.int f)
    exact ⟨h1, h2⟩
  · obtain ⟨c, -, hx⟩ := List.mem_flatMap.1 hx
    split_ifs at hx
    · cases hx
    · rw [List.mem_singleton.1 hx]
      obtain ⟨h1, h2⟩ := hlevel (cfg.level c)
      exact ⟨h1, h2⟩
  · split_ifs at hx
    · cases hx
    · rw [List.mem_singleton.1 hx]
      exact ⟨h.servers_value, h.serverLine⟩

theorem parseMode_modeName (m : Mode) : parseMode (modeName m) = m := by
  cases m <;> decide +kernel

theorem setBool01_text (dst b : Bool) :
    setBool01 dst (if b then Ini.yes else Ini.no) = b := by
  cases dst <;> cases b <;> decide +kernel

/-- The servers come back as they were listed. -/
theorem Printable.parseDirectoryServers (h : Printable g print cfg)
    (hne : cfg.directoryServers ≠ []) (dst : List (List UInt8)) :
    Config.parseDirectoryServers dst (joinServers cfg.directoryServers) =
      cfg.directoryServers := by
  have htokens : tokens isServerSep (joinServers cfg.directoryServers) [] =
      cfg.directoryServers := by
    refine tokens_joinServers fun d hd => ⟨(h.server d hd).1, fun c hc => ?_⟩
    obtain ⟨h1, h2⟩ := h.serverText d hd c hc
    have hsep : ∀ c : UInt8, isSpace c = false → c ≠ chComma → isServerSep c = false :=
      forall_byte (by decide +kernel)
    exact hsep c h1 h2
  have hjoin : joinServers cfg.directoryServers ≠ [] := by
    intro he
    rw [he] at htokens
    exact hne htokens.symm
  have hset : ∀ d ∈ cfg.directoryServers, setStr 128 [] d = d := by
    intro d hd
    obtain ⟨hd1, hd2, -⟩ := h.server d hd
    rw [setStr, if_neg hd1, List.take_of_length_le (by omega)]
  have hline : (joinServers cfg.directoryServers).take 511 = joinServers cfg.directoryServers := by
    have := h.serverLine
    exact List.take_of_length_le (by omega)
  rw [Config.parseDirectoryServers, if_neg hjoin, hline, htokens,
    List.take_of_length_le h.serverCount]
  exact (List.map_congr_left hset).trans (List.map_id _)

/-- A configuration that is written to a file is loaded back, whatever it holds. -/
theorem load_entries (h : Printable g print cfg) :
    load g (some (render (entries print cfg))) = .ok cfg := by
  have hstr : (fun f => if f ∈ StrField.all ∧ cfg.str f ≠ [] then cfg.str f else initStr f) =
      cfg.str := by
    funext f
    by_cases hf : cfg.str f = []
    · rw [if_neg fun hn => hn.2 hf, h.initial f hf, hf]
    · rw [if_pos ⟨StrField.mem_all f, hf⟩]
  have hint : (fun f => if f ∈ IntField.all ∧ True then cfg.int f else initInt f) = cfg.int := by
    funext f
    rw [if_pos ⟨IntField.mem_all f, trivial⟩]
  have hlevel : (fun c => if c ∈ LogChannel.all ∧ cfg.level c ≠ -1 then cfg.level c
      else if c = .app then 1 else -1) = cfg.level := by
    funext c
    by_cases hc : cfg.level c = -1
    · have happ : c ≠ .app := fun ha => h.appLevel (ha ▸ hc)
      rw [if_neg fun hn => hn.2 hc, if_neg happ, hc]
    · rw [if_pos ⟨LogChannel.mem_all c, hc⟩]
  have hgain : setFloat g g.one (print cfg.gain) = cfg.gain := by
    rw [setFloat, if_neg h.gainEntry.1, h.gainText]
    rfl
  have hhead : [(Setting.mode, modeName cfg.mode),
      (.clearDynamicTg, if cfg.clearDynamicTg then Ini.yes else Ini.no),
      (.gain, print cfg.gain)].foldl (apply g) (init g) =
      { init g with
        mode := cfg.mode, clearDynamicTg := cfg.clearDynamicTg, gain := cfg.gain } := by
    simp only [List.foldl_cons, List.foldl_nil, apply, Config.set, parseMode_modeName,
      setBool01_text]
    exact congrArg (fun x => { init g with
      mode := cfg.mode, clearDynamicTg := cfg.clearDynamicTg, gain := x }) hgain
  have hservers (c : Config γ) (hc : c.directoryServers = []) :
      (if cfg.directoryServers = [] then []
        else [(Setting.directoryServers, joinServers cfg.directoryServers)]).foldl (apply g) c =
      { c with directoryServers := cfg.directoryServers } := by
    split
    next hd => rw [hd, ← hc]; rfl
    next hd =>
      exact congrArg (fun x => { c with directoryServers := x }) (h.parseDirectoryServers hd _)
  rw [load_render h.entry, entries, List.foldl_append, List.foldl_append, List.foldl_append,
    List.foldl_append, hhead, foldl_strEntries fun f => (h.str f).1, foldl_intEntries h.int,
    foldl_levelEntries h.level, hservers _ rfl]
  show Except.ok (Config.applyDefaults { cfg with
    str := fun f => if f ∈ StrField.all ∧ cfg.str f ≠ [] then cfg.str f else initStr f
    int := fun f => if f ∈ IntField.all ∧ True then cfg.int f else initInt f
    level := fun c => if c ∈ LogChannel.all ∧ cfg.level c ≠ -1 then cfg.level c
      else if c = .app then 1 else -1 }) = _
  rw [hstr, hint, hlevel]
  exact congrArg Except.ok h.defaults

def sampleStr : StrField → List UInt8
  | .callsign => ascii "CE5RPY"
  | .dmrPassword => ascii "a = b"
  | .ysfHost => ascii "ysf.org"
  | .dmrHost => ascii "dmr.org"
  | f => initStr f

def sampleInt : IntField → Int
  | .dmrid => 7301234
  | .ysfPort => 42000
  | .dmrPort => 62031
  | .dmrTg => 730
  | .dgid => -1
  | f => initInt f

def sampleConfig : Config Nat where
  mode := .echolinkYsf
  str := sampleStr
  int := sampleInt
  level c := if c = .app then 1 else if c = .dmr then 0 else -1
  clearDynamicTg := true
  gain := 2
  directoryServers := [ascii "a.org", ascii "b.org"]

theorem sampleConfig_printable : Printable wholeGain decimal sampleConfig where
  str f := by
    show Fits f.size (sampleStr f)
    cases f <;> decide +kernel
  int f := by
    show -2 ^ 31 ≤ sampleInt f ∧ sampleInt f < 2 ^ 31
    cases f <;> decide
  level c := by
    cases c <;> decide
  serverCount := by decide
  server := by decide +kernel
  options := by decide +kernel
  servers _ := List.cons_ne_nil _ _
  proxyPort h := absurd rfl h
  proxyPassword h := absurd rfl h
  value f := by
    show Value (sampleStr f)
    cases f <;> decide +kernel
  initial f := by
    show sampleStr f = [] → initStr f = []
    cases f <;> decide +kernel
  appLevel := by decide
  serverText := by
    have hplain : sampleConfig.directoryServers.all (fun d =>
        d.all fun c => !isSpace c && c != chComma) = true := by
      decide +kernel
    simpa only [List.all_eq_true, Bool.and_eq_true, Bool.not_eq_true', bne_iff_ne] using hplain
  serverLine := by decide +kernel
  gainEntry := ⟨by decide +kernel, by decide +kernel, by decide +kernel⟩
  gainText := by decide +kernel

/-- A password with blanks and a sign in it. -/
theorem load_entries_sample :
    load wholeGain (some (render (entries decimal sampleConfig))) = .ok sampleConfig :=
  load_entries sampleConfig_printable

end

end Config

end AdnBridge
