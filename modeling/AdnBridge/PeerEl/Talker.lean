import Mathlib.Data.List.TakeWhile
import AdnBridge.Lib.Bits
import AdnBridge.PeerEcholink

namespace AdnBridge
set_option autoImplicit true

def chOpen : UInt8 := 0x28
def chClose : UInt8 := 0x29
def chStar : UInt8 := 0x2A

def isBlank (c : UInt8) : Bool := c == chSpace || c == chTab

def isPrintable (c : UInt8) : Bool := 32 ≤ c && c ≤ 126

def isAlpha (c : UInt8) : Bool := (0x41 ≤ c && c ≤ 0x5A) || (0x61 ≤ c && c ≤ 0x7A)

/-- `strrchr`: the place of the last such byte. -/
def strrchr (c : UInt8) : List UInt8 → Option Nat
  | [] => none
  | x :: xs =>
    match strrchr c xs with
    | some i => some (i + 1)
    | none => if x = c then some 0 else none

/-- `el_sdes_copy_item`: the printable bytes that fit, without the blanks at the end. -/
def sdesCopyItem (dstlen : Nat) (data : List UInt8) : List UInt8 :=
  (((data.filter isPrintable).take (dstlen - 1)).reverse.dropWhile (· == chSpace)).reverse

/-- `el_copy_token`: the first word in capitals, cut to what fits. -/
def copyToken (dstlen : Nat) (src : List UInt8) : List UInt8 :=
  ((((src.dropWhile isBlank).takeWhile fun c => !isBlank c).filter isPrintable).take
    (dstlen - 1)).map toUpper

def conferenceText : List UInt8 := [0x43, 0x4F, 0x4E, 0x46, 0x45, 0x52, 0x45, 0x4E, 0x43, 0x45]

def callsignText : List UInt8 := [0x43, 0x41, 0x4C, 0x4C, 0x53, 0x49, 0x47, 0x4E]

def isCallsignChar (c : UInt8) : Bool :=
  isAlpha c || isDigit c || c == chDash || c == chStar || c == chSlash

/-- `el_looks_like_callsign`. -/
def looksLikeCallsign (s : List UInt8) : Bool :=
  let word := s.takeWhile fun c => !isBlank c
  (s.take 10).map toUpper != conferenceText && s.map toUpper != callsignText &&
    !s.contains 0x5B && !s.contains 0x5D && word.all isCallsignChar && 3 ≤ word.length &&
    (s.head? == some chStar || word.any isAlpha)

/-- `el_same_station`. -/
def sameStation (a b : List UInt8) : Bool := a.map toUpper == b.map toUpper

/-- The talker that a NAME gives in its last parentheses, if that is a callsign. -/
def parenTalker (name : List UInt8) : Option (List UInt8) :=
  match strrchr chOpen name, strrchr chClose name with
  | some lp, some rp =>
    if rp > lp + 1 then
      let paren := (((name.drop (lp + 1)).take (rp - (lp + 1))).filter isPrintable).take 63
      let cand := copyToken 32 paren
      if looksLikeCallsign cand then some cand else none
    else none
  | _, _ => none

theorem isBlank_toUpper : ∀ c, isBlank (toUpper c) = isBlank c := forall_byte (by decide +kernel)

theorem isAlpha_toUpper : ∀ c, isAlpha (toUpper c) = isAlpha c := forall_byte (by decide +kernel)

theorem isCallsignChar_toUpper : ∀ c, isCallsignChar (toUpper c) = isCallsignChar c :=
  forall_byte (by decide +kernel)

theorem isPrintable_toUpper : ∀ c, isPrintable c = true → isPrintable (toUpper c) = true :=
  forall_byte (by decide +kernel)

/-- What can stand in a callsign is printable, no blank and no parenthesis. -/
theorem of_isCallsignChar : ∀ c, isCallsignChar c = true →
    isPrintable c = true ∧ isBlank c = false ∧ c ≠ chOpen ∧ c ≠ chClose :=
  forall_byte (by decide +kernel)

theorem map_toUpper_map_toUpper (s : List UInt8) : (s.map toUpper).map toUpper = s.map toUpper := by
  rw [List.map_map]
  exact List.map_congr_left fun c _ => toUpper_toUpper c

theorem copyToken_capitals (n : Nat) (s : List UInt8) :
    (copyToken n s).map toUpper = copyToken n s := map_toUpper_map_toUpper _

theorem copyToken_length (s : List UInt8) : (copyToken 32 s).length ≤ 31 := by
  rw [copyToken, List.length_map]
  exact List.length_take_le _ _

theorem sameStation_iff : sameStation a b = true ↔ a.map toUpper = b.map toUpper := by
  rw [sameStation, beq_iff_eq]

/-- Case does not matter for what looks like a callsign. -/
theorem looksLikeCallsign_toUpper (s : List UInt8) :
    looksLikeCallsign (s.map toUpper) = looksLikeCallsign s := by
  have hbracket (b : UInt8) (hb : ∀ c, toUpper c = b ↔ c = b) :
      (s.map toUpper).contains b = s.contains b := by
    rw [Bool.eq_iff_iff, List.contains_iff_mem, List.contains_iff_mem, List.mem_map]
    constructor
    · rintro ⟨c, hc, he⟩
      exact (hb c).1 he ▸ hc
    · intro hc
      exact ⟨b, hc, (hb b).2 rfl⟩
  have hstar : ((s.map toUpper).head? == some chStar) = (s.head? == some chStar) := by
    have hb : ∀ c, (toUpper c == chStar) = (c == chStar) := forall_byte (by decide +kernel)
    cases s with
    | nil => rfl
    | cons c s => exact hb c
  have hword : (s.map toUpper).takeWhile (fun c => !isBlank c) =
      (s.takeWhile fun c => !isBlank c).map toUpper := by
    rw [List.takeWhile_map]
    congr 2
    funext c
    exact congrArg Bool.not (isBlank_toUpper c)
  rw [looksLikeCallsign, looksLikeCallsign, hword, hstar,
    hbracket 0x5B (forall_byte (by decide +kernel)),
    hbracket 0x5D (forall_byte (by decide +kernel)), ← List.map_take, map_toUpper_map_toUpper,
    map_toUpper_map_toUpper, List.all_map, List.any_map, List.length_map]
  congr 2
  · congr 2
    exact funext isCallsignChar_toUpper
  · congr 1
    exact funext isAlpha_toUpper

theorem copyToken_not_blank (h : c ∈ copyToken n s) : isBlank c = false := by
  rw [copyToken, List.mem_map] at h
  obtain ⟨b, hb, rfl⟩ := h
  have hmem := (List.mem_filter.1 (List.mem_of_mem_take hb)).1
  rw [isBlank_toUpper]
  have hnot := List.mem_takeWhile_imp (p := fun c => !isBlank c) hmem
  rwa [Bool.not_eq_true'] at hnot

theorem parenTalker_token (h : parenTalker name = some t) :
    ∃ s, copyToken 32 s = t ∧ looksLikeCallsign t = true := by
  rw [parenTalker] at h
  split at h
  · split at h
    · obtain ⟨hc, ht⟩ := Option.ite_none_right_eq_some.1 h
      obtain rfl := Option.some.inj ht
      exact ⟨_, rfl, hc⟩
    · cases h
  · cases h

/-- The talker that parentheses give is a callsign in capitals, without blanks. -/
theorem parenTalker_spec (h : parenTalker name = some t) : looksLikeCallsign t = true ∧
    t.map toUpper = t ∧ ∀ c ∈ t, isBlank c = false := by
  obtain ⟨s, rfl, hc⟩ := parenTalker_token h
  exact ⟨hc, copyToken_capitals 32 s, fun c hc => copyToken_not_blank hc⟩

theorem ne_nil_of_looksLikeCallsign (h : looksLikeCallsign s = true) : s ≠ [] := by
  rintro rfl
  cases h

theorem all_isCallsignChar (h : looksLikeCallsign s = true) (hw : ∀ c ∈ s, isBlank c = false) :
    s.all isCallsignChar = true := by
  have hword : (s.takeWhile fun c => !isBlank c) = s := by
    rw [List.takeWhile_eq_self_iff]
    intro c hc
    rw [hw c hc]
    rfl
  rw [looksLikeCallsign, hword] at h
  simp only [Bool.and_eq_true] at h
  exact h.1.1.2

theorem strrchr_of_not_mem (h : c ∉ s) : strrchr c s = none := by
  induction s with
  | nil => rfl
  | cons x s ih =>
    rw [List.mem_cons, not_or] at h
    rw [strrchr, ih h.2]
    exact if_neg (Ne.symm h.1)

theorem strrchr_append_cons (s : List UInt8) (h : c ∉ tail) :
    strrchr c (s ++ c :: tail) = some s.length := by
  induction s with
  | nil =>
    rw [List.nil_append, strrchr, strrchr_of_not_mem h]
    exact if_pos rfl
  | cons x s ih =>
    rw [List.cons_append, strrchr, ih]
    rfl

/-- A word of callsign characters is its own first token. -/
theorem copyToken_eq (h : s.all isCallsignChar = true) (hlen : s.length ≤ 31) :
    copyToken 32 s = s.map toUpper := by
  have hall := List.all_eq_true.1 h
  have hdrop : s.dropWhile isBlank = s := by
    cases s with
    | nil => rfl
    | cons c s =>
      have hc := (of_isCallsignChar c (hall c List.mem_cons_self)).2.1
      rw [List.dropWhile_cons, hc]
      rfl
  have hword : (s.takeWhile fun c => !isBlank c) = s := by
    rw [List.takeWhile_eq_self_iff]
    intro c hc
    rw [(of_isCallsignChar c (hall c hc)).2.1]
    rfl
  have hprint : s.filter isPrintable = s :=
    List.filter_eq_self.2 fun c hc => (of_isCallsignChar c (hall c hc)).1
  rw [copyToken, hdrop, hword, hprint, List.take_of_length_le hlen]

/-- A callsign in parentheses at the end of a name is its talker. -/
theorem parenTalker_eq (pre : List UInt8) (h : looksLikeCallsign s = true)
    (hall : s.all isCallsignChar = true) (hlen : s.length ≤ 31) :
    parenTalker (pre ++ chOpen :: (s ++ [chClose])) = some (s.map toUpper) := by
  have hmem := List.all_eq_true.1 hall
  have hopen : strrchr chOpen (pre ++ chOpen :: (s ++ [chClose])) = some pre.length := by
    apply strrchr_append_cons
    intro hc
    rcases List.mem_append.1 hc with hc | hc
    · exact (of_isCallsignChar _ (hmem _ hc)).2.2.1 rfl
    · exact (nomatch List.mem_singleton.1 hc)
  have hclose : strrchr chClose (pre ++ chOpen :: (s ++ [chClose])) =
      some (pre.length + 1 + s.length) := by
    have hshape : pre ++ chOpen :: (s ++ [chClose]) = (pre ++ chOpen :: s) ++ chClose :: [] := by
      simp
    rw [hshape, strrchr_append_cons _ (List.not_mem_nil)]
    simp only [List.length_append, List.length_cons]
    congr 1
    omega
  have hpos : 0 < s.length := List.length_pos_iff.2 (ne_nil_of_looksLikeCallsign h)
  have hbetween : ((pre ++ chOpen :: (s ++ [chClose])).drop (pre.length + 1)).take s.length = s := by
    have hshape : pre ++ chOpen :: (s ++ [chClose]) = (pre ++ [chOpen]) ++ (s ++ [chClose]) := by
      simp
    rw [hshape, List.drop_left' (by simp), List.take_left' rfl]
  have hprint : s.filter isPrintable = s :=
    List.filter_eq_self.2 fun c hc => (of_isCallsignChar c (hmem c hc)).1
  rw [parenTalker, hopen, hclose]
  simp only
  rw [if_pos (by omega), show pre.length + 1 + s.length - (pre.length + 1) = s.length by omega,
    hbetween, hprint, List.take_of_length_le (by omega), copyToken_eq hall hlen,
    looksLikeCallsign_toUpper, h]
  rfl

namespace PeerEl

section
variable (p : PeerEl)

/-- The talker that an SDES without such parentheses stands for. -/
def weakTalker (cname name : List UInt8) : List UInt8 :=
  if looksLikeCallsign (copyToken 32 name) then copyToken 32 name
  else if looksLikeCallsign cname then copyToken 32 cname
  else p.host.take 31

/-- Whether voice came in less than two seconds ago. -/
def rtpRecent (lastRtpRx now : Int) : Bool :=
  lastRtpRx != 0 && lastRtpRx ≤ now && now - lastRtpRx < 2

/-- A CNAME that is a callsign names the station of the node. -/
def noteCname (cname : List UInt8) : PeerEl :=
  if looksLikeCallsign cname then { p with remoteCname := copyToken 32 cname } else p

/-- A talker without parentheses does not replace one that was named while voice comes in. -/
def noteTalker (fromParen recent : Bool) (talker : List UInt8) : PeerEl :=
  if talker = [] then p
  else if fromParen = false ∧ p.remoteTalkerExplicit ∧ p.remoteTalker ≠ [] ∧
      ¬sameStation p.remoteTalker talker ∧ recent then p
  else if p.remoteTalker = talker then
    if fromParen then { p with remoteTalkerExplicit := true } else p
  else { p with remoteTalker := talker, remoteTalkerExplicit := fromParen }

/-- `el_apply_remote_sdes`, at the time `now`. -/
def applyRemoteSdes (lastRtpRx now : Int) (cname name : List UInt8) : PeerEl :=
  (p.noteCname cname).noteTalker (parenTalker name).isSome (rtpRecent lastRtpRx now)
    ((parenTalker name).getD (p.weakTalker cname name))

end

/-- An SDES from the node, with the times that count when it is applied. -/
structure SdesHeard where
  lastRtpRx : Int
  now : Int
  cname : List UInt8
  name : List UInt8

def hear (p : PeerEl) (s : SdesHeard) : PeerEl :=
  p.applyRemoteSdes s.lastRtpRx s.now s.cname s.name

variable {p : PeerEl} {s : SdesHeard}

theorem noteCname_talker (p : PeerEl) (cname : List UInt8) :
    (p.noteCname cname).host = p.host ∧ (p.noteCname cname).remoteTalker = p.remoteTalker ∧
      (p.noteCname cname).remoteTalkerExplicit = p.remoteTalkerExplicit := by
  rw [noteCname]
  split
  · exact ⟨rfl, rfl, rfl⟩
  · exact ⟨rfl, rfl, rfl⟩

theorem noteTalker_host (p : PeerEl) (fromParen recent : Bool) (talker : List UInt8) :
    (p.noteTalker fromParen recent talker).host = p.host := by
  rw [noteTalker]
  split_ifs <;> rfl

theorem hear_host (p : PeerEl) (s : SdesHeard) : (p.hear s).host = p.host :=
  (noteTalker_host _ _ _ _).trans (noteCname_talker _ _).1

/-- A talker in parentheses becomes the talker. -/
theorem noteTalker_named (p : PeerEl) (recent : Bool) (h : t ≠ []) :
    (p.noteTalker true recent t).remoteTalker = t ∧
      (p.noteTalker true recent t).remoteTalkerExplicit = true := by
  rw [noteTalker, if_neg h, if_neg (fun hc => by cases hc.1)]
  by_cases ht : p.remoteTalker = t
  · rw [if_pos ht, if_pos rfl]
    exact ⟨ht, rfl⟩
  · rw [if_neg ht]
    exact ⟨rfl, rfl⟩

theorem hear_named (p : PeerEl) (h : parenTalker s.name = some t) :
    (p.hear s).remoteTalker = t ∧ (p.hear s).remoteTalkerExplicit = true := by
  rw [hear, applyRemoteSdes, h]
  exact noteTalker_named _ _ (ne_nil_of_looksLikeCallsign (parenTalker_spec h).1)

/-- While voice comes in, a talker that was named gives way to himself only, in other letters. -/
theorem noteTalker_weak (hx : p.remoteTalkerExplicit = true) (hne : p.remoteTalker ≠ []) :
    (sameStation p.remoteTalker t = true ∧ t ≠ p.remoteTalker →
      (p.noteTalker false true t).remoteTalker = t ∧
        (p.noteTalker false true t).remoteTalkerExplicit = false) ∧
    (¬(sameStation p.remoteTalker t = true ∧ t ≠ p.remoteTalker) →
      p.noteTalker false true t = p) := by
  rw [noteTalker]
  constructor
  · rintro ⟨hs, ht⟩
    have hnil : t ≠ [] := by
      rintro rfl
      exact hne (List.map_eq_nil_iff.1 (sameStation_iff.1 hs))
    rw [if_neg hnil, if_neg (fun hc => hc.2.2.2.1 hs), if_neg (Ne.symm ht)]
    exact ⟨rfl, rfl⟩
  · intro hn
    by_cases hnil : t = []
    · rw [if_pos hnil]
    · rw [if_neg hnil]
      by_cases hs : sameStation p.remoteTalker t = true
      · have ht : p.remoteTalker = t := by
          by_contra hne'
          exact hn ⟨hs, Ne.symm hne'⟩
        rw [if_neg (fun hc => hc.2.2.2.1 hs), if_pos ht]
        rfl
      · rw [if_pos ⟨rfl, hx, hne, hs, rfl⟩]

/-- A packet whose name gives no callsign in parentheses, while voice comes in. -/
structure SdesHeard.Weak (s : SdesHeard) : Prop where
  unnamed : parenTalker s.name = none
  recent : rtpRecent s.lastRtpRx s.now = true

theorem hear_weak (h : s.Weak) : p.hear s =
    (p.noteCname s.cname).noteTalker false true (p.weakTalker s.cname s.name) := by
  rw [hear, applyRemoteSdes, h.unnamed, h.recent]
  rfl

/-- The talker was named in parentheses. -/
structure Named (p : PeerEl) : Prop where
  explicit : p.remoteTalkerExplicit = true
  callsign : looksLikeCallsign p.remoteTalker = true
  capitals : p.remoteTalker.map toUpper = p.remoteTalker
  word : ∀ c ∈ p.remoteTalker, isBlank c = false

theorem named_hear (p : PeerEl) (h : parenTalker s.name = some t) : (p.hear s).Named := by
  obtain ⟨ht, hx⟩ := hear_named p h
  obtain ⟨hcall, hcap, hword⟩ := parenTalker_spec h
  constructor
  · exact hx
  · rwa [ht]
  · rwa [ht]
  · rwa [ht]

/-- The node's name as a talker could not be told from a callsign in other letters. -/
def nodeInCapitals (host : List UInt8) : Prop :=
  (host.take 31).map toUpper = host.take 31 ∨
    ¬(looksLikeCallsign (host.take 31) = true ∧ ∀ c ∈ host.take 31, isBlank c = false)

/-- A talker without parentheses who is the named one bears his name in the same letters. -/
theorem Named.weakTalker_eq (h : p.Named) (hn : nodeInCapitals p.host)
    (hs : sameStation p.remoteTalker (p.weakTalker cname name) = true) :
    p.weakTalker cname name = p.remoteTalker := by
  have hs' := sameStation_iff.1 hs
  rw [h.capitals] at hs'
  rw [weakTalker] at hs' ⊢
  split at hs'
  · rw [hs', copyToken_capitals, if_pos ‹_›]
  · rw [if_neg ‹_›]
    split at hs'
    · rw [hs', copyToken_capitals, if_pos ‹_›]
    · rw [if_neg ‹_›]
      rcases hn with hcap | hn
      · rw [hs', hcap]
      · apply absurd _ hn
        constructor
        · rw [← looksLikeCallsign_toUpper, ← hs']
          exact h.callsign
        · intro c hc
          rw [← isBlank_toUpper]
          apply h.word
          rw [hs']
          exact List.mem_map_of_mem hc

theorem Named.hear_weak (h : p.Named) (hn : nodeInCapitals p.host) (hs : s.Weak) :
    (p.hear s).Named ∧ (p.hear s).remoteTalker = p.remoteTalker := by
  obtain ⟨_, ht, hx⟩ := noteCname_talker p s.cname
  have hsame : (p.noteCname s.cname).noteTalker false true (p.weakTalker s.cname s.name) =
      p.noteCname s.cname := by
    apply (noteTalker_weak (hx.trans h.explicit) _).2
    · rintro ⟨hst, hne⟩
      rw [ht] at hst hne
      exact hne (h.weakTalker_eq hn hst)
    · rw [ht]
      exact ne_nil_of_looksLikeCallsign h.callsign
  rw [PeerEl.hear_weak hs, hsame]
  exact ⟨⟨hx.trans h.explicit, ht ▸ h.callsign, ht ▸ h.capitals, ht ▸ h.word⟩, ht⟩

theorem hear_run_host (p : PeerEl) (heard : List SdesHeard) :
    (heard.foldl hear p).host = p.host := by
  induction heard generalizing p with
  | nil => rfl
  | cons s heard ih => exact (ih _).trans (hear_host p s)

theorem Named.hear_run {heard : List SdesHeard} (h : p.Named) (hn : nodeInCapitals p.host)
    (hr : ∀ x ∈ heard, rtpRecent x.lastRtpRx x.now = true) : (heard.foldl hear p).Named := by
  induction heard generalizing p with
  | nil => exact h
  | cons s heard ih =>
    rw [List.forall_mem_cons] at hr
    have hstep : (p.hear s).Named := by
      cases ht : parenTalker s.name with
      | some t => exact named_hear p ht
      | none => exact (h.hear_weak hn ⟨ht, hr.1⟩).1
    apply ih hstep _ hr.2
    rwa [hear_host]

/-- While voice comes in, no packet without a callsign in parentheses replaces a talker that was
named by another station. -/
def KeepsTalker (host : List UInt8) : Prop :=
  ∀ (p : PeerEl) (heard : List SdesHeard) (s : SdesHeard), p.host = host →
    (∀ x ∈ heard, rtpRecent x.lastRtpRx x.now = true) →
    (∃ x ∈ heard, (parenTalker x.name).isSome = true) → s.Weak →
    sameStation (heard.foldl hear p).remoteTalker ((heard ++ [s]).foldl hear p).remoteTalker = true

theorem keepsTalker_of_nodeInCapitals {host : List UInt8} (hn : nodeInCapitals host) : KeepsTalker host := by
  intro p heard s hp hr hx hs
  subst hp
  obtain ⟨x, hx, ht⟩ := hx
  obtain ⟨t, ht⟩ := Option.isSome_iff_exists.1 ht
  obtain ⟨before, after, rfl⟩ := List.append_of_mem hx
  rw [List.foldl_concat]
  have hhost := hear_run_host p (before ++ x :: after)
  rw [List.foldl_append, List.foldl_cons] at hhost ⊢
  have hnamed : (after.foldl hear ((before.foldl hear p).hear x)).Named := by
    apply (named_hear _ ht).hear_run
    · rwa [hear_host, hear_run_host]
    · intro y hy
      exact hr y (List.mem_append_right _ (List.mem_cons_of_mem x hy))
  have hkeep := (hnamed.hear_weak (by rwa [hhost]) hs).2
  rw [hkeep]
  exact sameStation_iff.2 rfl

/-- A packet that comes one second after the last voice, without a CNAME. -/
def heardAt (name : List UInt8) : SdesHeard := ⟨1, 2, [], name⟩

def aa1a : List UInt8 := [0x41, 0x41, 0x31, 0x41]

def bb2b : List UInt8 := [0x42, 0x42, 0x32, 0x42]

theorem noteTalker_unnamed (recent : Bool) (hx : p.remoteTalkerExplicit = false) (h : t ≠ []) :
    (p.noteTalker false recent t).remoteTalker = t := by
  rw [noteTalker, if_neg h, if_neg]
  · by_cases ht : p.remoteTalker = t
    · rw [if_pos ht]
      exact ht
    · rw [if_neg ht]
  · rw [hx]
    exact fun hc => (nomatch hc.2.1)

/-- Without any text, the node itself is the talker, as it is configured. -/
theorem hear_node (hx : p.remoteTalkerExplicit = true)
    (hs : sameStation p.remoteTalker (p.host.take 31) = true)
    (hne : p.host.take 31 ≠ p.remoteTalker) (hnil : p.remoteTalker ≠ []) :
    (p.hear (heardAt [])).remoteTalker = p.host.take 31 ∧
      (p.hear (heardAt [])).remoteTalkerExplicit = false := by
  have hweak : (heardAt []).Weak := ⟨by decide +kernel, rfl⟩
  rw [hear_weak hweak]
  exact (noteTalker_weak hx hnil).1 ⟨hs, hne⟩

/-- A name that could stand for another station. -/
structure IsOther (host w : List UInt8) : Prop where
  unnamed : parenTalker w = none
  callsign : looksLikeCallsign (copyToken 32 w) = true
  token : copyToken 32 w = w
  other : sameStation (host.take 31) w = false

theorem exists_other (host : List UInt8) : ∃ w, IsOther host w := by
  by_cases ha : sameStation (host.take 31) aa1a = true
  · refine ⟨bb2b, by decide +kernel, by decide +kernel, by decide +kernel, ?_⟩
    rw [Bool.eq_false_iff]
    intro hb
    have hab := (sameStation_iff.1 ha).symm.trans (sameStation_iff.1 hb)
    revert hab
    decide +kernel
  · exact ⟨aa1a, by decide +kernel, by decide +kernel, by decide +kernel, Bool.eq_false_iff.2 ha⟩

theorem hear_other {host : List UInt8} (hx : p.remoteTalkerExplicit = false) (h : IsOther host w) :
    (p.hear (heardAt w)).remoteTalker = w := by
  have hweak : (heardAt w).Weak := ⟨h.unnamed, rfl⟩
  have htalker : p.weakTalker [] w = w := by
    rw [weakTalker, if_pos h.callsign, h.token]
  rw [hear_weak hweak]
  change ((p.noteCname []).noteTalker false true (p.weakTalker [] w)).remoteTalker = w
  rw [htalker]
  apply noteTalker_unnamed _ ((noteCname_talker p []).2.2.trans hx)
  have hw := h.callsign
  rw [h.token] at hw
  exact ne_nil_of_looksLikeCallsign hw

/-- The name that shows a talker in parentheses. -/
def shown (t : List UInt8) : List UInt8 := chOpen :: (t ++ [chClose])

/-- When the node is configured in small letters, two packets without a named talker put another
station in the place of its operator. -/
theorem not_keepsTalker_of_callsign {host : List UInt8}
    (hcap : (host.take 31).map toUpper ≠ host.take 31)
    (hcall : looksLikeCallsign (host.take 31) = true)
    (hword : ∀ c ∈ host.take 31, isBlank c = false) : ¬KeepsTalker host := by
  intro hkeep
  have hall : ((host.take 31).map toUpper).all isCallsignChar = true := by
    rw [List.all_map]
    exact (congrArg _ (funext isCallsignChar_toUpper)).trans (all_isCallsignChar hcall hword)
  have hnamed : parenTalker (shown ((host.take 31).map toUpper)) =
      some ((host.take 31).map toUpper) := by
    have h := parenTalker_eq [] ((looksLikeCallsign_toUpper _).trans hcall) hall
      ((List.length_map _).trans_le (List.length_take_le _ _))
    rwa [map_toUpper_map_toUpper] at h
  obtain ⟨w, hw⟩ := exists_other host
  have hk := hkeep { opened [] [] fun _ => true with host := host }
    [heardAt (shown ((host.take 31).map toUpper)), heardAt []] (heardAt w) rfl
  obtain ⟨h1t, h1x⟩ := @hear_named (heardAt (shown ((host.take 31).map toUpper))) _
    { opened [] [] fun _ => true with host := host } hnamed
  have h1h := hear_host { opened [] [] fun _ => true with host := host }
    (heardAt (shown ((host.take 31).map toUpper)))
  simp only [List.cons_append, List.nil_append, List.foldl_cons, List.foldl_nil] at hk
  generalize PeerEl.hear { opened [] [] fun _ => true with host := host } _ = p1 at hk h1t h1x h1h
  change p1.host = host at h1h
  obtain ⟨h2t, h2x⟩ := hear_node h1x
    (by rw [h1t, h1h]; exact sameStation_iff.2 (map_toUpper_map_toUpper _))
    (by rw [h1t, h1h]; exact Ne.symm hcap)
    (by rw [h1t]; exact fun h => ne_nil_of_looksLikeCallsign hcall (List.map_eq_nil_iff.1 h))
  rw [hear_other h2x hw, h2t, h1h, hw.other] at hk
  apply Bool.false_ne_true
  apply hk
  · intro x hx
    rcases List.mem_cons.1 hx with rfl | hx
    · rfl
    · rw [List.mem_singleton.1 hx]
      rfl
  · exact ⟨_, List.mem_cons_self, Option.isSome_iff_exists.2 ⟨_, hnamed⟩⟩
  · exact ⟨hw.unnamed, rfl⟩

/-- The named talker is kept just if the node is configured in capitals, or as no callsign. -/
theorem keepsTalker_iff (host : List UInt8) : KeepsTalker host ↔ nodeInCapitals host := by
  constructor
  · intro hkeep
    by_contra hn
    rw [nodeInCapitals, not_or, not_not] at hn
    exact not_keepsTalker_of_callsign hn.1 hn.2.1 hn.2.2 hkeep
  · exact keepsTalker_of_nodeInCapitals

/-- `"ce5abc"`. -/
def smallHost : List UInt8 := [0x63, 0x65, 0x35, 0x61, 0x62, 0x63]

theorem not_keepsTalker : ¬∀ host, KeepsTalker host := by
  intro h
  apply not_keepsTalker_of_callsign _ _ _ (h smallHost)
  · decide +kernel
  · decide +kernel
  · decide +kernel

end PeerEl

end AdnBridge
