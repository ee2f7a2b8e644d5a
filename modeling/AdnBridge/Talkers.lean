import Mathlib.Data.List.TakeWhile
import AdnBridge.BridgeEl.BridgeEl
import AdnBridge.Lib.Bits

namespace AdnBridge
set_option autoImplicit true

/-- A label of a talker: printable, at most ten characters, and with something else than blanks
before its first dash or slash. -/
structure TalkerLabel (label : List UInt8) : Prop where
  short : label.length ≤ 10
  printable : ∀ c ∈ label, 0x20 ≤ c ∧ c ≤ 0x7E
  named : ∃ c ∈ label.takeWhile fun c => c != chDash && c != chSlash, c ≠ chSpace

/-- The id of a base callsign: the number that it is, or else what it is an alias of. -/
def talkerId (db : AliasDb) (base : List UInt8) : Int :=
  let id := callsign10ToDmrid (pad10 base)
  if id ≤ 0 then db.lookupId base else id

/-- What a talker crosses as: an unknown one with the identity of the bridge. -/
def crossesAs (db : AliasDb) (dmrid : Int) (callsign base : List UInt8) : Int × List UInt8 :=
  if 0 < talkerId db base then (talkerId db base, pad10 base) else (dmrid, callsign)

/-- The two bridges choose the same id and callsign for a label, as the remote talker of the one
and as the YSF source of the other. -/
def ResolveAlike (e : ElEnv) (e' : Env) (db : AliasDb) (label : List UInt8) : Prop :=
  ∀ (b : BridgeEl) (b' : Bridge), b.aliases = db → b'.aliases = db → b.el.remoteTalker = label →
    (b.resolveElTalker e).elRfId = (b'.assignYsfTalker e' label).2.ysfRfId ∧
      (b.resolveElTalker e).netSrc = (b'.assignYsfTalker e' label).2.netSrc

/-- The base callsign crosses as `N0CALL` does. -/
inductive CrossesAsN0call (db : AliasDb) (dmrid : Int) (callsign base : List UInt8) : Prop where
  | same (h : base = n0call)
  | unknown (h : talkerId db base ≤ 0) (h' : talkerId db n0call ≤ 0)
  | own (hid : talkerId db base = dmrid) (hcs : pad10 base = callsign)
    (h' : talkerId db n0call ≤ 0)
  | n0call (hid : talkerId db n0call = dmrid) (hcs : pad10 n0call = callsign)
    (h : talkerId db base ≤ 0)

section
variable {label base : List UInt8} {db : AliasDb} {dmrid : Int} {callsign : List UInt8}
variable {p : UInt8 → Bool}

theorem takeWhile_spaces (hp : p chSpace = false) (l : List UInt8) (k : Nat) :
    (l ++ spaces k).takeWhile p = l.takeWhile p := by
  induction l with
  | nil =>
    have h : ¬p 0x20 = true := fun h => Bool.false_ne_true (hp.symm.trans h)
    rw [List.nil_append, spaces, List.takeWhile_replicate, if_neg h]
    rfl
  | cons c l ih => rw [List.cons_append, List.takeWhile_cons, List.takeWhile_cons, ih]

theorem takeWhile_self (h : ∀ c ∈ base, p c = true) : base.takeWhile p = base :=
  List.takeWhile_eq_self_iff.2 h

theorem takeWhile_congr {q : UInt8 → Bool} (h : ∀ c ∈ base, p c = q c) :
    base.takeWhile p = base.takeWhile q := by
  induction base with
  | nil => rfl
  | cons c base ih =>
    rw [List.takeWhile_cons, List.takeWhile_cons, h c List.mem_cons_self,
      ih fun d hd => h d (List.mem_cons_of_mem c hd)]

/-- What a base callsign goes on over. -/
def inBase (c : UInt8) : Bool := c != chSpace && c != chTab && c != chDash && c != chSlash

/-- A base callsign as the resolvers cut it out. -/
structure BaseCallsign (base : List UInt8) : Prop where
  short : base.length ≤ 10
  nonempty : base ≠ []
  clean : ∀ c ∈ base, inBase c = true ∧ c ≠ 0 ∧ toUpper c = c

namespace BaseCallsign

theorem n0call : BaseCallsign n0call := ⟨by decide, by decide, by decide +kernel⟩

theorem map_toUpper (h : BaseCallsign base) : base.map toUpper = base :=
  (List.map_congr_left fun c hc => (h.clean c hc).2.2).trans (List.map_id base)

theorem format (h : BaseCallsign base) : formatYsfCallsign10 base = pad10 base := by
  have h0 : cString base = base := takeWhile_self fun c hc => bne_iff_ne.2 (h.clean c hc).2.1
  have hdash : base.takeWhile (fun c => c != chDash && c != chSlash) = base :=
    takeWhile_self fun c hc => by
      have hin := (h.clean c hc).1
      simp only [inBase, Bool.and_eq_true] at hin ⊢
      exact ⟨hin.1.2, hin.2⟩
  have hblank : base.filter (fun c => c != chSpace && c != chTab) = base :=
    List.filter_eq_self.2 fun c hc => by
      have hin := (h.clean c hc).1
      simp only [inBase, Bool.and_eq_true] at hin ⊢
      exact hin.1.1
  simp only [formatYsfCallsign10, h0, hdash, hblank, h.map_toUpper]

theorem elFormat (h : BaseCallsign base) : elFormatBase10 base = pad10 base := by
  rw [elFormatBase10, h.map_toUpper]

/-- Base callsigns are told apart by their padded forms. -/
theorem pad10_inj {base' : List UInt8} (h : BaseCallsign base) (h' : BaseCallsign base')
    (heq : pad10 base = pad10 base') : base = base' := by
  have hword : ∀ {w}, BaseCallsign w → (pad10 w).takeWhile (fun c => c != chSpace) = w := by
    intro w hw
    rw [pad10, List.take_of_length_le hw.short, takeWhile_spaces (by decide)]
    refine takeWhile_self fun c hc => ?_
    have hin := (hw.clean c hc).1
    simp only [inBase, Bool.and_eq_true] at hin
    exact hin.1.1.1
  rw [← hword h, heq, hword h']

end BaseCallsign

theorem inBase_toUpper : ∀ c : UInt8, inBase c = true → c ≠ 0 →
    inBase (toUpper c) = true ∧ toUpper c ≠ 0 :=
  forall_byte (by decide +kernel)

/-- What is skipped in front of a callsign. -/
def isLeading (c : UInt8) : Bool := c == chSpace || c == chTab

/-- Behind the blanks there is a callsign. -/
theorem base_ne_nil {l : List UInt8} (ht : ∀ c ∈ l, (c != chTab) = true)
    (hn : ∃ c ∈ l.takeWhile fun c => c != chDash && c != chSlash, c ≠ chSpace) :
    (l.dropWhile isLeading).takeWhile inBase ≠ [] := by
  induction l with
  | nil =>
    obtain ⟨c, hc, -⟩ := hn
    exact absurd hc List.not_mem_nil
  | cons d l ih =>
    obtain ⟨c, hc, hne⟩ := hn
    by_cases hd : d = chSpace
    · subst hd
      have hmem : c ∈ l.takeWhile fun c => c != chDash && c != chSlash :=
        (List.mem_cons.1 hc).resolve_left hne
      exact ih (fun c hc => ht c (List.mem_cons_of_mem _ hc)) ⟨c, hmem, hne⟩
    · have htab := ht d List.mem_cons_self
      have hblank : ¬isLeading d = true := by
        rw [isLeading, Bool.or_eq_true, beq_iff_eq, beq_iff_eq]
        exact not_or.2 ⟨hd, bne_iff_ne.1 htab⟩
      have hdash : (d != chDash && d != chSlash) = true := by
        by_contra hdash
        rw [List.takeWhile_cons, if_neg hdash] at hc
        exact absurd hc List.not_mem_nil
      have hin : inBase d = true := by
        rw [inBase, bne_iff_ne.2 hd, htab, Bool.and_assoc, hdash]
        rfl
      rw [List.dropWhile_cons_of_neg hblank, List.takeWhile_cons_of_pos hin]
      exact List.cons_ne_nil _ _

namespace TalkerLabel

theorem ne_zero (h : TalkerLabel label) : ∀ c ∈ label, (c != 0) = true := fun c hc => by
  rw [bne_iff_ne]
  rintro rfl
  exact absurd (h.printable 0 hc).1 (by decide)

theorem cString (h : TalkerLabel label) : AdnBridge.cString label = label := takeWhile_self h.ne_zero

theorem not_tab (h : TalkerLabel label) : ∀ c ∈ label, (c != chTab) = true := fun c hc => by
  rw [bne_iff_ne]
  rintro rfl
  exact absurd (h.printable chTab hc).1 (by decide)

theorem ne_nil (h : TalkerLabel label) : label ≠ [] := by
  rintro rfl
  obtain ⟨c, hc, -⟩ := h.named
  exact List.not_mem_nil hc

theorem ysf_takeWhile (h : TalkerLabel label) :
    label.takeWhile (fun c => c != chSpace && c != 0 && c != chDash && c != chSlash) =
      label.takeWhile inBase :=
  takeWhile_congr fun c hc => by rw [inBase, h.ne_zero c hc, h.not_tab c hc]

/-- What the label holds behind its blanks. -/
theorem elBase (h : TalkerLabel label) :
    elCallsignBase label = ((label.dropWhile isLeading).takeWhile inBase).map toUpper := by
  have hlen : ((label.dropWhile isLeading).takeWhile inBase).length ≤ 15 :=
    ((List.takeWhile_sublist _).length_le.trans (List.dropWhile_sublist _).length_le).trans
      (h.short.trans (by decide))
  rw [elCallsignBase, h.cString]
  exact congrArg (List.map toUpper) (List.take_of_length_le hlen)

theorem elBase_callsign (h : TalkerLabel label) : BaseCallsign (elCallsignBase label) := by
  rw [h.elBase]
  have hsub : ∀ c ∈ (label.dropWhile isLeading).takeWhile inBase, c ∈ label := fun c hc =>
    (List.dropWhile_sublist _).subset ((List.takeWhile_sublist _).subset hc)
  constructor
  · rw [List.length_map]
    exact ((List.takeWhile_sublist _).length_le.trans (List.dropWhile_sublist _).length_le).trans
      h.short
  · rw [ne_eq, List.map_eq_nil_iff]
    exact base_ne_nil h.not_tab h.named
  · intro d hd
    obtain ⟨c, hc, rfl⟩ := List.mem_map.1 hd
    obtain ⟨hin, h0⟩ := inBase_toUpper c (List.mem_takeWhile_imp hc)
      (bne_iff_ne.1 (h.ne_zero c (hsub c hc)))
    exact ⟨hin, h0, toUpper_toUpper c⟩

/-- The YSF side looks at the label from its first character on. -/
theorem ysfBase (h : TalkerLabel label) : ysfCallsignBaseSrc label =
    if label.head? = some chSpace then n0call else elCallsignBase label := by
  have hpad : (pad10 label).take 10 = label ++ spaces (10 - label.length) := by
    rw [pad10, List.take_of_length_le h.short, List.take_of_length_le]
    have := h.short
    rw [List.length_append, spaces, List.length_replicate]
    omega
  have htake : ((pad10 label).take 10).takeWhile
      (fun c => c != chSpace && c != 0 && c != chDash && c != chSlash) = label.takeWhile inBase := by
    rw [hpad, takeWhile_spaces (by decide), h.ysf_takeWhile]
  rw [ysfCallsignBaseSrc, List.take_of_length_le h.short, h.cString, ysfCallsignBase10]
  simp only [htake]
  cases label with
  | nil => exact absurd rfl h.ne_nil
  | cons c l =>
    by_cases hc : c = chSpace
    · subst hc
      rfl
    · have hblank : ¬isLeading c = true := by
        rw [isLeading, Bool.or_eq_true, beq_iff_eq, beq_iff_eq]
        exact not_or.2 ⟨hc, bne_iff_ne.1 (h.not_tab c List.mem_cons_self)⟩
      have hne := base_ne_nil h.not_tab h.named
      have hhead : ¬(c :: l).head? = some chSpace := fun hs => hc (Option.some.inj hs)
      rw [if_neg hhead, h.elBase]
      rw [List.dropWhile_cons_of_neg hblank] at hne ⊢
      rw [if_neg fun he => hne (List.isEmpty_iff.1 he)]

theorem ysfBase_callsign (h : TalkerLabel label) : BaseCallsign (ysfCallsignBaseSrc label) := by
  rw [h.ysfBase]
  split
  · exact .n0call
  · exact h.elBase_callsign

end TalkerLabel

/-- What a bridge takes a base callsign from YSF for. -/
def heardAs (db : AliasDb) (dmrid : Int) (callsign base : List UInt8) : Int × List UInt8 :=
  let talker := formatYsfCallsign10 base
  let id := callsign10ToDmrid talker
  let id := if id ≤ 0 then db.lookupId base else id
  if 0 < id then (id, talker) else (dmrid, callsign)

theorem BaseCallsign.heardAs (h : BaseCallsign base) (db : AliasDb) (dmrid : Int)
    (callsign : List UInt8) :
    heardAs db dmrid callsign base = crossesAs db dmrid callsign base := by
  simp only [AdnBridge.heardAs, h.format]
  rfl

/-- `bridge_assign_ysf_talker`, by the base callsign. -/
theorem assignYsfTalker_heardAs (e : Env) (b : Bridge) (label : List UInt8) :
    ((b.assignYsfTalker e label).2.ysfRfId, (b.assignYsfTalker e label).2.netSrc) =
      heardAs b.aliases e.cfg.dmrid e.cfg.callsign (ysfCallsignBaseSrc label) := by
  have hpos : e.cfg.dmrid > 0 := e.cfg.dmrid_pos
  simp only [Bridge.assignYsfTalker, heardAs, Bridge.findYsfDmrid]
  by_cases hnum : callsign10ToDmrid (formatYsfCallsign10 (ysfCallsignBaseSrc label)) ≤ 0
  · simp only [if_pos hnum]
    by_cases hid : 0 < b.aliases.lookupId (ysfCallsignBaseSrc label)
    · simp only [if_pos hid]
    · simp only [if_neg hid, Int.lt_irrefl, if_false, if_pos hpos]
  · simp only [if_neg hnum, if_pos (Int.not_le.1 hnum)]

theorem assignYsfTalker_eq (e : Env) (b : Bridge) (h : BaseCallsign (ysfCallsignBaseSrc label)) :
    ((b.assignYsfTalker e label).2.ysfRfId, (b.assignYsfTalker e label).2.netSrc) =
      crossesAs b.aliases e.cfg.dmrid e.cfg.callsign (ysfCallsignBaseSrc label) :=
  (assignYsfTalker_heardAs e b label).trans (h.heardAs _ _ _)

/-- `bridge_el_resolve_el_talker` in the DMR mode, by the base callsign. -/
theorem resolveElTalker_eq_crossesAs {e : ElEnv} (hmode : e.cfg.mode = .echolinkDmr) {b : BridgeEl}
    (h : TalkerLabel label) (hb : b.el.remoteTalker = label) :
    ((b.resolveElTalker e).elRfId, (b.resolveElTalker e).netSrc) =
      crossesAs b.aliases e.cfg.dmrid e.cfg.dmrCallsign (elCallsignBase label) := by
  have hbest : b.el.bestTalker = label := by
    have hne : (!label.isEmpty) = true := by
      rw [Bool.not_eq_true', List.isEmpty_eq_false_iff]
      exact h.ne_nil
    rw [PeerEl.bestTalker, hb, if_pos hne]
  have hlabel : label.isEmpty = false := List.isEmpty_eq_false_iff.2 h.ne_nil
  have hbase : (elCallsignBase label).isEmpty = false :=
    List.isEmpty_eq_false_iff.2 h.elBase_callsign.nonempty
  have htalker : b.elTalker = (label, elCallsignBase label,
      talkerId b.aliases (elCallsignBase label)) := by
    simp only [BridgeEl.elTalker, hbest, hlabel, hbase, Bool.false_eq_true, if_false,
      h.elBase_callsign.elFormat, talkerId, Bool.not_false, and_true]
  rw [BridgeEl.resolveElTalker, htalker]
  simp only [hmode, h.elBase_callsign.elFormat, crossesAs]
  by_cases hid : 0 < talkerId b.aliases (elCallsignBase label)
  · simp only [if_pos hid]
  · simp only [if_neg hid]

theorem crossesAs_eq_n0call (h : BaseCallsign base) :
    crossesAs db dmrid callsign base = crossesAs db dmrid callsign n0call ↔
      CrossesAsN0call db dmrid callsign base := by
  rw [crossesAs, crossesAs]
  constructor
  · intro heq
    by_cases hb : 0 < talkerId db base
    · rw [if_pos hb] at heq
      by_cases hn : 0 < talkerId db n0call
      · rw [if_pos hn] at heq
        exact .same (h.pad10_inj .n0call (congrArg Prod.snd heq))
      · rw [if_neg hn] at heq
        exact .own (congrArg Prod.fst heq) (congrArg Prod.snd heq) (Int.not_lt.1 hn)
    · rw [if_neg hb] at heq
      by_cases hn : 0 < talkerId db n0call
      · rw [if_pos hn] at heq
        exact .n0call (congrArg Prod.fst heq).symm (congrArg Prod.snd heq).symm (Int.not_lt.1 hb)
      · exact .unknown (Int.not_lt.1 hb) (Int.not_lt.1 hn)
  · intro hcross
    cases hcross with
    | same h => rw [h]
    | unknown h h' => rw [if_neg (Int.not_lt.2 h), if_neg (Int.not_lt.2 h')]
    | own hid hcs h' => rw [if_neg (Int.not_lt.2 h'), hid, hcs, ite_self]
    | n0call hid hcs h => rw [if_neg (Int.not_lt.2 h), hid, hcs, ite_self]

/-- The bridges resolve a label alike just if it does not begin with a blank, or what stands behind
the blanks crosses as `N0CALL` does. -/
theorem resolveAlike_iff {e : ElEnv} {e' : Env} (hmode : e.cfg.mode = .echolinkDmr)
    (hid : e.cfg.dmrid = e'.cfg.dmrid) (hcs : e.cfg.dmrCallsign = e'.cfg.callsign)
    (h : TalkerLabel label) : ResolveAlike e e' db label ↔ label.head? ≠ some chSpace ∨
      CrossesAsN0call db e.cfg.dmrid e.cfg.dmrCallsign (elCallsignBase label) := by
  have hstep : ∀ (b : BridgeEl) (b' : Bridge), b.aliases = db → b'.aliases = db →
      b.el.remoteTalker = label →
      ((b.resolveElTalker e).elRfId = (b'.assignYsfTalker e' label).2.ysfRfId ∧
        (b.resolveElTalker e).netSrc = (b'.assignYsfTalker e' label).2.netSrc ↔
        label.head? ≠ some chSpace ∨
          CrossesAsN0call db e.cfg.dmrid e.cfg.dmrCallsign (elCallsignBase label)) := by
    intro b b' hb hb' hlabel
    rw [← Prod.mk.injEq, resolveElTalker_eq_crossesAs hmode h hlabel,
      assignYsfTalker_eq e' b' h.ysfBase_callsign, hb, hb', ← hid, ← hcs, h.ysfBase]
    by_cases hspace : label.head? = some chSpace
    · rw [if_pos hspace, crossesAs_eq_n0call h.elBase_callsign]
      exact (or_iff_right fun hno => hno hspace).symm
    · rw [if_neg hspace]
      exact iff_of_true rfl (.inl hspace)
  constructor
  · intro hall
    exact (hstep { BridgeEl.init (.stopped 0) db samplePeerEl with el :=
      { samplePeerEl with remoteTalker := label } } (Bridge.init (.stopped 0) db) rfl rfl rfl).1
        (hall _ _ rfl rfl rfl)
  · intro hcond b b' hb hb' hlabel
    exact (hstep b b' hb hb' hlabel).2 hcond

end

/-- `"CE5RPY-L"`. -/
def linkLabel : List UInt8 := [0x43, 0x45, 0x35, 0x52, 0x50, 0x59, 0x2D, 0x4C]

theorem linkLabel_talker : TalkerLabel linkLabel :=
  ⟨by decide, by decide +kernel, 0x43, by decide, by decide⟩

/-- A table with an id for `CE5RPY`. -/
def oneAlias : AliasDb :=
  ⟨fun base => if base = elCallsignBase linkLabel then 7302000 else 0, fun _ => none⟩

theorem resolveAlike_iff_sample :
    ResolveAlike (sampleElEnv .echolinkDmr) sampleEnv oneAlias linkLabel ∧
      talkerId oneAlias (elCallsignBase linkLabel) = 7302000 :=
  ⟨(resolveAlike_iff rfl rfl rfl linkLabel_talker).2 (.inl (by decide)), by decide +kernel⟩

/-- With a blank before it a known callsign crosses from YSF as that of the bridge. -/
theorem not_resolveAlike :
    ¬ResolveAlike (sampleElEnv .echolinkDmr) sampleEnv oneAlias (chSpace :: linkLabel.take 6) := by
  intro h
  have hb := (h { BridgeEl.init (.stopped 0) oneAlias samplePeerEl with
    el := { samplePeerEl with remoteTalker := chSpace :: linkLabel.take 6 } }
    (Bridge.init (.stopped 0) oneAlias) rfl rfl rfl).1
  revert hb
  decide +kernel

end AdnBridge
