import AdnBridge.BridgeEl.Accounts
import AdnBridge.BridgeEl.Audio

namespace AdnBridge
set_option autoImplicit true

/-- The arrays hold what the bridge holds in lists. -/
structure Inbound.Shows (s : Inbound) (b : BridgeEl) : Prop where
  pcmIn : s.pcmIn.view = b.el.pcmIn
  acc : s.pcmElAcc.toList.take s.pcmElAccN = b.pcmElAcc
  elAmbe : s.elAmbeBuf.toList.take s.elAmbeCount = b.elAmbe
  ysfAmbe : s.ysfAmbeBuf.toList.take s.ysfAmbeCount = b.ysfAmbe

namespace Inbound.Shows

variable {s : Inbound} {b : BridgeEl}

theorem dropDmrAmbe (h : s.Shows b) : s.dropDmrAmbe.Shows b.dropDmrAmbe :=
  ⟨h.pcmIn, h.acc, rfl, h.ysfAmbe⟩

theorem dropYsfAmbe (h : s.Shows b) : s.dropYsfAmbe.Shows b.dropYsfAmbe :=
  ⟨h.pcmIn, h.acc, h.elAmbe, rfl⟩

theorem modeconv_foldl (l : List (List UInt8)) (op : List UInt8 → ConvOp) (e : ElEnv)
    (h : s.Shows b) : s.Shows (l.foldl (fun b a => b.modeconv e (op a)) b) := by
  induction l generalizing b with
  | nil => exact h
  | cons a l ih => exact ih ⟨h.pcmIn, h.acc, h.elAmbe, h.ysfAmbe⟩

theorem takeDmrAmbe (h : s.Shows b) (hs : s.Whole) (turn : ElTurn) (ambe : List UInt8) (e : ElEnv) :
    (takeDmrAmbe turn ambe s).Shows (b.takeDmrAmbe e ambe) := by
  have hle := hs.keeps.elAmbe
  have hput := take_setIfInBounds s.elAmbeBuf ambe (Nat.lt_succ_of_le hle)
  have hlen : (b.elAmbe ++ [ambe]).length = s.elAmbeCount + 1 := by
    rw [← h.elAmbe, List.length_append, List.length_take, Vector.length_toList,
      Nat.min_eq_left (by omega)]
    rfl
  have hshown : ({ s with
      elAmbeBuf := s.elAmbeBuf.setIfInBounds s.elAmbeCount ambe,
      elAmbeCount := s.elAmbeCount + 1 }.note (.store s.elAmbeCount 3)).Shows
      { b with elAmbe := b.elAmbe ++ [ambe] } :=
    ⟨h.pcmIn, h.acc, hput.trans (h.elAmbe ▸ rfl), h.ysfAmbe⟩
  rw [Inbound.takeDmrAmbe, BridgeEl.takeDmrAmbe]
  simp only [hlen]
  by_cases hlt : s.elAmbeCount + 1 < 3
  · rw [if_pos hlt]
    exact (congrArg (Shows · _) (if_pos hlt)).mpr hshown
  · rw [if_neg hlt]
    exact (congrArg (Shows · _) (if_neg hlt)).mpr (hshown.modeconv_foldl _ .putAmbe7 e).dropDmrAmbe

theorem takeYsfAmbe (h : s.Shows b) (hs : s.Whole) {turn : ElTurn}
    (hidle : turn.idle = decide (b.callActive = .idle)) (ambe : List UInt8) (e : ElEnv) :
    (takeYsfAmbe turn ambe s).Shows (b.takeYsfAmbe e ambe) := by
  rw [Inbound.takeYsfAmbe, BridgeEl.takeYsfAmbe]
  have hbegun : (if turn.idle then { s with ysfAmbeCount := 0, pcmElAccN := 0 } else s).Shows
      (if b.callActive = .idle then b.beginElToYsf e else b) ∧
      (if turn.idle then { s with ysfAmbeCount := 0, pcmElAccN := 0 } else s).ysfAmbeCount ≤ 4 := by
    by_cases hi : b.callActive = .idle
    · rw [if_pos hi, if_pos (hidle.trans (decide_eq_true hi))]
      obtain ⟨src, id, hb⟩ := BridgeEl.resolveElTalker_eq e b
      rw [BridgeEl.beginElToYsf, hb]
      exact ⟨⟨h.pcmIn, rfl, h.elAmbe, rfl⟩, Nat.zero_le _⟩
    · rw [if_neg hi, if_neg (by rw [hidle, decide_eq_false hi]; decide)]
      exact ⟨h, hs.keeps.ysfAmbe⟩
  generalize (if turn.idle then { s with ysfAmbeCount := 0, pcmElAccN := 0 } else s) = s' at hbegun
  generalize (if b.callActive = .idle then b.beginElToYsf e else b) = b' at hbegun
  obtain ⟨h, hle⟩ := hbegun
  have hput := take_setIfInBounds s'.ysfAmbeBuf ambe (Nat.lt_succ_of_le hle)
  have hlen : (b'.ysfAmbe ++ [ambe]).length = s'.ysfAmbeCount + 1 := by
    rw [← h.ysfAmbe, List.length_append, List.length_take, Vector.length_toList,
      Nat.min_eq_left (by omega)]
    rfl
  have hshown : ({ s' with
      ysfAmbeBuf := s'.ysfAmbeBuf.setIfInBounds s'.ysfAmbeCount ambe,
      ysfAmbeCount := s'.ysfAmbeCount + 1 }.note (.store s'.ysfAmbeCount 5)).Shows
      { b' with ysfAmbe := b'.ysfAmbe ++ [ambe] } :=
    ⟨h.pcmIn, h.acc, h.elAmbe, hput.trans (h.ysfAmbe ▸ rfl)⟩
  simp only [hlen]
  by_cases hlt : s'.ysfAmbeCount + 1 < 5
  · rw [if_pos hlt]
    exact (congrArg (Shows · _) (if_pos hlt)).mpr hshown
  · rw [if_neg hlt]
    exact (congrArg (Shows · _) (if_neg hlt)).mpr
      (hshown.modeconv_foldl _ .putAmbe7Ysf e).dropYsfAmbe

end Inbound.Shows

/-- Reading away touches the ring only. -/
theorem Inbound.readAway_eq (fuel : Nat) (s : Inbound) :
    ∃ ring trace, s.readAway fuel = { s with pcmIn := ring, trace := trace } := by
  induction fuel generalizing s with
  | zero => exact ⟨_, _, rfl⟩
  | succ fuel ih =>
    rw [readAway]
    by_cases hn : (s.peerElReadPcm 160).1 = []
    · simp only [if_pos hn]
      exact ⟨_, _, rfl⟩
    · simp only [if_neg hn]
      exact ih _

/-- What the arrays and the lists do with a frame. -/
structure Mirrors (e : ElEnv) (dropA : Inbound → Inbound)
    (takeA : ElTurn → List UInt8 → Inbound → Inbound) (dropB : BridgeEl → BridgeEl)
    (takeB : List UInt8 → BridgeEl → BridgeEl) : Prop where
  handles : Inbound.Handles dropA takeA
  drop : ∀ s b, s.Shows b → (dropA s).Shows (dropB b)
  take : ∀ s b turn ambe, s.Shows b → s.Whole → turn.idle = decide (b.callActive = .idle) →
    (takeA turn ambe s).Shows (takeB ambe b)

/-- The turn that the bridge makes of its own state. -/
def BridgeEl.turn (voc : Vocoder) (calls : Nat) (b : BridgeEl) : ElTurn where
  idle := decide (b.callActive = .idle)
  inCooldown := b.readFrame.hear.inCooldown.1
  encode := voc.encode calls

/-- A frame is read into the lists as it is into the arrays. -/
theorem Inbound.Shows.read {s : Inbound} {b : BridgeEl} (h : s.Shows b) (hs : s.Whole) :
    (s.peerElReadPcm 160).1 = b.readFrame.pcmElAcc ∧
      (s.peerElReadPcm 160).2.pcmIn.view = b.readFrame.el.pcmIn := by
  obtain ⟨-, htake, hdrop⟩ := CountedRing.popMany_spec hs.keeps.ring 160
  have hacc : b.pcmElAcc = [] := by
    rw [← h.acc, hs.acc]
    rfl
  constructor
  · change (s.pcmIn.popMany 160).1 = (b.pcmElAcc ++ b.el.pcmIn.take 160).take 160
    rw [htake, h.pcmIn, hacc, List.nil_append, List.take_take]
    rfl
  · change (s.pcmIn.popMany 160).2.view = b.el.pcmIn.drop 160
    rw [hdrop, h.pcmIn]

/-- After too many failures nothing is left on either side. -/
theorem Inbound.Shows.readAway {s : Inbound} {b : BridgeEl} (h : s.Shows b)
    (hs : s.Whole) (turns : Nat → ElTurn) (hfails : ∃ n frame, (turns n).encode frame = none) :
    ({ s.readAway (s.pcmIn.count + 1) with pcmElAccN := 0 } : Inbound).Shows
      { b with el := b.el.dropPcmIn } := by
  have h0 := (hs.readAway turns (Nat.lt_succ_self _) hfails).2.ring
  obtain ⟨ring, trace, haway⟩ := readAway_eq (s.pcmIn.count + 1) s
  have hacc : [] = b.pcmElAcc := by
    rw [← h.acc, hs.acc]
    rfl
  rw [haway] at h0 ⊢
  exact ⟨List.length_eq_zero_iff.1 (ring.view_length.trans h0), hacc, h.elAmbe, h.ysfAmbe⟩

/-- The turn of the bridge for a frame that has been read. -/
theorem BridgeEl.elLoop_frame {e : ElEnv} {b : BridgeEl} (hne : b.el.pcmIn ≠ [])
    (hlen : 160 ≤ b.readFrame.pcmElAcc.length) (voc : Vocoder) (calls : Nat) :
    ∃ (b1 : BridgeEl) (frame : List Int16), (b1.callActive = b.callActive ∧
        b1.el = b.readFrame.el ∧ b1.pcmElAcc = [] ∧ b1.elAmbe = b.elAmbe ∧
        b1.ysfAmbe = b.ysfAmbe) ∧ frame = b.readFrame.pcmElAcc ∧
      ∀ drop take fuel streak, elLoop e voc drop take (fuel + 1) calls streak b =
        if (b.turn voc calls).idle ∧ (b.turn voc calls).inCooldown then
          elLoop e voc drop take fuel calls streak (drop { b1 with elSpeechRun := false })
        else
          let b2 := { b1 with
            elSpeechRun := if b1.callActive = .idle then true else b1.elSpeechRun }
          match voc.encode calls (frame.map e.gain) with
          | none =>
            if streak + 1 ≥ 3 then drop { b2 with el := b2.el.dropPcmIn }
            else elLoop e voc drop take fuel (calls + 1) (streak + 1) b2
          | some ambe => elLoop e voc drop take fuel (calls + 1) 0 (take ambe b2) := by
  obtain ⟨c, hc⟩ := inCooldown_eq b.readFrame.hear
  refine ⟨{ b.readFrame.hear.inCooldown.2 with pcmElAcc := [] },
    b.readFrame.hear.inCooldown.2.pcmElAcc, ?_, ?_, fun drop take fuel streak => ?_⟩
  · rw [hc]
    exact ⟨rfl, rfl, rfl, rfl, rfl⟩
  · rw [hc]
    rfl
  · have hempty : ¬b.el.pcmIn.isEmpty = true := mt List.isEmpty_iff.1 hne
    have hfull : ¬b.readFrame.pcmElAcc.length < 160 := Nat.not_lt.2 hlen
    have hcall : b.readFrame.hear.inCooldown.2.callActive = b.callActive := by
      rw [hc]
      rfl
    have hiff : b.readFrame.hear.inCooldown.2.callActive = .idle ∧
        b.readFrame.hear.inCooldown.1 = true ↔
        (b.turn voc calls).idle = true ∧ (b.turn voc calls).inCooldown = true := by
      rw [hcall]
      exact (and_congr_left' decide_eq_true_iff).symm
    rw [BridgeEl.elLoop]
    exact (if_neg hempty).trans ((if_neg hfull).trans (if_congr hiff rfl rfl))

/-- The loop over the arrays follows the loop of the bridge. -/
theorem Inbound.elLoop_shows {e : ElEnv} {dropA : Inbound → Inbound}
    {takeA : ElTurn → List UInt8 → Inbound → Inbound} {dropB : BridgeEl → BridgeEl}
    {takeB : List UInt8 → BridgeEl → BridgeEl} (hm : Mirrors e dropA takeA dropB takeB)
    (voc : Vocoder) {s : Inbound} {b : BridgeEl} (hs : s.Whole) (h : s.Shows b)
    {fuel fuel' : Nat} (hfuel : s.pcmIn.count < fuel) (hfuel' : s.pcmIn.count ≤ fuel')
    (calls streak : Nat) :
    ∃ turns, (Inbound.elLoop e.gain dropA takeA fuel turns streak s).Shows
      (BridgeEl.elLoop e voc dropB takeB fuel' calls streak b) := by
  induction fuel generalizing s b fuel' calls streak with
  | zero => cases hfuel
  | succ fuel ih =>
    obtain ⟨hread, hkeeps, hacc, hcount⟩ := hs.peerElReadPcm
    obtain ⟨hpcm, hview⟩ := h.read hs
    have hlen : b.el.pcmIn.length = s.pcmIn.count := by
      rw [← h.pcmIn, CountedRing.view_length]
    rcases hread with ⟨hnil, h0⟩ | h160
    · refine ⟨fun _ => b.turn voc calls, ?_⟩
      have hempty : b.el.pcmIn = [] := List.length_eq_zero_iff.1 (hlen.trans h0)
      have hb : BridgeEl.elLoop e voc dropB takeB fuel' calls streak b = b := by
        cases fuel' with
        | zero => rfl
        | succ fuel' =>
          rw [BridgeEl.elLoop, hempty]
          rfl
      rw [hb, Inbound.elLoop]
      simp only [if_pos hnil]
      refine ⟨hview.trans ?_, h.acc, h.elAmbe, h.ysfAmbe⟩
      change b.el.pcmIn.drop 160 = b.el.pcmIn
      rw [hempty]
      rfl
    · have hne : b.el.pcmIn ≠ [] := by
        intro he
        rw [he] at hlen
        rw [← hlen, List.length_nil] at hcount
        omega
      obtain ⟨acc, hloop⟩ := Inbound.elLoop_frame hs h160 e.gain dropA takeA fuel
      obtain ⟨b1, frame, ⟨hcall, hel, hacc1, hdmr, hysf⟩, hframe, hloopB⟩ :=
        BridgeEl.elLoop_frame (e := e) hne (hpcm ▸ Nat.le_of_eq h160.symm) voc calls
      obtain ⟨n, rfl⟩ : ∃ n, fuel' = n + 1 := ⟨fuel' - 1, by omega⟩
      have hturn : ∀ turns' : Nat → ElTurn, ∃ turns : Nat → ElTurn,
        turns 0 = b.turn voc calls ∧ (fun n => turns (n + 1)) = turns' := fun turns' =>
          ⟨fun n => Nat.casesOn n (b.turn voc calls) turns', rfl, rfl⟩
      have hread : ({ (s.peerElReadPcm 160).2 with pcmElAccN := 0 } : Inbound).Shows b1 :=
        ⟨hview.trans (congrArg PeerEl.pcmIn hel).symm, hacc1.symm, h.elAmbe.trans hdmr.symm,
          h.ysfAmbe.trans hysf.symm⟩
      rw [hloopB, hframe, ← hpcm]
      generalize s.peerElReadPcm 160 = r at hkeeps hacc hcount h160 hread hloop
      simp only at hloop
      by_cases hif : (b.turn voc calls).idle = true ∧ (b.turn voc calls).inCooldown = true
      · have hdone : ({ r.2 with pcmElAcc := acc, pcmElAccN := 0 }.note (.cooldown r.1)).Whole :=
          hkeeps.settle acc (a := .cooldown r.1) trivial rfl rfl
        have hshown : ({ r.2 with pcmElAcc := acc, pcmElAccN := 0 }.note (.cooldown r.1)).Shows
            { b1 with elSpeechRun := false } :=
          ⟨hread.pcmIn, hread.acc, hread.elAmbe, hread.ysfAmbe⟩
        obtain ⟨hw, hring, -⟩ := hm.handles.drop _ hdone
        have hleft : (dropA ({ r.2 with pcmElAcc := acc, pcmElAccN := 0 }.note
            (.cooldown r.1))).pcmIn.count = r.2.pcmIn.count := congrArg CountedRing.count hring
        obtain ⟨turns', hshows⟩ := ih hw (hm.drop _ _ hshown) (by omega)
          (show _ ≤ n by omega) calls streak
        obtain ⟨turns, h0, hrest⟩ := hturn turns'
        refine ⟨turns, ?_⟩
        rw [hloop, h0, hrest, if_pos hif, if_pos hif]
        exact hshows
      · generalize (if b1.callActive = .idle then true else b1.elSpeechRun) = run
        have hcode : ({ r.2 with pcmElAcc := acc.map e.gain, pcmElAccN := 0 }.note
            (.encode r.1)).Whole :=
          hkeeps.settle (acc.map e.gain) (a := .encode r.1) h160 rfl rfl
        have hshown : ({ r.2 with pcmElAcc := acc.map e.gain, pcmElAccN := 0 }.note
            (.encode r.1)).Shows { b1 with elSpeechRun := run } :=
          ⟨hread.pcmIn, hread.acc, hread.elAmbe, hread.ysfAmbe⟩
        have hleft : ({ r.2 with pcmElAcc := acc.map e.gain, pcmElAccN := 0 }.note
            (.encode r.1)).pcmIn.count = r.2.pcmIn.count := rfl
        have hcall : { b1 with elSpeechRun := run }.callActive = b.callActive := hcall
        rw [if_neg hif]
        generalize ({ b1 with elSpeechRun := run } : BridgeEl) = b2 at hshown hcall ⊢
        simp only
        generalize ({ r.2 with pcmElAcc := acc.map e.gain, pcmElAccN := 0 } : Inbound).note
          (.encode r.1) = s2 at hcode hshown hleft hloop
        cases henc : voc.encode calls (r.1.map e.gain) with
        | none =>
          have henc : (b.turn voc calls).encode (r.1.map e.gain) = none := henc
          by_cases hstreak : streak + 1 ≥ 3
          · refine ⟨fun _ => b.turn voc calls, ?_⟩
            rw [hloop, if_neg hif]
            simp only [henc, if_pos hstreak]
            exact hm.drop _ _ (hshown.readAway hcode (fun _ => b.turn voc calls)
              ⟨0, _, henc⟩)
          · obtain ⟨turns', hshows⟩ := ih hcode hshown (by omega) (show _ ≤ n by omega)
              (calls + 1) (streak + 1)
            obtain ⟨turns, h0, hrest⟩ := hturn turns'
            refine ⟨turns, ?_⟩
            rw [hloop, h0, hrest, if_neg hif]
            simp only [henc, if_neg hstreak]
            exact hshows
        | some ambe =>
          have henc : (b.turn voc calls).encode (r.1.map e.gain) = some ambe := henc
          obtain ⟨hw, hring, -⟩ := hm.handles.take (b.turn voc calls) ambe s2 hcode
          have hcount' : (takeA (b.turn voc calls) ambe s2).pcmIn.count = s2.pcmIn.count :=
            congrArg CountedRing.count hring
          have htake := hm.take s2 b2 (b.turn voc calls) ambe hshown hcode
            (hcall ▸ rfl)
          obtain ⟨turns', hshows⟩ := ih hw htake (by omega)
            (show _ ≤ n by omega) (calls + 1) 0
          obtain ⟨turns, h0, hrest⟩ := hturn turns'
          refine ⟨turns, ?_⟩
          rw [hloop, h0, hrest, if_neg hif]
          simp only [henc]
          exact hshows

theorem dmr_mirrors (e : ElEnv) : Mirrors e Inbound.dropDmrAmbe Inbound.takeDmrAmbe
    BridgeEl.dropDmrAmbe (fun ambe b => b.takeDmrAmbe e ambe) where
  handles := Inbound.dmr_handles
  drop _ _ h := h.dropDmrAmbe
  take _ _ turn ambe h hs _ := h.takeDmrAmbe hs turn ambe e

theorem ysf_mirrors (e : ElEnv) : Mirrors e Inbound.dropYsfAmbe Inbound.takeYsfAmbe
    BridgeEl.dropYsfAmbe (fun ambe b => b.takeYsfAmbe e ambe) where
  handles := Inbound.ysf_handles
  drop _ _ h := h.dropYsfAmbe
  take _ _ _ ambe h hs hidle := h.takeYsfAmbe hs hidle ambe e

variable {e : ElEnv} {s : Inbound} {b : BridgeEl}

/-- What the bridge does with the inbound PCM is a step of the arrays. -/
theorem processElAudio_shows (hs : s.Whole) (h : s.Shows b) (voc : Vocoder) :
    ∃ busy turns, (s.step e.gain (.elAudio busy turns)).Shows (b.processElAudio e voc) := by
  rw [BridgeEl.processElAudio]
  by_cases hm : e.cfg.mode ≠ .echolinkDmr
  · rw [if_pos hm]
    exact ⟨true, fun _ => b.turn voc 0, h⟩
  rw [if_neg hm]
  by_cases hr : b.callActive = .elRx ∨ b.dmrEnding = true
  · rw [if_pos hr]
    exact ⟨true, fun _ => b.turn voc 0, h⟩
  rw [if_neg hr]
  have hlen : s.pcmIn.count ≤ b.el.pcmIn.length := by
    rw [← h.pcmIn, CountedRing.view_length]
  obtain ⟨turns, hshows⟩ := Inbound.elLoop_shows (dmr_mirrors e) voc hs h (Nat.lt_succ_self _) hlen 0 0
  exact ⟨false, turns, hshows⟩

theorem reheader_shows (h : s.Shows b) :
    s.Shows (if b.callActive = .elTx then b.ysfReheaderIfTalkerChanged e else b) := by
  split
  · rw [BridgeEl.ysfReheaderIfTalkerChanged]
    obtain ⟨src, id, hb⟩ := BridgeEl.resolveElTalker_eq e b
    simp only [hb]
    split
    · exact h
    · split
      · exact h
      · split
        · exact h
        · split
          · exact ⟨h.pcmIn, h.acc, h.elAmbe, h.ysfAmbe⟩
          · exact ⟨h.pcmIn, h.acc, h.elAmbe, h.ysfAmbe⟩
  · exact h

theorem processElToYsf_shows (hs : s.Whole) (h : s.Shows b) (voc : Vocoder) :
    ∃ busy turns, (s.step e.gain (.elToYsf busy turns)).Shows (b.processElToYsf e voc) := by
  rw [BridgeEl.processElToYsf]
  by_cases hm : e.cfg.mode ≠ .echolinkYsf
  · rw [if_pos hm]
    exact ⟨true, fun _ => b.turn voc 0, h⟩
  rw [if_neg hm]
  by_cases hr : b.callActive = .elRx ∨ b.ysfEnding = true
  · rw [if_pos hr]
    exact ⟨true, fun _ => b.turn voc 0, h⟩
  rw [if_neg hr]
  have hb := reheader_shows (e := e) h
  generalize (if b.callActive = .elTx then b.ysfReheaderIfTalkerChanged e else b) = b' at hb
  have hlen : s.pcmIn.count ≤ b'.el.pcmIn.length := by
    rw [← hb.pcmIn, CountedRing.view_length]
  obtain ⟨turns, hshows⟩ := Inbound.elLoop_shows (ysf_mirrors e) voc hs hb (Nat.lt_succ_self _) hlen 0 0
  exact ⟨false, turns, hshows⟩

end AdnBridge
