import AdnBridge.BridgeEl.BridgeEl

namespace AdnBridge
set_option autoImplicit true

namespace BridgeEl

variable {e : ElEnv} {b b' : BridgeEl} {voc : Vocoder}

/-- What the audio loop itself changes, `drop` and `take` apart. -/
def withAudio (b : BridgeEl) (el : PeerEl) (acc : List Int16) (clock : Clock) (speech : Timespec)
    (run : Bool) : BridgeEl :=
  { b with el := el, pcmElAcc := acc, clock := clock, lastElSpeech := speech, elSpeechRun := run }

theorem inCooldown_eq (b : BridgeEl) : ∃ c, b.inCooldown.2 = { b with clock := c } := by
  rw [inCooldown]
  split
  · exact ⟨b.clock.next, rfl⟩
  · exact ⟨b.clock, rfl⟩

/-- What the bookkeeping, `drop` and `take` keep, the audio loop keeps. -/
theorem elLoop_invariant {I : BridgeEl → Prop} {drop : BridgeEl → BridgeEl}
    {take : List UInt8 → BridgeEl → BridgeEl}
    (haudio : ∀ b el acc clock speech run, I b → I (b.withAudio el acc clock speech run))
    (hdrop : ∀ b, I b → I (drop b)) (htake : ∀ a b, I b → I (take a b)) (fuel calls streak : Nat)
    (h : I b) : I (elLoop e voc drop take fuel calls streak b) := by
  induction fuel generalizing calls streak b with
  | zero => exact h
  | succ fuel ih =>
    rw [elLoop]
    have h1 : I b.readFrame := haudio b _ _ b.clock b.lastElSpeech b.elSpeechRun h
    generalize b.readFrame = b1 at h1 ⊢
    simp only
    obtain ⟨c, hc⟩ := inCooldown_eq b1.hear
    have h2 : I b1.hear.inCooldown.2 := by
      rw [hc]
      exact haudio b1 b1.el b1.pcmElAcc c b1.clock.now b1.elSpeechRun h1
    generalize b1.hear.inCooldown = r at h2 ⊢
    have h3 (el : PeerEl) (run : Bool) : I { r.2 with el := el, pcmElAcc := [], elSpeechRun := run } :=
      haudio r.2 el [] r.2.clock r.2.lastElSpeech run h2
    split
    · exact h
    · split
      · exact ih _ _ h1
      · split
        · exact ih _ _ (hdrop _ (h3 r.2.el false))
        · split
          · split
            · exact hdrop _ (h3 r.2.el.dropPcmIn _)
            · exact ih _ _ (h3 r.2.el _)
          · exact ih _ _ (htake _ _ (h3 r.2.el _))

theorem playAmbe_eq {calls : Nat} {voice33 : List UInt8}
    (h : b.playAmbe e voc calls voice33 = some b') : ∃ el, b' = { b with el := el } := by
  rw [playAmbe] at h
  generalize List.finRange 3 = l at h
  induction l generalizing b with
  | nil =>
    cases h
    exact ⟨_, rfl⟩
  | cons i l ih =>
    rw [List.foldlM_cons] at h
    obtain ⟨b1, h1, h⟩ := Option.bind_eq_some_iff.1 h
    have hb1 : ∃ el, b1 = { b with el := el } := by
      split at h1
      · cases h1
        exact ⟨_, rfl⟩
      · obtain ⟨el, _, rfl⟩ := Option.map_eq_some_iff.1 h1
        exact ⟨el, rfl⟩
    obtain ⟨el1, rfl⟩ := hb1
    obtain ⟨el, rfl⟩ := ih h
    exact ⟨el, rfl⟩

theorem drainYsfToElPcm_eq {fuel calls : Nat}
    (h : b.drainYsfToElPcm e voc fuel calls = some b') :
    ∃ conv el, b' = { b with conv := conv, el := el } := by
  induction fuel generalizing b calls with
  | zero =>
    cases h
    exact ⟨_, _, rfl⟩
  | succ fuel ih =>
    rw [drainYsfToElPcm] at h
    generalize b.conv.getDmr = r at h
    obtain ⟨tag, voice33, conv⟩ := r
    simp only at h
    split at h
    · cases h
      exact ⟨conv, _, rfl⟩
    · split at h
      · obtain ⟨conv', el, rfl⟩ := ih h
        exact ⟨conv', el, rfl⟩
      · obtain ⟨b1, h1, h⟩ := Option.bind_eq_some_iff.1 h
        obtain ⟨el1, rfl⟩ := playAmbe_eq h1
        obtain ⟨conv', el, rfl⟩ := ih h
        exact ⟨conv', el, rfl⟩

theorem resolveElTalker_eq (e : ElEnv) (b : BridgeEl) :
    ∃ src id, b.resolveElTalker e = { b with netSrc := src, elRfId := id } := by
  rw [resolveElTalker]
  obtain ⟨raw, base, id⟩ := b.elTalker
  simp only
  split
  · exact ⟨_, _, rfl⟩
  · split
    · exact ⟨_, _, rfl⟩
    · exact ⟨_, _, rfl⟩

theorem foldl_modeconv_eq (e : ElEnv) (f : α → ConvOp) (l : List α) (b : BridgeEl) :
    ∃ conv, l.foldl (fun b a => b.modeconv e (f a)) b = { b with conv := conv } := by
  induction l generalizing b with
  | nil => exact ⟨b.conv, rfl⟩
  | cons a l ih => exact ih (b.modeconv e (f a))

end BridgeEl

end AdnBridge
