import AdnBridge.BridgeEl.Inbound

namespace AdnBridge
set_option autoImplicit true

namespace PcmAct

/-- The samples that come in. -/
def accepted : PcmAct → List Int16
  | accept pcm => pcm
  | _ => []

/-- The samples that are passed on to the encoder, or thrown away. -/
def disposed : PcmAct → List Int16
  | encode frame => frame
  | cooldown frame => frame
  | failed pcm => pcm
  | drop pcm => pcm
  | _ => []

/-- A loop throws samples away in a cooldown and when the encoder has failed, and else never. -/
def Excused (turns : Nat → ElTurn) : PcmAct → Prop
  | cooldown _ => ∃ n, (turns n).idle ∧ (turns n).inCooldown
  | failed _ => ∃ n frame, (turns n).encode frame = none
  | accept _ => False
  | drop _ => False
  | _ => True

theorem Excused.later {turns : Nat → ElTurn} {a : PcmAct}
    (h : a.Excused fun n => turns (n + 1)) : a.Excused turns := by
  cases a with
  | accept => exact h
  | read => trivial
  | encode => trivial
  | cooldown =>
    obtain ⟨n, hn⟩ := h
    exact ⟨n + 1, hn⟩
  | failed =>
    obtain ⟨n, frame, hn⟩ := h
    exact ⟨n + 1, frame, hn⟩
  | drop => exact h
  | store => trivial

/-- A read finds the accumulator empty and gives a whole frame or nothing; what is encoded is a
frame; and an array is written inside. -/
def Sound : PcmAct → Prop
  | read waiting pcm => waiting = 0 ∧ (pcm.length = 0 ∨ pcm.length = 160)
  | encode frame => frame.length = 160
  | store i n => i < n
  | _ => True

end PcmAct

namespace Inbound

/-- The samples that came in are those that were passed on or thrown away, those in hand and those
in the ring, in this order. -/
structure Keeps (s : Inbound) (pcm : List Int16) : Prop where
  ring : s.pcmIn.Wf
  frames : 160 ∣ s.pcmIn.count
  elAmbe : s.elAmbeCount ≤ 2
  ysfAmbe : s.ysfAmbeCount ≤ 4
  sound : ∀ a ∈ s.trace, a.Sound
  kept : s.trace.flatMap PcmAct.accepted =
    s.trace.flatMap PcmAct.disposed ++ pcm ++ s.pcmIn.view

/-- No sample is in hand. -/
structure Whole (s : Inbound) : Prop where
  keeps : s.Keeps []
  acc : s.pcmElAccN = 0

/-- A loop over the inbound PCM takes every sample out of the ring, in order, and leaves none in the
accumulator. -/
structure Empties (turns : Nat → ElTurn) (s t : Inbound) : Prop where
  ring : t.pcmIn.count = 0
  acc : t.pcmElAccN = 0
  acts : ∃ acts, t.trace = s.trace ++ acts ∧ acts.flatMap PcmAct.disposed = s.pcmIn.view ∧
    ∀ a ∈ acts, a.Excused turns

variable {s s' t : Inbound} {pcm : List Int16} {turns turns' : Nat → ElTurn}

theorem Empties.after (h : Empties turns' s' t) (acts : List PcmAct)
    (htrace : s'.trace = s.trace ++ acts)
    (hview : s.pcmIn.view = acts.flatMap PcmAct.disposed ++ s'.pcmIn.view)
    (hacts : ∀ a ∈ acts, a.Excused turns)
    (hturns : ∀ a : PcmAct, a.Excused turns' → a.Excused turns) : Empties turns s t := by
  obtain ⟨acts', htrace', hview', hacts'⟩ := h.acts
  refine ⟨h.ring, h.acc, acts ++ acts', ?_, ?_, fun a ha => ?_⟩
  · rw [htrace', htrace, List.append_assoc]
  · rw [List.flatMap_append, hview', hview]
  · rcases List.mem_append.1 ha with ha | ha
    · exact hacts a ha
    · exact hturns a (hacts' a ha)

/-- The step that disposes of a frame which has been read. -/
theorem Empties.afterFrame (h : Empties turns' s' t) (waiting : Nat) (a : PcmAct)
    (htrace : s'.trace = s.trace ++ [.read waiting pcm, a]) (ha : a.disposed = pcm)
    (hview : s.pcmIn.view = pcm ++ s'.pcmIn.view) (hexcused : a.Excused turns)
    (hturns : ∀ a : PcmAct, a.Excused turns' → a.Excused turns) : Empties turns s t := by
  refine h.after _ htrace ?_ (fun a' ha' => ?_) hturns
  · rw [hview, ← ha]
    simp [PcmAct.disposed]
  · rcases List.mem_cons.1 ha' with rfl | ha'
    · trivial
    · exact List.mem_singleton.1 ha' ▸ hexcused

theorem sound_note (h : ∀ a ∈ s.trace, a.Sound) (ha : a.Sound) :
    ∀ a' ∈ (s.note a).trace, a'.Sound := by
  intro a' ha'
  rcases List.mem_append.1 ha' with ha' | ha'
  · exact h a' ha'
  · exact List.mem_singleton.1 ha' ▸ ha

theorem flatMap_note (s : Inbound) (a : PcmAct) (f : PcmAct → List Int16) :
    (s.note a).trace.flatMap f = s.trace.flatMap f ++ f a := by
  rw [note, List.flatMap_append, List.flatMap_singleton]

/-- The samples in hand are disposed of. -/
theorem Keeps.dispose (h : s.Keeps pcm) {a : PcmAct} (ha : a.Sound) (hin : a.accepted = [])
    (hout : a.disposed = pcm) : (s.note a).Keeps [] where
  ring := h.ring
  frames := h.frames
  elAmbe := h.elAmbe
  ysfAmbe := h.ysfAmbe
  sound := sound_note h.sound ha
  kept := by
    rw [flatMap_note, flatMap_note, hin, hout, List.append_nil, List.append_nil]
    exact h.kept

theorem Keeps.note (h : s.Keeps []) {a : PcmAct} (ha : a.Sound) (hin : a.accepted = [])
    (hout : a.disposed = []) : (s.note a).Keeps [] :=
  h.dispose ha hin hout

/-- With the samples disposed of, the accumulator is given free. -/
theorem Keeps.settle (h : s.Keeps pcm) (acc : Vector Int16 160) {a : PcmAct} (ha : a.Sound)
    (hin : a.accepted = []) (hout : a.disposed = pcm) :
    ({ s with pcmElAcc := acc, pcmElAccN := 0 }.note a).Whole :=
  have hs := h.dispose ha hin hout
  ⟨⟨hs.ring, hs.frames, hs.elAmbe, hs.ysfAmbe, hs.sound, hs.kept⟩, rfl⟩

theorem frame_room (h : s.Keeps pcm) : s.pcmIn.count + 160 ≤ 16000 ∨ s.pcmIn.count = 16000 := by
  have hle := h.ring.count_le
  have hdvd := h.frames
  omega

/-- A frame goes into the ring as a whole, or not at all. -/
theorem Whole.pcmRingPush (h : s.Whole) (hlen : pcm.length = 160) : (s.pcmRingPush pcm).Whole := by
  obtain ⟨hwf, hview⟩ := CountedRing.pushAll_spec h.keeps.ring pcm
  have hcount : (s.pcmIn.pushAll pcm).count = s.pcmIn.count + min (16000 - s.pcmIn.count) 160 := by
    rw [← CountedRing.view_length, hview, List.length_append, List.length_take, hlen,
      CountedRing.view_length]
  have htake : pcm.take ((s.pcmIn.pushAll pcm).count - s.pcmIn.count) =
      pcm.take (16000 - s.pcmIn.count) := by
    rw [hcount, Nat.add_sub_cancel_left, ← hlen, ← List.take_eq_take_min]
  have hroom := frame_room h.keeps
  have hdvd := h.keeps.frames
  refine ⟨⟨hwf, ?_, h.keeps.elAmbe, h.keeps.ysfAmbe, sound_note h.keeps.sound trivial, ?_⟩, h.acc⟩
  · change 160 ∣ (s.pcmIn.pushAll pcm).count
    omega
  · have hkept := h.keeps.kept
    rw [List.append_nil] at hkept
    rw [Inbound.pcmRingPush, flatMap_note, flatMap_note]
    change s.trace.flatMap _ ++ pcm.take _ = s.trace.flatMap _ ++ [] ++ [] ++
      (s.pcmIn.pushAll pcm).view
    rw [htake, hkept, hview, List.append_nil, List.append_nil, List.append_assoc]

theorem Whole.elHandleRtp (h : s.Whole) (frames : List (Option (Vector Int16 160))) :
    (s.elHandleRtp frames).Whole := by
  induction frames generalizing s with
  | nil => exact h
  | cons f frames ih =>
    cases f with
    | none => exact ih h
    | some frame => exact ih (h.pcmRingPush Vector.length_toList)

/-- A read takes a whole frame, if there is any. -/
theorem Whole.peerElReadPcm (h : s.Whole) :
    ((s.peerElReadPcm 160).1 = [] ∧ s.pcmIn.count = 0 ∨ (s.peerElReadPcm 160).1.length = 160) ∧
      (s.peerElReadPcm 160).2.Keeps (s.peerElReadPcm 160).1 ∧
      (s.peerElReadPcm 160).2.pcmElAccN = 0 ∧
      (s.peerElReadPcm 160).2.pcmIn.count + (s.peerElReadPcm 160).1.length = s.pcmIn.count := by
  obtain ⟨hwf, htake, hdrop⟩ := CountedRing.popMany_spec h.keeps.ring 160
  have hle := h.keeps.ring.count_le
  have hdvd := h.keeps.frames
  have hlen : (s.pcmIn.popMany 160).1.length = min 160 s.pcmIn.count := by
    rw [htake, List.length_take, CountedRing.view_length]
  have hcount : (s.pcmIn.popMany 160).2.count = s.pcmIn.count - 160 := by
    rw [← CountedRing.view_length, hdrop, List.length_drop, CountedRing.view_length]
  have hframe : (s.pcmIn.popMany 160).1.length = 0 ∨ (s.pcmIn.popMany 160).1.length = 160 := by
    omega
  refine ⟨?_, ⟨hwf, ?_, h.keeps.elAmbe, h.keeps.ysfAmbe, sound_note h.keeps.sound ⟨h.acc, hframe⟩,
    ?_⟩, h.acc, ?_⟩
  · rcases hframe with h0 | h160
    · exact .inl ⟨List.length_eq_zero_iff.1 h0, by omega⟩
    · exact .inr h160
  · change 160 ∣ (s.pcmIn.popMany 160).2.count
    omega
  · have hkept := h.keeps.kept
    rw [List.append_nil] at hkept
    rw [Inbound.peerElReadPcm, flatMap_note, flatMap_note]
    change s.trace.flatMap _ ++ [] = s.trace.flatMap _ ++ [] ++ (s.pcmIn.popMany 160).1 ++
      (s.pcmIn.popMany 160).2.view
    rw [htake, hdrop, hkept, List.append_nil, List.append_nil, List.append_assoc,
      List.take_append_drop]
  · change (s.pcmIn.popMany 160).2.count + (s.pcmIn.popMany 160).1.length = _
    omega

theorem Whole.read_view (h : s.Whole) :
    s.pcmIn.view = (s.peerElReadPcm 160).1 ++ (s.peerElReadPcm 160).2.pcmIn.view := by
  obtain ⟨-, htake, hdrop⟩ := CountedRing.popMany_spec h.keeps.ring 160
  change _ = (s.pcmIn.popMany 160).1 ++ (s.pcmIn.popMany 160).2.view
  rw [htake, hdrop, List.take_append_drop]

/-- A read that gives nothing ends a loop. -/
theorem Whole.empties_read (h : s.Whole) (hnil : (s.peerElReadPcm 160).1 = [])
    (turns : Nat → ElTurn) : Empties turns s (s.peerElReadPcm 160).2 := by
  obtain ⟨hread, -, hacc, hcount⟩ := h.peerElReadPcm
  have h0 : s.pcmIn.count = 0 := by
    rcases hread with ⟨-, h0⟩ | hlen
    · exact h0
    · rw [hnil] at hlen
      cases hlen
  have hview : s.pcmIn.view = [] := List.length_eq_zero_iff.1 (s.pcmIn.view_length.trans h0)
  rw [hnil, List.length_nil] at hcount
  refine ⟨hcount.trans h0, hacc, [.read s.pcmElAccN (s.peerElReadPcm 160).1], rfl, ?_, ?_⟩
  · rw [hview]
    rfl
  · intro a ha
    rw [List.mem_singleton.1 ha]
    trivial

theorem Whole.peerElDropPcmIn (h : s.Whole) : s.peerElDropPcmIn.Whole := by
  refine ⟨⟨CountedRing.Wf.clear _, ⟨0, rfl⟩, h.keeps.elAmbe, h.keeps.ysfAmbe,
    sound_note h.keeps.sound trivial, ?_⟩, h.acc⟩
  have hkept := h.keeps.kept
  rw [List.append_nil] at hkept
  rw [Inbound.peerElDropPcmIn, flatMap_note, flatMap_note]
  change s.trace.flatMap _ ++ [] = s.trace.flatMap _ ++ s.pcmIn.view ++ [] ++ []
  rw [hkept, List.append_nil, List.append_nil]

theorem take_setIfInBounds (v : Vector α n) (x : α) (h : i < n) :
    (v.setIfInBounds i x).toList.take (i + 1) = v.toList.take i ++ [x] := by
  have hi : i < v.toList.length := Vector.length_toList.symm ▸ h
  have hset : (v.setIfInBounds i x).toList = v.toList.set i x := Vector.toList_setIfInBounds
  rw [hset, List.take_add_one, List.take_set_of_le (Nat.le_refl i), List.getElem?_set_self hi]
  rfl

/-- A frame fills an empty accumulator. -/
theorem fillAcc_spec (hroom : s.pcmElAccN + pcm.length ≤ 160) :
    ∃ acc : Vector Int16 160, s.fillAcc pcm =
        { s with pcmElAcc := acc, pcmElAccN := s.pcmElAccN + pcm.length } ∧
      acc.toList.take (s.pcmElAccN + pcm.length) =
        s.pcmElAcc.toList.take s.pcmElAccN ++ pcm := by
  induction pcm generalizing s with
  | nil => exact ⟨s.pcmElAcc, rfl, (List.append_nil _).symm⟩
  | cons x pcm ih =>
    rw [List.length_cons] at hroom
    obtain ⟨acc, hfill, hacc⟩ := ih (s := { s with
      pcmElAcc := s.pcmElAcc.setIfInBounds s.pcmElAccN x, pcmElAccN := s.pcmElAccN + 1 })
      (by change s.pcmElAccN + 1 + _ ≤ _; omega)
    have hsum : s.pcmElAccN + 1 + pcm.length = s.pcmElAccN + (pcm.length + 1) := by omega
    refine ⟨acc, ?_, ?_⟩
    · rw [fillAcc, if_pos (by omega), hfill]
      change { s with pcmElAcc := acc, pcmElAccN := s.pcmElAccN + 1 + pcm.length } = _
      rw [hsum]
      rfl
    · change acc.toList.take (s.pcmElAccN + 1 + pcm.length) = _ at hacc
      rw [List.length_cons, ← hsum, hacc, take_setIfInBounds _ x (by omega), List.append_assoc]
      rfl

theorem Whole.readAway (h : s.Whole) (turns : Nat → ElTurn) (hfuel : s.pcmIn.count < fuel)
    (hfails : ∃ n frame, (turns n).encode frame = none) :
    (s.readAway fuel).Whole ∧ Empties turns s (s.readAway fuel) := by
  induction fuel generalizing s with
  | zero => cases hfuel
  | succ fuel ih =>
    obtain ⟨hread, hkeeps, hacc, hcount⟩ := h.peerElReadPcm
    have hview := h.read_view
    have hempty := fun hnil => h.empties_read hnil turns
    have htrace : (s.peerElReadPcm 160).2.trace =
        s.trace ++ [.read s.pcmElAccN (s.peerElReadPcm 160).1] := rfl
    rw [Inbound.readAway]
    generalize s.peerElReadPcm 160 = r at hread hkeeps hacc hcount hview hempty htrace
    obtain ⟨pcm, s'⟩ := r
    simp only at hread hkeeps hacc hcount hview hempty htrace ⊢
    rcases hread with ⟨rfl, h0⟩ | hlen
    · exact ⟨⟨hkeeps, hacc⟩, hempty rfl⟩
    · have hne : pcm ≠ [] := List.ne_nil_of_length_pos (by omega)
      rw [if_neg hne]
      have hlt : (s'.note (.failed pcm)).pcmIn.count < fuel := by
        change s'.pcmIn.count < fuel
        omega
      obtain ⟨hw, he⟩ := ih ⟨hkeeps.dispose (a := .failed pcm) trivial rfl rfl, hacc⟩ hlt
      refine ⟨hw, he.afterFrame s.pcmElAccN (.failed pcm) ?_ rfl hview hfails fun _ ha => ha⟩
      rw [note, htrace, List.append_assoc]
      rfl

/-- What a loop does with the frames that are encoded keeps the samples where they are. -/
structure Handles (drop : Inbound → Inbound) (take : ElTurn → List UInt8 → Inbound → Inbound) :
    Prop where
  drop : ∀ s, s.Whole → (drop s).Whole ∧ (drop s).pcmIn = s.pcmIn ∧ (drop s).trace = s.trace
  take : ∀ turn ambe s, s.Whole → (take turn ambe s).Whole ∧
    (take turn ambe s).pcmIn = s.pcmIn ∧ ∃ i n, (take turn ambe s).trace = s.trace ++ [.store i n]

/-- The turn for a frame that has been read. -/
theorem elLoop_frame (h : s.Whole) (hlen : (s.peerElReadPcm 160).1.length = 160)
    (gain : Int16 → Int16) (drop : Inbound → Inbound)
    (take : ElTurn → List UInt8 → Inbound → Inbound) (fuel : Nat) :
    ∃ acc : Vector Int16 160, ∀ turns streak,
      elLoop gain drop take (fuel + 1) turns streak s =
        let r := s.peerElReadPcm 160
        let rest := fun n => turns (n + 1)
        if (turns 0).idle ∧ (turns 0).inCooldown then
          elLoop gain drop take fuel rest streak
            (drop ({ r.2 with pcmElAcc := acc, pcmElAccN := 0 }.note (.cooldown r.1)))
        else
          let s' := { r.2 with pcmElAcc := acc.map gain, pcmElAccN := 0 }.note (.encode r.1)
          match (turns 0).encode (r.1.map gain) with
          | none =>
            if streak + 1 ≥ 3 then drop { s'.readAway (s'.pcmIn.count + 1) with pcmElAccN := 0 }
            else elLoop gain drop take fuel rest (streak + 1) s'
          | some ambe => elLoop gain drop take fuel rest 0 (take (turns 0) ambe s') := by
  obtain ⟨-, -, hacc, -⟩ := h.peerElReadPcm
  obtain ⟨acc, hfill, htake⟩ := fillAcc_spec (s := (s.peerElReadPcm 160).2)
    (show _ + (s.peerElReadPcm 160).1.length ≤ 160 by omega)
  refine ⟨acc, fun turns streak => ?_⟩
  rw [Inbound.elLoop]
  generalize s.peerElReadPcm 160 = r at hlen hacc hfill htake
  obtain ⟨pcm, s'⟩ := r
  simp only at hlen hacc hfill htake ⊢
  have hne : pcm ≠ [] := List.ne_nil_of_length_pos (by omega)
  have hframe : acc.toList = pcm := by
    have hall : acc.toList.length ≤ s'.pcmElAccN + pcm.length := by
      rw [Vector.length_toList]
      omega
    rw [List.take_of_length_le hall, hacc] at htake
    exact htake
  have hfull : ¬s'.pcmElAccN + pcm.length < 160 := by omega
  subst hframe
  rw [hfill]
  exact (if_neg hne).trans (if_neg hfull)

/-- A loop disposes of all that is in the ring. -/
theorem Whole.elLoop {drop : Inbound → Inbound} {take : ElTurn → List UInt8 → Inbound → Inbound}
    (hd : Handles drop take) (gain : Int16 → Int16) (h : s.Whole) (hfuel : s.pcmIn.count < fuel)
    (turns : Nat → ElTurn) (streak : Nat) :
    (elLoop gain drop take fuel turns streak s).Whole ∧
      Empties turns s (elLoop gain drop take fuel turns streak s) := by
  induction fuel generalizing turns streak s with
  | zero => cases hfuel
  | succ fuel ih =>
    obtain ⟨hread, hkeeps, hacc, hcount⟩ := h.peerElReadPcm
    have hempty := fun hnil => h.empties_read hnil turns
    rcases hread with ⟨hnil, h0⟩ | hlen
    · rw [Inbound.elLoop]
      simp only [if_pos hnil]
      rw [hnil] at hkeeps
      exact ⟨⟨hkeeps, hacc⟩, hempty hnil⟩
    · obtain ⟨acc, hloop⟩ := elLoop_frame h hlen gain drop take fuel
      have hview := h.read_view
      have htrace : (s.peerElReadPcm 160).2.trace =
          s.trace ++ [.read s.pcmElAccN (s.peerElReadPcm 160).1] := rfl
      rw [hloop]
      generalize s.peerElReadPcm 160 = r at hkeeps hcount hlen hview htrace
      have hlt : r.2.pcmIn.count < fuel := by omega
      simp only
      split
      next hidle =>
        have hcool : ({ r.2 with pcmElAcc := acc, pcmElAccN := 0 }.note (.cooldown r.1)).Whole :=
          hkeeps.settle acc (a := .cooldown r.1) trivial rfl rfl
        have hcooled : ({ r.2 with pcmElAcc := acc, pcmElAccN := 0 }.note (.cooldown r.1)).trace =
            s.trace ++ [.read s.pcmElAccN r.1, .cooldown r.1] := by
          rw [note, htrace, List.append_assoc]
          rfl
        obtain ⟨hw, hring, hlog⟩ := hd.drop _ hcool
        obtain ⟨hw, he⟩ := ih hw (by rw [hring]; exact hlt) (fun n => turns (n + 1)) streak
        refine ⟨hw, he.afterFrame s.pcmElAccN (.cooldown r.1) (hlog.trans hcooled) rfl ?_ ⟨0, hidle⟩
          fun _ ha => ha.later⟩
        rw [hring]
        exact hview
      next =>
        have hcode : ({ r.2 with pcmElAcc := acc.map gain, pcmElAccN := 0 }.note
            (.encode r.1)).Whole :=
          hkeeps.settle (acc.map gain) (a := .encode r.1) hlen rfl rfl
        have hlt' : ({ r.2 with pcmElAcc := acc.map gain, pcmElAccN := 0 }.note
          (.encode r.1)).pcmIn.count < fuel := hlt
        have hview' : s.pcmIn.view = r.1 ++ ({ r.2 with
          pcmElAcc := acc.map gain, pcmElAccN := 0 }.note (.encode r.1)).pcmIn.view := hview
        have hcoded : ({ r.2 with pcmElAcc := acc.map gain, pcmElAccN := 0 }.note
            (.encode r.1)).trace = s.trace ++ [.read s.pcmElAccN r.1, .encode r.1] := by
          rw [note, htrace, List.append_assoc]
          rfl
        generalize Inbound.note { r.2 with pcmElAcc := acc.map gain, pcmElAccN := 0 }
          (.encode r.1) = s' at hcode hlt' hview' hcoded
        split
        next hfailed =>
          split
          next =>
            obtain ⟨hw, he⟩ := hcode.readAway turns (Nat.lt_succ_self _) ⟨0, _, hfailed⟩
            obtain ⟨hw, hring, hlog⟩ := hd.drop { s'.readAway (s'.pcmIn.count + 1) with
              pcmElAccN := 0 } ⟨⟨hw.keeps.ring, hw.keeps.frames, hw.keeps.elAmbe, hw.keeps.ysfAmbe,
                hw.keeps.sound, hw.keeps.kept⟩, rfl⟩
            have he' := he.afterFrame s.pcmElAccN (.encode r.1) hcoded rfl hview' trivial
              fun _ ha => ha
            refine ⟨hw, (congrArg CountedRing.count hring).trans he'.ring, hw.acc, ?_⟩
            rw [hlog]
            exact he'.acts
          next =>
            obtain ⟨hw, he⟩ := ih hcode hlt' (fun n => turns (n + 1)) (streak + 1)
            exact ⟨hw, he.afterFrame s.pcmElAccN (.encode r.1) hcoded rfl hview' trivial
              fun _ ha => ha.later⟩
        next ambe _ =>
          obtain ⟨hw, hring, i, n, hlog⟩ := hd.take (turns 0) ambe _ hcode
          obtain ⟨hw, he⟩ := ih hw (by rw [hring]; exact hlt') (fun n => turns (n + 1)) 0
          have he' : Empties turns s' _ := he.after [.store i n] hlog (congrArg _ hring.symm)
            (fun a ha => List.mem_singleton.1 ha ▸ trivial) fun _ ha => ha.later
          exact ⟨hw, he'.afterFrame s.pcmElAccN (.encode r.1) hcoded rfl hview' trivial
            fun _ ha => ha⟩

theorem dmr_handles : Handles dropDmrAmbe takeDmrAmbe where
  drop s h := ⟨⟨⟨h.keeps.ring, h.keeps.frames, Nat.zero_le _, h.keeps.ysfAmbe, h.keeps.sound,
    h.keeps.kept⟩, h.acc⟩, rfl, rfl⟩
  take turn ambe s h := by
    have hle := h.keeps.elAmbe
    have hnote := h.keeps.note (a := .store s.elAmbeCount 3) (Nat.lt_succ_of_le hle) rfl rfl
    rw [takeDmrAmbe]
    split
    next hlt => exact ⟨⟨⟨hnote.ring, hnote.frames, Nat.le_of_lt_succ hlt, hnote.ysfAmbe,
      hnote.sound, hnote.kept⟩, h.acc⟩, rfl, _, _, rfl⟩
    next => exact ⟨⟨⟨hnote.ring, hnote.frames, Nat.zero_le _, hnote.ysfAmbe, hnote.sound,
      hnote.kept⟩, h.acc⟩, rfl, _, _, rfl⟩

theorem ysf_handles : Handles dropYsfAmbe takeYsfAmbe where
  drop s h := ⟨⟨⟨h.keeps.ring, h.keeps.frames, h.keeps.elAmbe, Nat.zero_le _, h.keeps.sound,
    h.keeps.kept⟩, h.acc⟩, rfl, rfl⟩
  take turn ambe s h := by
    rw [takeYsfAmbe]
    have hbegun : (if turn.idle then { s with ysfAmbeCount := 0, pcmElAccN := 0 } else s).Whole ∧
        (if turn.idle then { s with ysfAmbeCount := 0, pcmElAccN := 0 } else s).pcmIn = s.pcmIn ∧
        (if turn.idle then { s with ysfAmbeCount := 0, pcmElAccN := 0 } else s).trace =
          s.trace := by
      split
      · exact ⟨⟨⟨h.keeps.ring, h.keeps.frames, h.keeps.elAmbe, Nat.zero_le _, h.keeps.sound,
          h.keeps.kept⟩, rfl⟩, rfl, rfl⟩
      · exact ⟨h, rfl, rfl⟩
    generalize (if turn.idle then { s with ysfAmbeCount := 0, pcmElAccN := 0 } else s) = s'
      at hbegun
    obtain ⟨h, hring, hlog⟩ := hbegun
    have hle := h.keeps.ysfAmbe
    have hnote := h.keeps.note (a := .store s'.ysfAmbeCount 5) (Nat.lt_succ_of_le hle) rfl rfl
    have hstore : (s'.note (.store s'.ysfAmbeCount 5)).trace =
        s.trace ++ [.store s'.ysfAmbeCount 5] := by
      rw [note, hlog]
    split
    next hlt => exact ⟨⟨⟨hnote.ring, hnote.frames, hnote.elAmbe, Nat.le_of_lt_succ hlt,
      hnote.sound, hnote.kept⟩, h.acc⟩, hring, _, _, hstore⟩
    next => exact ⟨⟨⟨hnote.ring, hnote.frames, hnote.elAmbe, Nat.zero_le _, hnote.sound,
      hnote.kept⟩, h.acc⟩, hring, _, _, hstore⟩

theorem Whole.step (h : s.Whole) (gain : Int16 → Int16) (ev : InboundEvent) :
    (s.step gain ev).Whole := by
  cases ev with
  | rtp frames => exact h.elHandleRtp frames
  | read =>
    obtain ⟨-, hkeeps, hacc, -⟩ := h.peerElReadPcm
    exact ⟨hkeeps.dispose (a := .drop _) trivial rfl rfl, hacc⟩
  | dropPcmIn => exact h.peerElDropPcmIn
  | elAudio busy turns =>
    cases busy with
    | true => exact h
    | false => exact (h.elLoop dmr_handles gain (Nat.lt_succ_self _) turns 0).1
  | elToYsf busy turns =>
    cases busy with
    | true => exact h
    | false => exact (h.elLoop ysf_handles gain (Nat.lt_succ_self _) turns 0).1
  | dmrEnd =>
    refine Whole.peerElDropPcmIn (s := { s with elAmbeCount := 0, pcmElAccN := 0 }) ?_
    exact ⟨⟨h.keeps.ring, h.keeps.frames, Nat.zero_le _, h.keeps.ysfAmbe, h.keeps.sound,
      h.keeps.kept⟩, rfl⟩
  | ysfEnd =>
    refine Whole.peerElDropPcmIn (s := { s with ysfAmbeCount := 0, pcmElAccN := 0 }) ?_
    exact ⟨⟨h.keeps.ring, h.keeps.frames, h.keeps.elAmbe, Nat.zero_le _, h.keeps.sound,
      h.keeps.kept⟩, rfl⟩

end Inbound

end AdnBridge
