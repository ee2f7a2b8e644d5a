import AdnBridge.BridgeEl.Ending

namespace AdnBridge
set_option autoImplicit true

def ElAct.ysfFrame : ElAct → Option Ysfd
  | .ysfd f => some f
  | .dmrd _ _ => none

/-- The frames sent for the EL→YSF calls that are over, and for the one that is up. -/
structure YsfBook where
  closed : List (List Ysfd)
  current : Option (List Ysfd)

namespace YsfBook

/-- A step from one `call_active` to another has sent `fs`. -/
def note (k : YsfBook) (before after : ElCall) (fs : List Ysfd) : YsfBook :=
  if before = .elTx then
    if after = .elTx then ⟨k.closed, k.current.map (· ++ fs)⟩
    else ⟨k.closed ++ (k.current.map (· ++ fs)).toList, none⟩
  else if after = .elTx then ⟨k.closed, some fs⟩
  else k

/-- The HEADER of the call that is up has been sent. -/
def Announced (k : YsfBook) : Prop := ∃ fs ∈ k.current, ∃ f ∈ fs, f.fi = ysfFiHeader

instance (k : YsfBook) : Decidable k.Announced :=
  decidable_of_iff (k.current.any fun fs => fs.any fun f => f.fi == ysfFiHeader) (by
    simp [Announced, Option.any_eq_true])

end YsfBook

def NoTerminator (fs : List Ysfd) : Prop := ∀ f ∈ fs, f.fi ≠ ysfFiTerminator

instance (fs : List Ysfd) : Decidable (NoTerminator fs) := List.decidableBAll _ _

/-- If its HEADER was sent, the call was closed with one TERMINATOR, the last of its frames. -/
def TerminatedOnce (fs : List Ysfd) : Prop :=
  (∃ f ∈ fs, f.fi = ysfFiHeader) → NoTerminator fs.dropLast ∧
    ∃ t ∈ fs.getLast?, t.fi = ysfFiTerminator

instance (fs : List Ysfd) : Decidable (TerminatedOnce fs) :=
  decidable_of_iff ((∃ f ∈ fs, f.fi = ysfFiHeader) → NoTerminator fs.dropLast ∧
    fs.getLast?.any fun t => t.fi == ysfFiTerminator) (by
      simp [TerminatedOnce, Option.any_eq_true])

theorem terminatedOnce_snoc (h : NoTerminator fs) (ht : t.fi = ysfFiTerminator) :
    TerminatedOnce (fs ++ [t]) := by
  intro _
  rw [List.dropLast_concat, List.getLast?_concat]
  exact ⟨h, t, rfl, ht⟩

theorem NoTerminator.not_terminatedOnce (h : NoTerminator fs)
    (hh : ∃ f ∈ fs, f.fi = ysfFiHeader) : ¬TerminatedOnce fs := by
  intro ht
  obtain ⟨_, t, hl, hfi⟩ := ht hh
  exact h t (List.mem_of_getLast? hl) hfi

namespace BridgeEl

variable {e : ElEnv} {b b' : BridgeEl} {voc : Vocoder} {k : YsfBook}

def ysfSince (b b' : BridgeEl) : List Ysfd :=
  (b'.trace.drop b.trace.length).filterMap ElAct.ysfFrame

theorem ysfSince_eq (h : b'.trace = b.trace ++ as) : ysfSince b b' = as.filterMap ElAct.ysfFrame := by
  rw [ysfSince, h, List.drop_left]

theorem ysfSince_nil (h : b'.trace = b.trace) : ysfSince b b' = [] := by
  rw [ysfSince, h, List.drop_length]
  rfl

/-- The bridge with a book of its EL→YSF calls. -/
def booked (e : ElEnv) (c : Clock) (db : AliasDb) (el : PeerEl) :
    Machine (BridgeEl × YsfBook) BridgeElEvent :=
  (machine e c db el).observe ⟨[], none⟩ fun k b _ b' =>
    k.note b.callActive b'.callActive (ysfSince b b')

/-- A tick of the YSF pacing sends nothing that ends a call, or ends it with its TERMINATOR. -/
theorem emitYsfFromConv_cases (e : ElEnv) (b : BridgeEl) :
    (∃ fs, (b.emitYsfFromConv e).trace = b.trace ++ fs.map .ysfd ∧ NoTerminator fs ∧
      (b.emitYsfFromConv e).callActive = b.callActive) ∨
    ∃ f, (b.emitYsfFromConv e).trace = b.trace ++ [.ysfd f] ∧ f.fi = ysfFiTerminator ∧
      (b.emitYsfFromConv e).callActive = .idle := by
  rw [emitYsfFromConv]
  generalize b.conv.getYsf = r
  obtain ⟨tag, payload, conv⟩ := r
  have hone {f : Ysfd} (h : f.fi ≠ ysfFiTerminator) : NoTerminator [f] :=
    List.forall_mem_singleton.2 h
  simp only
  split
  · exact .inl ⟨[], (List.append_nil _).symm, List.forall_mem_nil _, rfl⟩
  · split
    · exact .inl ⟨[_], rfl, hone (by decide : ysfFiHeader ≠ ysfFiTerminator), rfl⟩
    · split
      · exact .inr ⟨_, rfl, rfl, rfl⟩
      · split
        · exact .inl ⟨[_], rfl, hone (by decide : ysfFiCommunications ≠ ysfFiTerminator), rfl⟩
        · exact .inl ⟨[], (List.append_nil _).symm, List.forall_mem_nil _, rfl⟩

theorem hangElTx_frame (hm : e.cfg.mode = .echolinkYsf) (b : BridgeEl) :
    (b.hangElTx e).trace = b.trace ∧ (b.hangElTx e).callActive = b.callActive := by
  simp only [hangElTx, hm]
  split
  · exact ⟨rfl, rfl⟩
  · split
    · refine ⟨?_, (endYsfCall_spec e b.tock).1⟩
      rw [endYsfCall]
      split <;> rfl
    · exact ⟨rfl, rfl⟩

theorem hangElRx_frame (hm : e.cfg.mode = .echolinkYsf) (b : BridgeEl) :
    (b.hangElRx e).trace = b.trace ∧ (b.callActive ≠ .elRx →
      (b.hangElRx e).callActive = b.callActive) ∧
      (b.callActive = .elRx → (b.hangElRx e).callActive ≠ .elTx) := by
  simp only [hangElRx, hm]
  split
  next hr => exact ⟨rfl, fun _ => rfl, fun h => absurd h hr⟩
  next hr =>
    rw [not_not] at hr
    split
    next => exact ⟨rfl, fun h => absurd hr h, fun _ h => by cases h⟩
    next =>
      refine ⟨rfl, fun _ => rfl, fun _ => ?_⟩
      change b.callActive ≠ .elTx
      rw [hr]
      decide

/-- What the book needs to know of a tick. -/
theorem tick_cases (hm : e.cfg.mode = .echolinkYsf) (b : BridgeEl) (dmrUp : Bool) :
    (b.callActive ≠ .elTx ∧ (b.tick e dmrUp).callActive ≠ .elTx) ∨
    (b.callActive = .elTx ∧ (b.tick e dmrUp).callActive = .elTx ∧
      NoTerminator (ysfSince b (b.tick e dmrUp))) ∨
    (b.callActive = .elTx ∧ (b.tick e dmrUp).callActive ≠ .elTx ∧
      ∃ t, ysfSince b (b.tick e dmrUp) = [t] ∧ t.fi = ysfFiTerminator) := by
  obtain ⟨ht1, hc1⟩ := hangElTx_frame hm (b.paceTx e dmrUp)
  obtain ⟨ht2, hc2, hc2'⟩ := hangElRx_frame hm ((b.paceTx e dmrUp).hangElTx e)
  have ht : (b.tick e dmrUp).trace = (b.paceTx e dmrUp).trace := ht2.trans ht1
  have hc (h : (b.paceTx e dmrUp).callActive ≠ .elRx) :
      (b.tick e dmrUp).callActive = (b.paceTx e dmrUp).callActive :=
    (hc2 (by rw [hc1]; exact h)).trans hc1
  by_cases hcall : b.callActive = .elTx
  · have hpace : (∃ fs, (b.paceTx e dmrUp).trace = b.trace ++ fs.map .ysfd ∧ NoTerminator fs ∧
          (b.paceTx e dmrUp).callActive = b.callActive) ∨
        ∃ f, (b.paceTx e dmrUp).trace = b.trace ++ [.ysfd f] ∧ f.fi = ysfFiTerminator ∧
          (b.paceTx e dmrUp).callActive = .idle := by
      simp only [paceTx, hm]
      split
      · exact .inl ⟨[], (List.append_nil _).symm, List.forall_mem_nil _, rfl⟩
      · split
        · exact emitYsfFromConv_cases e b.tock
        · exact .inl ⟨[], (List.append_nil _).symm, List.forall_mem_nil _, rfl⟩
    rcases hpace with ⟨fs, htr, hn, ha⟩ | ⟨f, htr, hf, ha⟩
    · right
      left
      refine ⟨hcall, (hc (by rw [ha, hcall]; decide)).trans (ha.trans hcall), ?_⟩
      rw [ysfSince_eq (ht.trans htr), List.filterMap_map]
      exact (List.filterMap_some (l := fs)).symm ▸ hn
    · right
      right
      refine ⟨hcall, ?_, f, ?_, hf⟩
      · rw [hc (by rw [ha]; decide), ha]
        decide
      · rw [ysfSince_eq (ht.trans htr)]
        rfl
  · left
    refine ⟨hcall, ?_⟩
    have hp : b.paceTx e dmrUp = b := by
      simp only [paceTx, hm]
      exact if_pos hcall
    rw [hp] at hc1 hc2 hc2'
    by_cases hr : b.callActive = .elRx
    · have h := hc2' (hc1.trans hr)
      rw [← hp] at h
      exact h
    · have h := (hc2 (by rw [hc1]; exact hr)).trans hc1
      rw [← hp] at h
      change ((b.paceTx e dmrUp).hangElTx e |>.hangElRx e).callActive ≠ _
      rw [h, hp]
      exact hcall

/-- The audio loop sends nothing, and ends no call. -/
theorem processElToYsf_frame (b : BridgeEl) (voc : Vocoder) :
    (b.processElToYsf e voc).trace = b.trace ∧
      (b.callActive = .elTx → (b.processElToYsf e voc).callActive = .elTx) := by
  rw [processElToYsf]
  split
  · exact ⟨rfl, id⟩
  · split
    · exact ⟨rfl, id⟩
    next hr =>
      have h1 : (if b.callActive = .elTx then b.ysfReheaderIfTalkerChanged e else b).trace =
            b.trace ∧
          (if b.callActive = .elTx then b.ysfReheaderIfTalkerChanged e else b).callActive =
            b.callActive := by
        obtain ⟨src, id, hre⟩ := resolveElTalker_eq e b
        split
        · rw [ysfReheaderIfTalkerChanged]
          split
          · exact ⟨rfl, rfl⟩
          · split
            · exact ⟨rfl, rfl⟩
            · split
              · exact ⟨rfl, rfl⟩
              · simp only [hre]
                split
                · exact ⟨rfl, rfl⟩
                · exact ⟨rfl, rfl⟩
        · exact ⟨rfl, rfl⟩
      generalize (if b.callActive = .elTx then b.ysfReheaderIfTalkerChanged e else b) = b1 at h1
      apply elLoop_invariant (I := fun b' => b'.trace = b.trace ∧
        (b.callActive = .elTx → b'.callActive = .elTx))
      · exact fun _ _ _ _ _ _ hb => hb
      · exact fun _ hb => hb
      · intro ambe b' hb
        have h2 : (if b'.callActive = .idle then b'.beginElToYsf e else b').trace = b.trace ∧
            (b.callActive = .elTx →
              (if b'.callActive = .idle then b'.beginElToYsf e else b').callActive = .elTx) := by
          split
          · obtain ⟨src, id, hre⟩ := resolveElTalker_eq e b'
            rw [beginElToYsf]
            simp only [hre]
            exact ⟨hb.1, fun _ => trivial⟩
          · exact hb
        rw [takeYsfAmbe]
        generalize (if b'.callActive = .idle then b'.beginElToYsf e else b') = b2 at h2
        simp only
        split
        · exact h2
        · obtain ⟨conv, hc⟩ := foldl_modeconv_eq e .putAmbe7Ysf (b2.ysfAmbe ++ [ambe])
            { b2 with ysfAmbe := b2.ysfAmbe ++ [ambe] }
          rw [hc]
          exact h2
      · exact ⟨h1.1, fun hc => h1.2.trans hc⟩

/-- A received YSFD sends nothing. -/
theorem onYsfd_trace (h : b.onYsfd e voc pkt = some b') : b'.trace = b.trace := by
  have hend (b : BridgeEl) : (if b.callActive = .elTx then b.endYsfCall e else b).trace =
      b.trace := by
    split
    · rw [endYsfCall]
      split <;> rfl
    · rfl
  rw [onYsfd] at h
  split at h
  · cases h
    rfl
  · split at h
    · cases h
      rfl
    · split at h
      · cases h
        refine Eq.trans ?_ (hend b)
        generalize (if b.callActive = .elTx then b.endYsfCall e else b) = b1
        change (if b1.callActive = .elRx then _ else b1).trace = _
        split <;> rfl
      · split at h
        · split at h
          · obtain ⟨b1, h1, rfl⟩ := Option.map_eq_some_iff.1 h
            obtain ⟨conv, el, rfl⟩ := drainYsfToElPcm_eq h1
            rfl
          · cases h
            rfl
        · split at h
          · obtain ⟨conv, el, rfl⟩ := drainYsfToElPcm_eq h
            split
            · exact hend b
            · rfl
          · cases h
            rfl

/-- No HEADER or voice frame is accepted from YSF once the HEADER of the EL→YSF call that is up
has been sent. -/
def KeepsTerminator (e : ElEnv) (p : BridgeEl × YsfBook) : BridgeElEvent → Prop
  | .ysfd _ _ pkt => p.1.callActive = .elTx → p.2.Announced → ∀ f, acceptedFich e pkt = some f →
      f.fi ≠ ysfFiHeader ∧ f.fi ≠ ysfFiCommunications
  | _ => True

/-- No call that is up has sent a TERMINATOR, and those that are over have sent one if they had
sent a HEADER. -/
def CallsTerminated (p : BridgeEl × YsfBook) : Prop :=
  (∀ fs ∈ p.2.closed, TerminatedOnce fs) ∧ ∀ fs ∈ p.2.current, NoTerminator fs

instance (p : BridgeEl × YsfBook) : Decidable (CallsTerminated p) :=
  inferInstanceAs (Decidable (_ ∧ _))

structure BookInv (b : BridgeEl) (k : YsfBook) : Prop where
  ended : ∀ fs ∈ k.closed, TerminatedOnce fs
  unended : ∀ fs ∈ k.current, NoTerminator fs
  isOpen : k.current.isSome ↔ b.callActive = .elTx

namespace BookInv

theorem current (h : BookInv b k) (hc : b.callActive = .elTx) :
    ∃ fs, k.current = some fs ∧ NoTerminator fs := by
  obtain ⟨fs, hfs⟩ := Option.isSome_iff_exists.1 (h.isOpen.2 hc)
  exact ⟨fs, hfs, h.unended fs hfs⟩

/-- A step outside an EL→YSF call, that may begin one. -/
theorem outside (h : BookInv b k) (hc : b.callActive ≠ .elTx) (hs : NoTerminator fs) :
    BookInv b' (k.note b.callActive b'.callActive fs) := by
  rw [YsfBook.note, if_neg hc]
  split
  next ha => exact ⟨h.ended, fun _ hm => Option.some.inj hm ▸ hs, fun _ => ha, fun _ => rfl⟩
  next ha =>
    refine ⟨h.ended, h.unended, ?_⟩
    rw [h.isOpen]
    exact iff_of_false hc ha

/-- A step within a call that sends no TERMINATOR. -/
theorem within (h : BookInv b k) (hc : b.callActive = .elTx) (ha : b'.callActive = .elTx)
    (hs : NoTerminator fs) : BookInv b' (k.note b.callActive b'.callActive fs) := by
  obtain ⟨gs, hgs, hn⟩ := h.current hc
  rw [YsfBook.note, if_pos hc, if_pos ha, hgs]
  refine ⟨h.ended, fun _ hm => ?_, fun _ => ha, fun _ => rfl⟩
  cases hm
  exact List.forall_mem_append.2 ⟨hn, hs⟩

/-- A step that ends the call keeps the book in order exactly when its frames do. -/
theorem over_iff (h : BookInv b k) (hc : k.current = some gs) (hb : b.callActive = .elTx)
    (ha : b'.callActive ≠ .elTx) (fs : List Ysfd) :
    CallsTerminated (b', k.note b.callActive b'.callActive fs) ↔ TerminatedOnce (gs ++ fs) := by
  rw [YsfBook.note, if_pos hb, if_neg ha, hc]
  constructor
  · intro ht
    exact ht.1 _ (List.mem_append_right _ (List.mem_singleton_self _))
  · intro ht
    exact ⟨List.forall_mem_append.2 ⟨h.ended, List.forall_mem_singleton.2 ht⟩, nofun⟩

theorem of_terminated (h : CallsTerminated (b', k)) (hk : k.current.isSome ↔ b'.callActive = .elTx) :
    BookInv b' k :=
  ⟨h.1, h.2, hk⟩

theorem overTx (h : BookInv b k) (hc : k.current = some gs) (hb : b.callActive = .elTx)
    (ha : b'.callActive ≠ .elTx) (ht : TerminatedOnce (gs ++ fs)) :
    BookInv b' (k.note b.callActive b'.callActive fs) := by
  refine of_terminated ((h.over_iff hc hb ha fs).2 ht) ?_
  rw [YsfBook.note, if_pos hb, if_neg ha]
  exact iff_of_false nofun ha

end BookInv

theorem noTerminator_nil : NoTerminator [] := List.forall_mem_nil _

/-- A step that meets the condition keeps the book in order; one that does not breaks it. -/
theorem step_bookInv (hm : e.cfg.mode = .echolinkYsf) (h : BookInv b k) (ev : BridgeElEvent)
    (hs : b.step e ev = some b') :
    (KeepsTerminator e (b, k) ev →
      BookInv b' (k.note b.callActive b'.callActive (ysfSince b b'))) ∧
    (¬KeepsTerminator e (b, k) ev →
      ¬CallsTerminated (b', k.note b.callActive b'.callActive (ysfSince b b'))) := by
  have hkeep (ht : b'.trace = b.trace) (hc : b.callActive = .elTx → b'.callActive = .elTx) :
      BookInv b' (k.note b.callActive b'.callActive (ysfSince b b')) := by
    rw [ysfSince_nil ht]
    by_cases hb : b.callActive = .elTx
    · exact h.within hb (hc hb) noTerminator_nil
    · exact h.outside hb noTerminator_nil
  cases ev with
  | audio c voc =>
    simp only [step, hm, Option.some.injEq] at hs
    obtain ⟨ht, hc⟩ := processElToYsf_frame (e := e) { b with clock := c } voc
    rw [hs] at ht hc
    exact ⟨fun _ => hkeep ht hc, fun hn => absurd trivial hn⟩
  | dmrd c voc pkt =>
    rw [step, onDmrd, if_pos (by rw [hm]; decide)] at hs
    cases hs
    exact ⟨fun _ => hkeep rfl id, fun hn => absurd trivial hn⟩
  | ysfd c voc pkt =>
    have ht : b'.trace = b.trace := onYsfd_trace (b := { b with clock := c }) hs
    by_cases hb : b.callActive = .elTx
    · obtain ⟨gs, hgs, hn⟩ := h.current hb
      by_cases hf : ∀ f, acceptedFich e pkt = some f →
          f.fi ≠ ysfFiHeader ∧ f.fi ≠ ysfFiCommunications
      · obtain ⟨_, hc⟩ := onYsfd_others hf hs
        have hc' : b'.callActive = .elTx := by
          rcases hc with hc | hc
          · exact hc.trans hb
          · exact absurd (hb.symm.trans hc) (by decide)
        exact ⟨fun _ => hkeep ht fun _ => hc', fun hk => absurd (fun _ _ => hf) hk⟩
      · have hr : b'.callActive = .elRx := by
          push Not at hf
          obtain ⟨f, ha, hfi⟩ := hf
          refine (onYsfd_receives hm ha ?_ hs).1
          by_cases h1 : f.fi = ysfFiHeader
          · exact .inl h1
          · exact .inr (hfi h1)
        have hr' : b'.callActive ≠ .elTx := by
          rw [hr]
          decide
        have hover : CallsTerminated (b', _) ↔ _ := h.over_iff hgs hb hr' []
        rw [List.append_nil] at hover
        rw [ysfSince_nil ht]
        constructor
        · intro hk
          refine h.overTx hgs hb hr' ?_
          rw [List.append_nil]
          intro hh
          exact absurd (hk hb ⟨gs, hgs, hh⟩) hf
        · intro hk hterm
          apply hk
          intro _ hann
          obtain ⟨gs', hgs', hh⟩ := hann
          cases hgs.symm.trans hgs'
          exact absurd (hover.1 hterm) (hn.not_terminatedOnce hh)
    · refine ⟨fun _ => hkeep ht fun hc => absurd hc hb, fun hk => absurd (fun hc => ?_) hk⟩
      exact absurd hc hb
  | tick c dmrUp =>
    refine ⟨fun _ => ?_, fun hn => absurd trivial hn⟩
    cases hs
    rcases tick_cases hm { b with clock := c } dmrUp with
      ⟨hb, _⟩ | ⟨hb, ha, hn⟩ | ⟨hb, ha, t, ht, hfi⟩
    · by_cases ha : (tick e { b with clock := c } dmrUp).callActive = .elTx
      · exact absurd ha (by assumption)
      · have hnote (fs : List Ysfd) : k.note b.callActive
            (tick e { b with clock := c } dmrUp).callActive fs = k := by
          rw [YsfBook.note, if_neg hb, if_neg ha]
        rw [hnote]
        exact ⟨h.ended, h.unended, h.isOpen.trans (iff_of_false hb ha)⟩
    · exact h.within hb ha hn
    · obtain ⟨gs, hgs, hno⟩ := h.current hb
      refine h.overTx hgs hb ha ?_
      change TerminatedOnce (gs ++ ysfSince { b with clock := c } _)
      rw [ht]
      exact terminatedOnce_snoc hno hfi
  | rtp | identity | link | aliases =>
    cases hs
    exact ⟨fun _ => hkeep rfl id, fun hn => absurd trivial hn⟩

/-- Every EL→YSF call whose HEADER was sent is closed by one TERMINATOR exactly when no step of
the run preempts such a call. -/
theorem callsTerminated_iff {c : Clock} {db : AliasDb} {el : PeerEl}
    (hm : e.cfg.mode = .echolinkYsf) (evs : List BridgeElEvent) :
    (booked e c db el).Always CallsTerminated (booked e c db el).init evs ↔
      (booked e c db el).Meets (KeepsTerminator e) (booked e c db el).init evs := by
  apply Machine.always_iff_meets (I := fun p => BookInv p.1 p.2)
  · rintro ⟨b, k⟩ ev ⟨b', k'⟩ hi hk hs
    obtain ⟨hs, hnote⟩ := Machine.observe_step hs
    simp only at hs hnote
    rw [hnote]
    exact (step_bookInv hm hi ev hs).1 hk
  · exact fun _ hi => ⟨hi.ended, hi.unended⟩
  · rintro ⟨b, k⟩ ev ⟨b', k'⟩ hi hk hs
    obtain ⟨hs, hnote⟩ := Machine.observe_step hs
    simp only at hs hnote
    rw [hnote]
    exact (step_bookInv hm hi ev hs).2 hk
  · exact ⟨List.forall_mem_nil _, nofun, iff_of_false nofun nofun⟩

def sampleBooked : Machine (BridgeEl × YsfBook) BridgeElEvent :=
  booked (sampleElEnv .echolinkYsf) (.stopped 0) noAliases samplePeerEl

/-- A call that its hang time ends. -/
theorem callsTerminated_sample : sampleBooked.Always CallsTerminated sampleBooked.init
    [rtpOf 1, elAudioAt 1000, elTickAt 1100, elTickAt 1800, elTickAt 1900, elTickAt 2000] := by
  apply (callsTerminated_iff rfl _).2
  intro b1 _
  refine ⟨trivial, fun b2 _ => ⟨trivial, fun b3 _ => ⟨trivial, fun b4 _ => ⟨trivial, fun b5 _ => ?_⟩⟩⟩⟩
  exact ⟨trivial, fun b6 _ => ⟨trivial, trivial⟩⟩

/-- A YSF HEADER after the one that the EL→YSF call has sent: the call is never terminated. -/
theorem not_callsTerminated : ¬sampleBooked.Always CallsTerminated sampleBooked.init
    [rtpOf 1, elAudioAt 1000, elTickAt 1100, elYsfdAt 1200 headerFich] := by
  intro h
  have hr : (sampleBooked.run
      [rtpOf 1, elAudioAt 1000, elTickAt 1100, elYsfdAt 1200 headerFich]).map
        (fun p => decide (CallsTerminated p)) = some false := by
    decide +kernel
  obtain ⟨p, hp, hs⟩ := Option.map_eq_some_iff.1 hr
  exact of_decide_eq_false hs (Machine.always_iff.1 h _ p (List.prefix_refl _) hp)

end BridgeEl

end AdnBridge
