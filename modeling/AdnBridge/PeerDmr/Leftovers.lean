import AdnBridge.PeerDmr

namespace AdnBridge
set_option autoImplicit true

namespace PeerDmr

/-- What the datagram `d` leads to does not depend on what the receive buffer held before. -/
def ReadsOwn (c : PeerDmrConfig) (p : PeerDmr) (now : Int) (fromPeer : Bool) (d : List UInt8) :
    Prop :=
  ∀ old old' : List UInt8, old.length = 2048 → old'.length = 2048 →
    let q := { p with buf := old }.poll c now fromPeer d
    let q' := { p with buf := old' }.poll c now fromPeer d
    q.hostStatus = q'.hostStatus ∧ q.status = q'.status ∧ q.loginPhase = q'.loginPhase ∧
      q.sent = q'.sent

/-- The datagram ends within a tag that the login acts on, or within the seed of the first
acknowledgment. -/
def CutShort (p : PeerDmr) (d : List UInt8) : Prop :=
  (d.length < 6 ∧ (d <+: rptAckTag ∧ p.loginPhase ≤ 3 ∨ d <+: mstNakTag)) ∨
    (d.take 6 = rptAckTag ∧ d.length < 10 ∧ p.loginPhase = 0)

/-- The digest depends on the bytes of the seed that are not known yet. -/
def SeedMatters (c : PeerDmrConfig) : Prop :=
  ∀ known : List UInt8, known.length < 4 → ∃ a b : List UInt8,
    a.length = 4 - known.length ∧ b.length = 4 - known.length ∧
      c.sha256 (known ++ a ++ c.password.take 63) ≠ c.sha256 (known ++ b ++ c.password.take 63)

section
variable {c : PeerDmrConfig} {p : PeerDmr} {now : Int} {fromPeer : Bool} {d old : List UInt8}

/-- What `handle_rx` does to the bytes `b` while the login is under way. -/
def answer (c : PeerDmrConfig) (p : PeerDmr) (now : Int) (b : List UInt8) : PeerDmr :=
  { p with buf := b }.handleRx c now

theorem poll_fromPeer (hd : d ≠ []) (hlen : d.length ≤ 2048) (old : List UInt8) :
    { p with buf := old }.poll c now true d = p.answer c now (d ++ old.drop d.length) := by
  rw [poll, if_neg hd, List.take_of_length_le hlen]
  rfl

theorem answer_ack (hs : p.hostStatus = .connecting) {b : List UInt8} (hb : b.take 6 = rptAckTag) :
    p.answer c now b =
      { { p with buf := b }.onRptAck c now with
        status := ({ p with buf := b }.onRptAck c now).hostStatus } := by
  simp only [answer, handleRx, hs, reduceCtorEq, if_false, if_true, hb]

theorem answer_nak (hs : p.hostStatus = .connecting) {b : List UInt8} (hb : b.take 6 = mstNakTag) :
    p.answer c now b =
      { p with
        buf := b, hostStatus := .disconnected, loginFailUntil := now + 3,
        status := .disconnected } := by
  have hne : ¬mstNakTag = rptAckTag := by decide
  simp only [answer, handleRx, hs, reduceCtorEq, if_false, if_true, hb, hne]

theorem answer_other (hs : p.hostStatus = .connecting) {b : List UInt8}
    (ha : b.take 6 ≠ rptAckTag) (hn : b.take 6 ≠ mstNakTag) :
    p.answer c now b = { p with buf := b, status := .connecting } := by
  simp only [answer, handleRx, hs, reduceCtorEq, if_false, if_true, ha, hn]

/-- An acknowledgment moves the login on. -/
theorem onRptAck_phase (c : PeerDmrConfig) (now : Int) (hp : p.loginPhase ≤ 3) :
    (p.onRptAck c now).loginPhase ≠ p.loginPhase := by
  rw [onRptAck]
  split
  next h => rw [h]; exact fun h => by cases h
  next h => rw [h]; exact fun h => by cases h
  next h =>
    split
    · rw [h]; exact fun h => by cases h
    · rw [h]; exact fun h => by cases h
  next h => rw [h]; exact fun h => by cases h
  next h0 h1 h2 h3 =>
    simp only [imp_false] at h0 h1 h2 h3
    omega

theorem onRptAck_done (h : ¬p.loginPhase ≤ 3) : p.onRptAck c now = p := by
  rw [onRptAck]
  split
  next h' => omega
  next h' => omega
  next h' => omega
  next h' => omega
  next => rfl

/-- Only the first acknowledgment looks at more of the buffer than its tag. -/
theorem onRptAck_congr (b b' : List UInt8)
    (h : p.loginPhase = 0 → (b.drop 6).take 4 = (b'.drop 6).take 4) :
    { p with buf := b }.onRptAck c now = { { p with buf := b' }.onRptAck c now with buf := b } := by
  simp only [onRptAck]
  split
  next h0 => simp only [processConnect, sendto, h h0]
  next => rfl
  next => split <;> rfl
  next => rfl
  next => rfl

/-- The bytes that decide are those of the datagram. -/
theorem answer_congr (hs : p.hostStatus = .connecting) {b b' : List UInt8}
    (htag : b.take 6 = b'.take 6) (hseed : b.take 6 = rptAckTag → p.loginPhase = 0 →
      (b.drop 6).take 4 = (b'.drop 6).take 4) :
    let q := p.answer c now b
    let q' := p.answer c now b'
    q.hostStatus = q'.hostStatus ∧ q.status = q'.status ∧ q.loginPhase = q'.loginPhase ∧
      q.sent = q'.sent := by
  by_cases ha : b.take 6 = rptAckTag
  · rw [answer_ack hs ha, answer_ack hs (htag ▸ ha), onRptAck_congr b b' (hseed ha)]
    exact ⟨rfl, rfl, rfl, rfl⟩
  · by_cases hn : b.take 6 = mstNakTag
    · rw [answer_nak hs hn, answer_nak hs (htag ▸ hn)]
      exact ⟨rfl, rfl, rfl, rfl⟩
    · rw [answer_other hs ha hn, answer_other hs (htag ▸ ha) (htag ▸ hn)]
      exact ⟨rfl, rfl, rfl, rfl⟩

/-- Outside the login the buffer decides nothing. -/
theorem answer_settled (hs : p.hostStatus ≠ .connecting) (b : List UInt8) :
    p.answer c now b = { p.answer c now [] with buf := b } := by
  rw [answer, answer, handleRx, handleRx]
  cases h : p.hostStatus with
  | connecting => exact absurd h hs
  | connected => simp only [if_true, reduceCtorEq, if_false]
  | disconnected => simp only [reduceCtorEq, if_false]

/-- A buffer that completes the datagram to `w` and goes on with zeros. -/
def completing (w : List UInt8) : List UInt8 := w ++ List.replicate (2048 - w.length) 0

theorem completing_length (h : w.length ≤ 2048) : (completing w).length = 2048 := by
  rw [completing, List.length_append, List.length_replicate]
  omega

theorem completing_filled (h : d <+: w) : d ++ (completing w).drop d.length = completing w := by
  obtain ⟨t, rfl⟩ := h
  rw [completing, List.append_assoc, List.drop_left]

theorem completing_take (h : n = w.length) : (completing w).take n = w := by
  rw [completing, h, List.take_left]

/-- What a datagram makes of the peer when the buffer completes it to `w`. -/
theorem poll_completing (hd : d ≠ []) (h : d <+: w) (hw : w.length ≤ 2048) :
    { p with buf := completing w }.poll c now true d = p.answer c now (completing w) := by
  rw [poll_fromPeer hd (Nat.le_trans h.length_le hw), completing_filled h]

theorem completing_cut (h : d.length < 6) (ht : 0 ∉ tag) : (completing d).take 6 ≠ tag := by
  intro heq
  refine ht (heq ▸ ?_)
  rw [completing, List.take_append, List.take_replicate]
  refine List.mem_append_right _ (List.mem_replicate.2 ⟨?_, rfl⟩)
  omega

/-- A datagram that ends within no tag that matters changes nothing. -/
theorem answer_inert (hs : p.hostStatus = .connecting) (hlen : d.length < 6)
    (hcut : ¬CutShort p d) (rest : List UInt8) :
    p.answer c now (d ++ rest) = { p with buf := d ++ rest, status := .connecting } := by
  have hpre : ∀ tag : List UInt8, (d ++ rest).take 6 = tag → d <+: tag := fun tag h => by
    rw [← h, List.take_append, List.take_of_length_le (by omega)]
    exact List.prefix_append _ _
  have hnak : (d ++ rest).take 6 ≠ mstNakTag := fun h => hcut (.inl ⟨hlen, .inr (hpre _ h)⟩)
  by_cases ha : (d ++ rest).take 6 = rptAckTag
  · have hp : ¬p.loginPhase ≤ 3 := fun hp => hcut (.inl ⟨hlen, .inl ⟨hpre _ ha, hp⟩⟩)
    have hdone : { p with buf := d ++ rest }.onRptAck c now = { p with buf := d ++ rest } :=
      onRptAck_done hp
    simp only [answer_ack hs ha, hdone]
    simp only [hs]
  · exact answer_other hs ha hnak

theorem answer_seed (hs : p.hostStatus = .connecting) (hp : p.loginPhase = 0) {b : List UInt8}
    (hb : b.take 6 = rptAckTag) : (p.answer c now b).sent =
      p.sent ++ [rptkTag ++ be32 c.dmrid ++ c.sha256 ((b.drop 6).take 4 ++ c.password.take 63)] := by
  rw [answer_ack hs hb]
  simp only [onRptAck, hp, processConnect, sendto]

/-- Two buffers that complete a datagram cut short differently lead to different things. -/
theorem CutShort.decides (h : CutShort p d) (hsha : SeedMatters c) (hd : d ≠ [])
    (hs : p.hostStatus = .connecting) : ¬ReadsOwn c p now true d := by
  intro hown
  have hself : d <+: d := List.prefix_refl d
  rcases h with ⟨hlen, ⟨hack, hp⟩ | hnak⟩ | ⟨hack, hlen, hp⟩
  · have h := (hown (completing rptAckTag) (completing d) (completing_length (by decide))
      (completing_length (by omega))).2.2.1
    rw [poll_completing hd hack (by decide), poll_completing hd hself (by omega),
      answer_ack hs (completing_take rfl),
      answer_other hs (completing_cut hlen (by decide)) (completing_cut hlen (by decide))] at h
    exact onRptAck_phase c now (p := { p with buf := completing rptAckTag }) hp h
  · have h := (hown (completing mstNakTag) (completing d) (completing_length (by decide))
      (completing_length (by omega))).1
    rw [poll_completing hd hnak (by decide), poll_completing hd hself (by omega),
      answer_nak hs (completing_take rfl),
      answer_other hs (completing_cut hlen (by decide)) (completing_cut hlen (by decide))] at h
    exact absurd (h.trans hs) nofun
  · have h6 : 6 ≤ d.length := by
      have := congrArg List.length hack
      rw [List.length_take] at this
      change min 6 d.length = 6 at this
      omega
    obtain ⟨a, b, ha, hb, hne⟩ := hsha (d.drop 6) (by rw [List.length_drop]; omega)
    rw [List.length_drop] at ha hb
    have hla : (d ++ a).length = 10 := by rw [List.length_append]; omega
    have hlb : (d ++ b).length = 10 := by rw [List.length_append]; omega
    have h := (hown (completing (d ++ a)) (completing (d ++ b)) (completing_length (by omega))
      (completing_length (by omega))).2.2.2
    have htag : ∀ t : List UInt8, (completing (d ++ t)).take 6 = rptAckTag := fun t => by
      rw [completing, List.append_assoc, List.take_append_of_le_length h6, hack]
    have hseed : ∀ t : List UInt8, (d ++ t).length = 10 →
        ((completing (d ++ t)).drop 6).take 4 = d.drop 6 ++ t := fun t ht => by
      rw [List.take_drop, completing_take ht.symm, List.drop_append_of_le_length h6]
    rw [poll_completing hd (List.prefix_append d a) (by omega),
      poll_completing hd (List.prefix_append d b) (by omega), answer_seed hs hp (htag a),
      answer_seed hs hp (htag b), hseed a hla, hseed b hlb] at h
    exact hne (List.append_cancel_left (List.singleton_inj.1 (List.append_cancel_left h)))

/-- A datagram that is not cut short is read from its own bytes, whatever the hash. -/
theorem readsOwn_of_whole (hd : d ≠ []) (hlen : d.length ≤ 2048)
    (hcut : p.hostStatus = .connecting → ¬CutShort p d) : ReadsOwn c p now true d := by
  intro old old' _ _
  rw [poll_fromPeer hd hlen, poll_fromPeer hd hlen]
  by_cases hs : p.hostStatus = .connecting
  · have hcut := hcut hs
    by_cases h6 : d.length < 6
    · rw [answer_inert hs h6 hcut, answer_inert hs h6 hcut]
      exact ⟨rfl, rfl, rfl, rfl⟩
    · have htake : ∀ t, (d ++ t).take 6 = d.take 6 := fun t =>
        List.take_append_of_le_length (Nat.le_of_not_lt h6)
      refine answer_congr hs ((htake _).trans (htake _).symm) fun hack hp => ?_
      have h10 : ¬d.length < 10 := fun h => hcut (.inr ⟨(htake _).symm.trans hack, h, hp⟩)
      have hseed : ∀ t, ((d ++ t).drop 6).take 4 = (d.drop 6).take 4 := fun t => by
        rw [List.take_drop, List.take_drop, List.take_append_of_le_length (by omega)]
      exact (hseed _).trans (hseed _).symm
  · rw [answer_settled hs, answer_settled hs (d ++ old'.drop d.length)]
    exact ⟨rfl, rfl, rfl, rfl⟩

/-- A datagram is read from its own bytes only, unless it reaches a peer that logs in and ends
within a tag that the login acts on or within the seed. -/
theorem readsOwn_iff (hsha : SeedMatters c) (hd : d ≠ []) (hlen : d.length ≤ 2048) :
    ReadsOwn c p now fromPeer d ↔
      ¬(fromPeer = true ∧ p.hostStatus = .connecting ∧ CutShort p d) := by
  constructor
  · rintro hown ⟨rfl, hs, hcut⟩
    exact hcut.decides hsha hd hs hown
  · intro hcut
    cases fromPeer with
    | false =>
      intro old old' _ _
      simp only [poll, if_neg hd, fill, Bool.false_eq_true, if_false, and_self]
    | true => exact readsOwn_of_whole hd hlen fun hs h => hcut ⟨rfl, hs, h⟩

end

/-- A hash that keeps messages apart and answers the seed `2A17053C` as SHA-256 does. -/
def sampleSha256 (m : List UInt8) : List UInt8 :=
  if m = [0x2A, 0x17, 0x05, 0x3C, 0x70, 0x61, 0x73, 0x73] then
    sha256Generate (List.replicate 128 0) m
  else m

def hashingConfig : PeerDmrConfig := { sampleConfig with sha256 := sampleSha256 }

theorem hashingConfig_seedMatters : SeedMatters hashingConfig := by
  intro known hk
  obtain ⟨k, hlen⟩ : ∃ k, 4 - known.length = k + 1 := ⟨3 - known.length, by omega⟩
  have hrep : ∀ x : UInt8, (List.replicate (k + 1) x).length = k + 1 := fun _ =>
    List.length_replicate
  have hdigest : ∀ x : UInt8, x ≠ 0x3C → hashingConfig.sha256
      (known ++ List.replicate (k + 1) x ++ hashingConfig.password.take 63) =
        known ++ List.replicate (k + 1) x ++ [0x70, 0x61, 0x73, 0x73] := by
    intro x hx
    refine if_neg fun h => hx ?_
    have h : (known ++ List.replicate (k + 1) x) ++ [0x70, 0x61, 0x73, 0x73] =
        ([0x2A, 0x17, 0x05] ++ [0x3C]) ++ [0x70, 0x61, 0x73, 0x73] := h
    have hseed := List.append_cancel_right h
    rw [List.replicate_succ', ← List.append_assoc] at hseed
    exact List.singleton_inj.1 (List.append_inj' hseed rfl).2
  refine ⟨List.replicate (k + 1) 0, List.replicate (k + 1) 1, hlen ▸ hrep 0, hlen ▸ hrep 1, ?_⟩
  rw [hdigest 0 (by decide), hdigest 1 (by decide)]
  intro h
  have h := List.append_cancel_left (List.append_cancel_right h)
  rw [List.replicate_succ, List.replicate_succ] at h
  exact absurd (List.cons.inj h).1 (by decide)

def loggingIn : PeerDmr := (peerOpen 0).tick hashingConfig 0

/-- The acknowledgment with the whole seed is read from its own bytes. -/
theorem readsOwn_iff_sample : ReadsOwn hashingConfig loggingIn 1 true
    (rptAckTag ++ [0x2A, 0x17, 0x05, 0x3C]) :=
  (readsOwn_iff hashingConfig_seedMatters (by decide) (by decide)).2 fun h => by
    rcases h.2.2 with ⟨h6, _⟩ | ⟨_, h10, _⟩
    · exact absurd h6 (by decide)
    · exact absurd h10 (by decide)

/-- A datagram of one byte acknowledges the login when the rest of the tag is left over. -/
theorem not_readsOwn : ¬ReadsOwn hashingConfig loggingIn 1 true [0x52] := by
  intro h
  have hphase := (h (completing rptAckTag) (completing [0x52]) (completing_length (by decide))
    (completing_length (by decide))).2.2.1
  revert hphase
  decide +kernel

end PeerDmr

end AdnBridge
