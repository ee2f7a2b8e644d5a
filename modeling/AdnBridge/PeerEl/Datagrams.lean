import AdnBridge.PeerEl.Rtcp

namespace AdnBridge
set_option autoImplicit true

open Reads

/-- A text of printable characters that fits a buffer with its NUL. -/
structure FitsBuffer (size : Nat) (s : List UInt8) : Prop where
  printable : ∀ c ∈ s, isPrintable c = true
  short : s.length < size

theorem copyToken_fits (s : List UInt8) : FitsBuffer 32 (copyToken 32 s) := by
  constructor
  · intro c hc
    rw [copyToken, List.mem_map] at hc
    obtain ⟨b, hb, rfl⟩ := hc
    exact isPrintable_toUpper b (List.mem_filter.1 (List.mem_of_mem_take hb)).2
  · exact Nat.lt_succ_of_le (copyToken_length s)

theorem parenTalker_fits (h : parenTalker name = some t) : FitsBuffer 32 t := by
  obtain ⟨s, rfl, _⟩ := parenTalker_token h
  exact copyToken_fits s

namespace PeerEl

/-- The texts that SDES packets set; the configured name of the node stands as it was written. -/
structure TextsOk (host : List UInt8) (p : PeerEl) : Prop where
  node : p.host = host
  cname : FitsBuffer 32 p.remoteCname
  talker : FitsBuffer 32 p.remoteTalker ∨ p.remoteTalker = host.take 31

theorem opened_textsOk (callsign host : List UInt8) (rtpSends : Nat → Bool) :
    TextsOk (host.take 127) (opened callsign host rtpSends) := by
  constructor
  · rfl
  · exact ⟨fun _ h => (nomatch h), Nat.succ_pos 31⟩
  · right
    rw [List.take_take]
    rfl

variable {host : List UInt8} {p : PeerEl}

theorem TextsOk.noteCname (h : TextsOk host p) (cname : List UInt8) :
    TextsOk host (p.noteCname cname) := by
  rw [PeerEl.noteCname]
  split
  · exact ⟨h.node, copyToken_fits cname, h.talker⟩
  · exact h

theorem TextsOk.noteTalker (h : TextsOk host p) (fromParen recent : Bool)
    (ht : FitsBuffer 32 t ∨ t = host.take 31) : TextsOk host (p.noteTalker fromParen recent t) := by
  rw [PeerEl.noteTalker]
  split_ifs
  · exact h
  · exact h
  · exact ⟨h.node, h.cname, h.talker⟩
  · exact h
  · exact ⟨h.node, h.cname, ht⟩

theorem weakTalker_fits (p : PeerEl) (cname name : List UInt8) :
    FitsBuffer 32 (p.weakTalker cname name) ∨ p.weakTalker cname name = p.host.take 31 := by
  rw [weakTalker]
  split_ifs
  · exact .inl (copyToken_fits name)
  · exact .inl (copyToken_fits cname)
  · exact .inr rfl

theorem TextsOk.applyRemoteSdes (h : TextsOk host p) (lastRtpRx now : Int)
    (cname name : List UInt8) : TextsOk host (p.applyRemoteSdes lastRtpRx now cname name) := by
  apply (h.noteCname cname).noteTalker
  cases ht : parenTalker name with
  | some t => exact .inl (parenTalker_fits ht)
  | none =>
    rw [← h.node]
    exact p.weakTalker_fits cname name

end PeerEl

/-- An item is read inside the packet, and the next one stands behind it. -/
theorem sdesItem_safe (pkt : List UInt8) (s : Nat × SdesTexts) : (sdesItem pkt s).Safe True
    (Sum.elim (fun s' => True ∧ pkt.length - s'.1 < pkt.length - s.1) fun _ => True) := by
  obtain ⟨o, t⟩ := s
  rw [sdesItem]
  by_cases ho : o + 1 ≤ pkt.length
  · rw [if_pos ho]
    apply (readByte_safe ho).bind
    intro type _
    have hlen : (itemLength pkt o).Safe True fun _ => True := by
      rw [itemLength]
      split
      · exact readByte_safe ‹_›
      · trivial
    apply hlen.bind
    intro ilen _
    split_ifs with hend hrefuse
    · trivial
    · exact ⟨rfl, trivial⟩
    · apply (readBytes_safe (Nat.le_of_not_lt hrefuse)).bind
      intro text _
      have hlt : pkt.length - (o + 2 + ilen.toNat) < pkt.length - o := by omega
      exact ⟨trivial, hlt⟩
  · rw [if_neg ho]
    trivial

theorem sdesItems_safe (pkt : List UInt8) (h : 4 ≤ o) (t : SdesTexts) (hpkt : 0 < pkt.length) :
    (loop (sdesItem pkt) pkt.length (o, t)).Safe True fun _ => True := by
  apply loop_safe (I := fun _ => True) (μ := fun s => pkt.length - s.1)
  · exact fun s _ => sdesItem_safe pkt s
  · trivial
  · change pkt.length - o < pkt.length
    omega

theorem sdesChunk_safe (pkt : List UInt8) (s : Nat × Nat × SdesTexts) :
    (sdesChunk pkt s).Safe True
      (Sum.elim (fun s' => True ∧ s'.1 < s.1) fun _ => True) := by
  obtain ⟨count, o, t⟩ := s
  rw [sdesChunk]
  by_cases h : 0 < count ∧ o + 4 ≤ pkt.length
  · rw [if_pos h]
    apply (sdesItems_safe pkt (Nat.le_add_left 4 o) t (by omega)).bind
    intro r _
    exact ⟨trivial, Nat.sub_lt h.1 Nat.one_pos⟩
  · rw [if_neg h]
    trivial

theorem parseSdesTexts_safe (pkt : List UInt8) : (parseSdesTexts pkt).Safe True fun _ => True := by
  rw [parseSdesTexts]
  by_cases h : pkt.length < 8
  · rw [if_pos h]
    exact ⟨rfl, trivial⟩
  · rw [if_neg h]
    apply (readByte_safe (by omega)).bind
    intro b0 _
    apply loop_safe (I := fun _ => True) (μ := fun s => s.1)
    · exact fun s _ => sdesChunk_safe pkt s
    · trivial
    · change (b0 &&& 0x1F).toNat < 32
      rw [UInt8.toNat_and]
      exact Nat.lt_of_le_of_lt Nat.and_le_right (by decide)

theorem PeerEl.parseSdesPacket_safe {host : List UInt8} {p : PeerEl} (h : PeerEl.TextsOk host p) (lastRtpRx now : Int)
    (pkt : List UInt8) : ∃ r, p.parseSdesPacket lastRtpRx now pkt = .ok r ∧ PeerEl.TextsOk host r.2 := by
  have hsafe := parseSdesTexts_safe pkt
  rw [parseSdesPacket]
  cases hp : parseSdesTexts pkt with
  | ok t =>
    by_cases ho : t.isOpen = true
    · exact ⟨(true, p), if_pos ho, h⟩
    · exact ⟨_, if_neg ho, h.applyRemoteSdes lastRtpRx now t.cname t.name⟩
  | error stop =>
    rw [hp] at hsafe
    obtain rfl : stop = .refused := hsafe.1
    exact ⟨(false, p), rfl, h⟩

namespace ElLink

variable {host : List UInt8}

theorem sendSdes_el (w : ElHost) (p : ElLink) : (p.sendSdes w).el = p.el := by
  rw [sendSdes]
  split
  · rfl
  · rw [buildSdes]
    split_ifs <;> rfl

theorem replySdes_el (w : ElHost) (p : ElLink) : (p.replySdes w).el = p.el := by
  rw [replySdes]
  split
  · rfl
  · exact sendSdes_el w p

theorem hearRtcp_el (p : ElLink) : p.hearRtcp.el = p.el := by
  rw [hearRtcp]
  split <;> rfl

theorem tookSdes_el (w : ElHost) (p : ElLink) (isOpen : Bool) (el : PeerEl) :
    (p.tookSdes w isOpen el).el = el := by
  rw [tookSdes, replySdes_el]
  split
  · rfl
  · exact hearRtcp_el _

theorem handleSdes_safe (w : ElHost) {p : ElLink} (h : PeerEl.TextsOk host p.el) (pkt : List UInt8) :
    ∃ q, p.handleSdes w pkt = .ok q ∧ PeerEl.TextsOk host q.el := by
  obtain ⟨r, hr, ht⟩ := PeerEl.parseSdesPacket_safe h p.lastRtpRx p.now pkt
  refine ⟨p.tookSdes w r.1 r.2, by rw [handleSdes, hr]; rfl, ?_⟩
  rwa [tookSdes_el]

theorem rtcpBlock_safe (w : ElHost) (data : List UInt8) (s : Nat × ElLink)
    (h : PeerEl.TextsOk host s.2.el) : (rtcpBlock w data s).Safe False
      (Sum.elim (fun s' => PeerEl.TextsOk host s'.2.el ∧ data.length - s'.1 < data.length - s.1)
        fun q => PeerEl.TextsOk host q.el) := by
  obtain ⟨o, p⟩ := s
  rw [rtcpBlock]
  by_cases ho : o + 4 ≤ data.length
  · rw [if_pos ho]
    apply (readByte_safe (by omega)).bind
    intro pt _
    apply (readByte_safe (by omega)).bind
    intro hi _
    apply (readByte_safe (by omega)).bind
    intro lo _
    have hplen : 0 < (hi.toNat * 256 + lo.toNat + 1) * 4 := by omega
    generalize (hi.toNat * 256 + lo.toNat + 1) * 4 = plen at hplen
    have hlt : data.length - (o + plen) < data.length - o := by omega
    simp only
    split_ifs with hout hsdes
    · exact h
    · apply (readBytes_safe (Nat.le_of_not_lt hout)).bind
      intro pkt _
      obtain ⟨q, hq, ht⟩ := handleSdes_safe w h pkt
      rw [hq]
      exact ⟨ht, hlt⟩
    · exact ⟨h, hlt⟩
  · rw [if_neg ho]
    exact h

theorem handleRtcp_safe (w : ElHost) {p : ElLink} (h : PeerEl.TextsOk host p.el) (data : List UInt8) :
    ∃ q, p.handleRtcp w data = .ok q ∧ PeerEl.TextsOk host q.el := by
  have hsafe : (p.handleRtcp w data).Safe False fun q => PeerEl.TextsOk host q.el := by
    apply loop_safe (I := fun s => PeerEl.TextsOk host s.2.el) (μ := fun s => data.length - s.1)
    · exact fun s hs => rtcpBlock_safe w data s hs
    · exact h
    · exact Nat.lt_succ_of_le (Nat.sub_le _ _)
  exact hsafe.exists_ok

/-- Any datagram and any SDES packet is read to its end and inside its bounds. The texts that it
leaves fit their buffers and are printable, the name of the node apart, which is the configured
one; so they are when the link is opened. -/
theorem rtcp_safe (w : ElHost) (host : List UInt8) :
    (∀ callsign sends, PeerEl.TextsOk (host.take 127) (PeerEl.opened callsign host sends)) ∧
      ∀ p : ElLink, PeerEl.TextsOk host p.el →
        (∀ data, ∃ q, p.handleRtcp w data = .ok q ∧ PeerEl.TextsOk host q.el) ∧
        ∀ lastRtpRx now pkt, ∃ r, p.el.parseSdesPacket lastRtpRx now pkt = .ok r ∧
          PeerEl.TextsOk host r.2 := by
  constructor
  · exact fun callsign sends => PeerEl.opened_textsOk callsign host sends
  · intro p h
    constructor
    · exact fun data => handleRtcp_safe w h data
    · exact fun lastRtpRx now pkt => PeerEl.parseSdesPacket_safe h lastRtpRx now pkt

/-- `"REÑ"`, a node name that is not all ASCII. -/
def accentedHost : List UInt8 := [0x52, 0x45, 0xC3, 0x91]

/-- An SDES packet without an item. -/
def emptySdes : List UInt8 := [0xC1, elRtcpSdes, 0, 1, 0, 0, 0, 0]

def plainHost : ElHost := ⟨fun _ => Vector.replicate 4 0, fun _ => none⟩

def accentedLink : ElLink := opened (.opened PeerEl.aa1a accentedHost fun _ => true) true fun _ => 0

/-- An SDES packet with the CNAME `AA1A` and the NAME `CE5RPY`. -/
def namedSdes : List UInt8 :=
  [0xC1, elRtcpSdes, 0, 5, 0, 0, 0, 0, 1, 4] ++ PeerEl.aa1a ++
    [2, 6, 0x43, 0x45, 0x35, 0x52, 0x50, 0x59, 0, 0]

theorem rtcp_safe_sample : (∃ q, accentedLink.handleRtcp plainHost namedSdes = .ok q ∧
      PeerEl.TextsOk accentedHost q.el) ∧
    ∃ r, accentedLink.el.parseSdesPacket 0 0 namedSdes = .ok r ∧ PeerEl.TextsOk accentedHost r.2 := by
  obtain ⟨hopen, hsafe⟩ := rtcp_safe plainHost accentedHost
  obtain ⟨hdata, hpkt⟩ := hsafe accentedLink (hopen PeerEl.aa1a fun _ => true)
  exact ⟨hdata namedSdes, hpkt 0 0 namedSdes⟩

example : (accentedLink.handleRtcp plainHost namedSdes).toOption.map (fun q => q.el.remoteCname) =
    some PeerEl.aa1a := by
  decide +kernel

/-- The same link with a talker that was heard. -/
def heardLink : ElLink :=
  { accentedLink with el := { accentedLink.el with remoteTalker := PeerEl.aa1a } }

theorem heardLink_empty : (heardLink.handleRtcp plainHost emptySdes).toOption.map
    (fun q => q.el.remoteTalker) = some accentedHost := by
  decide +kernel

/-- A talker that is printable gives way to such a name. -/
theorem not_rtcp_printable : ¬∀ (w : ElHost) (p : ElLink) (data : List UInt8) (q : ElLink),
    FitsBuffer 32 p.el.remoteTalker → p.handleRtcp w data = .ok q →
      FitsBuffer 32 q.el.remoteTalker := by
  intro h
  have hp : FitsBuffer 32 heardLink.el.remoteTalker := ⟨by decide +kernel, by decide⟩
  have hrun := heardLink_empty
  cases hq : heardLink.handleRtcp plainHost emptySdes with
  | error stop =>
    rw [hq] at hrun
    cases hrun
  | ok q =>
    rw [hq] at hrun
    have ht : q.el.remoteTalker = accentedHost := Option.some.inj hrun
    have hbad := (h plainHost heardLink emptySdes q hp hq).printable 0xC3 (by rw [ht]; decide)
    cases hbad

end ElLink

end AdnBridge
