import AdnBridge.BridgeEl.BridgeEl
import AdnBridge.PeerEl.Datagrams

namespace AdnBridge
set_option autoImplicit true

open Reads

/-- The items of a chunk, one after the other. -/
def itemsBytes (items : List (UInt8 × List UInt8)) : List UInt8 :=
  items.flatMap fun i => sdesItemBytes i.1 i.2

theorem sdesItemBytes_length (type : UInt8) (text : List UInt8) :
    (sdesItemBytes type text).length = 2 + text.length := by
  rw [sdesItemBytes, List.length_append]
  rfl

theorem itemsBytes_cons (i : UInt8 × List UInt8) (items : List (UInt8 × List UInt8)) :
    itemsBytes (i :: items) = sdesItemBytes i.1 i.2 ++ itemsBytes items := rfl

theorem length_le_itemsBytes (items : List (UInt8 × List UInt8)) :
    items.length ≤ (itemsBytes items).length := by
  induction items with
  | nil => exact Nat.le_refl 0
  | cons i items ih =>
    rw [itemsBytes_cons, List.length_append, sdesItemBytes_length, List.length_cons]
    omega

/-- Items that can be told apart: none is the end of the list, and no length is cut. -/
def ItemsOk (items : List (UInt8 × List UInt8)) : Prop :=
  ∀ i ∈ items, i.1 ≠ elSdesEnd ∧ i.2.length < 256

def putItems (t : SdesTexts) (items : List (UInt8 × List UInt8)) : SdesTexts :=
  items.foldl (fun t i => t.put i.1 i.2) t

theorem sdesItem_read {pkt : List UInt8} (h : pkt.drop o = sdesItemBytes type text ++ rest)
    (htype : type ≠ elSdesEnd) (hlen : text.length < 256) (t : SdesTexts) :
    sdesItem pkt (o, t) = .ok (.inl (o + 2 + text.length, t.put type text)) := by
  have hlength := congrArg List.length h
  simp only [sdesItemBytes, List.length_drop, List.length_append, List.length_cons,
    List.length_nil] at hlength
  have hn : text.length.toUInt8.toNat = text.length := Nat.mod_eq_of_lt hlen
  have h0 : readByte pkt o = .ok type := readByte_eq h
  have h1 : readByte pkt (o + 1) = .ok text.length.toUInt8 := by
    apply @readByte_eq _ _ _ (text ++ rest)
    rw [← List.drop_drop, h]
    rfl
  have h2 : readBytes pkt (o + 2) text.length = .ok text := by
    apply @readBytes_eq _ _ _ rest (by omega)
    rw [← List.drop_drop, h]
    rfl
  have hl : itemLength pkt o = .ok text.length.toUInt8 := by
    rw [itemLength, if_pos (by omega), h1]
  rw [sdesItem, if_pos (by omega), h0]
  change (itemLength pkt o >>= _) = _
  rw [hl]
  change (if type = elSdesEnd then _ else _) = _
  rw [if_neg htype, hn, if_neg (by omega)]
  rw [h2]
  rfl

theorem sdesItem_end {pkt : List UInt8} (h : pkt.drop o = elSdesEnd :: rest) (t : SdesTexts) :
    sdesItem pkt (o, t) = .ok (.inr (alignTo4 pkt.length (o + 1), t)) := by
  have hlength := congrArg List.length h
  rw [List.length_drop, List.length_cons] at hlength
  have hl : (itemLength pkt o).Safe False fun _ => True := by
    rw [itemLength]
    split
    · exact readByte_safe ‹_›
    · trivial
  obtain ⟨ilen, hl, _⟩ := hl.exists_ok
  rw [sdesItem, if_pos (by omega), readByte_eq h]
  change (itemLength pkt o >>= _) = _
  rw [hl]
  rfl

/-- A list of items is read item by item, up to its end and the padding. -/
theorem sdesItems_read {pkt : List UInt8} {items : List (UInt8 × List UInt8)} (hok : ItemsOk items)
    (h : pkt.drop o = itemsBytes items ++ elSdesEnd :: rest) (hfuel : items.length < fuel)
    (t : SdesTexts) : loop (sdesItem pkt) fuel (o, t) =
      .ok (alignTo4 pkt.length (o + (itemsBytes items).length + 1), putItems t items) := by
  induction items generalizing o t fuel with
  | nil =>
    obtain ⟨fuel, rfl⟩ := Nat.exists_eq_succ_of_ne_zero (Nat.ne_of_gt hfuel)
    exact loop_done (sdesItem_end h t) fuel
  | cons i items ih =>
    obtain ⟨fuel, rfl⟩ := Nat.exists_eq_succ_of_ne_zero (Nat.ne_of_gt (Nat.zero_lt_of_lt hfuel))
    obtain ⟨hi, hitems⟩ := List.forall_mem_cons.1 hok
    rw [itemsBytes_cons, List.append_assoc] at h
    rw [Nat.succ_eq_add_one, loop_next (sdesItem_read h hi.1 hi.2 t)]
    have hdrop := drop_add h
    rw [sdesItemBytes_length, ← Nat.add_assoc] at hdrop
    have hlen : o + 2 + i.2.length + (itemsBytes items).length =
        o + (itemsBytes (i :: items)).length := by
      rw [itemsBytes_cons, List.length_append, sdesItemBytes_length]
      omega
    rw [ih hitems hdrop (Nat.lt_of_succ_lt_succ hfuel), hlen]
    rfl

/-- An SDES packet with one chunk. -/
theorem parseSdesTexts_read {items : List (UInt8 × List UInt8)} (hok : ItemsOk items)
    (hcount : b0 &&& 0x1F = 1) {nid : List UInt8} (hnid : nid.length = 4)
    (hpkt : pkt = b0 :: pt :: hi :: lo :: (nid ++ (itemsBytes items ++ elSdesEnd :: rest))) :
    parseSdesTexts pkt = .ok (putItems .empty items) := by
  have hlength := congrArg List.length hpkt
  simp only [List.length_cons, List.length_append, hnid] at hlength
  have hdrop : pkt.drop 8 = itemsBytes items ++ elSdesEnd :: rest := by
    rw [hpkt]
    exact List.drop_left' hnid
  have hfuel := length_le_itemsBytes items
  have h0 : readByte pkt 0 = .ok b0 := readByte_eq hpkt
  have hitems := sdesItems_read hok hdrop (by omega : items.length < pkt.length) .empty
  have hchunk : sdesChunk pkt (1, 4, .empty) = .ok (.inl (0,
      alignTo4 pkt.length (8 + (itemsBytes items).length + 1), putItems .empty items)) := by
    rw [sdesChunk, if_pos ⟨Nat.one_pos, by omega⟩, hitems]
    rfl
  have hend : sdesChunk pkt (0, alignTo4 pkt.length (8 + (itemsBytes items).length + 1),
      putItems .empty items) = .ok (.inr (putItems .empty items)) := by
    rw [sdesChunk, if_neg fun h => Nat.lt_irrefl 0 h.1]
    rfl
  rw [parseSdesTexts, if_neg (by omega), h0]
  change loop (sdesChunk pkt) 32 ((b0 &&& 0x1F).toNat, 4, .empty) = _
  rw [hcount]
  exact (loop_next hchunk 31).trans (loop_done hend 30)

theorem padBytes_length (n : Nat) : (padBytes n).length = (4 - n % 4) % 4 := by
  unfold padBytes
  by_cases h : (4 - n % 4) % 4 > 0
  · rw [if_pos h, List.length_append, List.length_replicate, List.length_singleton]
    omega
  · rw [if_neg h, List.length_nil]
    omega

/-- An RR and an SDES, with a length of `n` words. -/
def rrSdes (nid : List UInt8) (b0 : UInt8) (n : Nat) (body : List UInt8) : List UInt8 :=
  [0xC0, elRtcpRr, 0, 1] ++ nid ++
    (b0 :: elRtcpSdes :: (n >>> 8).toUInt8 :: n.toUInt8 :: (nid ++ body))

/-- The packet that is finished: its length words count the SDES whole. -/
theorem finishSdes_eq {nid : List UInt8} (hnid : nid.length = 4) (body : List UInt8) :
    ∃ b0 : UInt8, b0 &&& 0x1F = 1 ∧
      finishSdes ([0xC0, elRtcpRr, 0, 1] ++ nid ++ ([0xC1, elRtcpSdes, 0, 0] ++ nid) ++ body) 8 =
        rrSdes nid b0 ((8 + body.length + (padBytes body.length).length) / 4 - 1)
          (body ++ padBytes body.length) := by
  obtain ⟨a, b, c, d, rfl⟩ : ∃ a b c d, nid = [a, b, c, d] := by
    match nid, hnid with
    | [a, b, c, d], _ => exact ⟨a, b, c, d, rfl⟩
  have hpad : padBytes ([0xC0, elRtcpRr, 0, 1] ++ [a, b, c, d] ++
      ([0xC1, elRtcpSdes, 0, 0] ++ [a, b, c, d]) ++ body).length = padBytes body.length := by
    have hlen : ([0xC0, elRtcpRr, 0, 1] ++ [a, b, c, d] ++
        ([0xC1, elRtcpSdes, 0, 0] ++ [a, b, c, d]) ++ body).length = body.length + 4 * 4 := by
      simp only [List.length_append, List.length_cons, List.length_nil]
      omega
    rw [hlen, padBytes, padBytes, Nat.add_mul_mod_self_left]
  have hlen : ∀ b0 : UInt8, (rrSdes [a, b, c, d] b0 0 (body ++ padBytes body.length)).length - 8 =
      8 + body.length + (padBytes body.length).length := by
    intro b0
    simp only [rrSdes, List.length_append, List.length_cons, List.length_nil]
    omega
  refine ⟨if (padBytes body.length).isEmpty then 0xC1 &&& ~~~0x20 else 0xC1 ||| 0x20, ?_, ?_⟩
  · split
    · decide
    · decide
  · generalize hb : (if (padBytes body.length).isEmpty then 0xC1 &&& ~~~0x20 else 0xC1 ||| 0x20 :
      UInt8) = b0
    have hget : ([0xC0, elRtcpRr, 0, 1] ++ [a, b, c, d] ++ ([0xC1, elRtcpSdes, 0, 0] ++
        [a, b, c, d]) ++ body).getD 8 0 = 0xC1 := rfl
    have hset : ([0xC0, elRtcpRr, 0, 1] ++ [a, b, c, d] ++ ([0xC1, elRtcpSdes, 0, 0] ++
        [a, b, c, d]) ++ body).set 8 b0 ++ padBytes body.length =
        rrSdes [a, b, c, d] b0 0 (body ++ padBytes body.length) := by
      simp only [rrSdes, List.cons_append, List.nil_append]
      rfl
    rw [finishSdes]
    simp only [hpad, hget, hb, hset, hlen]
    rfl

namespace ElLink

/-- A block whose header stands at `o`, and that ends inside the datagram. -/
theorem rtcpBlock_read (w : ElHost) (q : ElLink) {data : List UInt8}
    (h : data.drop o = a :: pt :: hi :: lo :: rest)
    (hfit : o + (hi.toNat * 256 + lo.toNat + 1) * 4 ≤ data.length) :
    rtcpBlock w data (o, q) =
      if pt = elRtcpSdes then
        (readBytes data o ((hi.toNat * 256 + lo.toNat + 1) * 4) >>= q.handleSdes w) >>= fun q =>
          .ok (.inl (o + (hi.toNat * 256 + lo.toNat + 1) * 4, q))
      else .ok (.inl (o + (hi.toNat * 256 + lo.toNat + 1) * 4, q)) := by
  have h1 : readByte data (o + 1) = .ok pt := by
    apply @readByte_eq _ _ _ (hi :: lo :: rest)
    rw [← List.drop_drop, h]
    rfl
  have h2 : readByte data (o + 2) = .ok hi := by
    apply @readByte_eq _ _ _ (lo :: rest)
    rw [← List.drop_drop, h]
    rfl
  have h3 : readByte data (o + 3) = .ok lo := by
    apply @readByte_eq _ _ _ rest
    rw [← List.drop_drop, h]
    rfl
  rw [rtcpBlock, if_pos (by omega), h1, h2, h3]
  change (if o + (hi.toNat * 256 + lo.toNat + 1) * 4 > data.length then _ else _) = _
  rw [if_neg (by omega)]
  by_cases hpt : pt = elRtcpSdes
  · rw [if_pos hpt, if_pos hpt, bind_assoc]
    rfl
  · rw [if_neg hpt, if_neg hpt]
    rfl

/-- The datagram is read as an RR of eight bytes and an SDES up to its end, an OPEN or not. -/
structure WalkedAs (w : ElHost) (q : ElLink) (pkt : List UInt8) (isOpen : Bool) (q' : ElLink) :
    Prop where
  rr : readByte pkt 1 = .ok elRtcpRr ∧ rtcpBlock w pkt (0, q) = .ok (.inl (8, q))
  sdes : readByte pkt 9 = .ok elRtcpSdes ∧
    rtcpBlock w pkt (8, q) = .ok (.inl (pkt.length, q'))
  parsed : q.el.parseSdesPacket q.lastRtpRx q.now (pkt.drop 8) = .ok (isOpen, q'.el)
  handled : q.handleRtcp w pkt = .ok q'

theorem walkedAs_rrSdes (w : ElHost) (q : ElLink) {nid body : List UInt8} {peer : PeerEl}
    (hnid : nid.length = 4) (hn : (n + 1) * 4 = 8 + body.length) (hn' : n < 65536)
    (hp : q.el.parseSdesPacket q.lastRtpRx q.now ((rrSdes nid b0 n body).drop 8) =
      .ok (isOpen, peer)) :
    q.WalkedAs w (rrSdes nid b0 n body) isOpen (q.tookSdes w isOpen peer) := by
  have hlen : (rrSdes nid b0 n body).length = 16 + body.length := by
    simp only [rrSdes, List.length_append, List.length_cons, List.length_nil, hnid]
    omega
  have hwords : ((n >>> 8).toUInt8.toNat * 256 + n.toUInt8.toNat + 1) * 4 = 8 + body.length := by
    change ((n >>> 8) % 256 * 256 + n % 256 + 1) * 4 = _
    rw [Nat.shiftRight_eq_div_pow]
    omega
  have hdrop : (rrSdes nid b0 n body).drop 8 =
      b0 :: elRtcpSdes :: (n >>> 8).toUInt8 :: n.toUInt8 :: (nid ++ body) :=
    List.drop_left' (by rw [List.length_append, hnid]; rfl)
  have hrr : rtcpBlock w (rrSdes nid b0 n body) (0, q) = .ok (.inl (8, q)) := by
    have hstart : (rrSdes nid b0 n body).drop 0 = 0xC0 :: elRtcpRr :: 0 :: 1 :: (nid ++
        (b0 :: elRtcpSdes :: (n >>> 8).toUInt8 :: n.toUInt8 :: (nid ++ body))) := rfl
    rw [rtcpBlock_read w q hstart]
    · rfl
    · rw [hlen]
      change 0 + 8 ≤ 16 + body.length
      omega
  have hread : readBytes (rrSdes nid b0 n body) 8 (8 + body.length) =
      .ok ((rrSdes nid b0 n body).drop 8) := by
    rw [readBytes, if_pos (by omega), List.take_of_length_le (by rw [List.length_drop]; omega)]
  have hsdes : rtcpBlock w (rrSdes nid b0 n body) (8, q) =
      .ok (.inl ((rrSdes nid b0 n body).length, q.tookSdes w isOpen peer)) := by
    rw [rtcpBlock_read w q hdrop (by omega), if_pos rfl, hwords, hread]
    change (q.handleSdes w ((rrSdes nid b0 n body).drop 8) >>= _) = _
    rw [handleSdes, hp, hlen, show 16 + body.length = 8 + (8 + body.length) by omega]
    rfl
  have hend : rtcpBlock w (rrSdes nid b0 n body)
      ((rrSdes nid b0 n body).length, q.tookSdes w isOpen peer) =
        .ok (.inr (q.tookSdes w isOpen peer)) := by
    rw [rtcpBlock, if_neg (by omega)]
    rfl
  constructor
  · exact ⟨readByte_eq rfl, hrr⟩
  · exact ⟨readByte_eq (by rw [show 9 = 8 + 1 from rfl, ← List.drop_drop, hdrop]; rfl), hsdes⟩
  · rw [hp, tookSdes_el]
  · rw [handleRtcp, loop_next hrr]
    rw [hlen, show 16 + body.length = 14 + body.length + 1 + 1 by omega, loop_next hsdes]
    exact loop_done hend _

end ElLink

/-- One more character of the name that is built. -/
def squeeze (buf : List UInt8) (c : UInt8) : List UInt8 :=
  if buf.length ≥ 31 ∨ c < 32 ∨ c > 126 then buf
  else if c = chSpace ∧ (buf.isEmpty ∨ buf.getLast? = some chSpace) then buf
  else buf ++ [c]

theorem sdesName_eq (name : List UInt8) : PeerEl.sdesName name =
    (((name.dropWhile isBlank).foldl squeeze []).reverse.dropWhile (· == chSpace)).reverse := rfl

theorem isPrintable_iff : isPrintable c = true ↔ ¬(c < 32 ∨ c > 126) := by
  rw [isPrintable, Bool.and_eq_true, decide_eq_true_iff, decide_eq_true_iff, not_or,
    UInt8.not_lt, gt_iff_lt, UInt8.not_lt]

theorem foldl_squeeze_plain {l buf : List UInt8} (hl : ∀ c ∈ l, c ≠ chSpace) (hlen : buf.length + l.length ≤ 31) :
    l.foldl squeeze buf = buf ++ l.filter isPrintable := by
  induction l generalizing buf with
  | nil => simp
  | cons c l ih =>
    obtain ⟨hc, hl⟩ := List.forall_mem_cons.1 hl
    rw [List.length_cons] at hlen
    have hroom : ¬buf.length ≥ 31 := by omega
    rw [List.foldl_cons, squeeze, List.filter_cons]
    by_cases hp : isPrintable c = true
    · have hp' := isPrintable_iff.1 hp
      rw [if_neg (not_or.2 ⟨hroom, hp'⟩), if_neg (fun h => hc h.1), if_pos hp, ih hl]
      · rw [List.append_assoc]
        rfl
      · rw [List.length_append, List.length_singleton]
        omega
    · have hp' := not_not.1 (mt isPrintable_iff.2 hp)
      rw [if_pos (.inr hp'), if_neg hp, ih hl (by omega)]

theorem squeeze_fits {buf : List UInt8} (h : ∀ x ∈ buf, isPrintable x = true) (c : UInt8) :
    (squeeze buf c).length ≤ buf.length + 1 ∧ ∀ x ∈ squeeze buf c, isPrintable x = true := by
  rw [squeeze]
  split_ifs with h1 h2
  · exact ⟨Nat.le_succ _, h⟩
  · exact ⟨Nat.le_succ _, h⟩
  · rw [List.length_append]
    refine ⟨Nat.le_refl _, fun x hx => ?_⟩
    rcases List.mem_append.1 hx with hx | hx
    · exact h x hx
    · rw [List.mem_singleton.1 hx]
      exact isPrintable_iff.2 (not_or.1 h1).2

theorem foldl_squeeze_fits {buf : List UInt8} (l : List UInt8) (h : ∀ x ∈ buf, isPrintable x = true) :
    (l.foldl squeeze buf).length ≤ buf.length + l.length ∧
      ∀ x ∈ l.foldl squeeze buf, isPrintable x = true := by
  induction l generalizing buf with
  | nil => exact ⟨Nat.le_refl _, h⟩
  | cons c l ih =>
    obtain ⟨h1, h2⟩ := squeeze_fits h c
    obtain ⟨h3, h4⟩ := ih h2
    rw [List.length_cons]
    exact ⟨by rw [List.foldl_cons]; omega, h4⟩

/-- The name of a bridge with the talker in parentheses, as an SDES carries it. -/
theorem sdesName_talker (callsign : List UInt8) {talker : List UInt8} (hcall : callsign.length ≤ 15)
    (htalker : ∀ c ∈ talker, isBlank c = false) (hlen : talker.length ≤ 10) :
    ∃ pre, PeerEl.sdesName (callsign ++ [chSpace, chOpen] ++ talker ++ [chClose]) =
        pre ++ chOpen :: (talker.filter isPrintable ++ [chClose]) ∧
      pre.length ≤ 16 ∧ ∀ c ∈ pre, isPrintable c = true := by
  have hnot : ∀ c, isBlank c = false → c ≠ chSpace := by
    rintro c hc rfl
    cases hc
  obtain ⟨xs, hdrop, hxs⟩ : ∃ xs, (callsign ++ [chSpace, chOpen] ++ talker ++
      [chClose]).dropWhile isBlank = xs ++ (chOpen :: (talker ++ [chClose])) ∧ xs.length ≤ 16 := by
    refine ⟨(callsign ++ [chSpace]).dropWhile isBlank, ?_, ?_⟩
    · have hshape : callsign ++ [chSpace, chOpen] ++ talker ++ [chClose] =
          (callsign ++ [chSpace]) ++ (chOpen :: (talker ++ [chClose])) := by simp
      rw [hshape, List.dropWhile_append]
      split
      next h =>
        rw [List.isEmpty_iff.1 h]
        rfl
      next => rfl
    · have hle := (List.dropWhile_sublist (p := isBlank) (l := callsign ++ [chSpace])).length_le
      rw [List.length_append, List.length_singleton] at hle
      omega
  obtain ⟨h1, h2⟩ := @foldl_squeeze_fits [] xs (fun _ h => (nomatch h))
  refine ⟨xs.foldl squeeze [], ?_, by rw [List.length_nil] at h1; omega, h2⟩
  have htail : ∀ c ∈ chOpen :: (talker ++ [chClose]), c ≠ chSpace := by
    intro c hc
    rcases List.mem_cons.1 hc with rfl | hc
    · decide
    · rcases List.mem_append.1 hc with hc | hc
      · exact hnot c (htalker c hc)
      · rw [List.mem_singleton.1 hc]
        decide
  have hfilter : (chOpen :: (talker ++ [chClose])).filter isPrintable =
      chOpen :: (talker.filter isPrintable ++ [chClose]) := by
    rw [List.filter_cons_of_pos (by decide), List.filter_append]
    rfl
  rw [sdesName_eq, hdrop, List.foldl_append, foldl_squeeze_plain htail, hfilter]
  · rw [← List.cons_append, ← List.append_assoc, List.reverse_append, List.reverse_singleton,
      List.singleton_append, List.dropWhile_cons_of_neg (by decide), List.reverse_cons,
      List.reverse_reverse]
  · simp only [List.length_cons, List.length_append, List.length_nil] at h1 ⊢
    omega

/-- The first word of a callsign field, in capitals. -/
def fieldToken (src : List UInt8) : List UInt8 := copyToken 32 (cString (src.take 10))

/-- The talker that a bridge shows for a field, and what its token leaves of it. -/
theorem wireCallToCstr_spec (src : List UInt8) : (wireCallToCstr src).length ≤ 10 ∧
    (∀ c ∈ wireCallToCstr src, isBlank c = false) ∧
      fieldToken src = ((wireCallToCstr src).filter isPrintable).map toUpper := by
  have hfun : (fun c => c != chSpace && c != chTab) = fun c => !isBlank c := by
    funext c
    rw [isBlank, Bool.not_or]
    rfl
  have heq : wireCallToCstr src =
      ((cString (src.take 10)).dropWhile isBlank).takeWhile fun c => !isBlank c := by
    rw [← hfun]
    rfl
  have hlen : (wireCallToCstr src).length ≤ 10 := by
    rw [heq]
    refine (List.takeWhile_sublist _).length_le.trans ((List.dropWhile_sublist _).length_le.trans ?_)
    exact (List.takeWhile_sublist _).length_le.trans (List.length_take_le _ _)
  refine ⟨hlen, ?_, ?_⟩
  · intro c hc
    rw [heq] at hc
    have hnot := List.mem_takeWhile_imp (p := fun c => !isBlank c) hc
    rwa [Bool.not_eq_true'] at hnot
  · rw [fieldToken, copyToken, ← heq, List.take_of_length_le]
    exact (List.length_filter_le _ _).trans (hlen.trans (by decide))

theorem sdesCopyItem_eq {s : List UInt8} (h : ∀ c ∈ s, isPrintable c = true) (hlen : s.length < n)
    (hlast : s.getLast? ≠ some chSpace) : sdesCopyItem n s = s := by
  rw [sdesCopyItem, List.filter_eq_self.2 h, List.take_of_length_le (by omega)]
  cases hr : s.reverse with
  | nil => rw [List.reverse_eq_nil_iff.1 hr]; rfl
  | cons c r =>
    have hc : c ≠ chSpace := by
      rintro rfl
      apply hlast
      rw [← List.head?_reverse, hr]
      rfl
    rw [List.dropWhile_cons_of_neg (by rwa [beq_iff_eq]), ← hr, List.reverse_reverse]

namespace ElLink

/-- The items of an SDES packet of the bridge. -/
def sdesItems (name phone : List UInt8) : List (UInt8 × List UInt8) :=
  [(elSdesCname, callsignLit), (elSdesName, name), (elSdesEmail, callsignLit),
    (elSdesPhone, phone), (elSdesTool, toolText)]

theorem phoneText_length (tm : Option (Fin 24 × Fin 60)) : (phoneText tm).length = 5 := by
  cases tm with
  | none => rfl
  | some t => rfl

/-- A list of items, finished to a packet, is read back whole. -/
theorem walkedAs_items (w : ElHost) (q : ElLink) {nid : List UInt8} {isOpen : Bool} {peer : PeerEl}
    {items : List (UInt8 × List UInt8)} (hnid : nid.length = 4) (hok : ItemsOk items)
    (hlen : (itemsBytes items).length ≤ 1000)
    (hp : ∀ pkt, parseSdesTexts pkt = .ok (putItems .empty items) →
      q.el.parseSdesPacket q.lastRtpRx q.now pkt = .ok (isOpen, peer)) :
    q.WalkedAs w (finishSdes ([0xC0, elRtcpRr, 0, 1] ++ nid ++ ([0xC1, elRtcpSdes, 0, 0] ++ nid) ++
      (itemsBytes items ++ [elSdesEnd])) 8) isOpen (q.tookSdes w isOpen peer) := by
  obtain ⟨body, hbody⟩ : ∃ body, body = itemsBytes items ++ [elSdesEnd] := ⟨_, rfl⟩
  have hlen' : body.length = (itemsBytes items).length + 1 := by
    rw [hbody, List.length_append]
    rfl
  obtain ⟨b0, hb0, heq⟩ := finishSdes_eq hnid body
  have hpad := padBytes_length body.length
  rw [← hbody, heq]
  apply walkedAs_rrSdes w q hnid
  · rw [List.length_append]
    omega
  · omega
  · apply hp
    apply parseSdesTexts_read hok hb0 hnid
    rw [rrSdes, List.drop_left' (by rw [List.length_append, hnid]; rfl), hbody, List.append_assoc]
    rfl

/-- The texts of an SDES packet of the bridge: the callsign text, and the name. -/
theorem putItems_sdesItems {name : List UInt8} (h : ∀ c ∈ name, isPrintable c = true)
    (hlen : name.length < 64) (hlast : name.getLast? ≠ some chSpace) (phone : List UInt8) :
    putItems .empty (sdesItems name phone) = ⟨callsignText, name, []⟩ := by
  have hname := sdesCopyItem_eq h hlen hlast
  have hcall : sdesCopyItem 64 callsignLit = callsignText := by decide +kernel
  simp only [putItems, sdesItems, List.foldl_cons, List.foldl_nil]
  change SdesTexts.mk (sdesCopyItem 64 callsignLit) (sdesCopyItem 64 name) [] = _
  rw [hname, hcall]

theorem sdesItems_ok {name phone : List UInt8} (hname : name.length < 256)
    (hphone : phone.length < 256) : ItemsOk (sdesItems name phone) := by
  intro i hi
  simp only [sdesItems, List.mem_cons, List.not_mem_nil, or_false] at hi
  rcases hi with rfl | rfl | rfl | rfl | rfl
  · exact ⟨by decide, by decide⟩
  · exact ⟨(by decide : elSdesName ≠ elSdesEnd), hname⟩
  · exact ⟨by decide, by decide⟩
  · exact ⟨(by decide : elSdesPhone ≠ elSdesEnd), hphone⟩
  · exact ⟨by decide, by decide⟩

/-- The SDES packet of a bridge that shows a name. -/
theorem buildSdes_eq (w : ElHost) {p : ElLink} (hne : p.el.talkerName ≠ [])
    (hlen : p.el.talkerName.length ≤ 31) : p.buildSdes w 256 =
      (some (finishSdes ([0xC0, elRtcpRr, 0, 1] ++ (p.nodeId w).toList ++
        ([0xC1, elRtcpSdes, 0, 0] ++ (p.nodeId w).toList) ++
        (itemsBytes (sdesItems p.el.talkerName (phoneText (w.localtime p.now))) ++ [elSdesEnd])) 8),
        p.tock) := by
  have hname : p.el.talkerName.isEmpty = false := by
    cases ht : p.el.talkerName with
    | nil => exact absurd ht hne
    | cons => rfl
  have hphone := phoneText_length (w.localtime p.now)
  have hcall : callsignLit.length = 8 := rfl
  have htool : toolText.length = 10 := rfl
  rw [buildSdes]
  simp only [hname, Bool.false_eq_true, if_false]
  rw [if_neg (by omega)]
  simp only [itemsBytes, sdesItems, List.flatMap_cons, List.flatMap_nil, List.append_nil, rrBytes,
    sdesHeader, List.append_assoc]

theorem sdesItems_length {name phone : List UInt8} (hname : name.length ≤ 31)
    (hphone : phone.length = 5) : (itemsBytes (sdesItems name phone)).length ≤ 1000 := by
  have hcall : callsignLit.length = 8 := rfl
  have htool : toolText.length = 10 := rfl
  simp only [itemsBytes, sdesItems, List.flatMap_cons, List.flatMap_nil, List.length_append,
    sdesItemBytes_length, List.length_nil]
  omega

theorem parseSdesPacket_of_texts {q : PeerEl} {t : SdesTexts} (h : parseSdesTexts pkt = .ok t)
    (lastRtpRx now : Int) : q.parseSdesPacket lastRtpRx now pkt =
      if t.isOpen then .ok (true, q)
      else .ok (false, q.applyRemoteSdes lastRtpRx now t.cname t.name) := by
  rw [PeerEl.parseSdesPacket, h]

theorem setTalkerName_talkerName (p : PeerEl) (name : List UInt8) :
    (p.setTalkerName name).talkerName = PeerEl.sdesName name := by
  unfold PeerEl.setTalkerName
  by_cases h : p.talkerName = PeerEl.sdesName name
  · rw [if_pos h, h]
  · rw [if_neg h]

/-- What a bridge shows for a field that holds a callsign. -/
theorem shownName {b : BridgeEl} (hcall : FitsBuffer 16 b.el.callsign)
    (hlook : looksLikeCallsign (fieldToken b.netSrc) = true) :
    ∃ pre talker, b.setYsfTalkerOnEl.el.talkerName = pre ++ chOpen :: (talker ++ [chClose]) ∧
      pre.length ≤ 16 ∧ (∀ c ∈ pre, isPrintable c = true) ∧ talker.length ≤ 10 ∧
      looksLikeCallsign talker = true ∧ talker.all isCallsignChar = true ∧
      talker.map toUpper = fieldToken b.netSrc := by
  obtain ⟨hlen, hblank, htok⟩ := wireCallToCstr_spec b.netSrc
  have hlook' : looksLikeCallsign ((wireCallToCstr b.netSrc).filter isPrintable) = true := by
    rwa [← looksLikeCallsign_toUpper, ← htok]
  have hne : wireCallToCstr b.netSrc ≠ [] := by
    intro hn
    rw [hn] at hlook'
    exact ne_nil_of_looksLikeCallsign hlook' rfl
  have hempty : (wireCallToCstr b.netSrc).isEmpty = false := by
    cases hw : wireCallToCstr b.netSrc with
    | nil => exact absurd hw hne
    | cons => rfl
  obtain ⟨pre, hname, hpre, hprint⟩ := sdesName_talker b.el.callsign
    (Nat.le_of_lt_succ hcall.short) hblank hlen
  refine ⟨pre, (wireCallToCstr b.netSrc).filter isPrintable, ?_, hpre, hprint, ?_, hlook', ?_,
    htok.symm⟩
  · rw [BridgeEl.setYsfTalkerOnEl]
    simp only [hempty, Bool.false_eq_true, if_false]
    rw [setTalkerName_talkerName, ← hname, BridgeEl.ysfTalkerName, List.take_of_length_le]
    · rfl
    · have hshort := hcall.short
      simp only [List.length_append, List.length_cons, List.length_nil]
      omega
  · exact (List.length_filter_le _ _).trans hlen
  · apply all_isCallsignChar hlook'
    intro c hc
    exact hblank c (List.mem_filter.1 hc).1

/-- The talker of a field reaches the other bridge. -/
theorem sdes_talker (w w' : ElHost) {b : BridgeEl} {p : ElLink} (q : ElLink)
    (hcall : FitsBuffer 16 b.el.callsign)
    (hlook : looksLikeCallsign (fieldToken b.netSrc) = true) (hp : p.el = b.setYsfTalkerOnEl.el) :
    ∃ pkt p' q', p.buildSdes w 256 = (some pkt, p') ∧ q.WalkedAs w' pkt false q' ∧
      q'.el.remoteTalker = fieldToken b.netSrc ∧ q'.el.remoteTalkerExplicit = true := by
  obtain ⟨pre, talker, hname, hpre, hprint, hlen, hlook', hall, htok⟩ := shownName hcall hlook
  rw [← hp] at hname
  have hsize : p.el.talkerName.length ≤ 28 := by
    rw [hname]
    simp only [List.length_append, List.length_cons, List.length_nil]
    omega
  have hchars : ∀ c ∈ p.el.talkerName, isPrintable c = true := by
    intro c hc
    rw [hname] at hc
    rcases List.mem_append.1 hc with hc | hc
    · exact hprint c hc
    · rcases List.mem_cons.1 hc with rfl | hc
      · decide
      · rcases List.mem_append.1 hc with hc | hc
        · exact (of_isCallsignChar c (List.all_eq_true.1 hall c hc)).1
        · rw [List.mem_singleton.1 hc]
          decide
  have hlast : p.el.talkerName.getLast? ≠ some chSpace := by
    rw [hname, ← List.cons_append, ← List.append_assoc, List.getLast?_concat]
    decide
  have hne : p.el.talkerName ≠ [] := by
    rw [hname]
    exact List.append_ne_nil_of_right_ne_nil _ (List.cons_ne_nil _ _)
  have hparen : parenTalker p.el.talkerName = some (fieldToken b.netSrc) := by
    rw [hname, parenTalker_eq pre hlook' hall (by omega), htok]
  have hphone := phoneText_length (w.localtime p.now)
  have hwalk := @walkedAs_items w' q (p.nodeId w).toList false
    (q.el.applyRemoteSdes q.lastRtpRx q.now callsignText p.el.talkerName)
    (sdesItems p.el.talkerName (phoneText (w.localtime p.now))) (Vector.length_toList)
    (sdesItems_ok (by omega) (by omega)) 
    (sdesItems_length (by omega) hphone) (by
      intro pkt hpkt
      rw [parseSdesPacket_of_texts hpkt, putItems_sdesItems hchars (by omega) hlast]
      rfl)
  refine ⟨_, _, _, buildSdes_eq w hne (by omega), hwalk, ?_⟩
  rw [tookSdes_el]
  exact PeerEl.hear_named (s := ⟨q.lastRtpRx, q.now, callsignText, p.el.talkerName⟩) q.el hparen

theorem sendSdes_linked (w : ElHost) (p : ElLink) : (p.sendSdes w).linked = p.linked := by
  rw [sendSdes]
  split
  · rfl
  · rw [buildSdes]
    split_ifs <;> rfl

theorem replySdes_linked (w : ElHost) (p : ElLink) : (p.replySdes w).linked = p.linked := by
  rw [replySdes]
  split
  · rfl
  · exact sendSdes_linked w p

theorem tookSdes_open (w : ElHost) (q : ElLink) (peer : PeerEl) :
    (q.tookSdes w true peer).linked = q.linked := replySdes_linked w _

/-- The items of a request to open the way. -/
def openItems (callsign destIp : List UInt8) : List (UInt8 × List UInt8) :=
  [(elSdesCname, callsign), (elSdesLoc, openLoc), (elSdesEmail, destIp)]

theorem openItems_texts (callsign destIp : List UInt8) :
    (putItems .empty (openItems callsign destIp)).isOpen = true := by
  have hloc : (putItems .empty (openItems callsign destIp)).loc = openLoc := by
    simp only [putItems, openItems, List.foldl_cons, List.foldl_nil]
    change sdesCopyItem 32 openLoc = openLoc
    decide +kernel
  rw [SdesTexts.isOpen, hloc]
  rfl

/-- Every request to open the way is taken for one. -/
theorem sdes_open (w w' : ElHost) {p : ElLink} (q : ElLink)
    (h : p.buildFirewallOpen w destIp 256 = some pkt) :
    ∃ q', q.WalkedAs w' pkt true q' ∧ q'.el = q.el ∧ q'.linked = q.linked := by
  rw [buildFirewallOpen] at h
  obtain ⟨hn, h⟩ := Option.ite_none_left_eq_some.1 h
  obtain rfl := Option.some.inj h
  simp only [not_or] at hn
  obtain ⟨_, _, _, hneed⟩ := hn
  have hloc : openLoc.length = 4 := rfl
  have hok : ItemsOk (openItems p.el.callsign destIp) := by
    intro i hi
    simp only [openItems, List.mem_cons, List.not_mem_nil, or_false] at hi
    rcases hi with rfl | rfl | rfl
    · exact ⟨(by decide : elSdesCname ≠ elSdesEnd), by change p.el.callsign.length < 256; omega⟩
    · exact ⟨by decide, by decide⟩
    · exact ⟨(by decide : elSdesEmail ≠ elSdesEnd), by change destIp.length < 256; omega⟩
  have hwalk := @walkedAs_items w' q (p.nodeId w).toList true q.el
    (openItems p.el.callsign destIp) Vector.length_toList hok (by
      simp only [itemsBytes, openItems, List.flatMap_cons, List.flatMap_nil, List.length_append,
        sdesItemBytes_length, List.length_nil]
      omega) (by
      intro pkt hpkt
      rw [parseSdesPacket_of_texts hpkt, if_pos (openItems_texts _ _)])
  refine ⟨_, ?_, tookSdes_el w' q true q.el, tookSdes_open w' q q.el⟩
  simp only [itemsBytes, openItems, List.flatMap_cons, List.flatMap_nil, List.append_nil,
    List.append_assoc] at hwalk
  simp only [rrBytes, sdesHeader, List.append_assoc]
  exact hwalk

/-- Between two bridges, the talker of an SDES survives: the receiver reads an RR and one SDES
that fill the datagram, and takes the token of the talker's field as named; and a request to open
the way is taken for one, and changes neither the talker nor the link. -/
theorem sdes_between_bridges (w w' : ElHost) (p q : ElLink) :
    (∀ b : BridgeEl, b.el.callsign ≠ [] → FitsBuffer 16 b.el.callsign →
      looksLikeCallsign (fieldToken b.netSrc) = true → p.el = b.setYsfTalkerOnEl.el →
      ∃ pkt p' q', p.buildSdes w 256 = (some pkt, p') ∧ q.WalkedAs w' pkt false q' ∧
        q'.el.remoteTalker = fieldToken b.netSrc ∧ q'.el.remoteTalkerExplicit = true) ∧
      ∀ destIp pkt, p.buildFirewallOpen w destIp 256 = some pkt →
        ∃ q', q.WalkedAs w' pkt true q' ∧ q'.el.remoteTalker = q.el.remoteTalker ∧
          q'.linked = q.linked := by
  constructor
  · exact fun b _ hcall hlook hp => sdes_talker w w' q hcall hlook hp
  · intro destIp pkt h
    obtain ⟨q', hq, hel, hlinked⟩ := sdes_open w w' q h
    exact ⟨q', hq, congrArg PeerEl.remoteTalker hel, hlinked⟩

/-- `"CE5RPY"`. -/
def gatewayCall : List UInt8 := [0x43, 0x45, 0x35, 0x52, 0x50, 0x59]

/-- A bridge with the talker `"aa1a"` on its YSF side. -/
def talkingBridge : BridgeEl :=
  { BridgeEl.init (.stopped 0) noAliases (.opened gatewayCall [] fun _ => true) with
    netSrc := pad10 [0x61, 0x61, 0x31, 0x61] }

def talkingLink : ElLink := opened talkingBridge.setYsfTalkerOnEl.el true fun _ => 0

theorem sdes_between_bridges_sample :
    (∃ pkt p' q', talkingLink.buildSdes plainHost 256 = (some pkt, p') ∧
      accentedLink.WalkedAs plainHost pkt false q' ∧ q'.el.remoteTalker = PeerEl.aa1a ∧
        q'.el.remoteTalkerExplicit = true) ∧
      ∃ pkt, talkingLink.buildFirewallOpen plainHost [0x31] 256 = some pkt ∧
        ∃ q', accentedLink.WalkedAs plainHost pkt true q' ∧
          q'.el.remoteTalker = accentedLink.el.remoteTalker ∧
            q'.linked = accentedLink.linked := by
  obtain ⟨htalker, hopen⟩ := sdes_between_bridges plainHost plainHost talkingLink accentedLink
  have htoken : fieldToken talkingBridge.netSrc = PeerEl.aa1a := by decide +kernel
  constructor
  · have h := htalker talkingBridge (by decide) ⟨by decide +kernel, by decide⟩ (by decide +kernel) rfl
    rwa [htoken] at h
  · obtain ⟨pkt, hpkt⟩ := Option.isSome_iff_exists.1
      (by decide +kernel : (talkingLink.buildFirewallOpen plainHost [0x31] 256).isSome = true)
    exact ⟨pkt, hpkt, hopen [0x31] pkt hpkt⟩

end ElLink

end AdnBridge
