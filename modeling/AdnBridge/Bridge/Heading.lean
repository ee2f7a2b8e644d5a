import AdnBridge.Bridge.Talker
import AdnBridge.Talkers
import AdnBridge.Identities
import AdnBridge.Ysf.Header
import AdnBridge.Ysf.Stamping

namespace AdnBridge
set_option autoImplicit true

/-- The callsigns that `ysf_payload_process_header` gives. -/
def headerCallsigns (rf : List UInt8) : Option (List UInt8 × List UInt8) := (processHeaderData rf).1

/-- The decoders that the bridges are linked with, with the globals of `ysf_fich.c` at `c`. -/
def Env.onAir (e : Env) (c : FichCodec) : Env :=
  { e with fichDecode := c.reportedFich, processHeader := headerCallsigns }

theorem Env.onAir_processHeader (e : Env) (c : FichCodec) :
    (e.onAir c).processHeader = headerCallsigns := rfl

/-- A header or a terminator carries its source in the CSD. -/
def Ysfd.Labelled (f : Ysfd) : Prop :=
  f.fi = ysfFiHeader ∨ f.fi = ysfFiTerminator → f.csd = some (fillYsfCsd f.src)

section
variable {id : Nat}

theorem decimal_callsign (h : id < 10 ^ 10) : BaseCallsign (decimal id) where
  short := by
    rw [decimal, List.length_map]
    exact (Nat.length_toDigits_le_iff (by decide) (by decide)).2 h
  nonempty := by
    rw [decimal, ne_eq, List.map_eq_nil_iff]
    exact Nat.toDigits_ne_nil
  clean := by
    have hclean : ∀ c : UInt8, isDigit c = true → inBase c = true ∧ c ≠ 0 ∧ toUpper c = c :=
      forall_byte (by decide +kernel)
    exact fun c hc => hclean c (decimal_digit id c hc)

theorem pad10_eq {label : List UInt8} (h : label.length = 10) : pad10 label = label := by
  rw [pad10, List.take_of_length_le h.le, h]
  exact List.append_nil label

namespace BaseCallsign

theorem pad (h : BaseCallsign base) : pad10 base = base ++ spaces (10 - base.length) := by
  rw [pad10, List.take_of_length_le h.short]

/-- A base callsign that has been padded is cut out again. -/
theorem ysfBase (h : BaseCallsign base) : ysfCallsignBaseSrc (pad10 base) = base := by
  have hlen := pad10_length base
  have hzero : cString (pad10 base) = pad10 base := by
    refine takeWhile_self fun c hc => bne_iff_ne.2 ?_
    rw [h.pad] at hc
    rcases List.mem_append.1 hc with hc | hc
    · exact (h.clean c hc).2.1
    · rw [List.eq_of_mem_replicate hc]
      decide
  have hcut : (pad10 base).takeWhile (fun c =>
      c != chSpace && c != 0 && c != chDash && c != chSlash) = base := by
    rw [h.pad, takeWhile_spaces (by decide)]
    refine takeWhile_self fun c hc => ?_
    obtain ⟨hin, hne, -⟩ := h.clean c hc
    simp only [inBase, Bool.and_eq_true] at hin ⊢
    exact ⟨⟨⟨hin.1.1.1, bne_iff_ne.2 hne⟩, hin.1.2⟩, hin.2⟩
  rw [ysfCallsignBaseSrc, List.take_of_length_le hlen.le, hzero, pad10_eq hlen, ysfCallsignBase10,
    List.take_of_length_le hlen.le]
  simp only [hcut]
  rw [if_neg fun he => h.nonempty (List.isEmpty_iff.1 he), h.map_toUpper]

theorem numeric (h : BaseCallsign base) (hd : ∀ c ∈ base, isDigit c = true) :
    labelIsNumericDmrid (pad10 base) = true ∧
      ((pad10 base).take 10).filter isDigit = base := by
  rw [labelIsNumericDmrid, List.take_of_length_le (pad10_length base).le, h.pad, Bool.and_eq_true,
    List.all_eq_true, List.any_eq_true]
  refine ⟨⟨fun c hc => ?_, ?_⟩, ?_⟩
  · rcases List.mem_append.1 hc with hc | hc
    · rw [hd c hc, Bool.or_true]
    · rw [List.eq_of_mem_replicate hc]
      rfl
  · obtain ⟨c, hc⟩ := List.exists_mem_of_ne_nil base h.nonempty
    exact ⟨c, List.mem_append_left _ hc, hd c hc⟩
  · rw [List.filter_append, List.filter_eq_self.2 hd, List.filter_eq_nil_iff.2, List.append_nil]
    intro c hc
    rw [List.eq_of_mem_replicate hc]
    decide

end BaseCallsign

/-- What has been filled up with zeros has the same base callsign. -/
theorem ysfCallsignBaseSrc_fixed (src : List UInt8) :
    ysfCallsignBaseSrc (fixed 10 src) = ysfCallsignBaseSrc src := by
  have hcut : cString ((fixed 10 src).take 10) = cString (src.take 10) := by
    rw [List.take_of_length_le (fixed_length 10 src).le, fixed, List.take_append, cString, cString,
      List.takeWhile_append]
    split
    next hall =>
      have hzeros : ((List.replicate 10 (default : UInt8)).take (10 - src.length)).takeWhile
          (· != 0) = [] := by
        rw [List.take_replicate, List.takeWhile_replicate]
        rfl
      rw [hzeros, List.append_nil]
      exact ((List.takeWhile_prefix _).eq_of_length hall).symm
    next => rfl
  rw [ysfCallsignBaseSrc, ysfCallsignBaseSrc, hcut]

theorem callsign10ToDmrid_decimal (h : id < 2 ^ 31) :
    callsign10ToDmrid (formatIdCallsign10 id) = id := by
  have hb : BaseCallsign (decimal id) := decimal_callsign (Nat.lt_trans h (by decide))
  obtain ⟨hnum, hdig⟩ := hb.numeric (decimal_digit id)
  have hlabel : labelNumber (formatIdCallsign10 id) = id := by
    rw [labelNumber, formatIdCallsign10, hdig, decimal_number]
  rw [formatIdCallsign10] at hlabel ⊢
  rw [(callsign10ToDmrid_iff hnum).2 (hlabel.symm ▸ h), hlabel]

end

namespace Ysfd

theorem fixed_append_drop {a : List UInt8} (ha : a.length = m) (l : List UInt8) :
    (fixed (m + n) (a ++ l)).drop m = fixed n l := by
  rw [fixed, fixed, List.append_assoc, List.take_append, ha, List.take_of_length_le (by omega),
    Nat.add_sub_cancel_left, List.drop_left' ha, List.take_append, List.take_append,
    List.take_replicate, List.take_replicate]
  congr 2
  omega

/-- What a peer with the DG-ID `dgid` puts on the wire for a frame. -/
def onWire (c sender : FichCodec) (dgid : UInt8) (f : Ysfd) : List UInt8 :=
  (c.peerYsfSendYsfd dgid (f.bytes sender) 155).2

/-- On the wire only the FICH is rewritten, and there only the DG-ID. -/
theorem onWire_spec (c sender : FichCodec) (dgid : UInt8) (f : Ysfd) :
    (f.onWire c sender dgid).length = 155 ∧
      (∀ i, i < 40 ∨ 65 ≤ i →
        (f.onWire c sender dgid).getD i 0 = (f.bytes sender).getD i 0) ∧
      ∀ r : FichCodec,
        fichFields (r.fichDecode ((f.onWire c sender dgid).drop ysfFichOffsetRx)).fich =
        ⟨f.fi &&& 0x03, f.fn &&& 0x07, f.ft &&& 0x07, f.cm &&& 0x03, ysfDtVdMode2, dgid⟩ := by
  have hl := f.bytes_length sender
  have hlong : 65 ≤ (f.bytes sender).length := by
    rw [hl]
    decide
  rw [onWire, FichCodec.peerYsfSendYsfd, if_pos rfl]
  by_cases hd : dgid < 1
  · have h0 : dgid = 0 := UInt8.lt_one_iff.1 hd
    rw [FichCodec.ysfFichRewriteDgid, if_pos hd, h0]
    refine ⟨hl, fun _ _ => rfl, fun r => ?_⟩
    rw [FichCodec.fichDecode_bytes, fichFields_addCCITT162, fichFields_outboundFich]
  · have hd' := UInt8.not_lt.1 hd
    obtain ⟨-, h1, h2, h3⟩ := c.ysfFichRewriteDgid_spec hd' hlong
    refine ⟨h1.trans hl, h2, fun r => ?_⟩
    rw [h3, FichCodec.fichDecode_bytes, fichFields_addCCITT162,
      fichFields_stampedFich ((FichCodec.addCCITT162_length _ _).trans rfl) hd',
      fichFields_addCCITT162, fichFields_outboundFich]

/-- What a bridge reads in the FICH. -/
theorem reportedFich_onWire (r c sender : FichCodec) (dgid : UInt8) (f : Ysfd) :
    r.reportedFich (f.onWire c sender dgid) =
      some ⟨f.fi &&& 0x03, f.fn &&& 0x07, f.ft &&& 0x07, f.cm &&& 0x03, ysfDtVdMode2, dgid⟩ := by
  obtain ⟨hl, hout, hfich⟩ := f.onWire_spec c sender dgid
  have hguess := FichCodec.ysfFichGuessRxOffset_congr (hl.trans (f.bytes_length sender).symm)
    fun i hi => hout i (.inl hi)
  obtain ⟨-, h⟩ := r.ysfFichDecodeFields_at (f.onWire c sender dgid)
  rw [hguess, FichCodec.ysfFichGuessRxOffset_bytes, hfich] at h
  simp only [FichCodec.reportedFich, h, ne_eq, not_true_eq_false, if_false]

/-- Behind the FICH the receiver has the body of the frame. -/
theorem ysfModeconvChunk_onWire (c sender : FichCodec) (dgid : UInt8) (f : Ysfd) :
    (ysfModeconvChunk (f.onWire c sender dgid)).length = 120 ∧
      ∀ i, 30 ≤ i → (ysfModeconvChunk (f.onWire c sender dgid)).getD i 0 =
        (f.body sender).getD i 0 := by
  obtain ⟨hl, hout, -⟩ := f.onWire_spec c sender dgid
  have hlen := f.bytes_length sender
  have hsync : ((f.onWire c sender dgid).drop 35).take 5 = ysfSyncBytes := by
    rw [drop_take_congr (hl.trans hlen.symm) fun i _ hi => hout i (.inl (by omega))]
    exact (congrArg (List.take 5) (f.drop_bytes sender)).trans (f.take_body sender)
  have hchunk : ysfModeconvChunk (f.onWire c sender dgid) = (f.onWire c sender dgid).drop 35 := by
    rw [ysfModeconvChunk, ysfPktHasRfSync, ysfFichOffsetNet, hsync, if_pos (beq_self_eq_true _)]
    exact List.take_of_length_le (by rw [List.length_drop, hl])
  rw [hchunk, List.length_drop, hl]
  refine ⟨rfl, fun i hi => ?_⟩
  have hbody : (f.body sender).getD i 0 = (f.bytes sender).getD (35 + i) 0 := by
    rw [← f.drop_bytes sender, List.getD_eq_getElem?_getD, List.getElem?_drop,
      List.getD_eq_getElem?_getD]
    rfl
  rw [hbody, ← hout (35 + i) (.inr (by omega)), List.getD_eq_getElem?_getD, List.getElem?_drop,
    List.getD_eq_getElem?_getD]

/-- The two CSD fields of a header are as they were sent. -/
theorem gather_onWire {f : Ysfd} (hfi : f.fi = ysfFiHeader) (h : f.Labelled) (c sender : FichCodec)
    (dgid : UInt8) :
    gather 9 30 (ysfModeconvChunk (f.onWire c sender dgid)) =
        codedField interleaveTable920 9 20 (fillYsfCsd f.src).1 ∧
      gather 9 39 (ysfModeconvChunk (f.onWire c sender dgid)) =
        codedField interleaveTable920 9 20 (fillYsfCsd f.src).2 := by
  obtain ⟨hl, hout⟩ := f.ysfModeconvChunk_onWire c sender dgid
  have hbl := (f.body_spec sender).1
  have hcongr {off : Nat} (ho : 30 ≤ off) :
      gather 9 off (ysfModeconvChunk (f.onWire c sender dgid)) = gather 9 off (f.body sender) :=
    gather_congr (hl.trans hbl.symm) fun i hi => hout i (ho.trans hi)
  rw [hcongr (Nat.le_refl 30), hcongr (by decide), body]
  simp only [if_pos (show f.fi = ysfFiHeader ∨ f.fi = ysfFiTerminator from .inl hfi),
    h (.inl hfi)]
  apply gather_writeHeader
  have hsync := (blit_sync (p := List.replicate 120 0) List.length_replicate).1
  refine (blit_fich hsync (ysfFichEncodeOutbound_length sender f.fn f.fi f.ft f.cm ?_)).1
  rw [List.length_take, List.length_drop, hsync]
  rfl

theorem headerCallsigns_onWire {f : Ysfd} (hfi : f.fi = ysfFiHeader) (h : f.Labelled)
    (c sender : FichCodec) (dgid : UInt8) : ∃ dst,
    headerCallsigns (ysfModeconvChunk (f.onWire c sender dgid)) = some (fixed 10 f.src, dst) := by
  obtain ⟨h1, h2⟩ := gather_onWire hfi h c sender dgid
  have hzero {field csd : List UInt8} (h : field = codedField interleaveTable920 9 20 csd) :
      wrongBits 360 field (codedField interleaveTable920 9 20 csd) ≤ 1 := by
    rw [h]
    exact (wrongBits_self 360 _).le.trans (Nat.zero_le 1)
  rw [headerCallsigns, processHeaderData_of_wrongBits (f.ysfModeconvChunk_onWire c sender dgid).1
    (hzero h1) (hzero h2)]
  exact ⟨_, congrArg (fun src => some (src, _)) (fixed_append_drop (m := 10) (n := 10) rfl f.src)⟩

/-- Every frame of a bridge is a packet. -/
theorem ysfdIsPacket_onWire (c sender : FichCodec) (dgid : UInt8) (f : Ysfd) :
    ysfdIsPacket (f.onWire c sender dgid) = true := by
  obtain ⟨hl, hout, -⟩ := f.onWire_spec c sender dgid
  have hpkt := f.ysfdIsPacket_bytes sender
  rw [ysfdIsPacket, Bool.and_eq_true] at hpkt ⊢
  refine ⟨by rw [hl]; rfl, ?_⟩
  have h4 := drop_take_congr (o := 0) (m := 4) (hl.trans (f.bytes_length sender).symm)
    fun i _ hi => hout i (.inl (by omega))
  rw [List.drop_zero, List.drop_zero] at h4
  rw [h4]
  exact hpkt.2

end Ysfd

namespace Bridge

section
variable {e : Env} {b : Bridge}

theorem tryYsfCsd_of_some (h : e.processHeader rf = some (src, dst)) :
    b.tryYsfCsd e rf = b.assignYsfTalker e src := by
  rw [tryYsfCsd, h]

/-- A header with a CSD that can be read opens a call with the talker that it names. -/
theorem onYsfd_header (hfich : acceptedFich e pkt = some fich) (hfi : fich.fi = ysfFiHeader)
    (hcsd : e.processHeader (ysfModeconvChunk pkt) = some (src, dst)) :
    b.onYsfd e pkt =
      (if (b.assignYsfTalker e src).2.callActive then (b.assignYsfTalker e src).2
        else (b.assignYsfTalker e src).2.startYsfCall e pkt).modeconv e .putYsfHeader := by
  have hok := assignYsfTalker_ok e b src
  have hready := ysfTalkerReady_eq e (b.assignYsfTalker e src).2
  have hresolve : b.resolveYsfHeader e pkt = b.assignYsfTalker e src := by
    simp only [resolveYsfHeader, tryYsfCsd_of_some hcsd, hok, if_true]
  rw [onYsfd, hfich]
  simp only [if_pos hfi, hresolve, hok, hready, Bool.not_true, Bool.or_self, Bool.false_eq_true,
    if_false]

theorem acceptedFich_onWire {f : Ysfd} (hd : ysfDgidAccepts e.cfg.dgid dgid = true)
    {r : FichCodec} (hr : e.fichDecode = r.reportedFich) (c sender : FichCodec) :
    acceptedFich e (f.onWire c sender dgid) =
      some ⟨f.fi &&& 0x03, f.fn &&& 0x07, f.ft &&& 0x07, f.cm &&& 0x03, ysfDtVdMode2, dgid⟩ := by
  rw [acceptedFich, if_pos (f.ysfdIsPacket_onWire c sender dgid), hr,
    f.reportedFich_onWire r c sender dgid]
  exact if_pos hd

/-- What a bridge makes of the header of another one. -/
theorem onYsfd_onWire {f : Ysfd} (hfi : f.fi = ysfFiHeader) (h : f.Labelled)
    (hd : ysfDgidAccepts e.cfg.dgid dgid = true) (r c sender : FichCodec) (b : Bridge) :
    b.onYsfd (e.onAir r) (f.onWire c sender dgid) =
      (if (b.assignYsfTalker (e.onAir r) (fixed 10 f.src)).2.callActive then
          (b.assignYsfTalker (e.onAir r) (fixed 10 f.src)).2
        else (b.assignYsfTalker (e.onAir r) (fixed 10 f.src)).2.startYsfCall (e.onAir r)
          (f.onWire c sender dgid)).modeconv (e.onAir r) .putYsfHeader := by
  obtain ⟨dst, hcsd⟩ := Ysfd.headerCallsigns_onWire hfi h c sender dgid
  have hfich := acceptedFich_onWire (e := e.onAir r) (f := f) hd rfl c sender
  have h0 : f.fi &&& 0x03 = ysfFiHeader := by
    rw [hfi]
    decide
  rw [← e.onAir_processHeader r] at hcsd
  exact onYsfd_header hfich h0 hcsd

theorem onYsfd_onWire_talker {f : Ysfd} (hfi : f.fi = ysfFiHeader) (h : f.Labelled)
    (hd : ysfDgidAccepts e.cfg.dgid dgid = true) (r c sender : FichCodec) (b : Bridge) :
    (b.onYsfd (e.onAir r) (f.onWire c sender dgid)).callActive = true ∧
      (b.onYsfd (e.onAir r) (f.onWire c sender dgid)).talker =
        (b.assignYsfTalker (e.onAir r) (fixed 10 f.src)).2.talker := by
  rw [onYsfd_onWire hfi h hd]
  generalize (b.assignYsfTalker (e.onAir r) (fixed 10 f.src)).2 = b1
  rw [modeconv_talker]
  split
  next ha => exact ⟨ha, rfl⟩
  next => exact ⟨rfl, startYsfCall_talker _ b1 _⟩

end

/-- Whatever YSF frames have been sent are labelled. -/
def Labels (b b' : Bridge) : Prop := ∃ as, b'.trace = b.trace ++ as ∧ ∀ f, .ysfd f ∈ as → f.Labelled

namespace Labels

variable {e : Env} {b b' b'' : Bridge}

theorem trans (h : Labels b b') (h' : Labels b' b'') : Labels b b'' := by
  obtain ⟨as, ht, ha⟩ := h
  obtain ⟨as', ht', ha'⟩ := h'
  refine ⟨as ++ as', by rw [ht', ht, List.append_assoc], fun f hf => ?_⟩
  exact (List.mem_append.1 hf).elim (ha f) (ha' f)

theorem silent (h : Silent b b') : Labels b b' := by
  obtain ⟨as, ht, ha⟩ := h
  exact ⟨as, ht, fun f hf => absurd (ha _ hf) Bool.noConfusion⟩

theorem sendYsfd (e : Env) (b : Bridge) (fi fn net : UInt8) (v : Option (List UInt8))
    (hv : v = none ∨ fi = ysfFiCommunications) : Labels b (b.sendYsfd e fi fn net v) := by
  refine ⟨_, rfl, fun f hf => ?_⟩
  obtain rfl := Act.ysfd.inj (List.mem_singleton.1 hf)
  rcases hv with rfl | rfl
  · exact fun _ => rfl
  · exact fun hfi => absurd hfi (show ¬(ysfFiCommunications = ysfFiHeader ∨
      ysfFiCommunications = ysfFiTerminator) by decide)

theorem emitYsfFromConv (e : Env) (b : Bridge) : Labels b (b.emitYsfFromConv e) := by
  rw [Bridge.emitYsfFromConv]
  generalize b.conv.getYsf = r
  obtain ⟨tag, payload, conv⟩ := r
  simp only
  split
  · exact silent (.refl b)
  · split
    · exact sendYsfd e { b with conv := conv, ysfCnt := 0 } _ _ _ none (.inl rfl)
    · split
      · have hs := sendYsfd e { b with conv := conv } ysfFiTerminator 0 b.ysfCnt none (.inl rfl)
        refine hs.trans (silent ⟨[.stop .call, .convReset], List.append_assoc _ _ _, ?_⟩)
        simp only [List.mem_cons, List.not_mem_nil, or_false, forall_eq_or_imp, forall_eq]
        exact ⟨rfl, rfl⟩
      · split
        · exact sendYsfd e { b with conv := conv } _ _ _ (some payload) (.inr rfl)
        · exact silent (.refl b)

theorem paceDmr (e : Env) (b : Bridge) : Labels b (b.paceDmr e) := by
  have hcall (ps : List Dmrd) (f : Ysfd) : .ysfd f ∉ ps.map (Act.dmrd .call) := by
    intro hf
    obtain ⟨_, _, hp⟩ := List.mem_map.1 hf
    cases hp
  rcases paceDmr_cases e b with ⟨ps, ht, _⟩ | ⟨_, _, _, ps, p, ht, _⟩
  · exact ⟨_, ht, fun f hf => absurd hf (hcall ps f)⟩
  · refine ⟨ps.map (.dmrd .call) ++ [.dmrd .call p, .stop .call, .convReset],
      by rw [ht, List.append_assoc], fun f hf => ?_⟩
    rcases List.mem_append.1 hf with hf | hf
    · exact absurd hf (hcall ps f)
    · simp only [List.mem_cons, List.not_mem_nil, or_false, reduceCtorEq] at hf

theorem clock (b : Bridge) (c : Clock) : Labels b { b with clock := c } :=
  ⟨[], (List.append_nil _).symm, fun _ => nofun⟩

theorem paceYsf (e : Env) (b : Bridge) : Labels b (b.paceYsf e) := by
  rw [Bridge.paceYsf]
  split
  · exact (clock b _).trans (emitYsfFromConv e b.tock)
  · exact clock b _

theorem tick (e : Env) (b : Bridge) (dmrUp ysfUp : Bool) : Labels b (b.tick e dmrUp ysfUp) := by
  have hp := silent (.ptt (.poll e b dmrUp))
  rw [Bridge.tick]
  split
  · exact hp
  · exact hp.trans ((paceDmr e _).trans (paceYsf e _))

theorem step (e : Env) (b : Bridge) (ev : BridgeEvent) : Labels b (b.step e ev) := by
  cases ev with
  | dmrd c pkt => exact (clock b c).trans (silent (onDmrd_received e _ pkt).silent)
  | ysfd c pkt =>
    obtain ⟨_, hr, _⟩ := onYsfd_received e { b with clock := c } pkt
    exact (clock b c).trans (silent hr.silent)
  | tick c dmrUp ysfUp => exact (clock b c).trans (tick e _ dmrUp ysfUp)
  | aliases db => exact ⟨[], (List.append_nil _).symm, fun _ => nofun⟩

theorem run (e : Env) (b : Bridge) (evs : List BridgeEvent) :
    Labels b (evs.foldl (Bridge.step e) b) := by
  induction evs generalizing b with
  | nil => exact silent (.refl b)
  | cons ev evs ih => exact (step e b ev).trans (ih _)

end Labels

section
variable {e e' : Env} {b : Bridge}

theorem labelled_run {c : Clock} {db : AliasDb} {evs : List BridgeEvent} {f : Ysfd}
    (hf : .ysfd f ∈ (evs.foldl (step e) (init c db)).trace) : f.Labelled := by
  obtain ⟨as, ht, ha⟩ := Labels.run e (init c db) evs
  rw [ht] at hf
  exact ha f hf

/-- What a bridge makes of a talker that another one has named. -/
theorem onYsfd_heardAs {f : Ysfd} (hfi : f.fi = ysfFiHeader) (h : f.Labelled)
    (hd : ysfDgidAccepts e.cfg.dgid dgid = true) (r c sender : FichCodec) (b : Bridge) :
    (b.onYsfd (e.onAir r) (f.onWire c sender dgid)).callActive = true ∧
      ((b.onYsfd (e.onAir r) (f.onWire c sender dgid)).ysfRfId,
        (b.onYsfd (e.onAir r) (f.onWire c sender dgid)).netSrc) =
          heardAs b.aliases e.cfg.dmrid e.cfg.callsign (ysfCallsignBaseSrc f.src) := by
  obtain ⟨hcall, htalker⟩ := onYsfd_onWire_talker hfi h hd r c sender b
  have hassign := assignYsfTalker_heardAs (e.onAir r) b (fixed 10 f.src)
  rw [ysfCallsignBaseSrc_fixed] at hassign
  generalize (b.assignYsfTalker (e.onAir r) (fixed 10 f.src)).2 = b1 at htalker hassign
  refine ⟨hcall, Eq.trans ?_ hassign⟩
  rw [← talker_snd, ← talker_fst, htalker, talker_snd, talker_fst]

/-- In any run, the talker of a header that goes out crosses to any bridge that hears it as its own
tables have it, whatever that bridge was doing. -/
theorem talker_crosses {c : Clock} {db : AliasDb} {evs : List BridgeEvent} {f : Ysfd}
    (hf : .ysfd f ∈ (evs.foldl (step e) (init c db)).trace) (hfi : f.fi = ysfFiHeader)
    (hd : ysfDgidAccepts e'.cfg.dgid dgid = true) (r s sender : FichCodec) (b : Bridge) :
    (b.onYsfd (e'.onAir r) (f.onWire s sender dgid)).callActive = true ∧
      ((b.onYsfd (e'.onAir r) (f.onWire s sender dgid)).ysfRfId,
        (b.onYsfd (e'.onAir r) (f.onWire s sender dgid)).netSrc) =
          heardAs b.aliases e'.cfg.dmrid e'.cfg.callsign (ysfCallsignBaseSrc f.src) :=
  onYsfd_heardAs hfi (labelled_run hf) hd r s sender b

/-- A table with `"LU 1ABC"` for 258. -/
def blankAlias : AliasDb :=
  ⟨fun _ => 0, fun rf => if rf = 258 then
    some ([0x4C, 0x55, 0x20, 0x31, 0x41, 0x42, 0x43] ++ spaces 3) else none⟩

/-- A table with an id for `LU`. -/
def cutAlias : AliasDb := ⟨fun base => if base = [0x4C, 0x55] then 7220001 else 0, fun _ => none⟩

/-- The sample call begins with a header of its talker. -/
theorem sampleCall_header (db : AliasDb) (src : List UInt8)
    (h : ([dmrdAt 0 0x21, tickAt 1000 true true].foldl (step sampleEnv)
      (init (.stopped 0) db)).trace.filterMap
        (fun a => a.ysfFrame.map fun f => (f.fi, f.src)) = [(ysfFiHeader, src)]) :
    ∃ f : Ysfd, .ysfd f ∈ ([dmrdAt 0 0x21, tickAt 1000 true true].foldl (step sampleEnv)
      (init (.stopped 0) db)).trace ∧ f.fi = ysfFiHeader ∧ f.src = src := by
  obtain ⟨a, ha, hf⟩ := List.mem_filterMap.1 (h ▸ List.mem_singleton_self _)
  obtain ⟨f, hf, heq⟩ := Option.map_eq_some_iff.1 hf
  cases a with
  | ysfd f =>
    obtain rfl := Option.some.inj hf
    exact ⟨_, ha, (Prod.mk.inj heq).1, (Prod.mk.inj heq).2⟩
  | dmrd o p => cases hf
  | start o s => cases hf
  | stop o => cases hf
  | convReset => cases hf
  | convPut ds ys => cases hf

/-- In a room with the DG-ID 42. -/
theorem talker_crosses_sample : ∃ f : Ysfd,
    let b := (init (.stopped 0) cutAlias).onYsfd (sampleEnv.onAir .init) (f.onWire .init .init 42)
    b.callActive = true ∧ (b.ysfRfId, b.netSrc) = (7220001, [0x4C, 0x55] ++ spaces 8) := by
  obtain ⟨f, hf, hfi, hsrc⟩ := sampleCall_header blankAlias
    ([0x4C, 0x55, 0x20, 0x31, 0x41, 0x42, 0x43] ++ spaces 3) (by decide +kernel)
  have hroom : ysfDgidAccepts sampleEnv.cfg.dgid 42 = true := rfl
  have h := talker_crosses hf hfi hroom .init .init .init (init (.stopped 0) cutAlias)
  rw [hsrc] at h
  exact ⟨f, h⟩

/-- A DMR radio that the sending bridge has no callsign for has its own id again in every packet of
the call that the receiving bridge makes of it. -/
theorem radioId_crosses {c c' : Clock} {db db' : AliasDb} {evs evs' : List BridgeEvent} {f : Ysfd}
    {id : Nat} (hf : .ysfd f ∈ (evs.foldl (step e) (init c db)).trace) (hfi : f.fi = ysfFiHeader)
    (hsrc : f.src = formatIdCallsign10 id) (hid : 0 < id) (hid' : id < 2 ^ 24)
    (hd : ysfDgidAccepts e'.cfg.dgid dgid = true) (r s sender : FichCodec) (b : Bridge)
    (hcall : (machine (e'.onAir r) c' db').Meets
      (fun b ev => b.callActive = true ∧ ¬NamesTalker (e'.onAir r) ev)
      (b.onYsfd (e'.onAir r) (f.onWire s sender dgid)) evs')
    {p : Dmrd} (hp : .dmrd .call p ∈ actsSince (b.onYsfd (e'.onAir r) (f.onWire s sender dgid))
      (evs'.foldl (step (e'.onAir r)) (b.onYsfd (e'.onAir r) (f.onWire s sender dgid))))
    (raw : List Bool) : be24 (p.bytes raw) 5 = id := by
  have hcs : BaseCallsign (decimal id) := decimal_callsign (Nat.lt_trans hid' (by decide))
  have hnum := callsign10ToDmrid_decimal (Nat.lt_trans hid' (by decide) : id < 2 ^ 31)
  have hpos : (0 : Int) < id := by omega
  rw [formatIdCallsign10] at hnum hsrc
  obtain ⟨-, hcross⟩ := onYsfd_heardAs hfi (labelled_run hf) hd r s sender b
  have htalker : talkerId b.aliases (decimal id) = id := by
    rw [talkerId, hnum]
    exact if_neg (Int.not_le.2 hpos)
  rw [hsrc, hcs.ysfBase, hcs.heardAs, crossesAs, htalker, if_pos hpos] at hcross
  rw [p.src_bytes raw, (Says.run hcall).src hp, rfId, (Prod.mk.inj hcross).1, if_pos hpos,
    dmrIdRf24, if_neg (by omega)]
  omega

/-- An idle bridge that has taken 258 for the talker of a header. -/
def named258 : Bridge :=
  { init (.stopped 0) noAliases with netSrc := formatIdCallsign10 258, ysfRfId := 258 }

/-- The bridge with the call of that header open. -/
def headed (fn : UInt8) : Bridge :=
  { (named258.startYsfCall (sampleEnv.onAir .init) []).modeconv (sampleEnv.onAir .init)
    .putYsfHeader with ysfFn := fn }

theorem headed_eq (pkt : List UInt8) :
    (named258.startYsfCall (sampleEnv.onAir .init) pkt).modeconv (sampleEnv.onAir .init)
      .putYsfHeader = headed (byteAt pkt 48) := rfl

theorem init_named258 : ((init (.stopped 0) noAliases).assignYsfTalker (sampleEnv.onAir .init)
    (fixed 10 (formatIdCallsign10 258))).2 = named258 := by
  obtain ⟨cs, id, h⟩ := assignYsfTalker_eq (sampleEnv.onAir .init) (init (.stopped 0) noAliases)
    (fixed 10 (formatIdCallsign10 258))
  have htalker := assignYsfTalker_heardAs (sampleEnv.onAir .init) (init (.stopped 0) noAliases)
    (fixed 10 (formatIdCallsign10 258))
  have hheard : heardAs noAliases sampleEnv.cfg.dmrid sampleEnv.cfg.callsign
      (ysfCallsignBaseSrc (fixed 10 (formatIdCallsign10 258))) =
        (258, formatIdCallsign10 258) := by
    decide +kernel
  rw [h] at htalker ⊢
  obtain ⟨rfl, rfl⟩ := Prod.mk.inj (htalker.trans hheard)
  rfl

/-- A voice header from 258. -/
def vhead258 : Dmrd where
  seq := 0
  src := 258
  dst := 730
  gw := 7301234
  b15 := vheadB15
  stream := 1
  voice33 := none

theorem headed_vhead (fn : UInt8) : .dmrd .call vhead258 ∈
    actsSince (headed fn) ((headed fn).step (sampleEnv.onAir .init) (tickAt 1000 true true)) := by
  have h : ∀ fn, vhead258 ∈ (actsSince (headed fn) ((headed fn).step (sampleEnv.onAir .init)
      (tickAt 1000 true true))).filterMap Act.callPacket :=
    forall_byte (by decide +kernel)
  exact Act.mem_of_callPacket (h fn)

theorem radioId_crosses_sample : ∃ (f : Ysfd) (p : Dmrd),
    let b := (init (.stopped 0) noAliases).onYsfd (sampleEnv.onAir .init) (f.onWire .init .init 0)
    .dmrd .call p ∈ actsSince b (b.step (sampleEnv.onAir .init) (tickAt 1000 true true)) ∧
      p.isVhead = true ∧ be24 (p.bytes []) 5 = (258 : Nat) := by
  obtain ⟨f, hf, hfi, hsrc⟩ :=
    sampleCall_header noAliases (formatIdCallsign10 258) (by decide +kernel)
  have hroom : ysfDgidAccepts sampleEnv.cfg.dgid 0 = true := rfl
  have hopen : (init (.stopped 0) noAliases).onYsfd (sampleEnv.onAir .init)
      (f.onWire .init .init 0) = headed (byteAt (f.onWire .init .init 0) 48) := by
    rw [onYsfd_onWire hfi (labelled_run hf) hroom, hsrc, init_named258,
      if_neg (show ¬named258.callActive = true from Bool.false_ne_true), headed_eq]
  have hp := headed_vhead (byteAt (f.onWire .init .init 0) 48)
  rw [← hopen] at hp
  have hcall : (machine (sampleEnv.onAir .init) (.stopped 0) noAliases).Meets
      (fun b ev => b.callActive = true ∧ ¬NamesTalker (sampleEnv.onAir .init) ev)
      ((init (.stopped 0) noAliases).onYsfd (sampleEnv.onAir .init) (f.onWire .init .init 0))
      [tickAt 1000 true true] := by
    rw [meets_cons, hopen]
    exact ⟨⟨rfl, id⟩, trivial⟩
  exact ⟨f, vhead258, hp, rfl, radioId_crosses hf hfi hsrc (by decide) (by decide) hroom .init
    .init .init _ hcall hp []⟩

end

end Bridge

end AdnBridge
