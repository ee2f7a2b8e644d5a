import AdnBridge.DataSync
import AdnBridge.Hbp.Embedded

namespace AdnBridge
set_option autoImplicit true

/-- The LC that four embedded fragments carry. -/
def embLc (raw : List Bool) : List UInt8 :=
  (List.range 9).map fun k =>
    bitsToByteBE (embPlaces.map fun i => (embDeinterleave raw).getD i false) (8 * k)

/-- The addresses in a packet are those of the call: in its head, in the LC of a header or a
terminator, and in the embedded LC that the first burst of a superframe sets up. -/
structure Dmrd.IdsWhole (raw : List Bool) (p : Dmrd) (id tg : Int) : Prop where
  src : be24 (p.bytes raw) 5 = dmrIdRf24 id
  dst : be24 (p.bytes raw) 8 = tg
  header : p.ft = dmrdFtDataSync → be24 (burstLc (p.burst raw).1) 6 = dmrIdRf24 id ∧
    be24 (burstLc (p.burst raw).1) 3 = tg
  embedded : p.ft = dmrdFtVoiceSync → p.voice33.isSome = true →
    be24 (embLc (p.burst raw).2) 6 = dmrIdRf24 id ∧ be24 (embLc (p.burst raw).2) 3 = tg

/-- An RF id that fits in 24 bits, once it has been divided by 100 if it is above 99999999. -/
def FitsRf24 (id : Int) : Prop := id < 2 ^ 24 ∨ 99999999 < id ∧ id < 100 * 2 ^ 24

/-- The number that the digits of a label make. -/
def labelNumber (cs : List UInt8) : Nat :=
  ((cs.take 10).filter isDigit).foldl (fun n c => 10 * n + (c.toNat - 0x30)) 0

/-- The RF id that a packet goes out with. -/
def Bridge.rfId (e : Env) (b : Bridge) : Int := if b.ysfRfId > 0 then b.ysfRfId else e.cfg.dmrid

def BridgeEl.rfId (e : ElEnv) (b : BridgeEl) : Int :=
  if b.elRfId > 0 then b.elRfId else e.cfg.dmrid

section
variable {p : Dmrd} {raw : List Bool} {id tg x : Int}

theorem be24_intByte (a b c : UInt8) (l : List UInt8) (ha : a = intByte x 16) (hb : b = intByte x 8)
    (hc : c = intByte x 0) : be24 (a :: b :: c :: l) 0 = x % 2 ^ 24 := by
  have hbyte : ∀ k, ((intByte x k).toNat : Int) = x / 2 ^ k % 256 := by
    intro k
    have h1 : 0 ≤ x / 2 ^ k % 256 := Int.emod_nonneg _ (by decide)
    have h2 : x / 2 ^ k % 256 < 256 := Int.emod_lt_of_pos _ (by decide)
    rw [intByte, Nat.toUInt8, UInt8.toNat_ofNat', Nat.mod_eq_of_lt (by omega)]
    omega
  subst ha hb hc
  change ((intByte x 16).toNat : Int) * 65536 + ((intByte x 8).toNat : Int) * 256 +
    (intByte x 0).toNat = _
  rw [hbyte, hbyte, hbyte]
  omega

namespace Dmrd

theorem src_bytes (raw : List Bool) (p : Dmrd) : be24 (p.bytes raw) 5 = p.src % 2 ^ 24 :=
  be24_intByte _ _ _ [] rfl rfl rfl

theorem dst_bytes (raw : List Bool) (p : Dmrd) : be24 (p.bytes raw) 8 = p.dst % 2 ^ 24 :=
  be24_intByte _ _ _ [] rfl rfl rfl

theorem burstLc_header (hft : p.ft = dmrdFtDataSync) :
    burstLc (p.burst raw).1 = headerLc p.head := by
  rw [burst, if_pos hft]
  exact burstLc_bptcEncode (headerLc_length p.head) headerFrame_length

theorem embLc_sync (hft : p.ft = dmrdFtVoiceSync) (hv : p.voice33.isSome = true) :
    embLc (p.burst raw).2 = lcGetData p.dst p.src := by
  obtain ⟨v, hv⟩ := Option.isSome_iff_exists.1 hv
  have hno : ¬p.ft = dmrdFtDataSync := by
    rw [hft]
    decide
  have hlc := (embeddedLc_encodeEmbeddedData p).lc
  have hlen : (embPlaces.map fun i =>
      (embDeinterleave (encodeEmbeddedData p.dst p.src)).getD i false).length = 8 * 9 :=
    (congrArg List.length hlc).trans (bytesBits_length _)
  have hbytes := @bytesBits_bitsToByteBE 0 9
    (embPlaces.map fun i => (embDeinterleave (encodeEmbeddedData p.dst p.src)).getD i false)
    (Nat.le_of_eq hlen.symm)
  rw [List.drop_zero, List.take_of_length_le (Nat.le_of_eq hlen)] at hbytes
  simp only [Nat.zero_add] at hbytes
  rw [burst, if_neg hno, hv]
  simp only [if_pos hft]
  rw [hlc] at hbytes
  rw [embLc, hlc]
  exact bytesBits_injective hbytes

/-- The addresses of a packet come out whole just if they fit in 24 bits. -/
theorem idsWhole_iff (raw : List Bool) (p : Dmrd) (hsrc : p.src = dmrIdRf24 id) (hdst : p.dst = tg) :
    p.IdsWhole raw id tg ↔ p.src % 2 ^ 24 = p.src ∧ p.dst % 2 ^ 24 = p.dst := by
  constructor
  · intro h
    exact ⟨(p.src_bytes raw).symm.trans (h.src.trans hsrc.symm),
      (p.dst_bytes raw).symm.trans (h.dst.trans hdst.symm)⟩
  · rintro ⟨hs, hd⟩
    have hs' : p.src % 2 ^ 24 = dmrIdRf24 id := hs.trans hsrc
    have hd' : p.dst % 2 ^ 24 = tg := hd.trans hdst
    refine ⟨(p.src_bytes raw).trans hs', (p.dst_bytes raw).trans hd', fun hft => ?_,
      fun hft hv => ?_⟩
    · rw [burstLc_header hft]
      exact ⟨(be24_intByte _ _ _ [] rfl rfl rfl).trans hs',
        (be24_intByte _ _ _ [] rfl rfl rfl).trans hd'⟩
    · rw [embLc_sync hft hv]
      exact ⟨(be24_intByte _ _ _ [] rfl rfl rfl).trans hs',
        (be24_intByte _ _ _ [] rfl rfl rfl).trans hd'⟩

end Dmrd

theorem emod_whole (h : 0 ≤ x) : x % 2 ^ 24 = x ↔ x < 2 ^ 24 := by
  constructor
  · intro hx
    rw [← hx]
    exact Int.emod_lt_of_pos _ (by decide)
  · exact Int.emod_eq_of_lt h

theorem dmrIdRf24_whole (h : 0 < id) :
    dmrIdRf24 id % 2 ^ 24 = dmrIdRf24 id ↔ FitsRf24 id := by
  rw [dmrIdRf24, FitsRf24]
  split
  next hid =>
    rw [Int.tdiv_eq_ediv_of_nonneg h.le, emod_whole (by omega)]
    omega
  next hid =>
    rw [emod_whole h.le]
    omega

theorem Bridge.rfId_pos (e : Env) (b : Bridge) : 0 < b.rfId e := by
  rw [rfId]
  split
  next h => exact h
  next => exact e.cfg.dmrid_pos

theorem Bridge.txTg_pos (e : Env) (b : Bridge) : 0 < b.txTg e := by
  rw [txTg]
  split
  next h => exact of_decide_eq_true (Bool.and_eq_true_iff.1 h).2
  next => exact e.cfg.tg_pos

theorem BridgeEl.rfId_pos (e : ElEnv) (b : BridgeEl) : 0 < b.rfId e := by
  rw [rfId]
  split
  next h => exact h
  next => exact e.cfg.dmrid_pos

theorem BridgeEl.txTg_pos {e : ElEnv} (hmode : e.cfg.mode = .echolinkDmr) (b : BridgeEl) :
    0 < b.txTg e := by
  rw [txTg]
  split
  next h => exact of_decide_eq_true (Bool.and_eq_true_iff.1 h).2
  next => exact e.cfg.tg_pos hmode

/-- A label of digits maps to its value just if that fits in an `int`. -/
theorem callsign10ToDmrid_iff {cs : List UInt8} (h : labelIsNumericDmrid cs = true) :
    callsign10ToDmrid cs = labelNumber cs ↔ labelNumber cs < 2 ^ 31 := by
  have hatoi : callsign10ToDmrid cs = Int.bmod (labelNumber cs) (2 ^ 32) := if_pos h
  rw [hatoi]
  constructor
  · intro hb
    have := @Int.bmod_lt (labelNumber cs : Int) (2 ^ 32) (by decide)
    omega
  · intro hlt
    exact Int.bmod_eq_of_le (by omega) (by omega)

/-- In every packet that the bridges send the addresses are those of the call just if both fit in
24 bits, and a label of digits maps to its value just if that fits in an `int`. -/
theorem identities_iff (raw : List Bool) :
    (∀ (e : Env) (b : Bridge) (o : Origin) (frameType : UInt8) (voice33 : Option (List UInt8))
        (p : Dmrd), (b.sendDmrd e o frameType voice33).trace = b.trace ++ [.dmrd o p] →
      (p.IdsWhole raw (b.rfId e) (b.txTg e) ↔ FitsRf24 (b.rfId e) ∧ b.txTg e < 2 ^ 24)) ∧
    (∀ (e : ElEnv) (b : BridgeEl) (frameType : UInt8) (voice33 : Option (List UInt8)) (cut : Bool)
        (p : Dmrd), e.cfg.mode = .echolinkDmr →
      (b.sendDmrd e frameType voice33 cut).trace = b.trace ++ [.dmrd p cut] →
      (p.IdsWhole raw (b.rfId e) (b.txTg e) ↔ FitsRf24 (b.rfId e) ∧ b.txTg e < 2 ^ 24)) ∧
    ∀ cs : List UInt8, labelIsNumericDmrid cs = true →
      (callsign10ToDmrid cs = labelNumber cs ↔ labelNumber cs < 2 ^ 31) := by
  refine ⟨?_, ?_, fun cs h => callsign10ToDmrid_iff h⟩
  · intro e b o frameType voice33 p hsent
    obtain ⟨-, -, hdst, hsrc⟩ := Bridge.of_sent hsent
    change p.src = dmrIdRf24 (b.rfId e) at hsrc
    rw [Dmrd.idsWhole_iff raw p hsrc hdst, hsrc, hdst, emod_whole (b.txTg_pos e).le]
    exact and_congr_left' (dmrIdRf24_whole (b.rfId_pos e))
  · intro e b frameType voice33 cut p hmode hsent
    obtain ⟨-, -, hdst, hsrc⟩ := BridgeEl.of_sent hsent
    change p.src = dmrIdRf24 (b.rfId e) at hsrc
    rw [Dmrd.idsWhole_iff raw p hsrc hdst, hsrc, hdst, emod_whole (BridgeEl.txTg_pos hmode b).le]
    exact and_congr_left' (dmrIdRf24_whole (b.rfId_pos e))

end

/-- A configuration with an RF id of eight digits. -/
def eightDigitEnv : Env :=
  { sampleEnv with cfg := { sampleEnv.cfg with dmrid := 20000000, dmrid_pos := by decide } }

theorem identities_iff_sample : Dmrd.IdsWhole []
    { seq := 0, src := 7301234, dst := 730, gw := 7301234, b15 := vheadB15, stream := 0,
      voice33 := none } 7301234 730 :=
  ((identities_iff []).1 sampleEnv (.init (.stopped 0) noAliases) .call vheadB15 none _ rfl).2
    ⟨.inl (by decide), by decide⟩

/-- The header of a call goes out with the id 3222784 instead of 20000000. -/
theorem not_identities : ∃ p, ((Bridge.init (.stopped 0) noAliases).sendDmrd eightDigitEnv .call
      vheadB15 none).trace = (Bridge.init (.stopped 0) noAliases).trace ++ [.dmrd .call p] ∧
    be24 (p.bytes []) 5 = 3222784 ∧ ¬p.IdsWhole [] 20000000 730 := by
  refine ⟨_, rfl, rfl, fun h => ?_⟩
  have hsrc := h.src
  revert hsrc
  decide +kernel

end AdnBridge
