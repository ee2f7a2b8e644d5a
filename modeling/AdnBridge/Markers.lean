import AdnBridge.Bridge.Frame
import AdnBridge.BridgeEl.BridgeEl

namespace AdnBridge
set_option autoImplicit true

/-- What the senders make of an EOT that the converter returns: a VTERM of the call, or a YSF
TERMINATOR. -/
structure EotSent : Prop where
  vterm : ∀ (e : Env) (b : Bridge), b.conv.getDmr.1 = tagEot →
    ∃ as p bs, (b.emitDmrFromConv e).trace = b.trace ++ as ++ .dmrd .call p :: bs ∧
      p.isVterm = true
  terminator : ∀ (e : Env) (b : Bridge), b.conv.getYsf.1 = tagEot →
    ∃ f bs, (b.emitYsfFromConv e).trace = b.trace ++ .ysfd f :: bs ∧ f.fi = ysfFiTerminator
  elTerminator : ∀ (e : ElEnv) (b : BridgeEl), b.conv.getYsf.1 = tagEot →
    ∃ f, (b.emitYsfFromConv e).trace = b.trace ++ [.ysfd f] ∧ f.fi = ysfFiTerminator

theorem eotSent : EotSent where
  vterm := by
    intro e b h
    obtain ⟨_, _, ps, p, ht, hp⟩ := Bridge.emitDmrFromConv_eot e b h
    exact ⟨_, p, _, ht, hp⟩
  terminator := by
    intro e b h
    obtain ⟨_, _, f, ht, hf⟩ := Bridge.emitYsfFromConv_eot e b h
    exact ⟨f, _, ht, hf⟩
  elTerminator := by
    intro e b h
    rw [BridgeEl.emitYsfFromConv]
    generalize b.conv.getYsf = r at h ⊢
    obtain ⟨tag, payload, conv⟩ := r
    obtain rfl : tag = tagEot := h
    simp only [if_neg (show tagEot ≠ tagNoData by decide), if_neg (show tagEot ≠ tagHeader by decide),
      if_true]
    exact ⟨_, rfl, rfl⟩

namespace ConvUse

variable {k : Codec} {u : ConvUse} {os : List ConvOp}

/-- Without overflow, every marker and all the voice before it come out of the converter, and
every EOT goes out to the other side, exactly when each marker is put at a group boundary of what
is still queued. -/
theorem markersDelivered_iff
    (hf : (machine k).Meets (fun u o => o.RoomFor k u.conv) init os)
    (hr : (machine k).run os = some u) :
    u.Delivered ∧ EotSent ↔ (machine k).Meets (fun u o => o.Fits u.conv) init os :=
  (and_iff_left eotSent).trans (delivered_iff_fits hf hr)

theorem meets_cons {C : ConvUse → ConvOp → Prop} :
    (machine k).Meets C u (o :: os) ↔ C u o ∧ (machine k).Meets C (u.step k o) os :=
  Machine.meets_cons_some rfl

/-- A call whose header and voice are read before its EOT is put. -/
def pacedCall : List ConvOp :=
  [.putYsfHeader, .getDmr, .putYsfPayload [], .getDmr, .putYsfEot, .getDmr, .getDmr]

theorem markersDelivered_pacedCall :
    ∃ u, (machine silentCodec).run pacedCall = some u ∧ u.Delivered ∧ EotSent := by
  have hr : (machine silentCodec).run pacedCall =
      some (pacedCall.foldl (fun u o => u.step silentCodec o) init) := rfl
  refine ⟨_, hr, (markersDelivered_iff ?_ hr).2 ?_⟩
  · simp only [pacedCall, meets_cons]
    refine ⟨?_, ?_, ?_, ?_, ?_, ?_, ?_, trivial⟩ <;> exact ⟨by decide +kernel, by decide +kernel⟩
  · simp only [pacedCall, meets_cons]
    refine ⟨?_, trivial, trivial, trivial, ?_, trivial, trivial, trivial⟩
    · change 3 ∣ _
      decide +kernel
    · change 3 ∣ _
      decide +kernel

/-- The same call with nothing read: the padding of the EOT counts the header, and misses the
group boundary. -/
theorem not_markersDelivered : ∃ u, (machine silentCodec).run
      [.putYsfHeader, .putYsfPayload [], .putYsfEot] = some u ∧
    (machine silentCodec).Meets (fun u o => o.RoomFor silentCodec u.conv) init
      [.putYsfHeader, .putYsfPayload [], .putYsfEot] ∧ ¬u.Delivered := by
  have hroom : (machine silentCodec).Meets (fun u o => o.RoomFor silentCodec u.conv) init
      [.putYsfHeader, .putYsfPayload [], .putYsfEot] := by
    simp only [meets_cons]
    refine ⟨?_, ?_, ?_, trivial⟩ <;> exact ⟨by decide +kernel, by decide +kernel⟩
  refine ⟨_, rfl, hroom, fun hd => ?_⟩
  have hfit := (delivered_iff_fits hroom rfl).1 hd
  simp only [meets_cons] at hfit
  have h3 : 3 ∣ _ := hfit.2.2.1
  revert h3
  decide +kernel

end ConvUse

end AdnBridge
