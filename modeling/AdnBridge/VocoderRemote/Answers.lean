import AdnBridge.VocoderRemote.Client

namespace AdnBridge
set_option autoImplicit true

namespace VocNet

/-- Every answer belongs to a request that has been sent. -/
structure Wf (s : VocNet) : Prop where
  answers : s.answers.length = s.sent.length
  fits : ∀ k, Replies (s.sent.getD k []) (s.answers.getD k [])
  inFlight : ∀ k ∈ s.inFlight, k < s.sent.length
  socket : ∀ k ∈ s.socket, k < s.sent.length

/-- What became of a network by requests among `reqs`. -/
structure Grown (reqs : List (List UInt8)) (s t : VocNet) : Prop where
  wf : t.Wf
  since : t.since = s.since
  clean : t.clean = true → s.clean = true
  sent : ∃ news, t.sent = s.sent ++ news ∧ ∀ r ∈ news, r ∈ reqs
  answers : s.answers <+: t.answers

variable {s t u : VocNet} {reqs : List (List UInt8)}

theorem Grown.refl (reqs : List (List UInt8)) (h : s.Wf) : Grown reqs s s where
  wf := h
  since := rfl
  clean := id
  sent := ⟨[], (List.append_nil _).symm, fun _ hr => absurd hr List.not_mem_nil⟩
  answers := List.prefix_refl _

theorem Grown.trans (h : Grown reqs s t) (h' : Grown reqs t u) : Grown reqs s u where
  wf := h'.wf
  since := h'.since.trans h.since
  clean := fun hc => h.clean (h'.clean hc)
  sent := by
    obtain ⟨news, hnews, hall⟩ := h.sent
    obtain ⟨news', hnews', hall'⟩ := h'.sent
    refine ⟨news ++ news', by rw [hnews', hnews, List.append_assoc], fun r hr => ?_⟩
    rcases List.mem_append.1 hr with hr | hr
    · exact hall r hr
    · exact hall' r hr
  answers := h.answers.trans h'.answers

theorem Grown.mono {reqs' : List (List UInt8)} (h : Grown reqs s t)
    (hsub : ∀ r ∈ reqs, r ∈ reqs') : Grown reqs' s t :=
  ⟨h.wf, h.since, h.clean, h.sent.imp fun _ hn => ⟨hn.1, fun r hr => hsub r (hn.2 r hr)⟩, h.answers⟩

theorem arrive_sent (s : VocNet) (k : Nat) : (s.arrive k).sent = s.sent := by
  rw [arrive]
  split
  · rfl
  · rfl

theorem Grown.arrive (h : s.Wf) (k : Nat) : Grown reqs s (s.arrive k) := by
  rw [VocNet.arrive]
  split
  next hk =>
    refine ⟨⟨h.answers, h.fits, fun j hj => ?_, fun j hj => ?_⟩, rfl, id,
      (Grown.refl reqs h).sent, List.prefix_refl _⟩
    · exact h.inFlight j (List.mem_of_mem_erase hj)
    · rcases List.mem_append.1 hj with hj | hj
      · exact h.socket j hj
      · exact List.mem_singleton.1 hj ▸ h.inFlight k hk
  next => exact Grown.refl reqs h

theorem Grown.arrivals (h : s.Wf) (ks : List Nat) :
    Grown reqs s (ks.foldl VocNet.arrive s) := by
  induction ks generalizing s with
  | nil => exact Grown.refl reqs h
  | cons k ks ih =>
    have hk : Grown reqs s (s.arrive k) := Grown.arrive h k
    exact hk.trans (ih hk.wf)

theorem arrivals_sent (s : VocNet) (ks : List Nat) :
    (ks.foldl VocNet.arrive s).sent = s.sent := by
  induction ks generalizing s with
  | nil => rfl
  | cons k ks ih => exact (ih _).trans (s.arrive_sent k)

theorem drained_sublist (answers : List (List UInt8)) (n : Nat) (socket : List Nat) :
    (drained answers n socket).Sublist socket := by
  induction socket generalizing n with
  | nil =>
    cases n with
    | zero => exact List.Sublist.refl _
    | succ n => exact List.Sublist.refl _
  | cons k socket ih =>
    cases n with
    | zero => exact List.Sublist.refl _
    | succ n =>
      rw [drained]
      split
      · exact List.sublist_cons_self k socket
      · exact (ih n).cons k

theorem Grown.drain (h : s.Wf) (o : VocOutcome) : Grown reqs s (s.drain o) := by
  have hg : Grown reqs s (o.arrivals.foldl VocNet.arrive s) := Grown.arrivals h _
  refine ⟨⟨hg.wf.answers, hg.wf.fits, hg.wf.inFlight, fun k hk => ?_⟩, hg.since, hg.clean,
    hg.sent, hg.answers⟩
  exact hg.wf.socket k ((drained_sublist _ _ _).subset hk)

theorem getD_concat (l : List α) (a d : α) (k : Nat) :
    (l ++ [a]).getD k d = if k = l.length then a else l.getD k d := by
  rcases Nat.lt_trichotomy k l.length with hk | hk | hk
  · rw [if_neg (by omega), List.getD_append _ _ _ _ hk]
  · rw [if_pos hk, hk, List.getD_append_right _ _ _ _ (Nat.le_refl _), Nat.sub_self]
    rfl
  · rw [if_neg (by omega), List.getD_eq_default _ _ (Nat.le_of_lt hk),
      List.getD_eq_default _ _ (by rw [List.length_append]; exact hk)]

/-- A request that has been sent is the last one, with the answer that it will have. -/
theorem send_spec (h : s.Wf) (req : List UInt8) (o : VocOutcome) :
    Grown [req] s (s.send req o).2 ∧
      ((s.send req o).1 = true → (s.send req o).2.sent.getLastD [] = req) := by
  have hg : Grown [req] s (o.arrivals.foldl VocNet.arrive s) := Grown.arrivals h _
  rw [send]
  generalize o.arrivals.foldl VocNet.arrive s = s' at hg
  split
  · exact ⟨hg, fun h => absurd h Bool.false_ne_true⟩
  · have hlen : (s'.sent ++ [req]).length = s'.sent.length + 1 := List.length_append
    refine ⟨hg.trans ⟨⟨?_, fun k => ?_, fun k hk => ?_, fun k hk => ?_⟩, rfl, id,
      ⟨[req], rfl, fun r hr => hr⟩, List.prefix_append _ _⟩, fun _ => List.getLastD_concat⟩
    · rw [hlen, List.length_append, hg.wf.answers]
      rfl
    · change Replies ((s'.sent ++ [req]).getD k []) ((s'.answers ++ [(o.answer req).data]).getD k [])
      rw [getD_concat, getD_concat, hg.wf.answers]
      split
      · exact (o.answer req).fits
      · exact hg.wf.fits k
    · change k < (s'.sent ++ [req]).length
      rw [hlen]
      rcases List.mem_append.1 hk with hk | hk
      · exact Nat.lt_succ_of_lt (hg.wf.inFlight k hk)
      · exact List.mem_singleton.1 hk ▸ Nat.lt_succ_self _
    · change k < (s'.sent ++ [req]).length
      rw [hlen]
      exact Nat.lt_succ_of_lt (hg.wf.socket k hk)

/-- A response is what an answer holds that is not late. -/
def Heard (s : VocNet) (req : List UInt8) (rsplen : Nat) (rsp : List UInt8) : Prop :=
  ∃ k, k < s.sent.length ∧ ¬s.Late req k ∧ rsp = (s.answers.getD k []).take rsplen

theorem recv_spec (h : s.Wf) (n : Nat) (o : VocOutcome) :
    Grown reqs s (s.recv n o).2 ∧ ∀ rsp, (s.recv n o).1 = some rsp → rsp ≠ [] →
      (s.recv n o).2.clean = true → Heard (s.recv n o).2 (s.sent.getLastD []) n rsp := by
  have hg : Grown reqs s (o.arrivals.foldl VocNet.arrive s) := Grown.arrivals h _
  have hwatch : ∀ b, Grown reqs s { o.arrivals.foldl VocNet.arrive s with
      clean := (o.arrivals.foldl VocNet.arrive s).clean && b } := fun b =>
    ⟨⟨hg.wf.answers, hg.wf.fits, hg.wf.inFlight, hg.wf.socket⟩, hg.since,
      fun hc => hg.clean (Bool.and_eq_true_iff.1 hc).1, hg.sent, hg.answers⟩
  rw [recv, ← s.arrivals_sent o.arrivals]
  simp only
  split
  · exact ⟨hwatch _, fun rsp hrsp => nomatch hrsp⟩
  · split
    · exact ⟨hwatch _, fun rsp hrsp hne => absurd (Option.some.inj hrsp).symm hne⟩
    next k socket hsocket =>
      have hk : k ∈ (o.arrivals.foldl VocNet.arrive s).socket := hsocket ▸ List.mem_cons_self
      have hw := hwatch (decide (∀ k ∈ (o.arrivals.foldl VocNet.arrive s).socket,
        ¬(o.arrivals.foldl VocNet.arrive s).Late
          ((o.arrivals.foldl VocNet.arrive s).sent.getLastD []) k))
      refine ⟨⟨⟨hw.wf.answers, hw.wf.fits, hw.wf.inFlight, fun j hj => ?_⟩, hw.since, hw.clean,
        hw.sent, hw.answers⟩, fun rsp hrsp _ hclean => ?_⟩
      · exact hg.wf.socket j (hsocket ▸ List.mem_cons_of_mem k hj)
      · have hlate := of_decide_eq_true (Bool.and_eq_true_iff.1 hclean).2
        exact ⟨k, hg.wf.socket k hk, hlate k hk, (Option.some.inj hrsp).symm⟩

theorem vocRsp_got {n : Option (List UInt8)} (h : vocRsp n = .got rsp) : n = some rsp ∧ rsp ≠ [] := by
  rw [vocRsp.eq_def] at h
  split at h
  · cases h
  next data =>
    split at h
    · cases h
    next hne =>
      split at h
      · cases h
      · cases h
        exact ⟨rfl, hne⟩

/-- An exchange sends its request once, and what it gets is not late. -/
theorem vocExchangeOnce_wp (h : s.Wf) (req : List UInt8) (rsplen ms : Nat) :
    (vocExchangeOnce req rsplen ms).Wp VocNet.exec (fun _ _ => True) True
      (fun r t => Grown [req] s t ∧ ∀ rsp, r = .got rsp → t.clean = true →
        Heard t req rsplen rsp) s := by
  intro o1 _ o2 _
  have hdrain : Grown [req] s (s.drain o1) := Grown.drain h o1
  obtain ⟨hsend, hlast⟩ := send_spec hdrain.wf req o2
  change Prog.Wp _ _ _ _ (if ((s.drain o1).send req o2).1 then _ else _)
    ((s.drain o1).send req o2).2
  cases hs : ((s.drain o1).send req o2).1 with
  | false => exact ⟨hdrain.trans hsend, fun rsp hr => nomatch hr⟩
  | true =>
    intro o3 _
    obtain ⟨hrecv, hheard⟩ := recv_spec hsend.wf rsplen o3
    refine ⟨(hdrain.trans hsend).trans hrecv, fun rsp hr hclean => ?_⟩
    obtain ⟨hn, hne⟩ := vocRsp_got hr
    have hgot := hheard rsp hn hne hclean
    rw [hlast hs] at hgot
    exact hgot

/-- In every run from `s`, `Q` holds at the end. -/
abbrev Leads (m : VocProg α) (s : VocNet) (Q : α → VocNet → Prop) : Prop :=
  m.Wp VocNet.exec (fun _ _ => True) True Q s

/-- The requests of a call: its own one, and the setting of the rate. -/
def ofCall (req : List UInt8) : List (List UInt8) := [req, dv3kRatetDmr]

theorem vocRecoverRate_wp (h : s.Wf) (req : List UInt8) :
    Leads vocRecoverRate s fun _ t => Grown (ofCall req) s t := by
  refine (vocExchangeOnce_wp h dv3kRatetDmr 64 300).bind fun r t ht => ?_
  have hg : Grown (ofCall req) s t := ht.1.mono fun r hr =>
    List.mem_cons_of_mem _ hr
  cases r with
  | got rsp => exact hg
  | timeout => exact hg
  | failed => exact hg

theorem vocExchange_wp (h : s.Wf) (req : List UInt8) (rsplen consecFail : Nat) :
    Leads (vocExchange req rsplen consecFail) s fun r t => Grown (ofCall req) s t ∧
      ∀ rsp, r.1 = .got rsp → t.clean = true → Heard t req rsplen rsp := by
  have hown : ∀ r ∈ [req], r ∈ ofCall req := fun r hr =>
    List.mem_singleton.1 hr ▸ List.mem_cons_self
  refine (vocExchangeOnce_wp h req rsplen _).bind fun n t ht => ?_
  have hg := ht.1.mono hown
  cases n with
  | got rsp => exact ⟨hg, ht.2⟩
  | _ =>
    -- the rate is set again after three failures, and the request repeated
    simp only
    split
    · refine (vocRecoverRate_wp ht.1.wf req).bind fun recovered u hu => ?_
      cases recovered with
      | false => exact ⟨hg.trans hu, fun rsp hr => by cases hr⟩
      | true =>
        refine (vocExchangeOnce_wp hu.wf req rsplen 400).bind fun n v hv => ?_
        have hall := (hg.trans hu).trans (hv.1.mono hown)
        cases n with
        | got rsp => exact ⟨hall, hv.2⟩
        | _ => exact ⟨hall, fun rsp hr => by cases hr⟩
    · exact ⟨hg, fun rsp hr => by cases hr⟩

theorem dv3kType_take (a : List UInt8) (h : 3 < n) : dv3kType (a.take n) = dv3kType a := by
  rw [dv3kType, dv3kType, List.getD_eq_getElem?_getD, List.getElem?_take_of_lt h,
    List.getD_eq_getElem?_getD]

theorem encodeTurns_wp (h : s.Wf) (req : List UInt8) (k consecFail : Nat) :
    Leads (encodeTurns req k consecFail) s fun r t => Grown (ofCall req) s t ∧
      ∀ rsp, r.1 = some rsp → dv3kType rsp = dv3kTypeAmbe ∧
        (t.clean = true → Heard t req 64 rsp) := by
  induction k generalizing s consecFail with
  | zero => exact ⟨Grown.refl _ h, fun rsp hr => nomatch hr⟩
  | succ k ih =>
    refine (vocExchange_wp h req 64 consecFail).bind fun n t ht => ?_
    obtain ⟨n, consecFail⟩ := n
    obtain ⟨hg, hheard⟩ := ht
    cases n with
    | timeout => exact ⟨hg, fun rsp hr => nomatch hr⟩
    | failed => exact ⟨hg, fun rsp hr => nomatch hr⟩
    | got rsp =>
      change Prog.Wp _ _ _ _ (if rsp.length < 6 ∨ dv3kType rsp ≠ dv3kTypeAmbe ∨
        rsp.getD 4 0 ≠ dv3kAmbeField then _ else _) t
      split
      · exact ⟨hg, fun rsp hr => nomatch hr⟩
      next hpacket =>
        split
        · refine ⟨hg, fun rsp' hr => ?_⟩
          cases hr
          rw [not_or, not_or, not_not] at hpacket
          exact ⟨hpacket.2.1, hheard rsp rfl⟩
        · split
          · exact ⟨hg, fun rsp hr => nomatch hr⟩
          · refine (vocRecoverRate_wp hg.wf req).bind fun recovered u hu => ?_
            cases recovered with
            | false => exact ⟨hg.trans hu, fun rsp hr => nomatch hr⟩
            | true =>
              refine (ih hu.wf consecFail).mono fun r v hv => ?_
              exact ⟨(hg.trans hu).trans hv.1, hv.2⟩

/-- The result of a call is read from the answer to a request of its kind that is not late. -/
def Answered (r : VocRequest) (t : VocNet) (out : VocResult) : Prop :=
  ∃ k, k < t.sent.length ∧ ¬t.Late r.bytes k ∧
    dv3kType (t.sent.getD k []) = dv3kType r.bytes ∧ out = r.reading (t.answers.getD k [])

theorem vocoderEncode_wp (h : s.Wf) (ready : Bool) (pcm : Vector Int16 160) (consecFail : Nat) :
    Leads (vocoderEncode ready pcm consecFail) s fun r t =>
      Grown (ofCall (encodeRequest pcm)) s t ∧ ∀ out, r.1 = some out → t.clean = true →
        Answered (.encode pcm) t out := by
  cases ready with
  | false => exact ⟨Grown.refl _ h, fun out hr => nomatch hr⟩
  | true =>
    refine (encodeTurns_wp h (encodeRequest pcm) 2 consecFail).bind fun r t ht => ?_
    obtain ⟨rsp, consecFail⟩ := r
    obtain ⟨hg, hrsp⟩ := ht
    cases rsp with
    | none => exact ⟨hg, fun out hr => nomatch hr⟩
    | some rsp =>
      change Prog.Wp _ _ _ _ (if ((rsp.getD 5 0).toNat + 7) / 8 < 7 ∨
        rsp.length < 6 + ((rsp.getD 5 0).toNat + 7) / 8 then _ else _) t
      split
      · exact ⟨hg, fun out hr => nomatch hr⟩
      · refine ⟨hg, fun out hr hclean => ?_⟩
        cases hr
        obtain ⟨htype, hheard⟩ := hrsp rsp rfl
        obtain ⟨k, hk, hlate, rfl⟩ := hheard hclean
        rw [dv3kType_take _ (by decide)] at htype
        exact ⟨k, hk, hlate, (hg.wf.fits k).1 htype, rfl⟩

theorem vocoderDecode_wp (h : s.Wf) (ready : Bool) (ambe : Vector UInt8 7) (consecFail : Nat) :
    Leads (vocoderDecode ready ambe consecFail) s fun r t =>
      Grown (ofCall (decodeRequest ambe)) s t ∧ ∀ out, r.1 = some out → t.clean = true →
        Answered (.decode ambe) t out := by
  cases ready with
  | false => exact ⟨Grown.refl _ h, fun out hr => nomatch hr⟩
  | true =>
    refine (vocExchange_wp h (decodeRequest ambe) 334 consecFail).bind fun n t ht => ?_
    obtain ⟨n, consecFail⟩ := n
    obtain ⟨hg, hheard⟩ := ht
    cases n with
    | timeout => exact ⟨hg, fun out hr => nomatch hr⟩
    | failed => exact ⟨hg, fun out hr => nomatch hr⟩
    | got rsp =>
      change Prog.Wp _ _ _ _ (if rsp.length < 6 ∨ dv3kType rsp ≠ dv3kTypeAudio ∨
        rsp.getD 4 0 ≠ dv3kAudioField then _ else _) t
      split
      · exact ⟨hg, fun out hr => nomatch hr⟩
      next hpacket =>
        split
        · exact ⟨hg, fun out hr => nomatch hr⟩
        · refine ⟨hg, fun out hr hclean => ?_⟩
          cases hr
          rw [not_or, not_or, not_not] at hpacket
          obtain ⟨k, hk, hlate, rfl⟩ := hheard rsp rfl hclean
          have htype := hpacket.2.1
          rw [dv3kType_take _ (by decide)] at htype
          exact ⟨k, hk, hlate, (hg.wf.fits k).2 htype, rfl⟩

theorem prog_wp (h : s.Wf) (r : VocRequest) (ready : Bool) (consecFail : Nat) :
    Leads (r.prog ready consecFail) s fun res t => Grown (ofCall r.bytes) s t ∧
      ∀ out, res.1 = some out → t.clean = true → Answered r t out := by
  cases r with
  | encode pcm => exact vocoderEncode_wp h ready pcm consecFail
  | decode ambe => exact vocoderDecode_wp h ready ambe consecFail

/-- A request of the kind of a call that is no earlier one is that of the call. -/
theorem Grown.own (hg : Grown (ofCall req) s t) (hsince : t.since = s.sent.length)
    (hctrl : dv3kType req ≠ dv3kTypeCtrl) (hk : k < t.sent.length) (hlate : ¬t.Late req k)
    (hsame : dv3kType (t.sent.getD k []) = dv3kType req) :
    s.sent.length ≤ k ∧ t.sent.getD k [] = req := by
  have hfirst : s.sent.length ≤ k := Nat.le_of_not_lt fun hlt =>
    hlate ⟨hsince.symm ▸ hlt, hctrl, hsame⟩
  refine ⟨hfirst, ?_⟩
  obtain ⟨news, hnews, hall⟩ := hg.sent
  rw [hnews, List.length_append] at hk
  have hnew : k - s.sent.length < news.length := by omega
  rw [hnews, List.getD_append_right _ _ _ _ hfirst, List.getD_eq_getElem _ _ hnew] at hsame ⊢
  have hmem : news[k - s.sent.length] ∈ ofCall req := hall _ (List.getElem_mem _)
  rcases List.mem_cons.1 hmem with hreq | hratet
  · exact hreq
  · rw [List.mem_singleton.1 hratet] at hsame
    exact absurd hsame.symm hctrl

end VocNet

theorem VocRequest.bytes_type (r : VocRequest) : dv3kType r.bytes ≠ dv3kTypeCtrl := by
  cases r with
  | encode pcm => exact (by decide : dv3kTypeAudio ≠ dv3kTypeCtrl)
  | decode ambe => exact (by decide : dv3kTypeAmbe ≠ dv3kTypeCtrl)

/-- What a call has returned is the answer to a request that it sent itself. -/
def VocEntry.Own (net : VocNet) (e : VocEntry) : Prop :=
  ∀ out, e.result = some out → ∃ k, e.first ≤ k ∧ k < e.last ∧
    net.sent.getD k [] = e.request.bytes ∧ out = e.request.reading (net.answers.getD k [])

def Vocoding.OwnAnswers (s : Vocoding) : Prop := ∀ e ∈ s.log, e.Own s.net

/-- In none of its exchanges does a call look into a socket that holds the answer to a request of
an earlier call of the same kind. -/
def Vocoding.Undisturbed (s : Vocoding) (e : VocRequest × List VocOutcome) : Prop :=
  ∀ r net, s.call e.1 e.2 = some (r, net) → net.clean = true

/-- The numbers in the log are those of requests that have been sent. -/
structure Vocoding.Sound (s : Vocoding) : Prop where
  net : s.net.Wf
  last : ∀ e ∈ s.log, e.last ≤ s.net.sent.length
  own : s.OwnAnswers

theorem VocEntry.Own.grown {e : VocEntry} {s t : VocNet} (h : e.Own s) (hs : s.Wf)
    (hlast : e.last ≤ s.sent.length) (hsent : s.sent <+: t.sent) (hans : s.answers <+: t.answers) :
    e.Own t := by
  intro out hout
  obtain ⟨k, hfirst, hk, hreq, hread⟩ := h out hout
  obtain ⟨news, hnews⟩ := hsent
  obtain ⟨news', hnews'⟩ := hans
  refine ⟨k, hfirst, hk, ?_, ?_⟩
  · rw [← hnews, List.getD_append _ _ _ _ (by omega), hreq]
  · rw [← hnews', List.getD_append _ _ _ _ (by rw [hs.answers]; omega), hread]

theorem Vocoding.Sound.step {s s' : Vocoding} (h : s.Sound) (hc : s.Undisturbed e)
    (hstep : vocoding.step s e = some s') : s'.Sound := by
  have hbegin : VocNet.Wf { s.net with since := s.net.sent.length, clean := true } :=
    ⟨h.net.answers, h.net.fits, h.net.inFlight, h.net.socket⟩
  simp only [vocoding] at hstep
  cases hcall : s.call e.1 e.2 with
  | none => rw [hcall] at hstep; cases hstep
  | some p =>
    obtain ⟨r, net⟩ := p
    rw [hcall] at hstep
    cases hstep
    obtain ⟨hg, hans⟩ := (VocNet.prog_wp hbegin e.1 s.ready s.consecFail).ends
      (Prog.ends_of_runScript hcall)
    have hclean : net.clean = true := hc r net hcall
    have hsent : s.net.sent <+: net.sent := by
      obtain ⟨news, hnews, -⟩ := hg.sent
      exact hnews ▸ List.prefix_append _ _
    refine ⟨hg.wf, fun e' he' => ?_, fun e' he' => ?_⟩
    · rcases List.mem_append.1 he' with he' | he'
      · exact Nat.le_trans (h.last e' he') hsent.length_le
      · cases List.mem_singleton.1 he'
        exact Nat.le_refl _
    · rcases List.mem_append.1 he' with he' | he'
      · exact (h.own e' he').grown h.net (h.last e' he') hsent hg.answers
      · cases List.mem_singleton.1 he'
        intro out hout
        obtain ⟨k, hk, hlate, hsame, hread⟩ := hans out hout hclean
        obtain ⟨hfirst, hreq⟩ := hg.own hg.since e.1.bytes_type hk hlate hsame
        exact ⟨k, hfirst, hk, hreq, hread⟩

/-- In every run whose calls are undisturbed, every call returns its own answer. -/
theorem vocoding_ownAnswers {s : Vocoding} (hs : s.Sound)
    {es : List (VocRequest × List VocOutcome)} (h : vocoding.Meets Vocoding.Undisturbed s es) :
    vocoding.Always Vocoding.OwnAnswers s es :=
  h.always (fun _ _ _ hs hc hstep => hs.step hc hstep) (fun _ hs => hs.own) hs

/-- A response with 49 bits, of the same byte throughout. -/
def frameDatagram (b : UInt8) : List UInt8 :=
  [0x61, 0x00, 0x09, 0x01, 0x01, 49] ++ List.replicate 7 b

theorem replies_nil (req : List UInt8) : Replies req [] :=
  ⟨fun h => absurd h (by decide), fun h => absurd h (by decide)⟩

/-- A server that answers samples with a frame of the same byte throughout. -/
def frameAnswer (b : UInt8) (req : List UInt8) : VocAnswer req :=
  if h : dv3kType req = dv3kTypeAudio then
    ⟨frameDatagram b, fun _ => h, fun h' => absurd (show dv3kTypeAmbe = dv3kTypeAudio from h')
      (by decide)⟩
  else ⟨[], replies_nil req⟩

/-- A call with one exchange, at the end of which these answers come. -/
def frameScript (b : UInt8) (arrivals : List Nat) : List VocOutcome :=
  [⟨[], 1, false, frameAnswer b⟩, ⟨[], 1, false, frameAnswer b⟩,
    ⟨arrivals, 1, false, frameAnswer b⟩]

def silence : VocRequest := .encode (Vector.replicate 160 0)
def speech : VocRequest := .encode (Vector.replicate 160 1)

theorem vocoding_init_sound : vocoding.init.Sound where
  net := ⟨rfl, fun _ => replies_nil _, fun _ hk => absurd hk List.not_mem_nil,
    fun _ hk => absurd hk List.not_mem_nil⟩
  last := fun _ he => absurd he List.not_mem_nil
  own := fun _ he => absurd he List.not_mem_nil

/-- The answer to a call that has timed out comes in time for the drain of the next call, which gets
its own. -/
def drainedScript (b : UInt8) : List VocOutcome :=
  [⟨[0], 2, false, frameAnswer b⟩, ⟨[], 1, false, frameAnswer b⟩, ⟨[1], 1, false, frameAnswer b⟩]

def drainedCalls : List (VocRequest × List VocOutcome) :=
  [(silence, frameScript 0 []), (speech, drainedScript 0xFF)]

theorem drainedCalls_undisturbed :
    vocoding.Meets Vocoding.Undisturbed vocoding.init drainedCalls := by
  refine fun s' hs => ⟨fun r net h => ?_, fun t _ => ⟨fun r net h => ?_, trivial⟩⟩
  · have hclean : ((vocoding.init.call silence (frameScript 0 [])).all fun p => p.2.clean) =
        true := by
      decide +kernel
    rw [h] at hclean
    exact hclean
  · have hclean : ((vocoding.step vocoding.init (silence, frameScript 0 [])).all fun s =>
        (s.call speech (drainedScript 0xFF)).all fun p => p.2.clean) = true := by
      decide +kernel
    rw [hs, Option.all_some, h] at hclean
    exact hclean

theorem vocoding_ownAnswers_sample :
    vocoding.Always Vocoding.OwnAnswers vocoding.init drainedCalls ∧
      ∃ t, vocoding.runFrom vocoding.init drainedCalls = some t ∧
        t.log[0]?.map VocEntry.result = some none ∧
        t.log[1]? = some ⟨speech, some (encodeReading (frameDatagram 0xFF)), 1, 2⟩ :=
  ⟨vocoding_ownAnswers vocoding_init_sound drainedCalls_undisturbed, _, rfl, rfl, rfl⟩

/-- The answer to a call that has timed out comes after the drain of the next call, which takes it
for its own. -/
theorem not_vocoding_ownAnswers : ¬vocoding.Always Vocoding.OwnAnswers vocoding.init
    [(silence, frameScript 0 []), (speech, frameScript 0xFF [0])] := by
  intro h
  have hrun : ∃ t, vocoding.runFrom vocoding.init
      [(silence, frameScript 0 []), (speech, frameScript 0xFF [0])] = some t ∧
      t.log[1]? = some ⟨speech, some (encodeReading (frameDatagram 0)), 1, 2⟩ ∧
      t.net.answers.getD 1 [] = frameDatagram 0xFF := ⟨_, rfl, rfl, rfl⟩
  obtain ⟨t, hrun, hlog, hanswer⟩ := hrun
  have hown := Machine.always_iff.1 h _ _ (List.prefix_refl _) hrun _ (List.mem_of_getElem? hlog)
  obtain ⟨k, hfirst, hlast, -, hread⟩ := hown _ rfl
  have hk : k = 1 := Nat.le_antisymm (Nat.le_of_lt_succ hlast) hfirst
  rw [hk, hanswer] at hread
  revert hread
  decide +kernel

end AdnBridge
