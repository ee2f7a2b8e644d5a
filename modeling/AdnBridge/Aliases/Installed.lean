import AdnBridge.Aliases.Sharing

namespace AdnBridge
set_option autoImplicit true

/-- A file that a process has renamed into place: the checksum that its call was given, and whether
`curl` had left the file with exit code 0. -/
structure Install where
  pid : Nat
  expected : List UInt8
  complete : Bool
  data : List UInt8

/-- A complete download that has passed the checks of the process that installed it. -/
def Install.Valid (e : AliasEnv) (i : Install) : Prop :=
  i.complete = true ∧ e.jsonValid true i.data = true ∧
    (i.expected = [] ∨ e.blake2b i.data = i.expected)

/-- What a process knows of its temporary file, and whether its call has renamed one. -/
structure TmpView where
  tmp : Option File
  complete : Bool
  renamed : Bool

/-- The checksum given to each process, whether its temporary file is a complete download, whether
its call has renamed it, and all the files that were installed. -/
structure InstallLog where
  expected : Nat → List UInt8
  complete : Nat → Bool
  renamed : Nat → Bool
  installs : List Install

namespace InstallLog

def fresh : InstallLog := ⟨fun _ => [], fun _ => false, fun _ => false, []⟩

def call (g : InstallLog) (p : Nat) (expected : List UInt8) : InstallLog :=
  { g with
    expected := Function.update g.expected p expected
    renamed := Function.update g.renamed p false }

def setComplete (g : InstallLog) (p : Nat) (b : Bool) : InstallLog :=
  { g with complete := Function.update g.complete p b }

def install (g : InstallLog) (p : Nat) (data : List UInt8) : InstallLog :=
  { g with
    renamed := Function.update g.renamed p true
    installs := g.installs ++ [⟨p, g.expected p, g.complete p, data⟩] }

def note (f : DataFile) (g : InstallLog) (s : Site) (ev : DownloadEvent) (_ : Site) : InstallLog :=
  match ev with
  | .start p _ expected _ => if (s.prog p).result.isSome then g.call p expected else g
  | .step p o =>
    match s.next p with
    | some (.curl f') => if f' = f then g.setComplete p (o.rc == 0) else g
    | some (.unlinkTmp f') => if f' = f then g.setComplete p false else g
    | some (.renameTmp f') =>
      if f' = f ∧ o.ok = true then ((s.fs.tmp f p).map fun x => g.install p x.data).getD g else g
    | _ => g

def view (f : DataFile) (s : Fs) (g : InstallLog) (p : Nat) : TmpView :=
  ⟨s.tmp f p, g.complete p, g.renamed p⟩

/-- What its own calls do to the temporary file of a process. -/
def Own (f : DataFile) : (c : Sys) → TmpView → c.Res → TmpView → Prop
  | .curl f', l, r, l' =>
    f' = f ∧ l'.renamed = l.renamed ∧ (r = (0 : Int) → l'.complete = true) ∨ f' ≠ f ∧ l' = l
  | .readTmp f', l, r, l' =>
    l' = l ∧ (f' = f → ∀ d, r = some d → ∃ x, l.tmp = some x ∧ x.data = d)
  | .renameTmp f', l, r, l' => (f' = f ∧ r = true) ∨ l' = l
  | .unlinkTmp f', l, _, l' => f' = f ∧ l'.renamed = l.renamed ∨ l' = l
  | _, l, _, l' => l' = l

/-- Only a complete download that has passed the checks is renamed. -/
def Allowed (e : AliasEnv) (f : DataFile) (expected : List UInt8) : Sys → TmpView → Prop
  | .renameTmp f', l => f' = f → ∀ x, l.tmp = some x → l.complete = true ∧
      e.jsonValid true x.data = true ∧ (expected = [] ∨ e.blake2b x.data = expected)
  | _, _ => True

/-- A call that has renamed a file returns with success. -/
def Post (r : Int) (l : TmpView) : Prop := l.renamed = true → r = 1

end InstallLog

namespace Sys

/-- The call leaves the temporary files alone. -/
def KeepsTmp : Sys → Prop
  | .curl _ | .renameTmp _ | .unlinkTmp _ => False
  | _ => True

theorem IsRead.keepsTmp {c : Sys} (h : c.IsRead) : c.KeepsTmp := by
  cases c <;> first | exact h.elim | trivial

theorem KeepsTmp.own {c : Sys} (h : c.KeepsTmp) (e : AliasEnv) (f : DataFile)
    (expected : List UInt8) (l : TmpView) : InstallLog.Allowed e f expected c l ∧
      ∀ r l', InstallLog.Own f c l r l' → l' = l := by
  cases c <;> first
    | exact h.elim
    | exact ⟨trivial, fun _ _ h => h⟩
    | exact ⟨trivial, fun _ _ h => h.1⟩

end Sys

section
variable (e : AliasEnv) (f : DataFile) (p : Nat) (expected : List UInt8)

open AliasProg

theorem tmpFrame (l : TmpView) {m : AliasProg α} (h : m.Only Sys.KeepsTmp) :
    m.Safe (InstallLog.Allowed e f expected) (InstallLog.Own f) (fun _ l' => l' = l) l :=
  h.safe fun _ hc => hc.own e f expected l

theorem tmpReadFrame (l : TmpView) {m : AliasProg α} (h : m.Only Sys.IsRead) :
    m.Safe (InstallLog.Allowed e f expected) (InstallLog.Own f) (fun _ l' => l' = l) l :=
  tmpFrame e f expected l (h.mono fun _ hc => hc.keepsTmp)

theorem createDownloadLock_only : (createDownloadLock f).Only Sys.KeepsTmp := by
  refine ⟨trivial, fun r => ?_⟩
  cases r with
  | «exists» => trivial
  | failed => trivial
  | created =>
    refine ⟨trivial, fun w => ?_⟩
    cases w with
    | true => trivial
    | false => exact ⟨trivial, fun _ => trivial⟩

theorem tryAcquireDownloadLock_only : (tryAcquireDownloadLock f).Only Sys.KeepsTmp := by
  refine ⟨trivial, fun r => ?_⟩
  cases r with
  | false => exact createDownloadLock_only f
  | true =>
    refine ((downloadLockStale_only f).mono fun _ hc => hc.keepsTmp).bind fun stale => ?_
    cases stale with
    | false => trivial
    | true => exact ⟨trivial, fun _ => createDownloadLock_only f⟩

theorem acquireLoop_only (n : Nat) : (acquireLoop e f expected n).Only Sys.KeepsTmp := by
  induction n with
  | zero => trivial
  | succ n ih =>
    rw [acquireLoop]
    refine (tryAcquireDownloadLock_only f).bind fun r => ?_
    cases r with
    | got => trivial
    | error => trivial
    | held =>
      refine ((waitForPeerDownload_only f n).mono fun _ hc => hc.keepsTmp).bind fun ok => ?_
      cases ok with
      | true =>
        exact ((peerResult_only e f expected).mono fun _ hc => hc.keepsTmp).bind fun _ => trivial
      | false =>
        refine ⟨trivial, fun there => ?_⟩
        cases there with
        | true =>
          refine ((blake2bMatches_only e (read_only f) expected).mono
            fun _ hc => hc.keepsTmp).bind fun ok => ?_
          cases ok <;> trivial
        | false =>
          refine ⟨trivial, fun locked => ?_⟩
          cases locked with
          | true => exact ⟨trivial, fun _ => ih⟩
          | false => exact ih

/-- The checks of a downloaded file look at the temporary file. -/
theorem downloadedValid_safe (l : TmpView) : (downloadedValid e f .subscribers).Safe
    (InstallLog.Allowed e f expected) (InstallLog.Own f)
    (fun r l' => l' = l ∧ (r = true → ∃ x, l.tmp = some x ∧ e.jsonValid true x.data = true)) l := by
  refine ⟨trivial, fun data l' hl => ⟨hl.1, fun hr => ?_⟩⟩
  obtain ⟨d, hd, hv⟩ := Option.any_eq_true _ _ |>.1 hr
  obtain ⟨x, hx, rfl⟩ := hl.2 rfl d hd
  exact ⟨x, hx, hv⟩

theorem blake2bMatches_safe (l : TmpView) : (blake2bMatches e (readTmp f) expected).Safe
    (InstallLog.Allowed e f expected) (InstallLog.Own f)
    (fun r l' => l' = l ∧ (r = true → expected = [] ∨
      ∃ x, l.tmp = some x ∧ e.blake2b x.data = expected)) l := by
  rw [blake2bMatches]
  split
  next he => exact ⟨rfl, fun _ => .inl he⟩
  next =>
    refine ⟨trivial, fun data l' hl => ?_⟩
    cases data with
    | none => exact ⟨hl.1, fun h => by cases h⟩
    | some d =>
      refine ⟨hl.1, fun hr => .inr ?_⟩
      obtain ⟨x, hx, rfl⟩ := hl.2 rfl d rfl
      exact ⟨x, hx, beq_iff_eq.1 hr⟩

/-- An attempt that fails has not renamed anything. -/
theorem downloadAttempt_safe (l : TmpView) (h : l.renamed = false) :
    (downloadAttempt e f .subscribers expected).Safe (InstallLog.Allowed e f expected)
      (InstallLog.Own f) (fun r l' => r = false → l'.renamed = false) l := by
  refine ⟨trivial, fun (rc : Int) l1 h1 => ?_⟩
  have hl1 : l1.renamed = false ∧ (rc = (0 : Int) → l1.complete = true) := by
    rcases h1 with ⟨_, hr, hc⟩ | ⟨hne, _⟩
    · exact ⟨hr.trans h, hc⟩
    · exact absurd rfl hne
  change (if rc ≠ (0 : Int) then _ else _ : AliasProg Bool).Safe _ _ _ _
  by_cases hrc : rc = (0 : Int)
  · rw [if_neg (not_not_intro hrc)]
    refine (downloadedValid_safe e f expected l1).bind fun valid l2 h2 => ?_
    obtain ⟨rfl, hvalid⟩ := h2
    cases valid with
    | false => exact fun _ => hl1.1
    | true =>
      refine (blake2bMatches_safe e f expected l2).bind fun ok l3 h3 => ?_
      obtain ⟨rfl, hok⟩ := h3
      cases ok with
      | false => exact fun _ => hl1.1
      | true =>
        refine ⟨fun _ x hx => ⟨hl1.2 hrc, ?_, ?_⟩, fun r l4 h4 hr => ?_⟩
        · obtain ⟨y, hy, hv⟩ := hvalid rfl
          cases hx.symm.trans hy
          exact hv
        · rcases hok rfl with he | ⟨y, hy, hv⟩
          · exact .inl he
          · cases hx.symm.trans hy
            exact .inr hv
        · rcases h4 with ⟨_, ht⟩ | rfl
          · cases hr.symm.trans ht
          · exact hl1.1
  · rw [if_pos hrc]
    exact fun _ => hl1.1

theorem downloadAttempts_installs (l : TmpView) (n : Nat) (h : l.renamed = false) :
    (downloadAttempts e f p .subscribers expected n).Safe (InstallLog.Allowed e f expected)
      (InstallLog.Own f) InstallLog.Post l := by
  have hpost (r : Int) (l : TmpView) (h : l.renamed = false) : InstallLog.Post r l := by
    intro ht
    cases h.symm.trans ht
  have hrelease (why : LockRemoval) (r : Int) (l : TmpView) (h : l.renamed = false) :
      (do if ← stillOwnDownloadLock f p then unlinkLock f why
          pure r : AliasProg Int).Safe (InstallLog.Allowed e f expected) (InstallLog.Own f)
        InstallLog.Post l := by
    refine (tmpReadFrame e f expected l (stillOwnDownloadLock_only f p)).bind fun own l1 h1 => ?_
    obtain rfl := h1
    cases own with
    | true => exact ⟨trivial, fun _ l2 h2 => hpost r l2 ((congrArg TmpView.renamed h2).trans h)⟩
    | false => exact hpost r l1 h
  induction n generalizing l with
  | zero =>
    rw [downloadAttempts]
    exact hrelease .gaveUp (-1) l h
  | succ n ih =>
    rw [downloadAttempts]
    refine (tmpReadFrame e f expected l (stillOwnDownloadLock_only f p)).bind fun own l1 h1 => ?_
    obtain rfl := h1
    cases own with
    | false =>
      refine ⟨trivial, fun _ l2 h2 => hpost (-1) l2 ?_⟩
      rcases h2 with ⟨_, h2⟩ | rfl
      · exact h2.trans h
      · exact h
    | true =>
      refine ⟨trivial, fun _ l2 h2 => ?_⟩
      obtain rfl : l2 = l1 := h2
      refine (downloadAttempt_safe e f expected l2 h).bind fun done l3 h3 => ?_
      cases done with
      | true => exact ⟨trivial, fun _ _ _ _ => rfl⟩
      | false =>
        refine ⟨trivial, fun _ l4 h4 => ?_⟩
        have hl4 : l4.renamed = false := by
          rcases h4 with ⟨_, h4⟩ | rfl
          · exact h4.trans (h3 rfl)
          · exact h3 rfl
        by_cases hn : n = 0
        · subst hn
          exact ih l4 hl4
        · change (if n = 0 then _ else _ : AliasProg Int).Safe _ _ _ _
          rw [if_neg hn]
          refine (tmpReadFrame e f expected l4 (onDisk_only e f expected)).bind
            fun found l5 h5 => ?_
          obtain rfl := h5
          cases found with
          | true => exact hrelease .foundOnDisk 1 l5 hl4
          | false => exact ih l5 hl4

theorem tryDownload_installs (staleMinutes : Int) (fuel : Nat) (l : TmpView)
    (h : l.renamed = false) :
    (tryDownload e f p staleMinutes .subscribers expected fuel).Safe
      (InstallLog.Allowed e f expected) (InstallLog.Own f) InstallLog.Post l := by
  have hpost (r : Int) (l : TmpView) (h : l.renamed = false) : InstallLog.Post r l := by
    intro ht
    cases h.symm.trans ht
  refine (tmpReadFrame e f expected l (wantsDownload_only e f staleMinutes expected)).bind
    fun want l1 h1 => ?_
  obtain rfl := h1
  cases want with
  | false => exact ⟨trivial, fun _ l2 h2 => hpost 0 l2 ((congrArg TmpView.renamed h2).trans h)⟩
  | true =>
    refine (tmpFrame e f expected l1 (acquireLoop_only e f expected fuel)).bind fun r l2 h2 => ?_
    obtain rfl := h2
    cases r with
    | some r => exact hpost r l2 h
    | none => exact downloadAttempts_installs e f p expected l2 aliasDownloadAttempts h

end

/-- What holds in every run: each process goes on safely, what was installed was validated, and the
file is the first one or one that was installed. -/
structure InstallInv (e : AliasEnv) (f : DataFile) (fs0 : Fs) (s : Site) (g : InstallLog) : Prop where
  safe : ∀ p, (s.prog p).Safe (InstallLog.Allowed e f (g.expected p)) (InstallLog.Own f)
    InstallLog.Post (InstallLog.view f s.fs g p)
  valid : ∀ i ∈ g.installs, i.Valid e
  content : s.fs.file f = fs0.file f ∨
    ∃ i ∈ g.installs, (s.fs.file f).map File.data = some i.data

namespace Fs

variable {s : Fs}

theorem setTmp_tmp (s : Fs) (f g : DataFile) (p q : Nat) (x : Option File) :
    (s.setTmp g p x).tmp f q = if f = g ∧ q = p then x else s.tmp f q := by
  by_cases hf : f = g
  · subst hf
    change Function.update s.tmp f _ f q = _
    rw [Function.update_self, Function.update_apply]
    by_cases hq : q = p
    · rw [if_pos hq, if_pos ⟨rfl, hq⟩]
    · rw [if_neg hq, if_neg (fun h => hq h.2)]
  · change Function.update s.tmp g _ f q = _
    rw [Function.update_of_ne hf, if_neg (fun h => hf h.1)]

theorem setFile_file (s : Fs) (f g : DataFile) (x : Option File) :
    (s.setFile g x).file f = if f = g then x else s.file f :=
  Function.update_apply s.file g x f

theorem exec_keepsTmp {c : Sys} (h : c.KeepsTmp) (p : Nat) (o : Outcome) :
    (s.exec p c o).2.tmp = s.tmp ∧ (s.exec p c o).2.file = s.file := by
  cases c with
  | curl g => exact h.elim
  | renameTmp g => exact h.elim
  | unlinkTmp g => exact h.elim
  | openLock g =>
    simp only [exec]
    split
    next => exact ⟨rfl, rfl⟩
    next => split <;> exact ⟨rfl, rfl⟩
  | writeLock g =>
    simp only [exec]
    split
    next =>
      cases s.lock g with
      | none => exact ⟨rfl, rfl⟩
      | some l => simp only; split <;> exact ⟨rfl, rfl⟩
    next => exact ⟨rfl, rfl⟩
  | _ => exact ⟨rfl, rfl⟩

end Fs

namespace InstallInv

variable {e : AliasEnv} {f : DataFile} {fs0 : Fs} {s : Site} {g : InstallLog} {p : Nat}
variable {o : Outcome} {c : Sys}

open InstallLog

theorem init (e : AliasEnv) (f : DataFile) (fs : Fs) :
    InstallInv e f fs (Site.init fs) .fresh :=
  ⟨fun _ h => (nomatch h), List.forall_mem_nil _, .inl rfl⟩

/-- A call that changes the temporary file of its own process only. -/
theorem safe_step {g' : InstallLog} {k : c.Res → AliasProg Int} (h : InstallInv e f fs0 s g)
    (hk : s.prog p = .call c k) (he : g'.expected = g.expected)
    (hq : ∀ q, q ≠ p → view f (s.fs.exec p c o).2 g' q = view f s.fs g q)
    (hp : Own f c (view f s.fs g p) (s.fs.exec p c o).1 (view f (s.fs.exec p c o).2 g' p))
    (q : Nat) :
    ((s.step e f .subscribers (.step p o)).prog q).Safe (Allowed e f (g'.expected q)) (Own f) Post
      (view f (s.step e f .subscribers (.step p o)).fs g' q) := by
  rw [Site.prog_step s p o hk, he]
  by_cases hqp : q = p
  · subst hqp
    have hs := h.safe q
    rw [hk] at hs
    change (Function.update s.prog q (k (s.fs.exec q c o).1) q).Safe _ _ _ _
    rw [Function.update_self]
    exact hs.2 _ _ hp
  · have hs := h.safe q
    change (Function.update s.prog p (k (s.fs.exec p c o).1) q).Safe _ _ _
      (view f (s.fs.exec p c o).2 g' q)
    rw [Function.update_of_ne hqp, hq q hqp]
    exact hs

theorem keepsTmp {k : c.Res → AliasProg Int} (h : InstallInv e f fs0 s g)
    (hk : s.prog p = .call c k) (hc : c.KeepsTmp) (o : Outcome) :
    InstallInv e f fs0 (s.step e f .subscribers (.step p o))
      (g.note f s (.step p o) (s.step e f .subscribers (.step p o))) := by
  have hnote : g.note f s (.step p o) (s.step e f .subscribers (.step p o)) = g := by
    rw [InstallLog.note, Site.next_call hk]
    cases c <;> first | exact hc.elim | rfl
  obtain ⟨htmp, hfile⟩ := Fs.exec_keepsTmp (s := s.fs) hc p o
  have hview (q : Nat) : view f (s.fs.exec p c o).2 g q = view f s.fs g q := by
    rw [view, view, htmp]
  have hown : Own f c (view f s.fs g p) (s.fs.exec p c o).1 (view f (s.fs.exec p c o).2 g p) := by
    rw [hview]
    cases c with
    | curl f' => exact hc.elim
    | renameTmp f' => exact hc.elim
    | unlinkTmp f' => exact hc.elim
    | readTmp f' =>
      refine ⟨rfl, ?_⟩
      rintro rfl d hd
      obtain ⟨x, hx, hxd⟩ := Option.bind_eq_some_iff.1 hd
      refine ⟨x, hx, ?_⟩
      rw [File.read] at hxd
      split at hxd
      · exact Option.some.inj hxd
      · cases hxd
    | _ => exact rfl
  rw [hnote]
  refine ⟨h.safe_step hk rfl (fun q _ => hview q) hown, h.valid, ?_⟩
  rw [Site.step_fs hk, hfile]
  exact h.content

/-- A call that writes or removes the temporary file of its process. -/
theorem setTmp {k : c.Res → AliasProg Int} {f' : DataFile} {x : Option File} {b : Bool}
    (h : InstallInv e f fs0 s g) (hk : s.prog p = .call c k)
    (hex : (s.fs.exec p c o).2 = s.fs.setTmp f' p x)
    (hown : f' = f → Own f c (view f s.fs g p) (s.fs.exec p c o).1 ⟨x, b, g.renamed p⟩)
    (hsame : f' ≠ f → Own f c (view f s.fs g p) (s.fs.exec p c o).1 (view f s.fs g p)) :
    InstallInv e f fs0 (s.step e f .subscribers (.step p o))
      (if f' = f then g.setComplete p b else g) := by
  have hfile : (s.step e f .subscribers (.step p o)).fs.file f = s.fs.file f := by
    rw [Site.step_fs hk, hex]
    rfl
  by_cases hf : f' = f
  · subst hf
    rw [if_pos rfl]
    have hp : view f' (s.fs.exec p c o).2 (g.setComplete p b) p = ⟨x, b, g.renamed p⟩ := by
      rw [view, hex, Fs.setTmp_tmp, if_pos ⟨rfl, rfl⟩]
      simp only [setComplete, Function.update_self]
    refine ⟨?_, h.valid, ?_⟩
    · refine h.safe_step hk rfl (fun q hq => ?_) (by rw [hp]; exact hown rfl)
      rw [view, view, hex, Fs.setTmp_tmp, if_neg (fun hc => hq hc.2)]
      simp only [setComplete, Function.update_of_ne hq]
    · rw [hfile]
      exact h.content
  · rw [if_neg hf]
    have hv (q : Nat) : view f (s.fs.exec p c o).2 g q = view f s.fs g q := by
      rw [view, view, hex, Fs.setTmp_tmp, if_neg (fun hc => hf hc.1.symm)]
    refine ⟨h.safe_step hk rfl (fun q _ => hv q) (by rw [hv]; exact hsame hf), h.valid, ?_⟩
    rw [hfile]
    exact h.content

theorem curl {f' : DataFile} {k : (Sys.curl f').Res → AliasProg Int}
    (h : InstallInv e f fs0 s g) (hk : s.prog p = .call (.curl f') k) (o : Outcome) :
    InstallInv e f fs0 (s.step e f .subscribers (.step p o))
      (g.note f s (.step p o) (s.step e f .subscribers (.step p o))) := by
  rw [InstallLog.note, Site.next_call hk]
  refine h.setTmp hk rfl (fun hf => .inl ⟨hf, rfl, fun hr => ?_⟩) (fun hf => .inr ⟨hf, rfl⟩)
  exact beq_iff_eq.2 hr

theorem unlinkTmp {f' : DataFile} {k : (Sys.unlinkTmp f').Res → AliasProg Int}
    (h : InstallInv e f fs0 s g) (hk : s.prog p = .call (.unlinkTmp f') k) (o : Outcome) :
    InstallInv e f fs0 (s.step e f .subscribers (.step p o))
      (g.note f s (.step p o) (s.step e f .subscribers (.step p o))) := by
  rw [InstallLog.note, Site.next_call hk]
  exact h.setTmp hk rfl (fun hf => .inl ⟨hf, rfl⟩) (fun _ => .inr rfl)

/-- The rename that succeeds installs a validated file. -/
theorem renamed {k : (Sys.renameTmp f).Res → AliasProg Int} {x : File}
    (h : InstallInv e f fs0 s g) (hk : s.prog p = .call (.renameTmp f) k)
    (hx : s.fs.tmp f p = some x) (hok : o.ok = true) :
    InstallInv e f fs0 (s.step e f .subscribers (.step p o)) (g.install p x.data) := by
  have hex : s.fs.exec p (.renameTmp f) o =
      (true, (s.fs.setFile f (some x)).setTmp f p none) := by
    rw [Fs.exec, hx]
    exact if_pos hok
  have hallowed : Allowed e f (g.expected p) (.renameTmp f) (view f s.fs g p) := by
    have hs := h.safe p
    rw [hk] at hs
    exact hs.1
  obtain ⟨hcomplete, hjson, hsum⟩ := hallowed rfl x hx
  refine ⟨?_, ?_, .inr ⟨⟨p, g.expected p, g.complete p, x.data⟩, ?_, ?_⟩⟩
  · refine h.safe_step hk rfl (fun q hq => ?_) ?_
    · rw [view, view, hex, Fs.setTmp_tmp, if_neg (fun hc => hq hc.2)]
      simp only [install, Function.update_of_ne hq]
      rfl
    · rw [hex]
      exact .inl ⟨rfl, rfl⟩
  · intro i hi
    rcases List.mem_append.1 hi with hi | hi
    · exact h.valid i hi
    · rw [List.mem_singleton.1 hi]
      exact ⟨hcomplete, hjson, hsum⟩
  · exact List.mem_append_right _ (List.mem_singleton_self _)
  · rw [Site.step_fs hk, hex]
    change ((s.fs.setFile f (some x)).file f).map File.data = some x.data
    rw [Fs.setFile_file, if_pos rfl]
    rfl

/-- A rename that fails, or is about another file, changes nothing for this one. -/
theorem notRenamed {f' : DataFile} {k : (Sys.renameTmp f').Res → AliasProg Int}
    (h : InstallInv e f fs0 s g) (hk : s.prog p = .call (.renameTmp f') k)
    (hn : f' = f → o.ok = true → s.fs.tmp f' p = none) :
    InstallInv e f fs0 (s.step e f .subscribers (.step p o)) g := by
  have hex : (s.fs.exec p (.renameTmp f') o).2.file f = s.fs.file f ∧
      ∀ q, (s.fs.exec p (.renameTmp f') o).2.tmp f q = s.fs.tmp f q := by
    rw [Fs.exec]
    cases hx : s.fs.tmp f' p with
    | none => exact ⟨rfl, fun _ => rfl⟩
    | some x =>
      by_cases hok : o.ok = true
      · have hf : f ≠ f' := by
          rintro rfl
          cases (hn rfl hok).symm.trans hx
        simp only [if_pos hok]
        refine ⟨(Fs.setFile_file _ _ _ _).trans (if_neg hf), fun q => ?_⟩
        rw [Fs.setTmp_tmp, if_neg (fun hc => hf hc.1)]
        rfl
      · simp only [if_neg hok, implies_true, and_self]
  have hv (q : Nat) : view f (s.fs.exec p (.renameTmp f') o).2 g q = view f s.fs g q := by
    rw [view, view, hex.2]
  refine ⟨h.safe_step hk rfl (fun q _ => hv q) (.inr (hv p)), h.valid, ?_⟩
  rw [Site.step_fs hk, hex.1]
  exact h.content

theorem renameTmp {f' : DataFile} {k : (Sys.renameTmp f').Res → AliasProg Int}
    (h : InstallInv e f fs0 s g) (hk : s.prog p = .call (.renameTmp f') k) (o : Outcome) :
    InstallInv e f fs0 (s.step e f .subscribers (.step p o))
      (g.note f s (.step p o) (s.step e f .subscribers (.step p o))) := by
  rw [InstallLog.note, Site.next_call hk]
  change InstallInv e f fs0 _ (if f' = f ∧ o.ok = true then _ else g)
  by_cases hc : f' = f ∧ o.ok = true
  · rw [if_pos hc]
    obtain ⟨rfl, hok⟩ := hc
    cases hx : s.fs.tmp f' p with
    | none => exact h.notRenamed hk fun _ _ => hx
    | some x => exact h.renamed hk hx hok
  · rw [if_neg hc]
    exact h.notRenamed hk fun hf hok => absurd ⟨hf, hok⟩ hc

theorem start (h : InstallInv e f fs0 s g) (staleMinutes : Int) (expected : List UInt8)
    (fuel : Nat) : InstallInv e f fs0
      (s.step e f .subscribers (.start p staleMinutes expected fuel))
      (g.note f s (.start p staleMinutes expected fuel)
        (s.step e f .subscribers (.start p staleMinutes expected fuel))) := by
  rw [InstallLog.note, Site.step]
  cases hr : (s.prog p).result with
  | none => exact h
  | some r =>
    rw [if_pos (by rfl)]
    refine ⟨fun q => ?_, h.valid, h.content⟩
    by_cases hqp : q = p
    · subst hqp
      change (Function.update s.prog q _ q).Safe (Allowed e f (Function.update g.expected q
        expected q)) _ _ (view f s.fs (g.call q expected) q)
      rw [Function.update_self, Function.update_self]
      exact tryDownload_installs e f q expected staleMinutes fuel _ (Function.update_self _ _ _)
    · have hv : view f s.fs (g.call p expected) q = view f s.fs g q := by
        rw [view, view]
        simp only [call, Function.update_of_ne hqp]
      change (Function.update s.prog p _ q).Safe (Allowed e f (Function.update g.expected p
        expected q)) _ _ (view f s.fs (g.call p expected) q)
      rw [Function.update_of_ne hqp, Function.update_of_ne hqp, hv]
      exact h.safe q

theorem step (h : InstallInv e f fs0 s g) (ev : DownloadEvent) :
    InstallInv e f fs0 (s.step e f .subscribers ev)
      (g.note f s ev (s.step e f .subscribers ev)) := by
  cases ev with
  | start p staleMinutes expected fuel => exact h.start staleMinutes expected fuel
  | step p o =>
    cases hk : s.prog p with
    | call c k =>
      cases c with
      | curl f' => exact h.curl hk o
      | renameTmp f' => exact h.renameTmp hk o
      | unlinkTmp f' => exact h.unlinkTmp hk o
      | _ => exact h.keepsTmp hk trivial o
    | _ =>
      have hn : s.next p = none := by rw [Site.next, hk]
      rw [Site.step_idle hn, InstallLog.note, hn]
      exact h

end InstallInv

namespace Site

/-- The processes, with the log of what they install. -/
def installMachine (e : AliasEnv) (f : DataFile) (fs : Fs) :
    Machine (Site × InstallLog) DownloadEvent :=
  (machine e f .subscribers fs).observe .fresh (InstallLog.note f)

/-- The file is the one that was there at first, or has been validated by the process that installed
it; and a call that has returned without success has not renamed anything into its place. -/
structure OnlyValidated (e : AliasEnv) (f : DataFile) (fs0 : Fs) (s : Site × InstallLog) :
    Prop where
  content : s.1.fs.file f = fs0.file f ∨
    ∃ i ∈ s.2.installs, i.Valid e ∧ (s.1.fs.file f).map File.data = some i.data
  unchanged : ∀ p r, (s.1.prog p).result = some r → r ≠ 1 → s.2.renamed p = false

theorem onlyValidated_of_inv {e : AliasEnv} {f : DataFile} {fs0 : Fs} {s : Site × InstallLog}
    (h : InstallInv e f fs0 s.1 s.2) : OnlyValidated e f fs0 s := by
  constructor
  · rcases h.content with hc | ⟨i, hi, hd⟩
    · exact .inl hc
    · exact .inr ⟨i, hi, h.valid i hi, hd⟩
  · intro p r hr hne
    have hs := h.safe p
    cases hk : s.1.prog p with
    | ret a =>
      rw [hk] at hr hs
      cases hr
      by_contra hren
      exact hne (hs (Bool.not_eq_false _ ▸ hren))
    | _ =>
      rw [hk] at hr
      cases hr

/-- In every run of any number of processes the file is only ever replaced by validated content. -/
theorem onlyValidated_run (e : AliasEnv) (f : DataFile) (fs : Fs) (evs : List DownloadEvent) :
    (installMachine e f fs).Always (OnlyValidated e f fs) (installMachine e f fs).init evs := by
  have hinv : InstallInv e f fs (installMachine e f fs).init.1 (installMachine e f fs).init.2 :=
    InstallInv.init e f fs
  apply Machine.always_of_invariant (I := fun s => InstallInv e f fs s.1 s.2) ?_ ?_ hinv
  · intro s ev s' hi hs
    obtain ⟨hstep, hnote⟩ := Machine.observe_step hs
    have he : s'.1 = s.1.step e f .subscribers ev := (Option.some.inj hstep).symm
    rw [hnote, he]
    exact hi.step ev
  · intro s hi
    exact onlyValidated_of_inv hi

end Site

end AdnBridge
