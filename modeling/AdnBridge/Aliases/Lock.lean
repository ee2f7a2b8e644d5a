import AdnBridge.Aliases.Sharing

namespace AdnBridge
set_option autoImplicit true

/-- The removal is one of the two takeovers. -/
def LockRemoval.isTakeover : LockRemoval → Bool
  | .takeStale | .takeAfterBackoff => true
  | _ => false

/-- Who has created the lock file and not removed it since, and whose lock file has been removed by
another process meanwhile. -/
structure LockLog where
  created : Nat → Bool
  lost : Nat → Bool

namespace LockLog

def fresh : LockLog := ⟨fun _ => false, fun _ => false⟩

def create (g : LockLog) (p : Nat) : LockLog :=
  ⟨Function.update g.created p true, Function.update g.lost p false⟩

/-- The process `p` removes the lock file that is there. -/
def remove (g : LockLog) (p : Nat) (l : Option LockFile) : LockLog where
  created := Function.update g.created p false
  lost := match l with
    | some l => if l.creator = p then g.lost else Function.update g.lost l.creator true
    | none => g.lost

def note (f : DataFile) (g : LockLog) (s : Site) (ev : DownloadEvent) (s' : Site) : LockLog :=
  match ev with
  | .start _ _ _ _ => g
  | .step p _ =>
    match s.next p with
    | some (.openLock f') =>
      if f' = f ∧ s.fs.lock f = none ∧ s'.fs.lock f ≠ none then g.create p else g
    | some (.unlinkLock f' _) => if f' = f then g.remove p (s.fs.lock f) else g
    | _ => g

/-- What its own calls do to the part of a process in the log. -/
def Own (f : DataFile) : (c : Sys) → Bool → c.Res → Bool → Prop
  | .openLock f', l, r, l' =>
    f' = f ∧ r = Opened.created ∧ l' = true ∨ ¬(f' = f ∧ r = Opened.created) ∧ l' = l
  | .unlinkLock f' _, l, _, l' => l' = if f' = f then false else l
  | _, l, _, l' => l' = l

/-- Except for takeovers, a process removes the lock file only after creating one. -/
def Allowed (f : DataFile) : Sys → Bool → Prop
  | .unlinkLock f' why, l => f' = f → why.isTakeover = false → l = true
  | _, _ => True

end LockLog

namespace Sys

/-- The call neither creates nor removes a lock file. -/
def KeepsLocks : Sys → Prop
  | .openLock _ | .unlinkLock _ _ => False
  | _ => True

theorem IsRead.keepsLocks {c : Sys} (h : c.IsRead) : c.KeepsLocks := by
  cases c <;> first | exact h.elim | trivial

theorem KeepsLocks.own {c : Sys} (h : c.KeepsLocks) (f : DataFile) (l : Bool) :
    LockLog.Allowed f c l ∧ ∀ r l', LockLog.Own f c l r l' → l' = l := by
  cases c <;> first | exact h.elim | exact ⟨trivial, fun _ _ h => h⟩

end Sys

section
variable (e : AliasEnv) (f : DataFile) (p : Nat)

open AliasProg

theorem readFrame (l : Bool) {m : AliasProg α} (h : m.Only Sys.IsRead) :
    m.Safe (LockLog.Allowed f) (LockLog.Own f) (fun _ l' => l' = l) l :=
  (h.mono fun _ hc => hc.keepsLocks).safe fun _ hc => hc.own f l

theorem downloadAttempt_only (v : Validate) (expected : List UInt8) :
    (downloadAttempt e f v expected).Only Sys.KeepsLocks := by
  refine Prog.Only.bind ⟨trivial, fun _ => trivial⟩ fun rc => ?_
  split
  next => trivial
  next =>
    refine ((downloadedValid_only e f v).mono fun _ hc => hc.keepsLocks).bind fun r => ?_
    split
    next =>
      refine ((blake2bMatches_only e (readTmp_only f) expected).mono
        fun _ hc => hc.keepsLocks).bind fun r => ?_
      split
      next => exact ⟨trivial, fun _ => trivial⟩
      next => trivial
    next => trivial

/-- With the lock in hand the process has created it. -/
theorem createDownloadLock_safe (l : Bool) :
    (createDownloadLock f).Safe (LockLog.Allowed f) (LockLog.Own f)
      (fun r l' => r = .got → l' = true) l := by
  refine ⟨trivial, fun r l' hl => ?_⟩
  cases r with
  | «exists» => exact fun h => by cases h
  | failed => exact fun h => by cases h
  | created =>
    have hc : l' = true := by
      rcases hl with h | h
      · exact h.2.2
      · exact absurd ⟨rfl, rfl⟩ h.1
    refine ⟨trivial, fun w l'' hw => ?_⟩
    have hc' : l'' = true := Eq.trans hw hc
    cases w with
    | true => exact fun _ => hc'
    | false => exact ⟨fun _ _ => hc', fun _ _ _ h => (nomatch h)⟩

theorem tryAcquireDownloadLock_safe (l : Bool) :
    (tryAcquireDownloadLock f).Safe (LockLog.Allowed f) (LockLog.Own f)
      (fun r l' => r = .got → l' = true) l := by
  refine ⟨trivial, fun r l' hl => ?_⟩
  cases r with
  | false => exact createDownloadLock_safe f l'
  | true =>
    refine (readFrame f l' (downloadLockStale_only f)).bind fun stale l'' _ => ?_
    cases stale with
    | false => exact fun h => by cases h
    | true => exact ⟨fun _ h => (nomatch h), fun _ l3 _ => createDownloadLock_safe f l3⟩

theorem acquireLoop_safe (expected : List UInt8) (n : Nat) (l : Bool) :
    (acquireLoop e f expected n).Safe (LockLog.Allowed f) (LockLog.Own f)
      (fun r l' => r = none → l' = true) l := by
  induction n generalizing l with
  | zero => trivial
  | succ n ih =>
    rw [acquireLoop]
    refine (tryAcquireDownloadLock_safe f l).bind fun r l' hr => ?_
    cases r with
    | got => exact fun _ => hr rfl
    | error => exact fun h => by cases h
    | held =>
      refine (readFrame f l' (waitForPeerDownload_only f n)).bind fun ok l1 _ => ?_
      cases ok with
      | true =>
        refine (readFrame f l1 (peerResult_only e f expected)).bind fun r l2 _ => ?_
        exact fun h => by cases h
      | false =>
        refine ⟨trivial, fun there l2 _ => ?_⟩
        cases there with
        | true =>
          refine (readFrame f l2 (blake2bMatches_only e (read_only f) expected)).bind
            fun ok l3 _ => ?_
          cases ok <;> exact fun h => by cases h
        | false =>
          refine ⟨trivial, fun locked l3 _ => ?_⟩
          cases locked with
          | true => exact ⟨fun _ h => (nomatch h), fun _ l4 _ => ih l4⟩
          | false => exact ih l3

/-- The holder of the lock removes no lock that it has not created. -/
theorem downloadAttempts_safe (v : Validate) (expected : List UInt8) (n : Nat) :
    (downloadAttempts e f p v expected n).Safe (LockLog.Allowed f) (LockLog.Own f)
      (fun _ _ => True) true := by
  have hrelease (why : LockRemoval) (r : Int) :
      (do if ← stillOwnDownloadLock f p then unlinkLock f why
          pure r : AliasProg Int).Safe (LockLog.Allowed f) (LockLog.Own f)
        (fun _ _ => True) true := by
    refine (readFrame f true (stillOwnDownloadLock_only f p)).bind fun own l hl => ?_
    cases own with
    | true => exact ⟨fun _ _ => hl, fun _ _ _ => trivial⟩
    | false => trivial
  induction n with
  | zero =>
    rw [downloadAttempts]
    exact hrelease .gaveUp (-1)
  | succ n ih =>
    rw [downloadAttempts]
    refine (readFrame f true (stillOwnDownloadLock_only f p)).bind fun own l hl => ?_
    cases own with
    | false => exact ⟨trivial, fun _ _ _ => trivial⟩
    | true =>
      refine ⟨trivial, fun _ l1 hl1 => ?_⟩
      have h1 : l1 = true := Eq.trans hl1 hl
      have hatt := ((downloadAttempt_only e f v expected).safe (l := l1)
        fun _ hc => hc.own f l1)
      refine hatt.bind fun done l2 hl2 => ?_
      have h2 : l2 = true := hl2.trans h1
      cases done with
      | true => exact ⟨fun _ _ => h2, fun _ _ _ => trivial⟩
      | false =>
        refine ⟨trivial, fun _ l3 hl3 => ?_⟩
        obtain rfl : l3 = true := Eq.trans hl3 h2
        by_cases hn : n = 0
        · subst hn
          exact ih
        · change (if n = 0 then _ else _ : AliasProg Int).Safe _ _ _ _
          rw [if_neg hn]
          refine (readFrame f true (onDisk_only e f expected)).bind fun found l4 hl4 => ?_
          obtain rfl := hl4
          cases found with
          | true => exact hrelease .foundOnDisk 1
          | false => exact ih

theorem tryDownload_safe (staleMinutes : Int) (v : Validate) (expected : List UInt8) (fuel : Nat)
    (l : Bool) : (tryDownload e f p staleMinutes v expected fuel).Safe (LockLog.Allowed f)
      (LockLog.Own f) (fun _ _ => True) l := by
  refine (readFrame f l (wantsDownload_only e f staleMinutes expected)).bind fun want l1 _ => ?_
  cases want with
  | false => exact ⟨trivial, fun _ _ _ => trivial⟩
  | true =>
    refine (acquireLoop_safe e f expected fuel l1).bind fun r l2 hr => ?_
    cases r with
    | some r => trivial
    | none =>
      obtain rfl := hr rfl
      exact downloadAttempts_safe e f p v expected aliasDownloadAttempts

end

/-- What holds in every run: the lock file that a process has created is there until somebody
removes it. -/
structure LockInv (f : DataFile) (s : Site) (g : LockLog) : Prop where
  safe : ∀ p, (s.prog p).Safe (LockLog.Allowed f) (LockLog.Own f) (fun _ _ => True) (g.created p)
  held : ∀ p, g.created p = true → g.lost p = false →
    ∃ l, s.fs.lock f = some l ∧ l.creator = p

/-- A lock file after a call that neither creates nor removes one. -/
def SameLock (l l' : Option LockFile) : Prop :=
  l = none ∧ l' = none ∨ ∃ x y, l = some x ∧ l' = some y ∧ y.creator = x.creator

theorem SameLock.refl (l : Option LockFile) : SameLock l l := by
  cases l with
  | none => exact .inl ⟨rfl, rfl⟩
  | some x => exact .inr ⟨x, x, rfl, rfl, rfl⟩

namespace Fs

variable {s : Fs}

theorem setLock_lock (s : Fs) (f g : DataFile) (x : Option LockFile) :
    (s.setLock g x).lock f = if f = g then x else s.lock f :=
  Function.update_apply s.lock g x f

theorem writeLock_same (f g : DataFile) (p : Nat) (o : Outcome) :
    SameLock (s.lock f) ((s.exec p (.writeLock g) o).2.lock f) := by
  simp only [exec]
  split
  next =>
    cases hl : s.lock g with
    | none => exact .refl _
    | some l =>
      by_cases hp : l.creator = p
      · simp only [if_pos hp, setLock_lock]
        by_cases hf : f = g
        · subst hf
          rw [hl, if_pos rfl]
          exact .inr ⟨l, _, rfl, rfl, hp.symm⟩
        · rw [if_neg hf]
          exact .refl _
      · simp only [if_neg hp]
        exact .refl _
  next => exact .refl _

theorem touchLock_same (f g : DataFile) (p : Nat) (o : Outcome) :
    SameLock (s.lock f) ((s.exec p (.touchLock g) o).2.lock f) := by
  simp only [exec, setLock_lock]
  by_cases hf : f = g
  · subst hf
    rw [if_pos rfl]
    cases s.lock f with
    | none => exact .refl _
    | some l => exact .inr ⟨l, _, rfl, rfl, rfl⟩
  · rw [if_neg hf]
    exact .refl _

theorem renameTmp_lock (f g : DataFile) (p : Nat) (o : Outcome) :
    (s.exec p (.renameTmp g) o).2.lock f = s.lock f := by
  simp only [exec]
  cases s.tmp g p with
  | none => rfl
  | some x => simp only; split <;> rfl

theorem exec_same {c : Sys} (h : c.KeepsLocks) (f : DataFile) (p : Nat) (o : Outcome) :
    SameLock (s.lock f) ((s.exec p c o).2.lock f) := by
  cases c with
  | openLock g => exact h.elim
  | unlinkLock g why => exact h.elim
  | writeLock g => exact writeLock_same f g p o
  | touchLock g => exact touchLock_same f g p o
  | renameTmp g =>
    rw [renameTmp_lock]
    exact .refl _
  | _ => exact .refl _

end Fs

namespace LockInv

variable {f : DataFile} {s : Site} {g : LockLog} {p : Nat} {o : Outcome} {c : Sys}

theorem init (f : DataFile) (fs : Fs) : LockInv f (Site.init fs) .fresh :=
  ⟨fun _ => trivial, fun _ h => (nomatch h)⟩

/-- The lock file changes with its owner only, and the log does not. -/
theorem same (h : LockInv f s g) (hs : SameLock (s.fs.lock f) (s'.fs.lock f))
    (hp : ∀ p, (s'.prog p).Safe (LockLog.Allowed f) (LockLog.Own f) (fun _ _ => True)
      (g.created p)) : LockInv f s' g := by
  refine ⟨hp, fun p hc hlost => ?_⟩
  obtain ⟨l, hl, hlp⟩ := h.held p hc hlost
  rcases hs with ⟨h0, _⟩ | ⟨x, y, hx, hy, hyx⟩
  · cases h0.symm.trans hl
  · cases hx.symm.trans hl
    exact ⟨y, hy, hyx.trans hlp⟩

/-- A process creates the lock file. -/
theorem create (h : LockInv f s g) (hn : s.fs.lock f = none)
    (hs : s'.fs.lock f = some ⟨p, false, t⟩)
    (hp : ∀ q, (s'.prog q).Safe (LockLog.Allowed f) (LockLog.Own f) (fun _ _ => True)
      ((g.create p).created q)) : LockInv f s' (g.create p) := by
  refine ⟨hp, fun q hc hlost => ?_⟩
  by_cases hqp : q = p
  · exact ⟨_, hs, hqp.symm⟩
  · have hc' : g.created q = true := (Function.update_of_ne hqp _ _).symm.trans hc
    have hl' : g.lost q = false := (Function.update_of_ne hqp _ _).symm.trans hlost
    obtain ⟨l, hl, _⟩ := h.held q hc' hl'
    cases hn.symm.trans hl

/-- A process removes the lock file; its creator, when it is another one, has lost it. -/
theorem remove (h : LockInv f s g)
    (hp : ∀ q, (s'.prog q).Safe (LockLog.Allowed f) (LockLog.Own f) (fun _ _ => True)
      ((g.remove p (s.fs.lock f)).created q)) :
    LockInv f s' (g.remove p (s.fs.lock f)) := by
  refine ⟨hp, fun q hc hlost => ?_⟩
  have hqp : q ≠ p := by
    rintro rfl
    change Function.update g.created q false q = true at hc
    rw [Function.update_self] at hc
    cases hc
  have hc' : g.created q = true := (Function.update_of_ne hqp _ _).symm.trans hc
  exfalso
  cases hl : s.fs.lock f with
  | none =>
    simp only [LockLog.remove, hl] at hlost
    obtain ⟨l, hl', _⟩ := h.held q hc' hlost
    cases hl.symm.trans hl'
  | some l =>
    simp only [LockLog.remove, hl] at hlost
    by_cases hlp : l.creator = p
    · simp only [if_pos hlp] at hlost
      obtain ⟨l', hl', hq⟩ := h.held q hc' hlost
      cases hl.symm.trans hl'
      exact hqp (hq.symm.trans hlp)
    · simp only [if_neg hlp] at hlost
      by_cases hlq : q = l.creator
      · rw [hlq, Function.update_self] at hlost
        cases hlost
      · rw [Function.update_of_ne hlq] at hlost
        obtain ⟨l', hl', hq⟩ := h.held q hc' hlost
        cases hl.symm.trans hl'
        exact hlq hq.symm

end LockInv

namespace Site

/-- The processes, with the log of their locks. -/
def lockMachine (e : AliasEnv) (f : DataFile) (v : Validate) (fs : Fs) :
    Machine (Site × LockLog) DownloadEvent :=
  (machine e f v fs).observe .fresh (LockLog.note f)

/-- The process that removes the lock file in this step, if it does so outside the takeovers. -/
def releases (f : DataFile) (s : Site) : DownloadEvent → Option Nat
  | .start _ _ _ _ => none
  | .step p _ =>
    match s.next p with
    | some (.unlinkLock f' why) => if f' = f ∧ why.isTakeover = false then some p else none
    | _ => none

/-- A lock file that a process removes, except in a takeover, does not belong to another one. -/
def LeavesLocks (f : DataFile) (s : Site × LockLog) (ev : DownloadEvent) : Prop :=
  ∀ p ∈ releases f s.1 ev, ∀ l ∈ s.1.fs.lock f, ∀ q ∈ l.owner, q = p

/-- When a process removes the lock file, except in a takeover, its own has not been removed by
another process since it created it. -/
def KeepsLock (f : DataFile) (s : Site × LockLog) (ev : DownloadEvent) : Prop :=
  ∀ p ∈ releases f s.1 ev, s.2.lost p = false

instance (f : DataFile) (s : Site × LockLog) (ev : DownloadEvent) :
    Decidable (LeavesLocks f s ev) :=
  inferInstanceAs (Decidable (∀ p ∈ releases f s.1 ev, ∀ l ∈ s.1.fs.lock f, ∀ q ∈ l.owner, q = p))

instance (f : DataFile) (s : Site × LockLog) (ev : DownloadEvent) :
    Decidable (KeepsLock f s ev) :=
  inferInstanceAs (Decidable (∀ p ∈ releases f s.1 ev, s.2.lost p = false))

/-- A call in which the part of each process in the log changes as its own calls say. -/
theorem safe_step {f : DataFile} {s : Site} {g : LockLog} {p : Nat} {k : c.Res → AliasProg Int}
    {created : Nat → Bool} (h : LockInv f s g) (hk : s.prog p = .call c k)
    (hq : ∀ q, q ≠ p → created q = g.created q)
    (hp : LockLog.Own f c (g.created p) (s.fs.exec p c o).1 (created p)) (q : Nat) :
    ((s.step e f v (.step p o)).prog q).Safe (LockLog.Allowed f) (LockLog.Own f) (fun _ _ => True)
      (created q) := by
  rw [prog_step s p o hk]
  by_cases hqp : q = p
  · subst hqp
    have hs := h.safe q
    rw [hk] at hs
    change (Function.update s.prog q (k (s.fs.exec q c o).1) q).Safe _ _ _ _
    rw [Function.update_self]
    exact hs.2 _ _ hp
  · have hs := h.safe q
    change (Function.update s.prog p (k (s.fs.exec p c o).1) q).Safe _ _ _ _
    rw [Function.update_of_ne hqp, hq q hqp]
    exact hs

theorem openLock_lockInv {s : Site} {g : LockLog} {p : Nat}
    {k : (Sys.openLock f').Res → AliasProg Int} (h : LockInv f s g)
    (hk : s.prog p = .call (.openLock f') k) (e : AliasEnv) (v : Validate) (o : Outcome) :
    LockInv f (s.step e f v (.step p o))
      (g.note f s (.step p o) (s.step e f v (.step p o))) := by
  have hfs := step_fs (e := e) (f := f) (v := v) (o := o) hk
  rw [LockLog.note, next_call hk]
  simp only [hfs]
  by_cases hcr : f' = f ∧ s.fs.lock f = none ∧ o.ok = true
  · obtain ⟨rfl, hn, hok⟩ := hcr
    have hex : s.fs.exec p (.openLock f') o =
        (Opened.created, s.fs.setLock f' (some ⟨p, false, o.now⟩)) := by
      simp only [Fs.exec, hn, hok, Option.isSome_none, Bool.false_eq_true, if_false, if_true]
      rfl
    have hl : (s.fs.exec p (.openLock f') o).2.lock f' = some ⟨p, false, o.now⟩ := by
      rw [hex, Fs.setLock_lock, if_pos rfl]
    rw [if_pos ⟨rfl, hn, by rw [hl]; exact Option.some_ne_none _⟩]
    apply h.create hn (by rw [hfs, hl])
    apply safe_step h hk
    · intro q hq
      exact Function.update_of_ne hq _ _
    · rw [hex]
      exact .inl ⟨rfl, rfl, Function.update_self _ _ _⟩
  · have hex : (s.fs.exec p (.openLock f') o).2.lock f = s.fs.lock f ∧
        ¬(f' = f ∧ (s.fs.exec p (.openLock f') o).1 = Opened.created) := by
      simp only [Fs.exec]
      by_cases hsome : (s.fs.lock f').isSome = true
      · rw [if_pos hsome]
        exact ⟨rfl, fun hc => (nomatch hc.2)⟩
      · rw [if_neg hsome]
        by_cases hok : o.ok = true
        · rw [if_pos hok]
          have hne : f ≠ f' := by
            rintro rfl
            exact hcr ⟨rfl, Option.not_isSome_iff_eq_none.1 hsome, hok⟩
          exact ⟨by rw [Fs.setLock_lock, if_neg hne], fun hc => hne hc.1.symm⟩
        · rw [if_neg hok]
          exact ⟨rfl, fun hc => (nomatch hc.2)⟩
    rw [if_neg (fun hc => hc.2.2 (hex.1.trans hc.2.1))]
    apply h.same (by rw [hfs, hex.1]; exact .refl _)
    apply safe_step h hk (fun _ _ => rfl)
    exact .inr ⟨hex.2, rfl⟩

theorem unlinkLock_lockInv {s : Site} {g : LockLog} {p : Nat} {why : LockRemoval}
    {k : (Sys.unlinkLock f' why).Res → AliasProg Int} (h : LockInv f s g)
    (hk : s.prog p = .call (.unlinkLock f' why) k) (e : AliasEnv) (v : Validate) (o : Outcome) :
    LockInv f (s.step e f v (.step p o))
      (g.note f s (.step p o) (s.step e f v (.step p o))) := by
  have hfs := step_fs (e := e) (f := f) (v := v) (o := o) hk
  have hl : (s.fs.exec p (.unlinkLock f' why) o).2.lock f = if f = f' then none else s.fs.lock f :=
    Fs.setLock_lock _ _ _ _
  rw [LockLog.note, next_call hk]
  simp only
  by_cases hf : f' = f
  · subst hf
    rw [if_pos rfl]
    apply h.remove
    apply safe_step h hk
    · intro q hq
      exact Function.update_of_ne hq _ _
    · exact (Function.update_self _ _ _).trans (if_pos rfl).symm
  · rw [if_neg hf]
    rw [if_neg (fun hc => hf hc.symm)] at hl
    apply h.same (by rw [hfs, hl]; exact .refl _)
    apply safe_step h hk (fun _ _ => rfl)
    exact (if_neg hf).symm

theorem keepsLocks_lockInv {s : Site} {g : LockLog} {p : Nat} {k : c.Res → AliasProg Int}
    (h : LockInv f s g) (hk : s.prog p = .call c k) (hc : c.KeepsLocks) (e : AliasEnv)
    (v : Validate) (o : Outcome) :
    LockInv f (s.step e f v (.step p o))
      (g.note f s (.step p o) (s.step e f v (.step p o))) := by
  have hnote : g.note f s (.step p o) (s.step e f v (.step p o)) = g := by
    rw [LockLog.note, next_call hk]
    cases c <;> first | exact hc.elim | rfl
  have hown : LockLog.Own f c (g.created p) (s.fs.exec p c o).1 (g.created p) := by
    cases c <;> first | exact hc.elim | exact rfl
  rw [hnote]
  apply h.same
  · rw [step_fs hk]
    exact Fs.exec_same hc f p o
  · exact safe_step h hk (fun _ _ => rfl) hown

/-- The step of any process, or the start of a call, keeps the invariant. -/
theorem step_lockInv {s : Site} {g : LockLog} (h : LockInv f s g) (e : AliasEnv) (v : Validate)
    (ev : DownloadEvent) :
    LockInv f (s.step e f v ev) (g.note f s ev (s.step e f v ev)) := by
  cases ev with
  | start p staleMinutes expected fuel =>
    rw [step]
    cases hr : (s.prog p).result with
    | none => exact h
    | some r =>
      refine ⟨fun q => ?_, h.held⟩
      by_cases hqp : q = p
      · subst hqp
        change (Function.update s.prog q _ q).Safe _ _ _ _
        rw [Function.update_self]
        exact tryDownload_safe e f q staleMinutes v expected fuel _
      · change (Function.update s.prog p _ q).Safe _ _ _ _
        rw [Function.update_of_ne hqp]
        exact h.safe q
  | step p o =>
    cases hk : s.prog p with
    | call c k =>
      cases c with
      | openLock f' => exact openLock_lockInv h hk e v o
      | unlinkLock f' why => exact unlinkLock_lockInv h hk e v o
      | _ => exact keepsLocks_lockInv h hk trivial e v o
    | _ =>
      have hn : s.next p = none := by rw [next, hk]
      rw [step_idle hn, LockLog.note, hn]
      exact h

theorem releases_eq_some {s : Site} {ev : DownloadEvent} (h : releases f s ev = some p) :
    ∃ why k, s.prog p = .call (.unlinkLock f why) k ∧ why.isTakeover = false := by
  cases ev with
  | start q staleMinutes expected fuel => cases h
  | step q o =>
    rw [releases] at h
    cases hk : s.prog q with
    | call c k =>
      rw [next_call hk] at h
      cases c with
      | unlinkLock f' why =>
        simp only at h
        split at h
        next hc =>
          cases h
          obtain ⟨rfl, hwhy⟩ := hc
          exact ⟨why, k, hk, hwhy⟩
        next => cases h
      | _ => cases h
    | _ =>
      rw [next, hk] at h
      cases h

/-- A process that removes a lock file in another than a takeover step has created one, which is
there as long as nobody else removes it. -/
theorem leavesLocks_of_keepsLock {s : Site} {g : LockLog} (h : LockInv f s g) {ev : DownloadEvent}
    (hk : KeepsLock f (s, g) ev) : LeavesLocks f (s, g) ev := by
  intro p hp l hl q hq
  obtain ⟨why, k, hprog, hwhy⟩ := releases_eq_some hp
  have hs := h.safe p
  rw [hprog] at hs
  obtain ⟨l', hl', hcr⟩ := h.held p (hs.1 rfl hwhy) (hk p hp)
  have hll : l' = l := Option.some.inj (hl'.symm.trans hl)
  have hown : l.owner = some q := hq
  rw [LockFile.owner] at hown
  split at hown
  · rw [← hcr, hll]
    exact (Option.some.inj hown).symm
  · cases hown

/-- No process removes the lock of another one but in a takeover, in every run in which no process
removes the lock after its own has been taken over. -/
theorem leavesLocks_run (e : AliasEnv) (f : DataFile) (v : Validate) (fs : Fs)
    {evs : List DownloadEvent}
    (h : (lockMachine e f v fs).Meets (KeepsLock f) (lockMachine e f v fs).init evs) :
    (lockMachine e f v fs).Meets (LeavesLocks f) (lockMachine e f v fs).init evs := by
  have hinv : LockInv f (lockMachine e f v fs).init.1 (lockMachine e f v fs).init.2 :=
    LockInv.init f fs
  apply Machine.Meets.of_invariant (I := fun s => LockInv f s.1 s.2) ?_ ?_ hinv h
  · intro s ev s' hi _ hs
    obtain ⟨hstep, hnote⟩ := Machine.observe_step hs
    have he : s'.1 = s.1.step e f v ev := (Option.some.inj hstep).symm
    rw [hnote, he]
    exact step_lockInv hi e v ev
  · intro s ev hi hk
    exact leavesLocks_of_keepsLock hi hk

/-- `{"results":[]}`. -/
def noRowsText : List UInt8 :=
  [0x7B, 0x22, 0x72, 0x65, 0x73, 0x75, 0x6C, 0x74, 0x73, 0x22, 0x3A, 0x5B, 0x5D, 0x7D]

/-- A JSON reader that knows this text. -/
def sampleAliasEnv : AliasEnv where
  json text := if text = noRowsText then some (.obj [(Json.resultsKey, .arr [])]) else none
  blake2b := id

def emptyFs : Fs := ⟨fun _ => none, fun _ => none, fun _ _ => none⟩

/-- Calls of a process that all succeed, at one time. -/
def callsAt (p : Nat) (now : Int) (n : Nat) : List DownloadEvent :=
  List.replicate n (.step p ⟨now, true, 0, some noRowsText⟩)

def sampleLockMachine : Machine (Site × LockLog) DownloadEvent :=
  lockMachine sampleAliasEnv .subscriber .subscribers emptyFs

/-- One process downloads, while a second one finds the lock held. -/
theorem leavesLocks_run_sample : sampleLockMachine.Meets (LeavesLocks .subscriber)
    sampleLockMachine.init ([.start 1 0 [] 9] ++ callsAt 1 1000 6 ++ [.start 2 0 [] 9] ++
      callsAt 2 1000 3 ++ callsAt 1 1001 4) := by
  apply leavesLocks_run sampleAliasEnv .subscriber .subscribers emptyFs
  decide +kernel

/-- The second process takes over the lock of the first one, whose download has not grown for a
minute; the first one then finishes, and removes the lock of the second one. -/
theorem not_leavesLocks_run : ¬sampleLockMachine.Meets (LeavesLocks .subscriber)
    sampleLockMachine.init ([.start 1 0 [] 9] ++ callsAt 1 1000 6 ++ [.start 2 0 [] 9] ++
      callsAt 2 1000 8 ++ callsAt 2 1060 9 ++ callsAt 2 1061 3 ++ callsAt 1 1062 4) := by
  decide +kernel

end Site

end AdnBridge
