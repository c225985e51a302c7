import HomeAddons.Common.Run
import HomeAddons.Desktop.Commands
import HomeAddons.Desktop.Events
import HomeAddons.Desktop.Refreshes

/-!
# Codex Desktop: what documents may not undo

Whatever the order of hosts, snapshots, events and receipts, a thread keeps its binding, its
revisions do not go back, and the snapshot of its revision stays. What a document that comes too
late does to its project, and what a refresh does to a thread that a receipt has degraded, are the
two exceptions of `Undisturbed`.

* `Thread.Forward`: a thread goes on.
* `Current`: the snapshot of the revision of every thread is there.
* `takeSnapshot_current`: a snapshot that is taken keeps this.
-/

namespace HomeAddons.Desktop

open HomeAddons.Common
open HomeAddons.Controller (Raise raising)

/-! ## Threads -/

/-- The binding of a thread stays, its revision does not go back, and neither do its sequence and
    its control revision as long as the revision is the same. -/
structure Thread.Forward (t t' : Thread) : Prop where
  hostRef : t'.hostRef = t.hostRef
  projectRef : t'.projectRef = t.projectRef
  runnerId : t'.runnerId = t.runnerId
  revision : t.threadRevision < t'.threadRevision ∨ (t.threadRevision = t'.threadRevision ∧
    NotBefore t.snapshotSequence t'.snapshotSequence ∧
    NotBefore t.controlRevision t'.controlRevision)

theorem Thread.Forward.refl (t : Thread) : t.Forward t :=
  ⟨rfl, rfl, rfl, .inr ⟨rfl, NotBefore.refl _, NotBefore.refl _⟩⟩

namespace DesktopStore

/-- Every thread goes on. -/
def Forward (s s' : DesktopStore) : Prop :=
  ∀ ref t, s.threads.get? ref = some t → ∃ t', s'.threads.get? ref = some t' ∧ t.Forward t'

/-- The snapshots of a thread are in the order of their revisions, and the last is the one that the
    thread shows. -/
structure Current (s : DesktopStore) : Prop where
  ordered : s.snapshots.Pairwise fun a b =>
    a.threadRef = b.threadRef → a.threadRevision < b.threadRevision
  known : ∀ r ∈ s.snapshots, ∃ t, s.threads.get? r.threadRef = some t ∧
    r.threadRevision ≤ t.threadRevision
  shown : ∀ ref t, s.threads.get? ref = some t → ∃ r ∈ s.snapshots, r.threadRef = ref ∧
    r.threadRevision = t.threadRevision ∧ t.snapshotDigest = some r.bodyDigest
  columns : ∀ ref t, s.threads.get? ref = some t →
    t.controlRevision = controlOf t.snapshot ∧ validControl t.snapshot = true

theorem Current.empty : Current .empty where
  ordered := List.Pairwise.nil
  known _ hr := absurd hr List.not_mem_nil
  shown _ _ ht := nomatch ht
  columns _ _ ht := nomatch ht

/-- Threads that show the same and snapshots that are the same. -/
theorem Current.congr {s s' : DesktopStore} (h : Current s) (hsnapshots : s'.snapshots = s.snapshots)
    (hthreads : ∀ ref t', s'.threads.get? ref = some t' → ∃ t, s.threads.get? ref = some t ∧
      t'.threadRevision = t.threadRevision ∧ t'.snapshotDigest = t.snapshotDigest ∧
      t'.controlRevision = t.controlRevision ∧ t'.snapshot = t.snapshot)
    (hkeep : ∀ ref t, s.threads.get? ref = some t → ∃ t', s'.threads.get? ref = some t') :
    Current s' where
  ordered := hsnapshots ▸ h.ordered
  known r hr := by
    rw [hsnapshots] at hr
    obtain ⟨t, ht, hle⟩ := h.known r hr
    obtain ⟨t', ht'⟩ := hkeep _ t ht
    obtain ⟨t₀, ht₀, hrevision, -⟩ := hthreads _ t' ht'
    rw [ht, Option.some.injEq] at ht₀
    exact ⟨t', ht', by rw [hrevision, ← ht₀]; exact hle⟩
  shown ref t' ht' := by
    obtain ⟨t, ht, hrevision, hdigest, -⟩ := hthreads ref t' ht'
    rw [hsnapshots, hrevision, hdigest]
    exact h.shown ref t ht
  columns ref t' ht' := by
    obtain ⟨t, ht, -, -, hcontrol, hsnapshot⟩ := hthreads ref t' ht'
    rw [hcontrol, hsnapshot]
    exact h.columns ref t ht

section Taken

variable {s s' : DesktopStore} {d : SnapshotDoc} {observedAt : String} {sequence : Option ℕ}
  {body : Dict} {status i : Ingested} {row : Thread}

/-- What a snapshot that is taken leaves. -/
theorem takeSnapshot_taken
    (h : s.takeSnapshot d observedAt (.taken sequence body status) = .ok (s', i, row)) :
    i = status ∧ s'.projects = s.projects ∧
      s'.threads = (s.putThread (d.row sequence body observedAt)).threads ∧
      ∃ s₂, (s.putThread (d.row sequence body observedAt)).putSnapshot ⟨d.threadRef,
          d.threadRevision, d.bodyDigest, sequence, observedAt⟩ (status ≠ .stored) = .ok s₂ ∧
        s'.snapshots = keepNewest (fun r => r.threadRef = d.threadRef) snapshotsPerThread
          s₂.snapshots := by
  simp only [takeSnapshot, bind_eq_ok, pure_eq_ok, Prod.mk.injEq] at h
  obtain ⟨s₂, hput, -, -, rfl, rfl, -⟩ := h
  have hframe := putSnapshot_ok hput
  have hprojects : s₂.projects = s.projects := by
    rw [hframe]
    rfl
  have hthreads : s₂.threads = (s.putThread (d.row sequence body observedAt)).threads := by
    rw [hframe]
  exact ⟨rfl, hprojects, hthreads, s₂, hput, rfl⟩

variable {r : Snapshot} {t : Thread}

/-- The snapshots after one was put in its place or at the end. -/
theorem putSnapshot_snapshots {refresh : Bool}
    (hthere : refresh = true → s.snapshots.any (isRevision r.threadRef r.threadRevision))
    (h : s.putSnapshot r refresh = .ok s') :
    (refresh = true ∧ s'.snapshots = s.snapshots.map fun r' =>
      if isRevision r.threadRef r.threadRevision r' then r else r') ∨
    (refresh = false ∧ s'.snapshots = s.snapshots ++ [r]) := by
  unfold putSnapshot at h
  split at h
  · next hcond =>
    cases h
    rw [Bool.and_eq_true] at hcond
    exact .inl ⟨hcond.1, rfl⟩
  · next hcond =>
    simp only [addSnapshot, bind_eq_ok, pure_eq_ok] at h
    obtain ⟨-, -, -, -, rfl⟩ := h
    refine .inr ⟨?_, rfl⟩
    by_contra hrefresh
    rw [Bool.not_eq_false] at hrefresh
    exact hcond (by rw [hrefresh, hthere hrefresh]; rfl)

/-- Pruning keeps the last snapshot of a thread. -/
theorem Current.prune (h : Current s) (threadRef : String) :
    Current (s.pruneSnapshots threadRef) where
  ordered := h.ordered.sublist (keepNewest_sublist _ _)
  known r hr := h.known r ((keepNewest_sublist _ _).mem hr)
  shown ref t ht := by
    replace ht : s.threads.get? ref = some t := ht
    obtain ⟨r, hr, href, hrevision, hdigest⟩ := h.shown ref t ht
    have hnodup : s.snapshots.Nodup := h.ordered.imp fun {a b} hab heq => by
      rw [heq] at hab
      exact Nat.lt_irrefl _ (hab rfl)
    refine ⟨r, (mem_keepNewest hnodup).mpr ⟨hr, fun hsurplus => ?_⟩, href, hrevision, hdigest⟩
    -- Whatever is surplus comes before something that is kept.
    have hpast := (mem_surplus hsurplus).2
    obtain ⟨b, hb, hb'⟩ := exists_kept_of_surplus (n := snapshotsPerThread) (by decide) hsurplus
    have hbefore := pairwise_surplus h.ordered hsurplus hb hb'
      ((of_decide_eq_true hpast).trans (of_decide_eq_true hb').symm)
    obtain ⟨t', ht', hle⟩ := h.known b ((keepNewest_sublist _ _).mem hb)
    rw [of_decide_eq_true hb', ← of_decide_eq_true hpast, href, ht, Option.some.injEq] at ht'
    rw [← ht', ← hrevision] at hle
    exact Nat.not_lt.mpr hle hbefore
  columns := h.columns

/-- The thread of a snapshot before it was taken, when there was one, and the snapshot: of a later
    revision, or a refresh. -/
def Fits (s : DesktopStore) (d : SnapshotDoc) (status : Ingested) : Prop :=
  match s.threads.get? d.threadRef with
  | none => status = .stored
  | some t => (t.threadRevision < d.threadRevision ∧ status = .stored) ∨
      (t.threadRevision = d.threadRevision ∧ status ≠ .stored)

/-- The thread of a snapshot shows it, and the others are as they were. -/
structure Shows (s s' : DesktopStore) (r : Snapshot) (t : Thread) : Prop where
  threads : ∀ ref, s'.threads.get? ref =
    if ref = r.threadRef then some t else s.threads.get? ref
  revision : t.threadRevision = r.threadRevision
  digest : t.snapshotDigest = some r.bodyDigest
  columns : t.controlRevision = controlOf t.snapshot ∧ validControl t.snapshot = true

/-- What a step of the snapshots has to keep, when one thread shows a new one. -/
theorem Current.of_shows (h : Current s) (hs : Shows s s' r t)
    (hold : ∀ t₀, s.threads.get? r.threadRef = some t₀ → t₀.threadRevision ≤ t.threadRevision)
    (hordered : s'.snapshots.Pairwise fun a b =>
      a.threadRef = b.threadRef → a.threadRevision < b.threadRevision) (hmem : r ∈ s'.snapshots)
    (hfrom : ∀ r' ∈ s'.snapshots, r' = r ∨ r' ∈ s.snapshots)
    (hkeep : ∀ r' ∈ s.snapshots, r'.threadRef ≠ r.threadRef → r' ∈ s'.snapshots) : Current s' where
  ordered := hordered
  known r' hr' := by
    rw [hs.threads]
    split
    · next href =>
      refine ⟨t, rfl, ?_⟩
      obtain rfl | hr' := hfrom r' hr'
      · exact Nat.le_of_eq hs.revision.symm
      · obtain ⟨t₀, ht₀, hle⟩ := h.known r' hr'
        exact hle.trans (hold t₀ (href ▸ ht₀))
    · next href =>
      obtain rfl | hr' := hfrom r' hr'
      · exact absurd rfl href
      · exact h.known r' hr'
  shown ref t' ht' := by
    rw [hs.threads] at ht'
    split at ht'
    · next href =>
      cases ht'
      exact ⟨r, hmem, href.symm, hs.revision.symm, hs.digest⟩
    · next href =>
      obtain ⟨r', hr', href', hshown⟩ := h.shown ref t' ht'
      exact ⟨r', hkeep r' hr' (href' ▸ href), href', hshown⟩
  columns ref t' ht' := by
    rw [hs.threads] at ht'
    split at ht'
    · cases ht'
      exact hs.columns
    · exact h.columns ref t' ht'

/-- A snapshot of a later revision comes to the end. -/
theorem Current.append (h : Current s) (hs : Shows s s' r t)
    (hlater : ∀ t₀, s.threads.get? r.threadRef = some t₀ → t₀.threadRevision < r.threadRevision)
    (hsnapshots : s'.snapshots = s.snapshots ++ [r]) : Current s' := by
  have hold : ∀ t₀, s.threads.get? r.threadRef = some t₀ →
      t₀.threadRevision ≤ t.threadRevision := fun t₀ ht₀ =>
    hs.revision ▸ Nat.le_of_lt (hlater t₀ ht₀)
  refine h.of_shows hs hold ?_ ?_ ?_ ?_ <;> rw [hsnapshots]
  · rw [List.pairwise_append]
    refine ⟨h.ordered, List.pairwise_singleton _ _, fun a ha b hb hab => ?_⟩
    obtain rfl := List.mem_singleton.mp hb
    obtain ⟨t₀, ht₀, hle⟩ := h.known a ha
    exact hle.trans_lt (hlater t₀ (hab ▸ ht₀))
  · exact List.mem_append_right _ (List.mem_singleton_self _)
  · intro r' hr'
    rw [List.mem_append, List.mem_singleton] at hr'
    exact hr'.symm
  · exact fun r' hr' _ => List.mem_append_left _ hr'

/-- A refresh takes the place of the snapshot of its revision. -/
theorem Current.replace {t₀ : Thread} (h : Current s) (hs : Shows s s' r t)
    (ht₀ : s.threads.get? r.threadRef = some t₀)
    (hrevision : t₀.threadRevision = r.threadRevision)
    (hsnapshots : s'.snapshots = s.snapshots.map fun r' =>
      if isRevision r.threadRef r.threadRevision r' then r else r') : Current s' := by
  have hsame : ∀ r' : Snapshot, isRevision r.threadRef r.threadRevision r' = true →
      r'.threadRef = r.threadRef ∧ r'.threadRevision = r.threadRevision := fun r' h =>
    of_decide_eq_true h
  -- The replaced row has the thread and the revision that it had.
  have hcols : ∀ r' : Snapshot, ((if isRevision r.threadRef r.threadRevision r' then r else r' :
        Snapshot).threadRef = r'.threadRef) ∧
      ((if isRevision r.threadRef r.threadRevision r' then r else r' : Snapshot).threadRevision =
        r'.threadRevision) := by
    intro r'
    split
    · next hr' => exact ⟨(hsame r' hr').1.symm, (hsame r' hr').2.symm⟩
    · exact ⟨rfl, rfl⟩
  have hold : ∀ t₁, s.threads.get? r.threadRef = some t₁ →
      t₁.threadRevision ≤ t.threadRevision := by
    intro t₁ ht₁
    rw [ht₀, Option.some.injEq] at ht₁
    rw [← ht₁, hrevision, hs.revision]
  refine h.of_shows hs hold ?_ ?_ ?_ ?_ <;> rw [hsnapshots]
  · rw [List.pairwise_map]
    refine h.ordered.imp fun {a b} hab heq => ?_
    rw [(hcols a).1, (hcols b).1] at heq
    rw [(hcols a).2, (hcols b).2]
    exact hab heq
  · obtain ⟨r', hr', href', hrevision', -⟩ := h.shown _ t₀ ht₀
    exact List.mem_map.mpr ⟨r', hr', if_pos (decide_eq_true
      ⟨href', hrevision'.trans hrevision⟩)⟩
  · intro r' hr'
    obtain ⟨r₀, hr₀, rfl⟩ := List.mem_map.mp hr'
    split
    · exact .inl rfl
    · exact .inr hr₀
  · intro r' hr' hne
    exact List.mem_map.mpr ⟨r', hr', if_neg fun heq => hne (hsame r' heq).1⟩

/-- The thread after a snapshot was put there. -/
theorem shows_putThread (hbody : validControl body = true) : ∃ t,
    (∀ t₀, s.threads.get? d.threadRef = some t₀ → t = t₀.updatedBy (d.row sequence body observedAt)) ∧
    Shows s (s.putThread (d.row sequence body observedAt))
      ⟨d.threadRef, d.threadRevision, d.bodyDigest, sequence, observedAt⟩ t := by
  cases ht : s.threads.get? d.threadRef with
  | none =>
    refine ⟨d.row sequence body observedAt, (fun t₀ ht₀ => by cases ht₀), fun ref => ?_, rfl, rfl,
      rfl, hbody⟩
    have hget := get?_putThread (s := s) (d.row sequence body observedAt) ref
    rw [show (d.row sequence body observedAt).threadRef = d.threadRef from rfl, ht] at hget
    exact hget
  | some t =>
    refine ⟨t.updatedBy (d.row sequence body observedAt), fun t₀ ht₀ => ?_, fun ref => ?_, rfl, rfl,
      rfl, hbody⟩
    · rw [Option.some.inj ht₀]
    have hget := get?_putThread (s := s) (d.row sequence body observedAt) ref
    rw [show (d.row sequence body observedAt).threadRef = d.threadRef from rfl, ht] at hget
    exact hget

/-- A snapshot that is taken is the one that its thread shows. -/
theorem Current.take (h : Current s) (hfits : Fits s d status) (hbody : validControl body = true)
    (htake : s.takeSnapshot d observedAt (.taken sequence body status) = .ok (s', i, row)) :
    Current s' := by
  obtain ⟨-, -, hthreads, s₂, hput, hsnapshots⟩ := takeSnapshot_taken htake
  obtain ⟨t, -, hshows⟩ := @shows_putThread s d observedAt sequence _ hbody
  have hthere : decide (status ≠ .stored) = true → ∃ t₀, s.threads.get? d.threadRef = some t₀ ∧
      t₀.threadRevision = d.threadRevision := by
    intro hrefresh
    unfold Fits at hfits
    split at hfits
    · exact absurd hfits (of_decide_eq_true hrefresh)
    · next t₀ ht₀ =>
      obtain ⟨-, hstored⟩ | ⟨heq, -⟩ := hfits
      · exact absurd hstored (of_decide_eq_true hrefresh)
      · exact ⟨t₀, ht₀, heq⟩
  have hplace := putSnapshot_snapshots (fun hrefresh => by
    obtain ⟨t₀, ht₀, heq⟩ := hthere hrefresh
    obtain ⟨r', hr', href', hrevision', -⟩ := h.shown _ t₀ ht₀
    exact List.any_eq_true.mpr ⟨r', hr', decide_eq_true ⟨href', hrevision'.trans heq⟩⟩) hput
  have hshows' : Shows s { s' with snapshots := s₂.snapshots }
      ⟨d.threadRef, d.threadRevision, d.bodyDigest, sequence, observedAt⟩ t :=
    ⟨fun ref => (congrArg (·.get? ref) hthreads).trans (hshows.threads ref), hshows.revision,
      hshows.digest, hshows.columns⟩
  have hcurrent : Current { s' with snapshots := s₂.snapshots } := by
    obtain ⟨hrefresh, heq⟩ | ⟨hnew, heq⟩ := hplace
    · obtain ⟨t₀, ht₀, hrevision⟩ := hthere hrefresh
      exact h.replace hshows' ht₀ hrevision heq
    · refine h.append hshows' (fun t₀ ht₀ => ?_) heq
      rw [Fits, ht₀] at hfits
      obtain ⟨hlt, -⟩ | ⟨-, hstatus⟩ := hfits
      · exact hlt
      · exact absurd (decide_eq_true hstatus) (ne_true_of_eq_false hnew)
  have hpruned := hcurrent.prune d.threadRef
  exact hpruned.congr hsnapshots (fun _ t' ht' => ⟨t', ht', rfl, rfl, rfl, rfl⟩)
    fun _ t' ht' => ⟨t', ht'⟩

/-! ## Documents -/

/-- How a snapshot that is not rejected was judged. -/
theorem ingestSnapshot_judged (h : s.ingestSnapshot d observedAt = .ok (s', i, row)) :
    (i = .duplicate ∧ s' = s) ∨
    (∀ r ∈ s.snapshots, r.bodyDigest ≠ d.bodyDigest) ∧ ∃ s₁ j s₂ v,
      s.bindHost d.hostRef d.runnerId d.host observedAt d.hostSequence = .ok (s₁, j) ∧
      s₁.upsertProject d.hostRef d.projectRef (textOf d.body "project_alias") observedAt = .ok s₂ ∧
      s₁.projects = s.projects ∧ s₂.threads = s.threads ∧ s₂.snapshots = s.snapshots ∧
      s.snapshotVerdict d = .ok v ∧ s₂.takeSnapshot d observedAt v = .ok (s', i, row) := by
  by_cases hdup : s.snapshots.any (fun r => r.bodyDigest = d.bodyDigest) = true
  · rw [ingestSnapshot, if_pos hdup] at h
    simp only [bind_eq_ok, pure_eq_ok, Prod.mk.injEq] at h
    obtain ⟨-, -, rfl, rfl, -⟩ := h
    exact .inl ⟨rfl, rfl⟩
  · obtain ⟨rfl, rfl⟩ | ⟨s₁, j, s₂, v, hbind, hproject, hv, htake⟩ := ingestSnapshot_cases h
    · exact .inl ⟨rfl, rfl⟩
    · have hhosts := bindHost_ok hbind
      rw [SameButHosts] at hhosts
      have hprojects := hproject
      simp only [upsertProject, bind_eq_ok, pure_eq_ok] at hprojects
      obtain ⟨-, -, heq⟩ := hprojects
      have hthreads : s₂.threads = s.threads := by
        rw [← heq, hhosts]
      have hsnapshots : s₂.snapshots = s.snapshots := by
        rw [← heq, hhosts]
      have hprojects₁ : s₁.projects = s.projects := by
        rw [hhosts]
      have hverdict : s₂.snapshotVerdict d = s.snapshotVerdict d := by
        rw [snapshotVerdict, snapshotVerdict, hthreads, hsnapshots]
      refine .inr ⟨fun r hr heq => hdup (List.any_eq_true.mpr ⟨r, hr, decide_eq_true heq⟩), s₁, j,
        s₂, v, hbind, hproject, hprojects₁, hthreads, hsnapshots, hverdict ▸ hv, htake⟩

/-- What is taken of a snapshot that is new. -/
theorem Current.verdict (h : Current s) (hnew : ∀ r ∈ s.snapshots, r.bodyDigest ≠ d.bodyDigest)
    (hv : s.snapshotVerdict d = .ok (.taken sequence body status)) :
    Fits s d status ∧ validControl body = true ∧
      (status ≠ .staleIgnored ∧ status ≠ .duplicate) ∧ ∀ t, s.threads.get? d.threadRef = some t →
        t.Forward (t.updatedBy (d.row sequence body observedAt)) ∧
        (t.threadRevision = d.threadRevision → controlOf body = t.controlRevision →
          Ready (stateOf body) → Ready (stateOf t.snapshot) ∧ body = d.body) := by
  unfold snapshotVerdict at hv
  unfold Fits
  split at hv
  · next t ht =>
    simp only [bind_eq_ok] at hv
    obtain ⟨-, -, hv⟩ := hv
    obtain ⟨hcontrol, hvalid⟩ := h.columns _ t ht
    have hdigest : d.threadRevision = t.threadRevision → t.snapshotDigest ≠ some d.bodyDigest := by
      intro _ heq
      obtain ⟨r, hr, -, -, hdigest⟩ := h.shown _ t ht
      rw [heq, Option.some.injEq] at hdigest
      exact hnew r hr hdigest.symm
    have hanswer := verdict_status hv
    rw [ht]
    obtain ⟨hlt, rfl, hbody⟩ | ⟨heq, hstatus, hseq, hgoes⟩ := verdict_taken hvalid hdigest hv
    · refine ⟨.inl ⟨hlt, rfl⟩, hbody, hanswer, fun t₀ ht₀ => ?_⟩
      cases ht₀
      exact ⟨⟨rfl, rfl, rfl, .inl hlt⟩, fun heq => absurd heq (Nat.ne_of_lt hlt)⟩
    · refine ⟨.inr ⟨heq, hstatus⟩, hgoes.valid, hanswer, fun t₀ ht₀ => ?_⟩
      cases ht₀
      refine ⟨⟨rfl, rfl, rfl, .inr ⟨heq, hseq, ?_⟩⟩, fun _ hsame hready => ?_⟩
      · rw [hcontrol]
        exact hgoes.continues.1
      · exact ⟨hgoes.continues.2 (hsame.trans hcontrol) hready, hgoes.own hready⟩
  · next ht =>
    simp only [bind_eq_ok, pure_eq_ok, Verdict.taken.injEq] at hv
    obtain ⟨-, -, rfl, rfl, rfl⟩ := hv
    rw [ht]
    exact ⟨rfl, d.valid, by decide, fun t₀ ht₀ => by cases ht₀⟩

end Taken

end DesktopStore

end HomeAddons.Desktop
