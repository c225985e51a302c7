import HomeAddons.Desktop.Latches

/-!
# Codex Desktop: runs of documents

Hosts, snapshots, events and receipts in any order, with whatever happens to the commands between
them.

* `Watched`: the store, and at which revisions each thread was last seen degraded.
* `Sound`, `Advances`: what has to hold of every state and of every step.
* `Undisturbed`: no snapshot that comes too late finds its project out of date, and no refresh comes
  for a thread that a receipt has degraded.
* `sound_of_undisturbed`: then it holds.

`_upsert_project` runs before it is known that a snapshot is stale, and a receipt degrades the row
of a thread but not the snapshot that the next refresh is compared with.
-/

namespace HomeAddons.Desktop

open HomeAddons.Common
open HomeAddons.Controller (Raise)

/-- What comes to the store. -/
inductive Document where
  | host (d : HostDoc) (observedAt : String)
  | snapshot (d : SnapshotDoc) (observedAt : String)
  | event (d : EventDoc)
  | receipt (d : ReceiptDoc)
  | prepare (d : CommandDoc) (intentDigest : String)
  | mark (requestId : String) (state : CommandState) (errorCode : Option String)
      (updatedAt : String)
  | complete (requestId : String) (action : Action) (confirmed : Bool) (errorCode : Option String)
      (updatedAt : String)
  | sweep (now : Moment)
  | restart (now : Moment)

/-- What a document makes of the store. -/
def DesktopStore.take (s : DesktopStore) : Document → Except Raise DesktopStore
  | .host d observedAt => (s.ingestHost d observedAt).map Prod.fst
  | .snapshot d observedAt => (s.ingestSnapshot d observedAt).map Prod.fst
  | .event d => (s.ingestEvent d).map Prod.fst
  | .receipt d => (s.ingestReceipt d).map Prod.fst
  | .prepare d intentDigest => (s.prepareCommand d intentDigest).map Prod.fst
  | .mark requestId state errorCode updatedAt =>
    (s.markCommand requestId state errorCode updatedAt).map Prod.fst
  | .complete requestId action confirmed errorCode updatedAt =>
    (s.completeResourceCommand requestId action confirmed errorCode updatedAt).map Prod.fst
  | .sweep now => .ok (s.sweepCommands now).1
  | .restart now => .ok (s.recoverPendingCommands now)

/-- The store, and the revisions at which a thread was last degraded. -/
structure Watched where
  store : DesktopStore
  degradedAt : String → Option (ℕ × Option ℤ)

namespace Watched

def start : Watched := ⟨.empty, fun _ => none⟩

variable (w : Watched)

/-- Where the threads of a store are degraded. -/
def note (s : DesktopStore) (ref : String) : Option (ℕ × Option ℤ) :=
  match s.threads.get? ref with
  | some t => if safetyDegradedControlStates.contains t.controlState then
      some (t.threadRevision, t.controlRevision) else w.degradedAt ref
  | none => w.degradedAt ref

/-- One step; what is rejected leaves everything as it is. -/
def step (w : Watched) (d : Document) : Watched :=
  match w.store.take d with
  | .ok s => ⟨s, w.note s⟩
  | .error _ => w

/-! ## What has to hold -/

/-- A thread that was degraded at its revisions is not ready, and the snapshot of its revision is
    there. -/
structure Sound : Prop where
  latched : ∀ ref t, w.store.threads.get? ref = some t →
    w.degradedAt ref = some (t.threadRevision, t.controlRevision) → ¬ Ready t.controlState
  shown : ∀ ref t, w.store.threads.get? ref = some t → ∃ r ∈ w.store.snapshots,
    r.threadRef = ref ∧ r.threadRevision = t.threadRevision ∧ t.snapshotDigest = some r.bodyDigest

/-- A step goes on, and a snapshot that is answered as stale or as a duplicate changes nothing of
    its thread and of its project. -/
structure Advances (d : Document) : Prop where
  forward : w.store.Forward (w.step d).store
  quiet : ∀ d' observedAt s i row, d = .snapshot d' observedAt →
    w.store.ingestSnapshot d' observedAt = .ok (s, i, row) → i = .staleIgnored ∨ i = .duplicate →
    s.threads.get? d'.threadRef = w.store.threads.get? d'.threadRef ∧
      s.projects.get? (d'.hostRef, d'.projectRef) =
        w.store.projects.get? (d'.hostRef, d'.projectRef)

/-- The row of a project is what a snapshot says. -/
def ProjectKnown (s : DesktopStore) (d : SnapshotDoc) (observedAt : String) : Prop :=
  ∃ p, s.projects.get? (d.hostRef, d.projectRef) = some p ∧ p.updatedAt = observedAt ∧
    (textOf d.body "project_alias" = p.projectAlias ∨
      textOf d.body "project_alias" = "未同步项目")

/-- A snapshot that comes too late finds the row of its project as it says, and none of the revision
    and the control revision of its thread is taken when the thread shows a snapshot that says ready
    and a receipt has degraded it at these revisions since. -/
def Undisturbed : Document → Prop
  | .snapshot d observedAt =>
    (∀ r ∈ w.store.snapshots, r.bodyDigest ≠ d.bodyDigest) →
    (∀ s j, w.store.bindHost d.hostRef d.runnerId d.host observedAt d.hostSequence = .ok (s, j) →
      w.store.snapshotVerdict d = .ok .ignored → ProjectKnown w.store d observedAt) ∧
    ∀ t, w.store.threads.get? d.threadRef = some t → Ready (stateOf t.snapshot) →
      w.degradedAt d.threadRef = some (t.threadRevision, t.controlRevision) →
      t.threadRevision = d.threadRevision → controlOf d.body = t.controlRevision →
      ∀ sequence body status,
        w.store.snapshotVerdict d ≠ .ok (.taken sequence body status)
  | _ => True

/-! ## Steps -/

section Steps

variable {w} {s s' : DesktopStore} {d : Document}

/-- Nothing was degraded beyond where its thread is. -/
def Marked (w : Watched) : Prop :=
  ∀ ref m, w.degradedAt ref = some m → ∃ t, w.store.threads.get? ref = some t ∧
    (m.1 < t.threadRevision ∨ (m.1 = t.threadRevision ∧ NotBefore m.2 t.controlRevision))

/-- The states that are noted are not ready. -/
theorem not_ready_of_degraded {state : String}
    (h : safetyDegradedControlStates.contains state = true) : ¬ Ready state := by
  rintro rfl
  revert h
  decide

/-- When every thread goes on, and none becomes ready where it was degraded, the latches hold. -/
theorem note_latched (hlatched : ∀ ref t, w.store.threads.get? ref = some t →
      w.degradedAt ref = some (t.threadRevision, t.controlRevision) → ¬ Ready t.controlState)
    (hmarked : Marked w) (hforward : w.store.Forward s)
    (hnew : ∀ ref t t', w.store.threads.get? ref = some t → s.threads.get? ref = some t' →
      t.threadRevision = t'.threadRevision → t'.controlRevision = t.controlRevision →
      w.degradedAt ref = some (t.threadRevision, t.controlRevision) →
      Ready t'.controlState → Ready t.controlState) :
    (∀ ref t', s.threads.get? ref = some t' →
      w.note s ref = some (t'.threadRevision, t'.controlRevision) → ¬ Ready t'.controlState) ∧
      Marked ⟨s, w.note s⟩ := by
  constructor
  · intro ref t' ht' hnote
    rw [note, ht'] at hnote
    dsimp only at hnote
    split at hnote
    · next hdegraded => exact not_ready_of_degraded hdegraded
    · obtain ⟨t, ht, hm⟩ := hmarked ref _ hnote
      obtain ⟨t₁, ht₁, hfwd⟩ := hforward ref t ht
      rw [ht', Option.some.injEq] at ht₁
      subst ht₁
      -- The thread has not moved since it was degraded.
      obtain ⟨hrevision, hcontrol⟩ : t.threadRevision = t'.threadRevision ∧
          t'.controlRevision = t.controlRevision := by
        obtain hlt | ⟨heq, hle⟩ := hm <;> obtain hlt' | ⟨heq', -, hle'⟩ := hfwd.revision
        · exact absurd (hlt.trans hlt') (Nat.lt_irrefl _)
        · exact absurd (heq' ▸ hlt) (Nat.lt_irrefl _)
        · exact absurd (heq ▸ hlt') (Nat.lt_irrefl _)
        · exact ⟨heq', hle.antisymm hle'⟩
      rw [hcontrol, ← hrevision] at hnote
      exact fun hready => hlatched ref t ht hnote
        (hnew ref t t' ht ht' hrevision hcontrol hnote hready)
  · intro ref m hm
    have hnote : w.note s ref = some m := hm
    unfold note at hnote
    split at hnote
    · next t' ht' =>
      refine ⟨t', ht', ?_⟩
      split at hnote
      · cases hnote
        exact .inr ⟨rfl, NotBefore.refl _⟩
      · obtain ⟨t, ht, hle⟩ := hmarked ref m hnote
        obtain ⟨t₁, ht₁, hfwd⟩ := hforward ref t ht
        rw [ht', Option.some.injEq] at ht₁
        subst ht₁
        obtain hlt | ⟨heq, hle⟩ := hle <;> obtain hlt' | ⟨heq', -, hle'⟩ := hfwd.revision
        · exact .inl (hlt.trans hlt')
        · exact .inl (heq' ▸ hlt)
        · exact .inl (heq ▸ hlt')
        · exact .inr ⟨heq.trans heq', hle.trans hle'⟩
    · next hnone =>
      obtain ⟨t, ht, -⟩ := hmarked ref m hnote
      obtain ⟨t₁, ht₁, -⟩ := hforward ref t ht
      rw [hnone] at ht₁
      cases ht₁

/-- What every run keeps. -/
structure Keeps (w : Watched) : Prop where
  current : w.store.Current
  latched : ∀ ref t, w.store.threads.get? ref = some t →
    w.degradedAt ref = some (t.threadRevision, t.controlRevision) → ¬ Ready t.controlState
  marked : Marked w

theorem keeps_start : Keeps start where
  current := DesktopStore.Current.empty
  latched _ _ ht := by cases ht
  marked _ _ hm := by cases hm

theorem Keeps.sound (h : Keeps w) : Sound w := ⟨h.latched, h.current.shown⟩

/-- A store with the same threads and the same snapshots. -/
theorem Keeps.same (h : Keeps w) (hthreads : s.threads = w.store.threads)
    (hsnapshots : s.snapshots = w.store.snapshots) :
    Keeps ⟨s, w.note s⟩ ∧ w.store.Forward s := by
  have hforward : w.store.Forward s := fun ref t ht => ⟨t, hthreads ▸ ht, .refl t⟩
  obtain ⟨hlatched, hmarked⟩ := note_latched h.latched h.marked hforward
    fun ref t t' ht ht' _ _ _ hready => by
      rw [hthreads, ht, Option.some.injEq] at ht'
      rwa [ht']
  refine ⟨⟨h.current.congr hsnapshots ?_ ?_, hlatched, hmarked⟩, hforward⟩
  · exact fun _ t' ht' => ⟨t', hthreads ▸ ht', rfl, rfl, rfl, rfl⟩
  · exact fun _ t ht => ⟨t, hthreads ▸ ht⟩

/-- What is neither a snapshot nor a receipt leaves threads and snapshots alone. -/
theorem take_same (h : s.take d = .ok s')
    (hd : (∀ d' observedAt, d ≠ .snapshot d' observedAt) ∧ ∀ d', d ≠ .receipt d') :
    s'.threads = s.threads ∧ s'.snapshots = s.snapshots := by
  have hhosts : ∀ {s s' : DesktopStore}, s.SameButHosts s' →
      s'.threads = s.threads ∧ s'.snapshots = s.snapshots := by
    intro s s' h
    rw [DesktopStore.SameButHosts] at h
    rw [h]
    exact ⟨rfl, rfl⟩
  cases d with
  | host d observedAt =>
    simp only [DesktopStore.take, except_map_eq_ok, DesktopStore.ingestHost, bind_eq_ok,
      pure_eq_ok] at h
    obtain ⟨_, ⟨⟨s₁, j⟩, hbind, -, -, rfl⟩, rfl⟩ := h
    exact hhosts (DesktopStore.bindHost_ok hbind)
  | snapshot d observedAt => exact absurd rfl (hd.1 d observedAt)
  | event d =>
    rw [DesktopStore.take, except_map_eq_ok] at h
    obtain ⟨⟨_, i, c⟩, hok, rfl⟩ := h
    exact DesktopStore.ingestEvent_threads hok
  | receipt d => exact absurd rfl (hd.2 d)
  | prepare d intentDigest =>
    rw [DesktopStore.take, except_map_eq_ok] at h
    obtain ⟨⟨_, c, created⟩, hok, rfl⟩ := h
    unfold DesktopStore.prepareCommand at hok
    split at hok
    · simp only [bind_eq_ok, pure_eq_ok, Prod.mk.injEq] at hok
      obtain ⟨-, -, rfl, -⟩ := hok
      exact ⟨rfl, rfl⟩
    · simp only [bind_eq_ok, pure_eq_ok, Prod.mk.injEq] at hok
      obtain ⟨-, -, -, -, rfl, -⟩ := hok
      split
      · exact ⟨rfl, rfl⟩
      · exact ⟨rfl, rfl⟩
  | mark requestId state errorCode updatedAt =>
    simp only [DesktopStore.take, except_map_eq_ok, DesktopStore.markCommand, bind_eq_ok,
      pure_eq_ok] at h
    obtain ⟨_, ⟨c, -, rfl⟩, rfl⟩ := h
    exact ⟨rfl, rfl⟩
  | complete requestId action confirmed errorCode updatedAt =>
    simp only [DesktopStore.take, except_map_eq_ok, DesktopStore.completeResourceCommand,
      bind_eq_ok, pure_eq_ok] at h
    obtain ⟨_, ⟨-, -, c, -, -, -, rfl⟩, rfl⟩ := h
    exact ⟨rfl, rfl⟩
  | sweep now =>
    cases h
    exact ⟨rfl, rfl⟩
  | restart now =>
    cases h
    exact ⟨rfl, rfl⟩

/-- A receipt moves no thread, and makes none ready. -/
theorem receiptAt_keeps (t : Thread) (state : CommandState) (createdAt : String) :
    t.Forward (t.receiptAt state createdAt) ∧
      (t.receiptAt state createdAt).threadRevision = t.threadRevision ∧
      (t.receiptAt state createdAt).snapshotDigest = t.snapshotDigest ∧
      (t.receiptAt state createdAt).controlRevision = t.controlRevision ∧
      (t.receiptAt state createdAt).snapshot = t.snapshot ∧
      (Ready (t.receiptAt state createdAt).controlState → Ready t.controlState) := by
  have hforward : ∀ t' : Thread, t'.hostRef = t.hostRef → t'.projectRef = t.projectRef →
      t'.runnerId = t.runnerId → t'.threadRevision = t.threadRevision →
      t'.snapshotSequence = t.snapshotSequence → t'.controlRevision = t.controlRevision →
      t.Forward t' := by
    intro t' h₁ h₂ h₃ h₄ h₅ h₆
    refine ⟨h₁, h₂, h₃, .inr ⟨h₄.symm, ?_, ?_⟩⟩
    · rw [h₅]
      exact NotBefore.refl _
    · rw [h₆]
      exact NotBefore.refl _
  have hrecovery : ¬ Ready "recovery_required" := by decide
  have hrefresh : ¬ Ready "refresh_required" := by decide
  unfold Thread.receiptAt
  split
  · exact ⟨hforward _ rfl rfl rfl rfl rfl rfl, rfl, rfl, rfl, rfl, fun h => absurd h hrecovery⟩
  · exact ⟨hforward _ rfl rfl rfl rfl rfl rfl, rfl, rfl, rfl, rfl, fun h => absurd h hrecovery⟩
  · exact ⟨hforward _ rfl rfl rfl rfl rfl rfl, rfl, rfl, rfl, rfl, fun h => absurd h hrefresh⟩
  · exact ⟨hforward _ rfl rfl rfl rfl rfl rfl, rfl, rfl, rfl, rfl, fun h => absurd h hrefresh⟩
  · exact ⟨.refl t, rfl, rfl, rfl, rfl, id⟩

/-- The threads after a receipt. -/
theorem ingestReceipt_threads {d : ReceiptDoc} {reply : DesktopStore.ReceiptReply}
    (h : s.ingestReceipt d = .ok (s', reply)) : s'.snapshots = s.snapshots ∧
      ∀ ref, s'.threads.get? ref = s.threads.get? ref ∨ ∃ t state,
        s.threads.get? ref = some t ∧ s'.threads.get? ref = some (t.receiptAt state d.createdAt) := by
  have hput : ∀ c, (s.putReceipt d c).snapshots = s.snapshots ∧
      ∀ ref, (s.putReceipt d c).threads.get? ref = s.threads.get? ref ∨ ∃ t state,
        s.threads.get? ref = some t ∧
          (s.putReceipt d c).threads.get? ref = some (t.receiptAt state d.createdAt) := by
    intro c
    have hthreads : ∃ state, (s.putReceipt d c).threads = s.threads.updateWhere
        (fun t => t.threadRef = d.threadRef ∧ t.hostRef = d.hostRef ∧ t.runnerId = d.runnerId)
        (fun t => t.receiptAt state d.createdAt)
        (fun t => t.receiptAt_threadRef state d.createdAt) := by
      cases c with
      | none => exact ⟨_, rfl⟩
      | some c => exact ⟨_, rfl⟩
    obtain ⟨state, hthreads⟩ := hthreads
    refine ⟨by cases c <;> rfl, fun ref => ?_⟩
    rw [hthreads, Table.get?_updateWhere]
    cases ht : s.threads.get? ref with
    | none => exact .inl rfl
    | some t =>
      rw [Option.map_some]
      split
      · exact .inr ⟨t, state, rfl, rfl⟩
      · exact .inl rfl
  unfold DesktopStore.ingestReceipt at h
  split at h
  · cases h
    exact ⟨rfl, fun _ => .inl rfl⟩
  · split at h
    · simp only [bind_eq_ok, pure_eq_ok, Prod.mk.injEq] at h
      obtain ⟨-, -, -, -, rfl, -⟩ := h
      exact hput _
    · simp only [bind_eq_ok, pure_eq_ok, Prod.mk.injEq] at h
      obtain ⟨-, -, rfl, -⟩ := h
      exact hput _

/-- A receipt keeps what has to be kept. -/
theorem Keeps.receipt (h : Keeps w) {d : ReceiptDoc} {reply : DesktopStore.ReceiptReply}
    (hok : w.store.ingestReceipt d = .ok (s, reply)) :
    Keeps ⟨s, w.note s⟩ ∧ w.store.Forward s := by
  obtain ⟨hsnapshots, hthreads⟩ := ingestReceipt_threads hok
  have hforward : w.store.Forward s := by
    intro ref t ht
    obtain heq | ⟨t₀, state, ht₀, heq⟩ := hthreads ref
    · exact ⟨t, heq.trans ht, .refl t⟩
    · rw [ht, Option.some.injEq] at ht₀
      subst ht₀
      exact ⟨_, heq, (receiptAt_keeps t state d.createdAt).1⟩
  obtain ⟨hlatched, hmarked⟩ := note_latched h.latched h.marked hforward
    fun ref t t' ht ht' _ _ _ hready => by
      obtain heq | ⟨t₀, state, ht₀, heq⟩ := hthreads ref
      · rw [heq, ht, Option.some.injEq] at ht'
        rwa [ht']
      · rw [ht, Option.some.injEq] at ht₀
        rw [heq, Option.some.injEq, ← ht₀] at ht'
        rw [← ht'] at hready
        exact (receiptAt_keeps t state d.createdAt).2.2.2.2.2 hready
  refine ⟨⟨h.current.congr hsnapshots (fun ref t' ht' => ?_) (fun ref t ht => ?_), hlatched,
    hmarked⟩, hforward⟩
  · obtain heq | ⟨t, state, ht, heq⟩ := hthreads ref
    · exact ⟨t', heq ▸ ht', rfl, rfl, rfl, rfl⟩
    · rw [heq, Option.some.injEq] at ht'
      obtain ⟨-, h₁, h₂, h₃, h₄, -⟩ := receiptAt_keeps t state d.createdAt
      rw [← ht']
      exact ⟨t, ht, h₁, h₂, h₃, h₄⟩
  · obtain ⟨t', ht', -⟩ := hforward ref t ht
    exact ⟨t', ht'⟩

/-- A snapshot keeps it, unless it finds its project out of date or refreshes what a receipt has
    degraded. -/
theorem Keeps.snapshot (h : Keeps w) {d : SnapshotDoc} {observedAt : String} {i : Ingested}
    {row : Thread} (hu : w.Undisturbed (.snapshot d observedAt))
    (hok : w.store.ingestSnapshot d observedAt = .ok (s, i, row)) :
    Keeps ⟨s, w.note s⟩ ∧ w.store.Forward s ∧ (i = .staleIgnored ∨ i = .duplicate →
      s.threads.get? d.threadRef = w.store.threads.get? d.threadRef ∧
        s.projects.get? (d.hostRef, d.projectRef) =
          w.store.projects.get? (d.hostRef, d.projectRef)) := by
  obtain ⟨rfl, rfl⟩ | ⟨hnew, s₁, j, s₂, v, hbind, hproject, hprojects, hthreads, hsnapshots, hv,
    htake⟩ := DesktopStore.ingestSnapshot_judged hok
  · obtain ⟨hkeeps, hforward⟩ := h.same (s := w.store) rfl rfl
    exact ⟨hkeeps, hforward, fun _ => ⟨rfl, rfl⟩⟩
  obtain ⟨hlate, hrefresh⟩ := hu hnew
  cases v with
  | ignored =>
    simp only [DesktopStore.takeSnapshot, bind_eq_ok, pure_eq_ok, Prod.mk.injEq] at htake
    obtain ⟨-, -, rfl, -⟩ := htake
    obtain ⟨hkeeps, hforward⟩ := h.same hthreads hsnapshots
    refine ⟨hkeeps, hforward, fun _ => ⟨by rw [hthreads], ?_⟩⟩
    obtain ⟨p, hp, hat, halias⟩ := hlate s₁ j hbind hv
    -- The project is written although the snapshot comes too late.
    have hkey := Table.key_of_get? hp
    rw [Project.key, Prod.mk.injEq] at hkey
    rw [DesktopStore.upsertProject_get hproject (hprojects ▸ hp), hp, ← hat, ← hkey.1, ← hkey.2]
    obtain halias | halias := halias
    · rw [halias, ite_self]
    · rw [if_pos halias]
  | taken sequence body status =>
    obtain ⟨hfits, hbody, hstatus, hknown⟩ :=
      @DesktopStore.Current.verdict _ _ observedAt _ _ _ h.current hnew hv
    obtain ⟨rfl, -, hput, -⟩ := DesktopStore.takeSnapshot_taken htake
    have hcurrent : s₂.Current := h.current.congr hsnapshots
      (fun _ t' ht' => ⟨t', hthreads ▸ ht', rfl, rfl, rfl, rfl⟩)
      fun _ t ht => ⟨t, hthreads ▸ ht⟩
    have hget : ∀ ref, s.threads.get? ref = if ref = d.threadRef then
        some (match w.store.threads.get? d.threadRef with
          | some t => t.updatedBy (d.row sequence body observedAt)
          | none => d.row sequence body observedAt) else w.store.threads.get? ref := by
      intro ref
      rw [hput, DesktopStore.get?_putThread, hthreads]
      rfl
    have hforward : w.store.Forward s := by
      intro ref t ht
      rw [hget]
      split
      · next href =>
        subst href
        rw [ht]
        exact ⟨_, rfl, (hknown t ht).1⟩
      · exact ⟨t, ht, .refl t⟩
    obtain ⟨hlatched, hmarked⟩ := note_latched h.latched h.marked hforward
      fun ref t t' ht ht' hrevision hcontrol hdegraded hready => by
        rw [hget] at ht'
        split at ht'
        · next href =>
          subst href
          rw [ht, Option.some.injEq] at ht'
          subst ht'
          obtain ⟨hshown, rfl⟩ := (hknown t ht).2 hrevision hcontrol hready
          exact absurd hv (hrefresh t ht hshown hdegraded hrevision hcontrol _ _ _)
        · rw [ht, Option.some.injEq] at ht'
          rwa [ht']
    have hfits₂ : s₂.Fits d i := by
      rw [DesktopStore.Fits, hthreads]
      exact hfits
    refine ⟨⟨hcurrent.take hfits₂ hbody htake, hlatched, hmarked⟩, hforward, fun hi => ?_⟩
    exact absurd hi (not_or.mpr hstatus)

/-- A step that is not disturbed keeps it. -/
theorem Keeps.step (h : Keeps w) (hu : w.Undisturbed d) : Keeps (w.step d) ∧ w.Advances d := by
  rw [Watched.step]
  cases hok : w.store.take d with
  | error e =>
    refine ⟨h, fun ref t ht => ?_, fun d' observedAt s i row hd hingest => ?_⟩
    · rw [Watched.step, hok]
      exact ⟨t, ht, .refl t⟩
    · rw [hd, DesktopStore.take, hingest] at hok
      cases hok
  | ok s =>
    have hstep : w.step d = ⟨s, w.note s⟩ := by rw [Watched.step, hok]
    by_cases hsnapshot : ∃ d' observedAt, d = .snapshot d' observedAt
    · obtain ⟨d', observedAt, rfl⟩ := hsnapshot
      obtain ⟨⟨s₁, i, row⟩, hingest, rfl⟩ := except_map_eq_ok.mp hok
      obtain ⟨hkeeps, hforward, hquiet⟩ := h.snapshot hu hingest
      refine ⟨hkeeps, hstep ▸ hforward, fun d₂ at₂ s₂ i₂ row₂ hd hingest₂ hi => ?_⟩
      cases hd
      rw [hingest, Except.ok.injEq, Prod.mk.injEq, Prod.mk.injEq] at hingest₂
      obtain ⟨rfl, rfl, -⟩ := hingest₂
      exact hquiet hi
    · have hno : ∀ d' observedAt, d ≠ .snapshot d' observedAt := fun d' observedAt heq =>
        hsnapshot ⟨d', observedAt, heq⟩
      by_cases hreceipt : ∃ d', d = .receipt d'
      · obtain ⟨d', rfl⟩ := hreceipt
        obtain ⟨⟨s₁, reply⟩, hingest, rfl⟩ := except_map_eq_ok.mp hok
        obtain ⟨hkeeps, hforward⟩ := h.receipt hingest
        exact ⟨hkeeps, hstep ▸ hforward, fun d' observedAt _ _ _ heq => absurd heq (hno d' observedAt)⟩
      · obtain ⟨hthreads, hsnapshots⟩ := take_same hok ⟨hno, fun d' heq => hreceipt ⟨d', heq⟩⟩
        obtain ⟨hkeeps, hforward⟩ := h.same hthreads hsnapshots
        exact ⟨hkeeps, hstep ▸ hforward, fun d' observedAt _ _ _ heq => absurd heq (hno d' observedAt)⟩

/-- In every run without a disturbance every state is sound and every step advances. -/
theorem sound_of_undisturbed {documents : List Document}
    (h : EveryStep Watched.step Undisturbed start documents) :
    Throughout Watched.step Sound start documents ∧
      EveryStep Watched.step Advances start documents :=
  ⟨(throughout_of_everyStep Watched.step (fun _ _ hk hu => (hk.step hu).1) keeps_start h).imp
      Watched.step fun _ hk => hk.sound,
    h.imp Watched.step (fun _ _ hk hu => (hk.step hu).1) (fun _ _ hk hu => (hk.step hu).2)
      keeps_start⟩

/-! ## Three documents -/

/-- A snapshot of a thread that is ready at control revision 1. -/
def readySnapshot (revision sequence : ℕ) (projectAlias title bodyDigest : String) : SnapshotDoc where
  hostRef := "HS-AAAAAAAAAAAAAAAAAAAA"
  projectRef := "PJ-AAAAAAAAAAAAAAAAAAAA"
  threadRef := "TH-AAAAAAAAAAAAAAAAAAAA"
  runnerId := "RN-AAAAAAAAAAAAAAAAAAAA"
  threadRevision := revision
  snapshotSequence := some sequence
  hostSequence := none
  host := []
  body := [("control_revision", .int 1), ("control_state", .str "ready"), ("status", .str "idle"),
    ("project_alias", .str projectAlias), ("title", .str title)]
  bodyDigest := bodyDigest
  valid := rfl

/-- A receipt of a command that the Controller does not know. -/
def orphanReceipt : ReceiptDoc where
  requestId := "r-1"
  runnerId := "RN-AAAAAAAAAAAAAAAAAAAA"
  hostRef := "HS-AAAAAAAAAAAAAAAAAAAA"
  threadRef := "TH-AAAAAAAAAAAAAAAAAAAA"
  action := .pin
  state := .unknown
  errorCode := none
  threadRevision := 2
  turnRef := none
  projectRef := none
  collaborationModeId := none
  queueRef := none
  requestRef := none
  createdAt := "2026-09-26T12:00:00+08:00"
  bodyDigest := "sha256:d"

/-- The thread, the receipt, and the thread with another title. -/
def refreshedRun : List Document :=
  [.snapshot (readySnapshot 2 1 "home" "a" "sha256:a") "2026-09-26T12:00:00+08:00",
    .receipt orphanReceipt,
    .snapshot (readySnapshot 2 2 "home" "b" "sha256:b") "2026-09-26T12:00:01+08:00"]

/-- The thread, and an older snapshot in which the project had another name. -/
def overtakenRun : List Document :=
  [.snapshot (readySnapshot 2 1 "home" "a" "sha256:a") "2026-09-26T12:00:00+08:00",
    .snapshot (readySnapshot 1 1 "attic" "a" "sha256:c") "2026-09-26T12:00:01+08:00"]

/-- A thread that a receipt has degraded is ready again at the same revisions, and a snapshot that
    is answered as stale renames the project of its thread. -/
theorem disturbed : ¬ Throughout Watched.step Sound start refreshedRun ∧
    ¬ EveryStep Watched.step Advances start overtakenRun := by
  constructor
  · intro h
    have hsound := h.last
    have hfacts : ((runFrom Watched.step start refreshedRun).store.threads.get?
        "TH-AAAAAAAAAAAAAAAAAAAA").any (fun t => t.controlState = "ready" ∧
          (runFrom Watched.step start refreshedRun).degradedAt "TH-AAAAAAAAAAAAAAAAAAAA" =
            some (t.threadRevision, t.controlRevision)) = true := by decide +kernel
    obtain ⟨t, ht, hfacts⟩ := (Option.any_eq_true _ _).mp hfacts
    obtain ⟨hready, hdegraded⟩ := of_decide_eq_true hfacts
    exact hsound.latched _ t ht hdegraded hready
  · intro h
    obtain ⟨-, hadvances, -⟩ := h
    set w := Watched.step start
      (.snapshot (readySnapshot 2 1 "home" "a" "sha256:a") "2026-09-26T12:00:00+08:00") with hw
    have hfacts : (w.store.ingestSnapshot (readySnapshot 1 1 "attic" "a" "sha256:c")
          "2026-09-26T12:00:01+08:00").toOption.any (fun r => decide (r.2.1 = .staleIgnored) &&
            decide ((r.1.projects.get? ("HS-AAAAAAAAAAAAAAAAAAAA", "PJ-AAAAAAAAAAAAAAAAAAAA")).map
              Project.projectAlias ≠ (w.store.projects.get?
                ("HS-AAAAAAAAAAAAAAAAAAAA", "PJ-AAAAAAAAAAAAAAAAAAAA")).map Project.projectAlias))
        = true := by
      rw [hw]
      decide +kernel
    obtain ⟨⟨s, i, row⟩, hok, hfacts⟩ := (Option.any_eq_true _ _).mp hfacts
    rw [Bool.and_eq_true, decide_eq_true_eq, decide_eq_true_eq] at hfacts
    have hquiet := (hadvances.quiet _ _ _ _ _ rfl (toOption_eq_some.mp hok) (.inl hfacts.1)).2
    exact hfacts.2 (congrArg (Option.map Project.projectAlias) hquiet)

/-- Whether a snapshot comes too late. -/
def ignored (s : DesktopStore) (d : SnapshotDoc) : Bool :=
  match s.snapshotVerdict d with
  | .ok .ignored => true
  | _ => false

theorem not_ignored {s : DesktopStore} {d : SnapshotDoc} (h : ignored s d = false) :
    s.snapshotVerdict d ≠ .ok .ignored := by
  intro hv
  rw [ignored, hv] at h
  cases h

/-- The thread, the receipt, and the thread at its next revision. -/
def undisturbedRun : List Document :=
  [.snapshot (readySnapshot 2 1 "home" "a" "sha256:a") "2026-09-26T12:00:00+08:00",
    .receipt orphanReceipt,
    .snapshot (readySnapshot 3 2 "home" "b" "sha256:b") "2026-09-26T12:00:01+08:00"]

theorem sound_undisturbedRun : Throughout Watched.step Sound start undisturbedRun ∧
    EveryStep Watched.step Advances start undisturbedRun := by
  set w₁ := start.step
    (.snapshot (readySnapshot 2 1 "home" "a" "sha256:a") "2026-09-26T12:00:00+08:00") with hw₁
  set w₂ := w₁.step (.receipt orphanReceipt) with hw₂
  have hfacts : ignored start.store (readySnapshot 2 1 "home" "a" "sha256:a") = false ∧
      ignored w₂.store (readySnapshot 3 2 "home" "b" "sha256:b") = false ∧
      (w₂.store.threads.get? "TH-AAAAAAAAAAAAAAAAAAAA").all
        (fun t => t.threadRevision = 2) = true := by
    rw [hw₂, hw₁]
    decide +kernel
  obtain ⟨hfirst, hlast, hthread⟩ := hfacts
  refine sound_of_undisturbed ⟨fun _ => ⟨fun _ _ _ hv => ?_, fun t ht => by cases ht⟩, trivial,
    fun _ => ⟨fun _ _ _ hv => ?_, fun t ht _ _ hrevision => ?_⟩, trivial⟩
  · exact absurd hv (not_ignored hfirst)
  · exact absurd hv (not_ignored hlast)
  · have hrevision₂ : t.threadRevision = 2 :=
      of_decide_eq_true ((Option.all_eq_true _ _).mp hthread t ht)
    rw [hrevision₂] at hrevision
    cases hrevision

end Steps

end Watched

end HomeAddons.Desktop
