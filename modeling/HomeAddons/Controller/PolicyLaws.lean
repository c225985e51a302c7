import HomeAddons.Common.Replay
import HomeAddons.Controller.ToolPolicy

/-!
# Codex Controller: what the tool policy keeps to

* `Sound.step`: the tables fit together after every call.
* `updateToolPolicy_ok`: an update that succeeds is replayed or carried out.
* `tool_policy_orderly`: the revision and the set of enabled tools, switches that outlive the
  retirement of a tool, one update for each revision, and replays.
-/

namespace HomeAddons.Controller

open HomeAddons.Common

namespace PolicyStore

variable {s s' : PolicyStore}

/-! ## The calls -/

theorem manifestOf_ok {document : Json} {m : Manifest} (h : manifestOf document = .ok m) :
    m.document = document ∧ manifestNames document = .ok m.names := by
  simp only [manifestOf, bind_eq_ok, pure_eq_ok] at h
  obtain ⟨names, hnames, digest, -, revision, -, -, -, rfl⟩ := h
  exact ⟨rfl, hnames⟩

variable {t n : String} {e r q : Json} {names : List String} {T : Table HistoryRow.toolName}

/-- The arguments of an update, and the tool that it is about. -/
theorem policyUpdate_ok {u : PolicyUpdate} (h : s.policyUpdate t e r q = .ok u) :
    (∃ active, s.activeToolNames = .ok active ∧ t ∈ active) ∧ u.toolName = t ∧
      e = .bool u.enabled ∧ r = .int u.revision ∧ q = .str u.requestId := by
  simp only [policyUpdate, bind_eq_ok, ensure_eq_ok, orRaise_eq_ok, Option.filter_eq_some_iff,
    pure_eq_ok, decide_eq_true_eq] at h
  obtain ⟨active, hactive, -, ht, enabled, he, revision, ⟨hr, hpos⟩, requestId, ⟨hq, -⟩, rfl⟩ := h
  refine ⟨⟨active, hactive, ht⟩, rfl, ?_, ?_, ?_⟩
  · cases e <;> cases he
    rfl
  · cases r <;> cases hr
    rw [Int.toNat_of_nonneg (by omega)]
  · cases q <;> cases hq
    rfl

/-- The tables after an update that is carried out. -/
def Carried (s s' : PolicyStore) (u : PolicyUpdate) (now : String) : Prop :=
  s.catalogRevision = u.revision ∧ s'.catalogRevision = u.revision + 1 ∧
    s'.policies = s.policies.upsert ⟨u.toolName, u.enabled, u.revision + 1, now⟩ ∧
    s.mutations.insert? ⟨u.requestId, u.scope, u.digest, u.response, now⟩ = some s'.mutations ∧
    s'.manifest = s.manifest ∧ s'.history = s.history

/-- An update that succeeds is replayed, or it is new and carried out. -/
theorem updateToolPolicy_ok {now : String} {a : PolicyResponse}
    (h : s.updateToolPolicy t e r q now = .ok (s', a)) : ∃ u, s.policyUpdate t e r q = .ok u ∧
      ((s' = s ∧ ∃ stored, s.mutations.get? u.requestId = some stored ∧
          stored.requestDigest = u.digest ∧ stored.response = a) ∨
        (s.mutations.get? u.requestId = none ∧ a = u.response ∧ s.Carried s' u now)) := by
  simp only [updateToolPolicy, bind_eq_ok] at h
  obtain ⟨u, hu, h⟩ := h
  refine ⟨u, hu, ?_⟩
  cases hstored : s.mutations.get? u.requestId with
  | some stored =>
    simp only [hstored, bind_eq_ok, ensure_eq_ok, pure_eq_ok] at h
    obtain ⟨-, hdigest, h⟩ := h
    cases h
    exact .inl ⟨rfl, stored, rfl, hdigest, rfl⟩
  | none =>
    simp only [hstored, carryOut, bind_eq_ok, ensure_eq_ok, orRaise_eq_ok, pure_eq_ok] at h
    obtain ⟨-, -, -, -, -, hrevision, s₁, ⟨mutations, hinsert, rfl⟩, h⟩ := h
    cases h
    exact .inr ⟨rfl, rfl, hrevision, rfl, rfl, hinsert, rfl, rfl⟩

/-! ## The history -/

theorem get?_noteAll :
    ((names.foldl (fun T name => T.upsert ⟨name, false⟩) T).get? n).isSome ↔
      n ∈ names ∨ (T.get? n).isSome := by
  induction names generalizing T with
  | nil => simp
  | cons name names ih =>
    rw [List.foldl_cons, ih, Table.get?_upsert, List.mem_cons]
    by_cases h : n = name
    · simp [h]
    · simp [h]

theorem get?_noteNames :
    ((s.noteNames names).get? n).isSome ↔ n ∈ names ∨ (s.history.get? n).isSome := by
  rw [noteNames, get?_noteAll, Table.get?_updateWhere, Option.isSome_map]

/-- The names that are missing are noted. -/
theorem get?_noteMissing (h : (T.get? n).isSome) :
    ((names.foldl (fun T name => (T.insert? ⟨name, false⟩).getD T) T).get? n).isSome := by
  induction names generalizing T with
  | nil => exact h
  | cons name names ih =>
    rw [List.foldl_cons]
    refine ih ?_
    cases hinsert : T.insert? ⟨name, false⟩ with
    | none => exact h
    | some T' =>
      rw [Option.getD_some, Table.get?_insert? hinsert]
      split_ifs
      · rfl
      · exact h

theorem mem_historicalToolNames :
    n ∈ s.historicalToolNames ↔ (s.history.get? n).isSome ∨ n ∈ localNames := by
  rw [historicalToolNames, Finset.mem_union, List.mem_toFinset, Option.isSome_iff_ne_none, ne_eq,
    Table.get?_eq_none, not_not]

/-! ## Steps -/

/-- The tables after a manifest. -/
structure Applied (s s' : PolicyStore) (m : Manifest) : Prop where
  names : manifestNames m.document = .ok m.names
  revision : s'.catalogRevision = if s.manifest.catalogDigest = some m.catalogDigest
    then s.catalogRevision else s.catalogRevision + 1
  policies : s'.policies = s.policies
  mutations : s'.mutations = s.mutations
  document : s'.manifest.document = some m.document
  digest : s'.manifest.catalogDigest = some m.catalogDigest
  history : s'.history = s.noteNames m.names

/-- The tables after a call that changes neither the catalogue nor the policy. -/
structure Quiet (s s' : PolicyStore) : Prop where
  revision : s'.catalogRevision = s.catalogRevision
  policies : s'.policies = s.policies
  mutations : s'.mutations = s.mutations
  document : s'.manifest.document = s.manifest.document
  digest : s'.manifest.catalogDigest = s.manifest.catalogDigest
  history : ∀ n, (s.history.get? n).isSome → (s'.history.get? n).isSome

theorem Quiet.refl (s : PolicyStore) : s.Quiet s := ⟨rfl, rfl, rfl, rfl, rfl, fun _ h => h⟩

theorem restart_quiet (s : PolicyStore) : s.Quiet s.restart := by
  unfold restart
  generalize bootstrapHubNames = names
  exact ⟨rfl, rfl, rfl, rfl, rfl, fun _ h => get?_noteMissing h⟩

end PolicyStore

/-- The update that is carried out now; a replay is not. -/
def PolicyOp.carried (s : PolicyStore) : PolicyOp → Option PolicyUpdate
  | .update toolName enabled revision requestId now => do
    let u ← (s.policyUpdate toolName enabled revision requestId).toOption
    guard ((s.mutations.get? u.requestId).isNone ∧
      (s.updateToolPolicy toolName enabled revision requestId now).isOk)
    return u
  | _ => none

namespace PolicyStore

variable {s s' : PolicyStore}

/-- A call applies a manifest, carries out an update or changes neither. -/
theorem step_cases (s : PolicyStore) (op : PolicyOp) :
    (∃ document now m, op = .applyManifest document now ∧ manifestOf document = .ok m ∧
      s.Applied (s.step op) m) ∨
    (∃ u now, op.carried s = some u ∧ (∃ active, s.activeToolNames = .ok active ∧
      u.toolName ∈ active) ∧ s.mutations.get? u.requestId = none ∧ s.Carried (s.step op) u now) ∨
    (op.carried s = none ∧ s.Quiet (s.step op)) := by
  cases op with
  | applyManifest document now =>
    cases hm : manifestOf document with
    | error e =>
      refine .inr (.inr ⟨rfl, ?_⟩)
      rw [step, applyHubManifest, hm]
      exact Quiet.refl s
    | ok m =>
      refine .inl ⟨document, now, m, rfl, hm, ?_⟩
      obtain ⟨hdocument, hnames⟩ := manifestOf_ok hm
      rw [step, applyHubManifest, hm]
      exact ⟨hdocument ▸ hnames, rfl, rfl, rfl, rfl, rfl, rfl⟩
  | recordError errorCode now => exact .inr (.inr ⟨rfl, rfl, rfl, rfl, rfl, rfl, fun _ h => h⟩)
  | restart => exact .inr (.inr ⟨rfl, restart_quiet s⟩)
  | update t e r q now =>
    simp only [step]
    cases hcall : s.updateToolPolicy t e r q now with
    | error err =>
      refine .inr (.inr ⟨?_, Quiet.refl s⟩)
      rw [PolicyOp.carried, hcall]
      cases (s.policyUpdate t e r q).toOption <;> simp [Except.isOk, Except.toBool]
    | ok x =>
      obtain ⟨s₁, a⟩ := x
      obtain ⟨u, hu, ⟨rfl, stored, hstored, -⟩ | ⟨hnew, -, hcarried⟩⟩ := updateToolPolicy_ok hcall
      · refine .inr (.inr ⟨?_, Quiet.refl _⟩)
        simp [PolicyOp.carried, hu, hstored, Except.toOption]
      · obtain ⟨hactive, htool, -⟩ := policyUpdate_ok hu
        refine .inr (.inl ⟨u, now, ?_, htool ▸ hactive, hnew, hcarried⟩)
        simp [PolicyOp.carried, hu, hnew, hcall, Except.toOption, Except.isOk, Except.toBool]

/-! ## The invariant -/

end PolicyStore

/-- The names of a manifest are those that the Hub publishes under its digest. -/
def PolicyOp.Publishes (published : String → Finset String) : PolicyOp → Prop
  | .applyManifest document _ =>
    ∀ m, manifestOf document = .ok m → m.names.toFinset = published m.catalogDigest
  | _ => True

namespace PolicyStore

variable {s s' : PolicyStore} {published : String → Finset String}

/-- The tables fit together. -/
structure Sound (published : String → Finset String) (s : PolicyStore) : Prop where
  revision : 1 ≤ s.catalogRevision
  hub : ∃ names, s.hubNames = .ok names ∧ (∀ n ∈ names, (s.history.get? n).isSome) ∧
    ∀ d, s.manifest.catalogDigest = some d → names.toFinset = published d
  policies : ∀ row ∈ s.policies.rows, row.toolName ∈ s.historicalToolNames ∧
    1 ≤ row.revision ∧ row.revision ≤ s.catalogRevision

theorem Sound.new : Sound published .new where
  revision := le_rfl
  hub := by
    refine ⟨bootstrapHubNames, rfl, fun n hn => ?_, nofun⟩
    rw [PolicyStore.new, get?_noteAll]
    exact .inl hn
  policies := nofun

theorem hubNames_congr (h : s'.manifest.document = s.manifest.document) :
    s'.hubNames = s.hubNames := by rw [hubNames, hubNames, h]

variable {m : Manifest} {n : String} {names : List String}

theorem hubNames_applied (h : s.Applied s' m) : s'.hubNames = .ok m.names := by
  rw [hubNames, h.document]
  exact h.names

/-- Names in the history stay there. -/
theorem historical_of_history (h : ∀ n, (s.history.get? n).isSome → (s'.history.get? n).isSome)
    (hn : n ∈ s.historicalToolNames) : n ∈ s'.historicalToolNames := by
  rw [mem_historicalToolNames] at hn ⊢
  exact hn.imp_left (h n)

theorem Applied.history_mono (h : s.Applied s' m) (n : String) (hn : (s.history.get? n).isSome) :
    (s'.history.get? n).isSome := by
  rw [h.history, get?_noteNames]
  exact .inr hn

theorem Applied.revision_le (h : s.Applied s' m) : s.catalogRevision ≤ s'.catalogRevision := by
  rw [h.revision]
  split_ifs
  · exact le_rfl
  · exact Nat.le_succ _

theorem Sound.applied (hs : s.Sound published)
    (hpublished : m.names.toFinset = published m.catalogDigest) (happlied : s.Applied s' m) :
    s'.Sound published := by
  have hnew : ∀ n ∈ m.names, (s'.history.get? n).isSome := by
    intro n hn
    rw [happlied.history, get?_noteNames]
    exact .inl hn
  refine ⟨hs.revision.trans happlied.revision_le, ⟨m.names, hubNames_applied happlied, hnew, ?_⟩, ?_⟩
  · intro d hd
    rw [happlied.digest, Option.some.injEq] at hd
    rw [hpublished, hd]
  · intro row hrow
    rw [happlied.policies] at hrow
    obtain ⟨hhistorical, hpos, hle⟩ := hs.policies row hrow
    exact ⟨historical_of_history happlied.history_mono hhistorical, hpos,
      hle.trans happlied.revision_le⟩

theorem Sound.carried (hs : s.Sound published) {u : PolicyUpdate} {now : String}
    (htool : u.toolName ∈ s.historicalToolNames) (hcarried : s.Carried s' u now) :
    s'.Sound published := by
  obtain ⟨names, hnames, hknown, hdigest⟩ := hs.hub
  obtain ⟨hrevision, hnext, hpolicies, -, hmanifest, hhistory⟩ := hcarried
  have hsame : ∀ n, (s.history.get? n).isSome → (s'.history.get? n).isSome := by
    intro n hn
    rwa [hhistory]
  refine ⟨by omega, ⟨names, ?_, fun n hn => hsame n (hknown n hn), fun d hd => ?_⟩, ?_⟩
  · exact (hubNames_congr (congrArg ManifestState.document hmanifest)).trans hnames
  · exact hdigest d (hmanifest ▸ hd)
  · intro row hrow
    rw [hpolicies, Table.mem_upsert] at hrow
    obtain ⟨rfl, -⟩ | ⟨hrow, -⟩ := hrow
    · exact ⟨historical_of_history hsame htool, by simp, by simp [hnext]⟩
    · obtain ⟨hhistorical, hpos, hle⟩ := hs.policies row hrow
      exact ⟨historical_of_history hsame hhistorical, hpos, by omega⟩

theorem Sound.quiet (hs : s.Sound published) (hquiet : s.Quiet s') : s'.Sound published := by
  obtain ⟨names, hnames, hknown, hdigest⟩ := hs.hub
  refine ⟨hquiet.revision ▸ hs.revision, ⟨names, ?_, fun n hn => hquiet.history n (hknown n hn),
    fun d hd => hdigest d (hquiet.digest ▸ hd)⟩, ?_⟩
  · rw [hubNames_congr hquiet.document, hnames]
  · intro row hrow
    rw [hquiet.policies] at hrow
    obtain ⟨hhistorical, hpos, hle⟩ := hs.policies row hrow
    exact ⟨historical_of_history hquiet.history hhistorical, hpos, hquiet.revision ▸ hle⟩

/-- A tool of the catalogue is in the history. -/
theorem Sound.historical_of_active (hs : s.Sound published) {active : Finset String}
    (hactive : s.activeToolNames = .ok active) (hn : n ∈ active) : n ∈ s.historicalToolNames := by
  obtain ⟨names, hnames, hknown, -⟩ := hs.hub
  simp only [activeToolNames, hnames, ok_bind, pure_eq_ok] at hactive
  rw [← hactive, Finset.mem_union, List.mem_toFinset] at hn
  rw [mem_historicalToolNames]
  exact hn.imp_left (hknown _)

theorem Sound.step (hs : s.Sound published) {op : PolicyOp} (hop : op.Publishes published) :
    (s.step op).Sound published := by
  obtain ⟨document, now, m, rfl, hm, happlied⟩ | ⟨u, now, -, ⟨active, hactive, htool⟩, -, hcarried⟩ |
    ⟨-, hquiet⟩ := s.step_cases op
  · exact hs.applied (hop m hm) happlied
  · exact hs.carried (hs.historical_of_active hactive htool) hcarried
  · exact hs.quiet hquiet

/-- What the Hub's synchronisation, the administrator and restarts can lead to. -/
def Reachable (published : String → Finset String) (s : PolicyStore) : Prop :=
  ∃ ops, (∀ op ∈ ops, op.Publishes published) ∧ s = runFrom PolicyStore.step .new ops

theorem Reachable.sound (h : Reachable published s) : s.Sound published := by
  obtain ⟨ops, hops, rfl⟩ := h
  exact invariant_of_everyStep PolicyStore.step (fun s op hs hop => hs.step hop) Sound.new
    (everyStep_of_forall PolicyStore.step hops _)

/-! ## The snapshot -/

theorem checkPolicies_ok (h : ∀ row ∈ s.policies.rows, row.toolName ∈ s.historicalToolNames ∧
    1 ≤ row.revision ∧ row.revision ≤ s.catalogRevision) : s.checkPolicies = .ok () := by
  have hrows : ∀ rows : List PolicyRow, (∀ row ∈ rows, s.checkPolicy row = .ok ()) →
      ∃ us, rows.mapM s.checkPolicy = .ok us := by
    intro rows
    induction rows with
    | nil => exact fun _ => ⟨[], rfl⟩
    | cons row rows ih =>
      intro hall
      obtain ⟨us, hus⟩ := ih fun r hr => hall r (List.mem_cons_of_mem _ hr)
      refine ⟨() :: us, ?_⟩
      rw [List.mapM_cons, hall row List.mem_cons_self, ok_bind, hus]
      rfl
  obtain ⟨us, hus⟩ := hrows s.policies.rows fun row hrow => by
    simp [checkPolicy, h row hrow]
  rw [checkPolicies, hus]
  rfl

/-- The snapshot is there, and it has the tools of the catalogue that are not switched off. -/
theorem Sound.snapshot (hs : s.Sound published) (hnames : s.hubNames = .ok names) :
    s.toolPolicySnapshot =
      .ok (s.catalogRevision, (names.toFinset ∪ localNames).filter fun n => !s.disables n) := by
  rw [toolPolicySnapshot, ensure_bind_of hs.revision, activeToolNames, hnames,
    checkPolicies_ok hs.policies]
  rfl

theorem disables_congr (h : s'.policies = s.policies) : s'.disables = s.disables := by
  funext n
  rw [disables, disables, h]

/-! ## Laws of single calls -/

/-- The revision does not decrease. -/
theorem revision_le_step (s : PolicyStore) (op : PolicyOp) :
    s.catalogRevision ≤ (s.step op).catalogRevision := by
  obtain ⟨_, _, m, rfl, -, happlied⟩ | ⟨u, _, -, -, -, hrevision, hnext, -⟩ | ⟨-, hquiet⟩ :=
    s.step_cases op
  · exact happlied.revision_le
  · omega
  · exact hquiet.revision.ge

/-- The catalogue without the tools that are switched off. -/
def enabledNames (s : PolicyStore) (names : List String) : Finset String :=
  (names.toFinset ∪ localNames).filter fun n => !s.disables n

/-- A manifest changes the enabled tools only with the revision. -/
theorem Sound.enabled_applied (hs : s.Sound published)
    (hpublished : m.names.toFinset = published m.catalogDigest) (happlied : s.Applied s' m)
    (hnames : s.hubNames = .ok names) (hsame : s'.catalogRevision = s.catalogRevision) :
    s'.enabledNames m.names = s.enabledNames names := by
  obtain ⟨names', hnames', -, hdigest⟩ := hs.hub
  cases hnames.symm.trans hnames'
  have hd : s.manifest.catalogDigest = some m.catalogDigest := by
    by_contra hne
    rw [happlied.revision, if_neg hne] at hsame
    omega
  rw [enabledNames, enabledNames, hdigest _ hd, hpublished, disables_congr happlied.policies]

/-- When the set of enabled tools changes, the revision increases. -/
theorem Sound.enabled_step (hs : s.Sound published) {op : PolicyOp} (hop : op.Publishes published)
    {rev rev' : ℕ} {enabled enabled' : Finset String}
    (h : s.toolPolicySnapshot = .ok (rev, enabled))
    (h' : (s.step op).toolPolicySnapshot = .ok (rev', enabled')) :
    rev ≤ rev' ∧ (enabled ≠ enabled' → rev < rev') := by
  obtain ⟨names, hnames, -⟩ := hs.hub
  obtain ⟨names', hnames', -⟩ := (hs.step hop).hub
  rw [hs.snapshot hnames] at h
  rw [(hs.step hop).snapshot hnames'] at h'
  cases h
  cases h'
  refine ⟨revision_le_step s op, fun hne => ?_⟩
  refine (revision_le_step s op).lt_of_ne fun hsame => hne ?_
  obtain ⟨_, _, m, rfl, hm, happlied⟩ | ⟨u, _, -, -, -, hrevision, hnext, -⟩ | ⟨-, hquiet⟩ :=
    s.step_cases op
  · cases hnames'.symm.trans (hubNames_applied happlied)
    exact (hs.enabled_applied (hop m hm) happlied hnames hsame.symm).symm
  · omega
  · rw [hubNames_congr hquiet.document, hnames] at hnames'
    cases hnames'
    rw [disables_congr hquiet.policies]

end PolicyStore

/-- An update is carried out that switches the tool on. -/
def PolicyOp.enables (name : String) (s : PolicyStore) (op : PolicyOp) : Bool :=
  (op.carried s).any fun u => u.toolName = name ∧ u.enabled

/-- An update that carries the revision is carried out. -/
def PolicyOp.succeeds (revision : ℕ) (s : PolicyStore) (op : PolicyOp) : Bool :=
  (op.carried s).any fun u => u.revision = revision

namespace PolicyStore

variable {s s' : PolicyStore} {published : String → Finset String}

variable {op : PolicyOp} {r e q : Json} {t now : String} {a : PolicyResponse} {u : PolicyUpdate}
  {s₂ : PolicyStore} {active : Finset String}

/-- A tool that is switched off stays so until an update switches it on. -/
theorem disables_step {name : String} (h : s.disables name) (hop : op.enables name s = false) :
    (s.step op).disables name := by
  obtain ⟨_, _, m, rfl, -, happlied⟩ | ⟨u, _, hcarried, -, -, -, -, hpolicies, -⟩ | ⟨-, hquiet⟩ :=
    s.step_cases op
  · rwa [disables_congr happlied.policies]
  · rw [disables, hpolicies, Table.get?_upsert]
    split_ifs with hname
    · rw [PolicyOp.enables, hcarried] at hop
      simpa [hname] using hop
    · exact h
  · rwa [disables_congr hquiet.policies]

/-- An update is carried out at its revision. -/
theorem revision_of_succeeds {r : ℕ} (h : op.succeeds r s) :
    s.catalogRevision = r ∧ r < (s.step op).catalogRevision := by
  obtain ⟨_, _, m, rfl, -, -⟩ | ⟨u, _, hcarried, -, -, hrevision, hnext, -⟩ | ⟨hnone, -⟩ :=
    s.step_cases op
  · cases h
  · rw [PolicyOp.succeeds, hcarried] at h
    have hr : u.revision = r := by simpa using h
    omega
  · rw [PolicyOp.succeeds, hnone] at h
    cases h

/-- Stored updates stay. -/
theorem step_remembers (s : PolicyStore) (op : PolicyOp) :
    Remembers (fun s k => s.mutations.get? k) s (s.step op) := by
  obtain ⟨_, _, m, rfl, -, happlied⟩ | ⟨u, _, -, -, -, -, -, -, hinsert, -⟩ | ⟨-, hquiet⟩ :=
    s.step_cases op
  · exact .of_eq fun k => by rw [happlied.mutations]
  · exact fun k row hrow => Table.get?_insert?_of_get? hinsert hrow
  · exact .of_eq fun k => by rw [hquiet.mutations]

/-- An update that succeeded is stored with its answer. -/
theorem stored_of_ok (h : s.updateToolPolicy t e r q now = .ok (s', a))
    (hu : s.policyUpdate t e r q = .ok u) : ∃ stored, s'.mutations.get? u.requestId = some stored ∧
      stored.requestDigest = u.digest ∧ stored.response = a := by
  obtain ⟨u', hu', ⟨rfl, hstored⟩ | ⟨-, rfl, -, -, -, hinsert, -⟩⟩ := updateToolPolicy_ok h
  · cases hu.symm.trans hu'
    exact hstored
  · cases hu.symm.trans hu'
    exact ⟨_, by rw [Table.get?_insert? hinsert, if_pos rfl], rfl, rfl⟩

/-- The checks of an update depend on the tables only through the catalogue. -/
theorem policyUpdate_of_active (hu : s.policyUpdate t e r q = .ok u)
    (hactive : s₂.activeToolNames = .ok active) (ht : t ∈ active) :
    s₂.policyUpdate t e r q = .ok u := by
  simp only [policyUpdate, bind_eq_ok, ensure_eq_ok, pure_eq_ok] at hu ⊢
  obtain ⟨-, -, -, -, enabled, he, revision, hr, requestId, hq, rfl⟩ := hu
  exact ⟨active, hactive, (), ht, enabled, he, revision, hr, requestId, hq, rfl⟩

/-- A stored update is answered from the store while its tool is in the catalogue, and is refused
    otherwise; an update with other arguments under its `request_id` is refused. -/
theorem replayed {s₁ : PolicyStore} (h : s.updateToolPolicy t e r q now = .ok (s₁, a))
    (hkeep : Remembers (fun s k => s.mutations.get? k) s₁ s₂)
    (hactive : s₂.activeToolNames = .ok active) (now' : String) :
    s₂.updateToolPolicy t e r q now' =
        (if t ∈ active then .ok (s₂, a) else .error (raising "tool_not_found" "工具不存在" 404)) ∧
      ∀ t' e' r', (∀ u u', s.policyUpdate t e r q = .ok u → s₂.policyUpdate t' e' r' q = .ok u' →
        u'.digest ≠ u.digest) → ∃ err, s₂.updateToolPolicy t' e' r' q now' = .error err := by
  obtain ⟨u, hu, -⟩ := updateToolPolicy_ok h
  obtain ⟨stored, hstored, hdigest, rfl⟩ := stored_of_ok h hu
  have hstored₂ : s₂.mutations.get? u.requestId = some stored := hkeep _ _ hstored
  constructor
  · split_ifs with ht
    · rw [updateToolPolicy, policyUpdate_of_active hu hactive ht, ok_bind, hstored₂]
      simp only [ensure_bind_of hdigest]
      rfl
    · rw [updateToolPolicy, policyUpdate, hactive, ok_bind]
      simp [ensure, ht]
  · intro t' e' r' hother
    cases hcall : s₂.updateToolPolicy t' e' r' q now' with
    | error err => exact ⟨err, rfl⟩
    | ok x =>
      obtain ⟨u', hu', hcase⟩ := updateToolPolicy_ok hcall
      have hkey : u'.requestId = u.requestId := by
        obtain ⟨-, -, -, -, hq⟩ := policyUpdate_ok hu
        obtain ⟨-, -, -, -, hq'⟩ := policyUpdate_ok hu'
        exact Json.str.inj (hq'.symm.trans hq)
      rw [hkey, hstored₂] at hcase
      obtain ⟨-, _, hsame, hdigest', -⟩ | ⟨hnone, -⟩ := hcase
      · cases hsame
        exact absurd (hdigest'.symm.trans hdigest) (hother u u' hu hu')
      · cases hnone

end PolicyStore

/-! ## Every run -/

open PolicyStore in
/-- From every state that is reached when the Hub publishes one catalogue under each digest: the
    snapshot does not fail; the revision does not decrease, and it increases when the set of enabled
    tools changes; a tool that is switched off is not enabled until an update switches it on, also
    when it is retired and published again; of the updates with one revision at most one is carried
    out; and whatever happens after an update has succeeded, its repetition gets the stored answer
    while the tool is in the catalogue and is refused while it is not, and its `request_id` is
    refused with other arguments. -/
theorem tool_policy_orderly {published : String → Finset String} {s : PolicyStore}
    (h : Reachable published s) :
    (∃ rev enabled, s.toolPolicySnapshot = .ok (rev, enabled)) ∧
    (∀ op rev enabled rev' enabled', op.Publishes published →
      s.toolPolicySnapshot = .ok (rev, enabled) →
      (s.step op).toolPolicySnapshot = .ok (rev', enabled') →
      rev ≤ rev' ∧ (enabled ≠ enabled' → rev < rev')) ∧
    (∀ name after, s.disables name → (∀ op ∈ after, op.Publishes published) →
      EveryStep step (fun s op => op.enables name s = false) s after →
      Throughout step (fun s => ∃ rev enabled, s.toolPolicySnapshot = .ok (rev, enabled) ∧
        name ∉ enabled) s after) ∧
    (∀ revision op after, op.succeeds revision s →
      EveryStep step (fun s op => op.succeeds revision s = false) (s.step op) after) ∧
    (∀ t e r q now s₁ a after, s.updateToolPolicy t e r q now = .ok (s₁, a) →
      (∀ op ∈ after, op.Publishes published) →
      ∃ active, (runFrom step s₁ after).activeToolNames = .ok active ∧ ∀ now',
        (runFrom step s₁ after).updateToolPolicy t e r q now' =
          (if t ∈ active then .ok (runFrom step s₁ after, a)
            else .error (raising "tool_not_found" "工具不存在" 404)) ∧
        ∀ t' e' r', (∀ u u', s.policyUpdate t e r q = .ok u →
            (runFrom step s₁ after).policyUpdate t' e' r' q = .ok u' → u'.digest ≠ u.digest) →
          ∃ err, (runFrom step s₁ after).updateToolPolicy t' e' r' q now' = .error err) := by
  have hs := h.sound
  refine ⟨?_, ?_, ?_, ?_, ?_⟩
  · obtain ⟨names, hnames, -⟩ := hs.hub
    exact ⟨_, _, hs.snapshot hnames⟩
  · intro op rev enabled rev' enabled' hop hsnap hsnap'
    exact hs.enabled_step hop hsnap hsnap'
  · intro name after hoff hafter henables
    have hkept : Throughout step (fun s => s.Sound published ∧ s.disables name) s after :=
      throughout_of_everyStep step
        (G := fun s op => op.Publishes published ∧ op.enables name s = false)
        (fun s op hs hop => ⟨hs.1.step hop.1, disables_step hs.2 hop.2⟩) ⟨hs, hoff⟩
        ((everyStep_and step).mpr ⟨everyStep_of_forall step hafter s, henables⟩)
    refine hkept.imp step fun s hs => ?_
    obtain ⟨names, hnames, -⟩ := hs.1.hub
    exact ⟨_, _, hs.1.snapshot hnames, by simp [hs.2]⟩
  · intro revision op after hop
    have hlater : Throughout step (fun s => revision < s.catalogRevision) (s.step op) after :=
      throughout_of_everyStep step (G := fun _ _ => True)
        (fun s op hs _ => hs.trans_le (revision_le_step s op)) (revision_of_succeeds hop).2
        (everyStep_true step (fun _ _ => trivial) _ _)
    refine hlater.everyStep step fun s op hs => ?_
    rw [Bool.eq_false_iff]
    intro hsucceeds
    exact hs.ne' (revision_of_succeeds hsucceeds).1
  · intro t e r q now s₁ a after hcall hafter
    have hs₁ : s₁.Sound published := by
      have hstep : s.step (.update t e r q now) = s₁ := by rw [step, hcall]; rfl
      exact hstep ▸ hs.step trivial
    have hs₂ : (runFrom step s₁ after).Sound published :=
      invariant_of_everyStep step (fun s op hs hop => hs.step hop) hs₁
        (everyStep_of_forall step hafter _)
    obtain ⟨names, hnames, -⟩ := hs₂.hub
    have hactive : (runFrom step s₁ after).activeToolNames = .ok (names.toFinset ∪ localNames) := by
      rw [activeToolNames, hnames]
      rfl
    exact ⟨_, hactive, fun now' =>
      replayed hcall (.run (fun s op => s.step_remembers op) s₁ after) hactive now'⟩

/-! ## A tool that is retired -/

/-- A manifest with these tools. -/
def toolManifest (digit : Char) (tools : List String) : Json := .obj [
  ("catalog_revision", .int 1),
  ("catalog_digest", .str ("sha256:" ++ String.ofList (List.replicate 64 digit))),
  ("tools", .arr (tools.map fun name => .obj [("name", .str name)]))]

/-- Two tools, and then one of them. -/
def bothTools : PolicyOp :=
  .applyManifest (toolManifest '1' ["ledger_show", "ledger_query"]) "2026-08-10T00:00:00+00:00"

def oneTool : PolicyOp :=
  .applyManifest (toolManifest '2' ["ledger_query"]) "2026-08-10T00:10:00+00:00"

/-- The first tool is switched off. -/
def switchOff (s : PolicyStore) : Except Raise (PolicyStore × PolicyResponse) :=
  s.updateToolPolicy "ledger_show" (.bool false) (.int 2) (.str "request-1")
    "2026-08-10T00:05:00+00:00"

theorem switchOff_facts :
    ((switchOff (PolicyStore.new.step bothTools)).toOption.any fun x =>
      match switchOff (x.1.step oneTool) with
      | .ok _ => false
      | .error e => e = raising "tool_not_found" "工具不存在" 404) = true := by
  decide +kernel

/-- The repetition of a stored request is refused after the tool was retired. -/
theorem retired_not_replayed : ∃ s₁ a, switchOff (PolicyStore.new.step bothTools) = .ok (s₁, a) ∧
    switchOff (s₁.step oneTool) = .error (raising "tool_not_found" "工具不存在" 404) := by
  obtain ⟨⟨s₁, a⟩, hcall, h⟩ := (Option.any_eq_true _ _).mp switchOff_facts
  refine ⟨s₁, a, toOption_eq_some.mp hcall, ?_⟩
  cases hagain : switchOff (s₁.step oneTool) with
  | ok x =>
    rw [hagain] at h
    cases h
  | error e =>
    rw [hagain] at h
    rw [of_decide_eq_true h]

/-- What the two manifests publish. -/
def publishedTools (digest : String) : Finset String :=
  if digest = "sha256:" ++ String.ofList (List.replicate 64 '1') then {"ledger_show", "ledger_query"}
  else {"ledger_query"}

theorem bothTools_publishes : bothTools.Publishes publishedTools := by
  have hnames : ((manifestOf (toolManifest '1' ["ledger_show", "ledger_query"])).toOption.all
      fun m => m.names.toFinset = publishedTools m.catalogDigest) = true := by decide +kernel
  intro m hm
  rw [hm] at hnames
  exact of_decide_eq_true hnames

theorem tool_policy_orderly_both : ∃ rev enabled,
    (PolicyStore.new.step bothTools).toolPolicySnapshot = .ok (rev, enabled) :=
  (@tool_policy_orderly publishedTools _
    ⟨[bothTools], by simpa using bothTools_publishes, rfl⟩).1

end HomeAddons.Controller
