import HomeAddons.Common.Rowwise
import HomeAddons.Common.Run
import HomeAddons.Controller.Jobs

/-!
# Codex Controller: the life of a job

One step of the store takes one of the calls on jobs. `Life` is the diagram of the states of a
job: which call leads from which state to which.

* `apply_moves`: a call adds a queued job or moves jobs along the diagram.
* `Serial.step`: one job at a time keeps the others waiting, and no more jobs wait than the queue
  has places.
* `jobs_serial`: the same over every run, with what no call ever undoes.
-/

namespace HomeAddons.Controller

open HomeAddons.Common

/-! ## The calls -/

/-- The calls on a job, with their arguments and the times they read. -/
inductive Op where
  | createJob (payload : Json) (jobId now : String)
  | claimNext (clock : Clock)
  | assignThread (jobId threadId now : String)
  | assignTurn (jobId turnId : String)
  | setResultText (turnId text : String)
  | observeTurnActivity (turnId : String) (o : Observations)
  | observeTurnError (turnId errorType errorCode : String) (upstreamHttpStatus : Option ℤ)
      (retryable : Bool)
  | completeTurn (turnId : String) (c : Completion) (clock : Clock)
  | completeNewThread (jobId threadId resultText now : String)
  | completeDirectResult (jobId resultText now : String)
  | failClaimed (jobId errorCode : String) (uncertain : Bool) (now : String)
  | retryOverloaded (jobId : String) (maxAttempts : ℤ) (retryDelaySeconds : ℚ) (clock : Clock)
  | recoverRunning (now : String)
  | resolveRecovery (jobId resolution now : String)
  | cancelQueued (jobId now : String)

namespace Op

def isClaimNext : Op → Bool
  | claimNext _ => true
  | _ => false

def isAssignTurn : Op → Bool
  | assignTurn _ _ => true
  | _ => false

def isResolveRecovery : Op → Bool
  | resolveRecovery _ _ _ => true
  | _ => false

/-- A job goes back into the queue only with fewer attempts than this. -/
def attemptLimit : Op → ℤ
  | completeTurn _ c _ => max 1 c.maxAttempts
  | retryOverloaded _ maxAttempts _ _ => maxAttempts
  | _ => 0

/-- The call leaves `max_attempts` at its default. -/
def defaultAttempts : Op → Bool
  | completeTurn _ c _ => c.maxAttempts = 3
  | retryOverloaded _ maxAttempts _ _ => maxAttempts = 3
  | _ => true

end Op

namespace ControllerStore

variable {cfg : Settings} {s s' : ControllerStore}

/-- What a call returns beside the answer. -/
def apply (cfg : Settings) (s : ControllerStore) : Op → Except Raise ControllerStore
  | .createJob payload jobId now => Prod.fst <$> s.createJob cfg payload jobId now
  | .claimNext clock => .ok (s.claimNext clock).1
  | .assignThread jobId threadId now => s.assignThread jobId threadId now
  | .assignTurn jobId turnId => s.assignTurn jobId turnId
  | .setResultText turnId text => .ok (s.setResultText cfg turnId text).1
  | .observeTurnActivity turnId o => .ok (s.observeTurnActivity turnId o).1
  | .observeTurnError turnId errorType errorCode status retryable =>
    .ok (s.observeTurnError turnId errorType errorCode status retryable).1
  | .completeTurn turnId c clock => Prod.fst <$> s.completeTurn turnId c clock
  | .completeNewThread jobId threadId resultText now =>
    s.completeNewThread cfg jobId threadId resultText now
  | .completeDirectResult jobId resultText now => s.completeDirectResult cfg jobId resultText now
  | .failClaimed jobId errorCode uncertain now => s.failClaimed jobId errorCode uncertain now
  | .retryOverloaded jobId maxAttempts delay clock =>
    Prod.fst <$> s.retryOverloaded jobId maxAttempts delay clock
  | .recoverRunning now => .ok (s.recoverRunning now)
  | .resolveRecovery jobId resolution now => s.resolveRecovery jobId resolution now
  | .cancelQueued jobId now => .ok (s.cancelQueued jobId now).1

/-- One call; a call that raises leaves the store alone. -/
def step (cfg : Settings) (s : ControllerStore) (op : Op) : ControllerStore :=
  (s.apply cfg op).toOption.getD s

end ControllerStore

/-! ## The diagram -/

/-- Which call leads from which state of a job to which. -/
inductive Life : Op → JobState → JobState → Prop where
  | claimNext {clock} : Life (.claimNext clock) .queued .running
  | assignThread {k t n} : Life (.assignThread k t n) .running .running
  | assignTurn {k t} : Life (.assignTurn k t) .running .running
  | setResultText {t x} : Life (.setResultText t x) .running .running
  | observeTurnActivity {t o} : Life (.observeTurnActivity t o) .running .running
  | observeTurnError {t y e u r} : Life (.observeTurnError t y e u r) .running .running
  | completeTurn {t c clock} {st : JobState} :
      st.final = true → Life (.completeTurn t c clock) .running st
  | requeueTurn {t c clock} : Life (.completeTurn t c clock) .running .queued
  | completeNewThread {k t x n} : Life (.completeNewThread k t x n) .running .completed
  | completeDirectResult {k x n} : Life (.completeDirectResult k x n) .running .completed
  | failClaimed {k e n} : Life (.failClaimed k e false n) .running .failed
  | suspend {k e n} : Life (.failClaimed k e true n) .running .recoveryRequired
  | retryOverloaded {k m d clock} : Life (.retryOverloaded k m d clock) .running .queued
  | recoverRunning {n} : Life (.recoverRunning n) .running .recoveryRequired
  | resolveRecovery {k r n} {st : JobState} :
      st.final = true → Life (.resolveRecovery k r n) .recoveryRequired st
  | cancelQueued {k n} : Life (.cancelQueued k n) .queued .cancelled

namespace Life

variable {op : Op} {a b : JobState}

/-- Only a claim makes a job keep the others waiting. -/
theorem occupies (h : Life op a b) (hb : b.occupies = true) :
    a.occupies = true ∨ op.isClaimNext = true := by
  cases h <;> first | exact .inl rfl | exact .inr rfl | exact absurd hb Bool.false_ne_true

theorem active (h : Life op a b) : a.active = true := by
  cases h <;> rfl

theorem resolves (h : Life op a b) (ha : a = .recoveryRequired) :
    op.isResolveRecovery = true := by
  subst ha
  cases h
  rfl

end Life

/-- A call moves a job along the diagram. -/
structure Advances (op : Op) (j j' : Job) : Prop where
  jobId : j'.jobId = j.jobId
  messageId : j'.messageId = j.messageId
  life : Life op j.state j'.state
  attempt : j'.attempt = j.attempt + if op.isClaimNext then 1 else 0
  requeue : j'.state = .queued → (j.attempt : ℤ) < op.attemptLimit
  turnId : j'.turnId = j.turnId ∨ j'.turnId = none ∨ op.isAssignTurn = true

/-- A call leaves a job alone or moves it along the diagram. -/
def Transition (op : Op) (j j' : Job) : Prop := j' = j ∨ Advances op j j'

variable {op : Op} {j j' : Job}

theorem Transition.jobId (h : Transition op j j') : j'.jobId = j.jobId := by
  rcases h with rfl | h
  · rfl
  · exact h.jobId

/-- The rows are of the same request. -/
structure SameRequest (j j' : Job) : Prop where
  jobId : j'.jobId = j.jobId
  messageId : j'.messageId = j.messageId
  conversationKey : j'.conversationKey = j.conversationKey
  inputDigest : j'.inputDigest = j.inputDigest
  input : j'.input = j.input

theorem SameRequest.refl (j : Job) : SameRequest j j := ⟨rfl, rfl, rfl, rfl, rfl⟩

theorem SameRequest.trans {j₁ j₂ j₃ : Job} (h : SameRequest j₁ j₂) (h' : SameRequest j₂ j₃) :
    SameRequest j₁ j₃ :=
  ⟨h'.jobId.trans h.jobId, h'.messageId.trans h.messageId,
    h'.conversationKey.trans h.conversationKey, h'.inputDigest.trans h.inputDigest,
    h'.input.trans h.input⟩

/-- A call leaves a job alone, or moves it along the diagram and keeps its request. -/
def Moves (op : Op) (j j' : Job) : Prop := j' = j ∨ Advances op j j' ∧ SameRequest j j'

/-- A running job is moved on: a call that may leave it running keeps its attempts and its turn. -/
theorem Advances.of_running (hrun : j.state = .running) (hid : j'.jobId = j.jobId)
    (hmessage : j'.messageId = j.messageId) (hlife : Life op .running j'.state)
    (hattempt : j'.attempt = j.attempt)
    (hrequeue : j'.state = .queued → (j.attempt : ℤ) < op.attemptLimit)
    (hturn : j'.turnId = j.turnId ∨ j'.turnId = none ∨ op.isAssignTurn = true) :
    Advances op j j' where
  jobId := hid
  messageId := hmessage
  life := by rw [hrun]; exact hlife
  attempt := by
    rw [if_neg, hattempt, Nat.add_zero]
    intro hclaim
    generalize j'.state = b at hlife
    cases hlife <;> cases hclaim
  requeue := hrequeue
  turnId := hturn

namespace ControllerStore

variable {cfg : Settings} {s s' : ControllerStore} {op : Op}

variable {s₁ : ControllerStore} {k t n x e r : String} {j b : Job} {f : Job → Job}
  {best : Option Job} {clock : Clock}

/-- An update of the job that a call found moves it along the diagram. -/
theorem rewrites_updateJob (hs₁ : s₁.jobs = s.jobs) (hf : ∀ j, (f j).jobId = j.jobId)
    (hj : s.jobs.get? k = some j) (hadvances : Advances op j (f j)) (hsame : SameRequest j (f j)) :
    s.jobs.Rewrites (Moves op) (s₁.updateJob k f hf).jobs := by
  rw [updateJob_jobs, hs₁]
  refine Table.rewrites_update hf (fun _ => .inl rfl) fun r hr => .inr ?_
  rw [hj, Option.some.injEq] at hr
  exact hr ▸ ⟨hadvances, hsame⟩

theorem rewrites_refl (op : Op) (s : ControllerStore) :
    s.jobs.Rewrites (Moves op) s.jobs := Table.Rewrites.refl (fun _ => .inl rfl) s.jobs

theorem setConversationThread_jobs {now : String} (h : s.setConversationThread k t now = .ok s') :
    s'.jobs = s.jobs := by
  simp only [setConversationThread, bind_eq_ok] at h
  obtain ⟨-, -, h⟩ := h
  cases h
  rfl

theorem completion_final (c : Completion) : c.state.final = true := by
  unfold Completion.state
  split_ifs <;> rfl

theorem earlier_some (h : earlier best j = some b) : b = j ∨ best = some b := by
  cases best with
  | none => exact .inl (Option.some.inj h).symm
  | some b₀ =>
    simp only [earlier] at h
    split_ifs at h
    · exact .inr h
    · exact .inl (Option.some.inj h).symm

theorem foldl_earlier_mem {l : List Job} (h : l.foldl earlier best = some b) :
    b ∈ l ∨ best = some b := by
  induction l generalizing best with
  | nil => exact .inr h
  | cons a l ih =>
    rcases ih h with hb | hb
    · exact .inl (List.mem_cons_of_mem _ hb)
    · rcases earlier_some hb with rfl | hb
      · exact .inl List.mem_cons_self
      · exact .inr hb

theorem nextQueued_some (h : s.nextQueued = some j) :
    s.jobs.get? j.jobId = some j ∧ j.state = .queued := by
  rcases foldl_earlier_mem h with hj | hj
  · rw [jobsWhere, List.mem_filter] at hj
    exact ⟨Table.mem_rows_iff.mp hj.1, of_decide_eq_true hj.2⟩
  · cases hj

/-- What a call that notes something about a running job does to it. -/
theorem rewrites_note (hs₁ : s₁.jobs = s.jobs) (hf : ∀ j, (f j).jobId = j.jobId)
    (hj : s.jobs.get? k = some j) (hrun : j.state = .running) (hlife : Life op .running .running)
    (hstate : (f j).state = j.state) (hattempt : (f j).attempt = j.attempt)
    (hturn : (f j).turnId = j.turnId ∨ (f j).turnId = none ∨ op.isAssignTurn = true)
    (hsame : SameRequest j (f j)) : s.jobs.Rewrites (Moves op) (s₁.updateJob k f hf).jobs := by
  refine rewrites_updateJob hs₁ hf hj
    (.of_running hrun (hf j) hsame.messageId ?_ hattempt ?_ hturn) hsame
  · rw [hstate, hrun]
    exact hlife
  · rw [hstate, hrun]
    nofun

theorem claimNext_moves (clock : Clock) :
    s.jobs.Rewrites (Moves (.claimNext clock)) (s.claimNext clock).1.jobs := by
  unfold claimNext
  split_ifs
  · exact rewrites_refl _ s
  · cases hnext : s.nextQueued with
    | none => exact rewrites_refl _ s
    | some j =>
      obtain ⟨hget, hqueued⟩ := nextQueued_some hnext
      dsimp only
      split_ifs
      · exact rewrites_refl _ s
      · refine rewrites_updateJob rfl _ hget ⟨rfl, rfl, ?_, rfl, nofun, .inl rfl⟩
          ⟨rfl, rfl, rfl, rfl, rfl⟩
        rw [hqueued]
        exact .claimNext

theorem assignThread_moves (h : s.assignThread k t n = .ok s') :
    s.jobs.Rewrites (Moves (.assignThread k t n)) s'.jobs := by
  simp only [assignThread, bind_eq_ok, orRaise_eq_ok] at h
  obtain ⟨-, -, j, hj, s₁, hs₁, h⟩ := h
  cases h
  obtain ⟨hget, hrun⟩ := s.runningJob_eq_some.mp hj
  exact rewrites_note (setConversationThread_jobs hs₁) _ hget hrun .assignThread rfl rfl
    (.inl rfl) ⟨rfl, rfl, rfl, rfl, rfl⟩

theorem assignTurn_moves (h : s.assignTurn k t = .ok s') :
    s.jobs.Rewrites (Moves (.assignTurn k t)) s'.jobs := by
  simp only [assignTurn, bind_eq_ok, orRaise_eq_ok] at h
  obtain ⟨-, -, j, hj, -, -, h⟩ := h
  cases h
  obtain ⟨hget, hrun⟩ := s.runningJob_eq_some.mp hj
  exact rewrites_note rfl _ hget hrun .assignTurn rfl rfl (.inr (.inr rfl))
    ⟨rfl, rfl, rfl, rfl, rfl⟩

theorem setResultText_moves :
    s.jobs.Rewrites (Moves (.setResultText t x)) (s.setResultText cfg t x).1.jobs := by
  unfold setResultText
  cases hj : s.runningTurn t with
  | none => exact rewrites_refl _ s
  | some j =>
    obtain ⟨hget, -, hrun⟩ := s.runningTurn_some hj
    exact rewrites_note rfl _ hget hrun .setResultText rfl rfl (.inl rfl)
      ⟨rfl, rfl, rfl, rfl, rfl⟩

theorem observeTurnActivity_moves {o : Observations} :
    s.jobs.Rewrites (Moves (.observeTurnActivity t o)) (s.observeTurnActivity t o).1.jobs := by
  unfold observeTurnActivity
  cases hj : s.runningTurn t with
  | none => exact rewrites_refl _ s
  | some j =>
    obtain ⟨hget, -, hrun⟩ := s.runningTurn_some hj
    exact rewrites_note rfl _ hget hrun .observeTurnActivity rfl rfl (.inl rfl)
      ⟨rfl, rfl, rfl, rfl, rfl⟩

theorem observeTurnError_moves {y : String} {u : Option ℤ} {r : Bool} :
    s.jobs.Rewrites (Moves (.observeTurnError t y e u r))
      (s.observeTurnError t y e u r).1.jobs := by
  unfold observeTurnError
  cases hj : s.runningTurn t with
  | none => exact rewrites_refl _ s
  | some j =>
    obtain ⟨hget, -, hrun⟩ := s.runningTurn_some hj
    exact rewrites_note rfl _ hget hrun .observeTurnError rfl rfl (.inl rfl)
      ⟨rfl, rfl, rfl, rfl, rfl⟩

theorem completeTurn_moves {c : Completion} {b : Bool}
    (h : s.completeTurn t c clock = .ok (s', b)) :
    s.jobs.Rewrites (Moves (.completeTurn t c clock)) s'.jobs := by
  unfold completeTurn at h
  cases hj : s.runningTurn t with
  | none =>
    rw [hj] at h
    cases h
    exact rewrites_refl _ s
  | some j =>
    obtain ⟨hget, -, hrun⟩ := s.runningTurn_some hj
    rw [hj] at h
    dsimp only at h
    split_ifs at h with hretry
    · rw [bind_eq_ok] at h
      obtain ⟨notBefore, -, h⟩ := h
      cases h
      refine rewrites_updateJob rfl _ hget
        (.of_running hrun rfl rfl .requeueTurn rfl (fun _ => ?_) (.inr (.inl rfl)))
        ⟨rfl, rfl, rfl, rfl, rfl⟩
      simp only [canRetry, Bool.and_eq_true, decide_eq_true_eq] at hretry
      exact hretry.1.1.1.1.2
    · cases h
      refine rewrites_updateJob rfl _ hget (.of_running hrun rfl rfl
        (.completeTurn (completion_final c)) rfl (fun hqueued => ?_) (.inl rfl))
        ⟨rfl, rfl, rfl, rfl, rfl⟩
      have hfinal := completion_final c
      rw [show c.state = .queued from hqueued] at hfinal
      cases hfinal

theorem completeNewThread_moves (h : s.completeNewThread cfg k t x n = .ok s') :
    s.jobs.Rewrites (Moves (.completeNewThread k t x n)) s'.jobs := by
  simp only [completeNewThread, bind_eq_ok, orRaise_eq_ok] at h
  obtain ⟨-, -, j, hj, s₁, hs₁, h⟩ := h
  cases h
  obtain ⟨hget, hrun⟩ := s.runningJob_eq_some.mp hj
  exact rewrites_updateJob (setConversationThread_jobs hs₁) _ hget
    (.of_running hrun rfl rfl .completeNewThread rfl (by rintro ⟨⟩) (.inl rfl)) ⟨rfl, rfl, rfl, rfl, rfl⟩

theorem completeDirectResult_moves (h : s.completeDirectResult cfg k x n = .ok s') :
    s.jobs.Rewrites (Moves (.completeDirectResult k x n)) s'.jobs := by
  simp only [completeDirectResult, bind_eq_ok, orRaise_eq_ok] at h
  obtain ⟨j, hj, h⟩ := h
  cases h
  obtain ⟨hget, hrun⟩ := s.runningJob_eq_some.mp hj
  exact rewrites_updateJob rfl _ hget
    (.of_running hrun rfl rfl .completeDirectResult rfl (by rintro ⟨⟩) (.inl rfl)) ⟨rfl, rfl, rfl, rfl, rfl⟩

theorem failClaimed_moves {u : Bool} (h : s.failClaimed k e u n = .ok s') :
    s.jobs.Rewrites (Moves (.failClaimed k e u n)) s'.jobs := by
  simp only [failClaimed, bind_eq_ok] at h
  obtain ⟨-, -, h⟩ := h
  cases hj : s.runningJob k with
  | none =>
    rw [hj] at h
    cases h
    exact rewrites_refl _ s
  | some j =>
    rw [hj] at h
    cases h
    obtain ⟨hget, hrun⟩ := s.runningJob_eq_some.mp hj
    cases u with
    | false =>
      exact rewrites_updateJob rfl _ hget
        (.of_running hrun rfl rfl .failClaimed rfl (by rintro ⟨⟩) (.inl rfl)) ⟨rfl, rfl, rfl, rfl, rfl⟩
    | true =>
      exact rewrites_updateJob rfl _ hget
        (.of_running hrun rfl rfl .suspend rfl (by rintro ⟨⟩) (.inl rfl)) ⟨rfl, rfl, rfl, rfl, rfl⟩

theorem retryOverloaded_moves {m : ℤ} {d : ℚ} {b : Bool}
    (h : s.retryOverloaded k m d clock = .ok (s', b)) :
    s.jobs.Rewrites (Moves (.retryOverloaded k m d clock)) s'.jobs := by
  unfold retryOverloaded at h
  cases hj : (s.runningJob k).filter fun j => (j.attempt : ℤ) < m with
  | none =>
    rw [hj] at h
    cases h
    exact rewrites_refl _ s
  | some j =>
    rw [hj] at h
    dsimp only at h
    rw [bind_eq_ok] at h
    obtain ⟨notBefore, -, h⟩ := h
    cases h
    rw [Option.filter_eq_some_iff, decide_eq_true_eq] at hj
    obtain ⟨hget, hrun⟩ := s.runningJob_eq_some.mp hj.1
    exact rewrites_updateJob rfl _ hget
      (.of_running hrun rfl rfl .retryOverloaded rfl (fun _ => hj.2) (.inr (.inl rfl)))
      ⟨rfl, rfl, rfl, rfl, rfl⟩

theorem recoverRunning_moves :
    s.jobs.Rewrites (Moves (.recoverRunning n)) (s.recoverRunning n).jobs := by
  refine Table.rewrites_updateWhere (by intro _; rfl) (fun _ _ _ => .inl rfl)
    fun j _ hrun => .inr ?_
  exact ⟨.of_running (of_decide_eq_true hrun) rfl rfl .recoverRunning rfl nofun (.inl rfl), rfl, rfl,
    rfl, rfl, rfl⟩

theorem recoveryResolution_final {st : JobState} {e : Option String}
    (h : recoveryResolution r = some (st, e)) : st.final = true := by
  unfold recoveryResolution at h
  split_ifs at h <;> cases h <;> rfl

theorem resolveRecovery_moves (h : s.resolveRecovery k r n = .ok s') :
    s.jobs.Rewrites (Moves (.resolveRecovery k r n)) s'.jobs := by
  simp only [resolveRecovery, bind_eq_ok, orRaise_eq_ok, ensure_eq_ok] at h
  obtain ⟨⟨st, e⟩, hresolution, j, hget, -, hrecovery, h⟩ := h
  cases h
  have hfinal := recoveryResolution_final hresolution
  refine rewrites_updateJob rfl _ hget ⟨rfl, rfl, ?_, rfl, fun hqueued => ?_, .inl rfl⟩
    ⟨rfl, rfl, rfl, rfl, rfl⟩
  · rw [hrecovery]
    exact .resolveRecovery hfinal
  · rw [show st = .queued from hqueued] at hfinal
    cases hfinal

theorem cancelQueued_moves :
    s.jobs.Rewrites (Moves (.cancelQueued k n)) (s.cancelQueued k n).1.jobs := by
  unfold cancelQueued
  cases hj : (s.jobs.get? k).filter fun j => j.state = .queued with
  | none => exact rewrites_refl _ s
  | some j =>
    rw [Option.filter_eq_some_iff, decide_eq_true_eq] at hj
    refine rewrites_updateJob rfl _ hj.1 ⟨rfl, rfl, ?_, rfl, nofun, .inl rfl⟩
      ⟨rfl, rfl, rfl, rfl, rfl⟩
    rw [hj.2]
    exact .cancelQueued

/-- What `create_job` does to the jobs: nothing, or one more at the end of the queue. -/
theorem createJob_jobs {payload : Json} (h : s.createJob cfg payload k n = .ok (s', j)) :
    s'.jobs = s.jobs ∨
      ∃ input, (∀ j ∈ s.jobs.rows, j.messageId ≠ input.messageId) ∧
        s.jobs.count (fun j => j.state.active) < cfg.maxQueue ∧
        s.jobs.insert? (newJob input k n) = some s'.jobs := by
  simp only [createJob, bind_eq_ok] at h
  obtain ⟨input, -, h⟩ := h
  cases hfound : s.jobs.rows.find? fun j => j.messageId = input.messageId with
  | some existing =>
    rw [hfound] at h
    simp only [bind_eq_ok] at h
    obtain ⟨-, -, h⟩ := h
    cases h
    exact .inl rfl
  | none =>
    rw [hfound] at h
    simp only [bind_eq_ok, ensure_eq_ok, orRaise_eq_ok] at h
    obtain ⟨-, hactive, jobs, hjobs, h⟩ := h
    cases h
    refine .inr ⟨input, fun j hj heq => ?_, hactive, hjobs⟩
    exact of_decide_eq_false (Bool.eq_false_iff.mpr (List.find?_eq_none.mp hfound j hj)) heq

/-- A call adds a queued job or moves jobs along the diagram. -/
theorem apply_moves (h : s.apply cfg op = .ok s') :
    s.jobs.Rewrites (Moves op) s'.jobs ∨ ∃ payload k n input, op = .createJob payload k n ∧
      (∀ j ∈ s.jobs.rows, j.messageId ≠ input.messageId) ∧
      s.jobs.count (fun j => j.state.active) < cfg.maxQueue ∧
      s.jobs.insert? (newJob input k n) = some s'.jobs := by
  cases op with
  | createJob payload k n =>
    simp only [apply, map_eq_ok] at h
    obtain ⟨⟨s₁, j⟩, hcreate, rfl⟩ := h
    rcases createJob_jobs hcreate with hjobs | ⟨input, hnew⟩
    · refine .inl ?_
      rw [hjobs]
      exact rewrites_refl _ s
    · exact .inr ⟨payload, k, n, input, rfl, hnew⟩
  | claimNext clock =>
    cases h
    exact .inl (claimNext_moves clock)
  | assignThread k t n => exact .inl (assignThread_moves h)
  | assignTurn k t => exact .inl (assignTurn_moves h)
  | setResultText t x =>
    cases h
    exact .inl setResultText_moves
  | observeTurnActivity t o =>
    cases h
    exact .inl observeTurnActivity_moves
  | observeTurnError t y e u r =>
    cases h
    exact .inl observeTurnError_moves
  | completeTurn t c clock =>
    simp only [apply, map_eq_ok] at h
    obtain ⟨⟨s₁, b⟩, hcomplete, rfl⟩ := h
    exact .inl (completeTurn_moves hcomplete)
  | completeNewThread k t x n => exact .inl (completeNewThread_moves h)
  | completeDirectResult k x n => exact .inl (completeDirectResult_moves h)
  | failClaimed k e u n => exact .inl (failClaimed_moves h)
  | retryOverloaded k m d clock =>
    simp only [apply, map_eq_ok] at h
    obtain ⟨⟨s₁, b⟩, hretry, rfl⟩ := h
    exact .inl (retryOverloaded_moves hretry)
  | recoverRunning n =>
    cases h
    exact .inl recoverRunning_moves
  | resolveRecovery k r n => exact .inl (resolveRecovery_moves h)
  | cancelQueued k n =>
    cases h
    exact .inl cancelQueued_moves

/-- The same without the requests. -/
theorem apply_transition (h : s.apply cfg op = .ok s') :
    s.jobs.Rewrites (Transition op) s'.jobs ∨ ∃ payload k n input, op = .createJob payload k n ∧
      (∀ j ∈ s.jobs.rows, j.messageId ≠ input.messageId) ∧
      s.jobs.count (fun j => j.state.active) < cfg.maxQueue ∧
      s.jobs.insert? (newJob input k n) = some s'.jobs :=
  (apply_moves h).imp_left fun hmoves => hmoves.imp fun _ _ hj => hj.imp_right And.left

/-- A step is a call, or a call that raised. -/
theorem step_cases (cfg : Settings) (s : ControllerStore) (op : Op) :
    s.apply cfg op = .ok (s.step cfg op) ∨ s.step cfg op = s := by
  unfold step
  cases s.apply cfg op with
  | error e => exact .inr rfl
  | ok s' => exact .inl rfl

/-! ## One job at a time -/

/-- One job at a time keeps the others waiting, no more jobs wait than the queue has places, and no
    message and no turn has two jobs. -/
structure Serial (cfg : Settings) (s : ControllerStore) : Prop where
  occupied : s.jobs.count (fun j => j.state.occupies) ≤ 1
  bounded : s.jobs.count (fun j => j.state.active) ≤ cfg.maxQueue
  message : s.jobs.Unique fun j => some j.messageId
  turn : s.jobs.Unique fun j => j.turnId

/-- `claim_next` hands out nothing while a job runs or waits for a recovery. -/
theorem claimNext_occupied (hj : j ∈ s.jobs.rows) (hoccupies : j.state.occupies = true)
    (clock : Clock) : s.claimNext clock = (s, none) := by
  unfold claimNext
  rw [if_pos (List.any_eq_true.mpr ⟨j, hj, hoccupies⟩)]

/-- What `assign_turn` binds has no other job. -/
theorem assignTurn_unique (h : s.assignTurn k t = .ok s')
    (hunique : s.jobs.Unique fun j => j.turnId) : s'.jobs.Unique fun j => j.turnId := by
  simp only [assignTurn, bind_eq_ok, orRaise_eq_ok, ensure_eq_ok] at h
  obtain ⟨-, -, j, -, -, hfree, h⟩ := h
  cases h
  intro a ha b hb v hav hbv
  rw [Table.mem_rows_iff] at ha hb
  simp only [updateJob_jobs, Table.get?_update_eq_some] at ha hb
  obtain ⟨a₀, ha₀, ha⟩ := ha
  obtain ⟨b₀, hb₀, hb⟩ := hb
  have hother : ∀ c₀ c : Job, s.jobs.get? c.jobId = some c₀ → c = c₀ → c.jobId ≠ k →
      c.turnId ≠ some t := by
    rintro c₀ c hc₀ rfl hne ht
    exact hfree ⟨c, Table.mem_of_get? hc₀, ht, hne⟩
  split_ifs at ha with hak <;> split_ifs at hb with hbk
  · rw [hak, ← hbk, hb₀, Option.some.injEq] at ha₀
    rw [ha, hb, ha₀]
  · rw [ha] at hav
    exact absurd (hbv.trans hav.symm) (hother b₀ b hb₀ hb hbk)
  · rw [hb] at hbv
    exact absurd (hav.trans hbv.symm) (hother a₀ a ha₀ ha hak)
  · subst ha hb
    exact hunique a (Table.mem_of_get? ha₀) b (Table.mem_of_get? hb₀) v hav hbv

/-- A claim is of the only job that keeps the others waiting. -/
theorem claimNext_count (clock : Clock) (h : s.jobs.count (fun j => j.state.occupies) ≤ 1) :
    (s.claimNext clock).1.jobs.count (fun j => j.state.occupies) ≤ 1 := by
  unfold claimNext
  split_ifs with hany
  · exact h
  · have hzero : s.jobs.count (fun j => j.state.occupies) = 0 := by
      rw [Table.count_eq_zero]
      intro j hj
      rw [List.any_eq_true, not_exists] at hany
      exact Bool.eq_false_iff.mpr fun hocc => hany j ⟨hj, hocc⟩
    cases s.nextQueued with
    | none => exact h
    | some j =>
      dsimp only
      split_ifs
      · exact h
      · refine (Table.count_update_le (by intro _; rfl) _).trans ?_
        rw [hzero]

theorem Serial.step (h : Serial cfg s) (op : Op) : Serial cfg (s.step cfg op) := by
  rcases step_cases cfg s op with happly | hsame
  · generalize s.step cfg op = s' at happly
    rcases apply_transition happly with hmove | ⟨payload, k, n, input, rfl, hnew, hplace, hinsert⟩
    · refine ⟨?_, (hmove.count_le ?_).trans h.bounded, hmove.unique ?_ h.message, ?_⟩
      · cases hclaim : op.isClaimNext with
        | true =>
          cases op <;> cases hclaim
          cases happly
          exact claimNext_count _ h.occupied
        | false =>
          refine (hmove.count_le fun j j' ht hocc => ?_).trans h.occupied
          rcases ht with rfl | ht
          · exact hocc
          · exact (ht.life.occupies hocc).resolve_right (by rw [hclaim]; exact Bool.false_ne_true)
      · rintro j j' (rfl | ht) hactive
        · exact hactive
        · exact ht.life.active
      · rintro j j' (rfl | ht)
        · exact .inl rfl
        · exact .inl (congrArg some ht.messageId)
      · cases hbind : op.isAssignTurn with
        | true =>
          cases op <;> cases hbind
          exact assignTurn_unique happly h.turn
        | false =>
          refine hmove.unique ?_ h.turn
          rintro j j' (rfl | ht)
          · exact .inl rfl
          · rcases ht.turnId with hkeep | hnone | hassign
            · exact .inl hkeep
            · exact .inr hnone
            · rw [hbind] at hassign
              cases hassign
    · refine ⟨?_, ?_, Table.unique_insert? hinsert (fun j hj v hv hv' => ?_) h.message,
        Table.unique_insert? hinsert (fun j hj v _ => nofun) h.turn⟩
      · rw [Table.count_insert? hinsert]
        exact h.occupied
      · rw [Table.count_insert? hinsert]
        exact hplace
      · exact hnew j hj (Option.some.inj (hv.trans hv'.symm))
  · rw [hsame]
    exact h

theorem serial_empty (cfg : Settings) : Serial cfg .empty where
  occupied := Nat.zero_le _
  bounded := Nat.zero_le _
  message := fun _ h => absurd h List.not_mem_nil
  turn := fun _ h => absurd h List.not_mem_nil

/-! ## What no call undoes -/

/-- What one call leaves alone and what it may do only in its own place. -/
structure Lawful (cfg : Settings) (s : ControllerStore) (op : Op) : Prop where
  /-- A job in `completed`, `failed` or `cancelled` is not written again. -/
  final : ∀ j ∈ s.jobs.rows, j.state.final = true → (s.step cfg op).jobs.get? j.jobId = some j
  /-- Only `claim_next` counts an attempt. -/
  attempt : ∀ k j j', s.jobs.get? k = some j → (s.step cfg op).jobs.get? k = some j' →
    j'.attempt = j.attempt ∨ (op.isClaimNext = true ∧ j'.attempt = j.attempt + 1)
  /-- Only `resolve_recovery` ends a recovery. -/
  recovery : ∀ j ∈ s.jobs.rows, j.state = .recoveryRequired →
    (s.step cfg op).jobs.get? j.jobId = some j ∨ op.isResolveRecovery = true
  /-- Until then `claim_next` returns `None`. -/
  waiting : ∀ j ∈ s.jobs.rows, j.state = .recoveryRequired →
    ∀ clock, s.claimNext clock = (s, none)

/-- A row is found again after a call, left alone or moved along the diagram. -/
theorem step_get? (cfg : Settings) (op : Op) (hj : s.jobs.get? k = some j) :
    ∃ j', (s.step cfg op).jobs.get? k = some j' ∧ Transition op j j' := by
  rcases step_cases cfg s op with happly | hsame
  · rcases apply_transition happly with hmove | ⟨payload, k', n, input, -, -, -, hinsert⟩
    · exact hmove.get? (fun _ _ => Transition.jobId) hj
    · exact ⟨j, Table.get?_insert?_of_get? hinsert hj, .inl rfl⟩
  · rw [hsame]
    exact ⟨j, hj, .inl rfl⟩

theorem lawful (cfg : Settings) (s : ControllerStore) (op : Op) : Lawful cfg s op where
  final j hj hfinal := by
    obtain ⟨j', hj', rfl | ht⟩ := step_get? cfg op (Table.mem_rows_iff.mp hj)
    · exact hj'
    · have hactive := ht.life.active
      rw [JobState.final, hactive] at hfinal
      cases hfinal
  attempt k j j' hj hj' := by
    obtain ⟨j₁, hj₁, ht⟩ := step_get? cfg op hj
    rw [hj', Option.some.injEq] at hj₁
    subst hj₁
    rcases ht with rfl | ht
    · exact .inl rfl
    · have hattempt := ht.attempt
      cases hclaim : op.isClaimNext <;> rw [hclaim] at hattempt
      · exact .inl hattempt
      · exact .inr ⟨rfl, hattempt⟩
  recovery j hj hrecovery := by
    obtain ⟨j', hj', rfl | ht⟩ := step_get? cfg op (Table.mem_rows_iff.mp hj)
    · exact .inl hj'
    · exact .inr (ht.life.resolves hrecovery)
  waiting j hj hrecovery := claimNext_occupied hj (by rw [hrecovery]; rfl)

/-! ## Attempts -/

/-- A job has at most three attempts, and one in the queue has one left. -/
def Attempts (s : ControllerStore) : Prop :=
  ∀ j ∈ s.jobs.rows, j.attempt ≤ 3 ∧ (j.state = .queued → j.attempt < 3)

theorem Transition.attempts {j' : Job} (h : Transition op j j')
    (hdefault : op.defaultAttempts = true)
    (hj : j.attempt ≤ 3 ∧ (j.state = .queued → j.attempt < 3)) :
    j'.attempt ≤ 3 ∧ (j'.state = .queued → j'.attempt < 3) := by
  rcases h with rfl | h
  · exact hj
  · obtain ⟨-, -, hlife, hattempt, hrequeue, -⟩ := h
    have hlimit : op.attemptLimit ≤ 3 := by
      cases op <;> simp [Op.attemptLimit, Op.defaultAttempts] at hdefault ⊢ <;> omega
    cases hclaim : op.isClaimNext <;> rw [hclaim] at hattempt
    · simp only [Bool.false_eq_true, if_false, Nat.add_zero] at hattempt
      refine ⟨hattempt ▸ hj.1, fun hq => ?_⟩
      have := hrequeue hq
      omega
    · generalize j.state = a, j'.state = b at *
      cases hlife <;> cases hclaim
      have := hj.2 rfl
      simp only [if_true] at hattempt
      exact ⟨by omega, nofun⟩

theorem Attempts.step (h : Attempts s) (op : Op) (hdefault : op.defaultAttempts = true) :
    Attempts (s.step cfg op) := by
  rcases step_cases cfg s op with happly | hsame
  · rcases apply_transition happly with hmove | ⟨payload, k, n, input, -, -, -, hinsert⟩
    · exact hmove.forall (fun _ _ ht => Transition.attempts ht hdefault) h
    · intro j hj
      rw [Table.rows_insert? hinsert, List.mem_append, List.mem_singleton] at hj
      rcases hj with hj | rfl
      · exact h j hj
      · exact ⟨Nat.zero_le 3, fun _ => Nat.zero_lt_succ 2⟩
  · rw [hsame]
    exact h

end ControllerStore

open ControllerStore in
/-- Over every run of calls with any arguments, one job at a time keeps the others waiting, the
    queue keeps to its places, and no message and no turn has two jobs; no call writes a finished
    job, counts an attempt or ends a recovery but the ones meant to; and with the default limit no
    job is attempted more than three times. -/
theorem jobs_serial (cfg : Settings) (ops : List Op) :
    Throughout (step cfg) (Serial cfg) .empty ops ∧
      EveryStep (step cfg) (Lawful cfg) .empty ops ∧
      ((∀ op ∈ ops, op.defaultAttempts = true) →
        Throughout (step cfg) (fun s => ∀ j ∈ s.jobs.rows, j.attempt ≤ 3) .empty ops) := by
  refine ⟨?_, everyStep_true _ (lawful cfg) _ _, fun hdefault => ?_⟩
  · exact throughout_of_everyStep _ (G := fun _ _ => True) (fun s op hs _ => hs.step op)
      (serial_empty cfg) (everyStep_true _ (fun _ _ => trivial) _ _)
  · refine (throughout_of_everyStep _ (I := Attempts) (fun s op hs hop => hs.step op hop) ?_
      (everyStep_of_forall _ hdefault .empty)).imp _ fun s hs j hj => (hs j hj).1
    exact fun j hj => absurd hj List.not_mem_nil

end HomeAddons.Controller
