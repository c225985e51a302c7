import HomeAddons.Controller.Commands
import HomeAddons.Controller.Context

/-!
# Codex Controller: notifications of a Turn

What `ControllerService.handle_notification` reads of a message of the app-server (`service.py`
620–714, `turn_retry.py`), as the calls of the store that it makes for it.

* `Notice`: a message that is about a Turn. `notice?` reads it.
* `StoreCall.run`, `Ending.complete`: the calls, one transaction each.
-/

namespace HomeAddons.Controller

open HomeAddons.Common

/-! ## Reading a message -/

/-- `TurnErrorClassification`. -/
structure TurnErrorClassification where
  errorType : String
  errorCode : String
  upstreamHttpStatus : Option ℤ
  retryable : Bool

/-- A call of the store about a Turn; each answers whether the Turn runs. -/
inductive StoreCall where
  /-- `observe_turn_error(turn_id, …)`. -/
  | error (c : TurnErrorClassification)
  /-- `set_result_text(turn_id, text)`. -/
  | text (text : String)
  /-- `observe_turn_activity(turn_id, …)`. -/
  | activity (o : Observations)

/-- What `turn/completed` says. -/
structure Ending where
  status : String
  classification : Option TurnErrorClassification
  observed : Observations

/-- A message about a Turn. -/
inductive Notice where
  /-- The calls that record what is seen; the answer of the first one counts. -/
  | seen (turnId : String) (first : StoreCall) (rest : List StoreCall)
  | completed (turnId : String) (ending : Ending)

def Notice.turnId : Notice → String
  | .seen turnId .. => turnId
  | .completed turnId _ => turnId

def Notice.isCompleted : Notice → Bool
  | .completed .. => true
  | .seen .. => false

/-! ## The calls -/

/-- `retry_delay_seconds(attempt)`; `jitter` is `secrets.randbelow(1001)`. -/
def retryDelaySeconds (attempt jitter : ℕ) : ℚ := min (2 ^ max 1 attempt : ℕ) 8 + jitter / 1000

/-- The time of a call, and the random part of a delay. -/
structure Moment where
  utcNow : String
  shanghaiNow : String
  shanghaiAfter : ℚ → String
  jitter : ℕ

def Moment.clock (m : Moment) : Clock := ⟨m.utcNow, m.shanghaiNow, fun d => some (m.shanghaiAfter d)⟩

/-- The arguments of `complete_turn` (lines 697–711). -/
def Ending.completion (e : Ending) (attempt : ℕ) (m : Moment) : Completion where
  status := e.status
  errorCode := e.classification.map (·.errorCode)
  errorType := e.classification.map (·.errorType)
  upstreamHttpStatus := e.classification.bind (·.upstreamHttpStatus)
  retryable := e.classification.map (·.retryable)
  retryDelaySeconds :=
    if e.status = "failed" then some (retryDelaySeconds attempt m.jitter) else none
  maxAttempts := 3
  observed := e.observed

variable (cfg : Settings) (s : ControllerStore)

/-- One call about a Turn. -/
def StoreCall.run (turnId : String) : StoreCall → ControllerStore × Bool
  | .error c => s.observeTurnError turnId c.errorType c.errorCode c.upstreamHttpStatus c.retryable
  | .text t => s.setResultText cfg turnId t
  | .activity o => s.observeTurnActivity turnId o

/-- `turn_attempt(turn_id)` (lines 747–753). -/
def ControllerStore.turnAttempt (turnId : String) : Option ℕ := (s.runningTurn turnId).map (·.attempt)

/-- `complete_turn(turn_id, status, …)` for what was read; `shanghai_after` does not overflow. -/
def Ending.complete (e : Ending) (turnId : String) (attempt : ℕ) (m : Moment) :
    ControllerStore × Bool :=
  match s.completeTurn turnId (e.completion attempt m) m.clock with
  | .ok r => r
  | .error _ => (s, false)

/-! ## One row per call -/

variable {s}

/-- What a call writes into the row of its Turn. -/
def StoreCall.write (cfg : Settings) (c : StoreCall) (j : Job) : Job :=
  match c with
  | .error c => { j with
      errorType := some (if isErrorName c.errorType then c.errorType else "unknown")
      errorCode := some (if isErrorName c.errorCode then c.errorCode else "turn_failed")
      upstreamHttpStatus := httpStatus c.upstreamHttpStatus
      retryable := c.retryable }
  | .text t => { j with
      resultText := some (t.take cfg.maxResultChars).toString, outputObserved := true }
  | .activity o => { j with
      outputObserved := j.outputObserved || o.output
      toolActivityObserved := j.toolActivityObserved || o.toolActivity
      artifactObserved := j.artifactObserved || o.artifact }

@[simp] theorem StoreCall.write_jobId (c : StoreCall) (j : Job) :
    (c.write cfg j).jobId = j.jobId := by cases c <;> rfl

@[simp] theorem StoreCall.write_turnId (c : StoreCall) (j : Job) :
    (c.write cfg j).turnId = j.turnId := by cases c <;> rfl

@[simp] theorem StoreCall.write_state (c : StoreCall) (j : Job) :
    (c.write cfg j).state = j.state := by cases c <;> rfl

variable {turnId : String} {j : Job}

theorem StoreCall.run_of_some (h : s.runningTurn turnId = some j) (c : StoreCall) :
    c.run cfg s turnId = (s.updateJob j.jobId (c.write cfg) (c.write_jobId cfg), true) := by
  cases c <;>
    simp only [StoreCall.run, ControllerStore.observeTurnError, ControllerStore.setResultText,
      ControllerStore.observeTurnActivity, h] <;> rfl

/-- A write that leaves the Turns and the states alone does not change which job runs a Turn. -/
theorem ControllerStore.runningTurn_updateJob (h : s.runningTurn turnId = some j) {f : Job → Job}
    {hf : ∀ j, (f j).jobId = j.jobId} (hturn : ∀ j, (f j).turnId = j.turnId)
    (hstate : ∀ j, (f j).state = j.state) :
    (s.updateJob j.jobId f hf).runningTurn turnId = some (f j) := by
  have hsame : ∀ j' : Job, ((if decide (j'.jobId = j.jobId) = true then f j' else j').turnId =
      j'.turnId) ∧ (if decide (j'.jobId = j.jobId) = true then f j' else j').state = j'.state := by
    intro j'
    split
    · exact ⟨hturn j', hstate j'⟩
    · exact ⟨rfl, rfl⟩
  show (s.jobs.rows.map fun j' => if decide (j'.jobId = j.jobId) = true then f j' else j').find? _ =
    _
  rw [List.find?_map]
  simp only [Function.comp_def, (hsame _).1, (hsame _).2]
  rw [show s.jobs.rows.find? _ = some j from h, Option.map_some, if_pos (by simp)]

/-- The calls of a Turn that runs write into its row one after the other. -/
theorem StoreCall.run_all (calls : List StoreCall) (h : s.runningTurn turnId = some j) :
    (calls.foldl (fun s c => (StoreCall.run cfg s turnId c).1) s).runningTurn turnId =
        some (calls.foldl (fun j c => c.write cfg j) j) ∧
      (calls.foldl (fun s c => (StoreCall.run cfg s turnId c).1) s).artifacts = s.artifacts := by
  induction calls generalizing s j with
  | nil => exact ⟨h, rfl⟩
  | cons c calls ih =>
    rw [List.foldl_cons, List.foldl_cons, StoreCall.run_of_some cfg h]
    exact ih (ControllerStore.runningTurn_updateJob h (c.write_turnId cfg) (c.write_state cfg))

/-- A Turn that was bound runs in the job it was bound to. -/
theorem ControllerStore.runningTurn_assignTurn {s s' : ControllerStore} {jobId : String}
    (h : s.assignTurn jobId turnId = .ok s') :
    ∃ j, s'.runningTurn turnId = some j ∧ j.jobId = jobId := by
  simp only [ControllerStore.assignTurn, bind_eq_ok, ensure_eq_ok, orRaise_eq_ok, pure_eq_ok] at h
  obtain ⟨_, _, j, hj, _, hunique, rfl⟩ := h
  obtain ⟨hget, hrun⟩ := s.runningJob_eq_some.mp hj
  have hget' : (s.updateJob jobId fun j => { j with turnId := some turnId }).jobs.get? jobId =
      some { j with turnId := some turnId } := by
    rw [ControllerStore.updateJob_jobs, Table.get?_update_of_get? hget]
  cases hrunning : (s.updateJob jobId fun j => { j with turnId := some turnId }).runningTurn turnId
    with
  | none =>
    have := List.find?_eq_none.mp hrunning _ (Table.mem_of_get? hget')
    simp [hrun] at this
  | some j' =>
    refine ⟨j', rfl, ?_⟩
    obtain ⟨hj', hturn, -⟩ := ControllerStore.runningTurn_some _ hrunning
    by_contra hne
    rw [ControllerStore.updateJob_jobs, Table.get?_update_of_ne _ hne] at hj'
    exact hunique ⟨j', Table.mem_of_get? hj', hturn, hne⟩

end HomeAddons.Controller
