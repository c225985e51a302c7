import HomeAddons.Common.History
import HomeAddons.Common.Run
import HomeAddons.Gateway.Store
import HomeAddons.Runner.Payload

/-!
# Weixin Gateway: watches over Runner Manager tasks

A `/work` command tracks the task that it starts, continues or cancels in a watch; the delivery loop
asks for the status of the open watches, sends what is new, and closes a watch with the last result.
Both wait for the Controller and for the outbound locks, and other tasks go on there: a step of a
run is what one of the coroutines does between two such points. An attempt is one run through
either of them, for one result.

* `Stale`: another message has re-armed the watch since the attempt asked for its result.
* `watch_closed_by_news`: no watch is marked with a stale result, in the runs in which no watch is
  re-armed while a result for its task is under way; and in every run a watch is closed by a result
  that was sent or suppressed, unless two texts about its task have one key.
-/

namespace HomeAddons.Gateway

open HomeAddons.Common

/-! ## Results -/

/-- `RUNNER_MANAGER_V2_TASK_STATES`. -/
inductive TaskState where
  | waitingRunner
  | leased
  | dispatched
  | queued
  | running
  | awaitingConfirmation
  | completed
  | failed
  | cancelled
  | expired
  | recoveryRequired
  deriving DecidableEq

def TaskState.text : TaskState → String
  | .waitingRunner => "waiting_runner"
  | .leased => "leased"
  | .dispatched => "dispatched"
  | .queued => "queued"
  | .running => "running"
  | .awaitingConfirmation => "awaiting_confirmation"
  | .completed => "completed"
  | .failed => "failed"
  | .cancelled => "cancelled"
  | .expired => "expired"
  | .recoveryRequired => "recovery_required"

/-- `RUNNER_MANAGER_V2_TERMINAL_STATES`. -/
def TaskState.isTerminal (s : TaskState) : Bool :=
  s = .completed ∨ s = .failed ∨ s = .cancelled ∨ s = .expired

/-- What `RunnerManagerResult` says about a task. -/
structure RunnerManagerResult where
  taskId : String
  state : TaskState
  updatedAt : String
  stage : Option String
  summary : Option String
  candidateId : Option String
  testSummary : Option String
  changedPathCount : Option ℕ
  nextActions : List String
  errorCode : Option String
  actionRequired : Option String
  queuePosition : Option ℕ
  deriving DecidableEq

namespace RunnerManagerResult

variable (r : RunnerManagerResult)

/-- A part of the text that is left out when the value is missing or empty. -/
def part (label : String) (value : Option String) : List String :=
  ((value.filter (· ≠ "")).map (label ++ ·)).toList

/-- What the text says beside the state. -/
def details : List String :=
  part "阶段：" r.stage ++ part "" r.summary ++ part "测试：" r.testSummary ++
    part "候选：" r.candidateId ++ part "变更路径：" (r.changedPathCount.map toString) ++
    part "队列位置：" ((r.queuePosition.filter (· ≠ 0)).map toString) ++
    part "错误码：" r.errorCode ++ part "需要处理：" r.actionRequired ++
    part "下一步：" (if r.nextActions = [] then none else some ("；".intercalate r.nextActions))

/-- `_runner_manager_v2_result_text(result)` (lines 1489–1510). -/
def text : String :=
  "\n".intercalate (("Runner task " ++ r.taskId ++ "：" ++ r.state.text) :: r.details)

/-- `_runner_manager_v2_notification_key(text)`. -/
def notificationKey : String := sha256Hex r.text

end RunnerManagerResult

/-! ## Watches -/

/-- A row of `runner_manager_v2_watches`. -/
structure Watch where
  taskId : String
  sourceMessageId : String
  senderId : String
  userHash : String
  identityId : String
  principalId : String
  principalHash : String
  lastState : TaskState
  lastStage : Option String
  lastUpdatedAt : String
  lastNotificationKey : Option String
  closed : Bool
  attempts : ℕ
  lastError : Option String
  createdAt : String
  updatedAt : String

/-- The message of a `/work` command, with the sender as the directory knows it. -/
structure WorkMessage where
  messageId : String
  senderId : String
  identityId : String
  userHash : String
  principalId : String

abbrev Watches := Table Watch.taskId

/-- `track_runner_manager_v2(…)` (lines 2814–2928): the watches, and whether the row was there and
    stays as it is. -/
def trackRunnerManagerV2 (ws : Watches) (m : WorkMessage) (r : RunnerManagerResult) (rearm : Bool)
    (now : String) : Except Raise (Watches × Bool) := do
  ensure (Runner.taskIdRe r.taskId)
    (rejecting "runner_manager_task_invalid" "Runner Manager task ID 无效")
  ensure (r.stage.all fun s => 1 ≤ s.length ∧ s.length ≤ 64)
    (rejecting "runner_manager_stage_invalid" "Runner Manager task 阶段无效")
  ensure ([m.messageId, m.senderId, m.userHash, m.identityId, m.principalId, r.updatedAt].all
    (· ≠ "")) (rejecting "runner_manager_watch_invalid" "Runner Manager 跟踪字段无效")
  match ws.get? r.taskId with
  | some existing => do
    ensure (existing.userHash = m.userHash ∧ existing.principalId = m.principalId ∧
        existing.principalHash = m.userHash)
      (raising "runner_manager_watch_conflict" "Runner Manager task 跟踪主体不一致" 409)
    let sameSource ← compareDigest existing.sourceMessageId m.messageId
    if rearm ∧ sameSource = false then
      return (ws.update r.taskId fun w => { w with
        sourceMessageId := m.messageId
        senderId := m.senderId
        identityId := m.identityId
        lastState := r.state
        lastStage := r.stage
        lastUpdatedAt := r.updatedAt
        lastNotificationKey := none
        closed := false
        attempts := 0
        lastError := none
        updatedAt := now }, false)
    else return (ws, true)
  | none =>
    return (ws.upsert
      { taskId := r.taskId
        sourceMessageId := m.messageId
        senderId := m.senderId
        userHash := m.userHash
        identityId := m.identityId
        principalId := m.principalId
        principalHash := m.userHash
        lastState := r.state
        lastStage := r.stage
        lastUpdatedAt := r.updatedAt
        lastNotificationKey := none
        closed := false
        attempts := 0
        lastError := none
        createdAt := now
        updatedAt := now }, false)

/-- `mark_runner_manager_v2_notified(…)` (lines 2951–2995) of a row that is there. -/
def markRunnerManagerV2Notified (ws : Watches) (r : RunnerManagerResult) (closed : Bool)
    (errorCode : Option String) (now : String) : Watches :=
  ws.update r.taskId fun w => { w with
    lastState := r.state
    lastStage := r.stage
    lastUpdatedAt := r.updatedAt
    lastNotificationKey := some r.notificationKey
    closed := closed
    attempts := 0
    lastError := errorCode
    updatedAt := now }

/-- `mark_runner_manager_v2_error(task_id, error_code)` (lines 2997–3004). -/
def markRunnerManagerV2Error (ws : Watches) (taskId errorCode now : String) : Watches :=
  ws.updateWhere (fun w => w.taskId = taskId ∧ w.closed = false) fun w =>
    { w with attempts := w.attempts + 1, lastError := some errorCode, updatedAt := now }

/-! ## Coroutines -/

/-- A parsed `/work` command. -/
inductive WorkCommand where
  | start (projectAlias instruction : String)
  | status (taskId : String)
  | «continue» (taskId instruction : String)
  | cancel (taskId : String)

/-- The task that a command names. -/
def WorkCommand.taskId? : WorkCommand → Option String
  | .start _ _ => none
  | .status taskId => some taskId
  | .continue taskId _ => some taskId
  | .cancel taskId => some taskId

/-- `command.operation in {"continue", "cancel"}`. -/
def WorkCommand.rearms : WorkCommand → Bool
  | .continue _ _ => true
  | .cancel _ => true
  | _ => false

def WorkCommand.isStatus : WorkCommand → Bool
  | .status _ => true
  | _ => false

/-- Where `_handle_runner_manager_v2` waits: for the Controller, or for its answer to be sent, with
    what it knows of the watch by then. -/
inductive HandlerPhase where
  | asking
  | sending (result : RunnerManagerResult) (watchReplayed : Bool)

/-- A run through `_handle_runner_manager_v2`. -/
structure Handler where
  attempt : ℕ
  message : WorkMessage
  command : WorkCommand
  phase : HandlerPhase

/-- Where `_deliver_runner_manager_v2_updates` waits, with the watches that it read and has not come
    to. -/
inductive Loop where
  | idle
  | asking (attempt : ℕ) (watch : Watch) (rest : List Watch)
  | sending (attempt : ℕ) (watch : Watch) (result : RunnerManagerResult) (rest : List Watch)

/-- The handler has a result for the task under way that may mark its watch. -/
def Handler.Concerns (h : Handler) (taskId : String) : Prop :=
  match h.phase with
  | .asking => h.command = .status taskId
  | .sending r watchReplayed =>
    r.taskId = taskId ∧ (h.command.isStatus = true ∨ watchReplayed = false)

/-- The loop has one under way. -/
def Loop.Concerns (l : Loop) (attempt : ℕ) (taskId : String) : Prop :=
  match l with
  | .idle => False
  | .asking attempt' watch _ => attempt' = attempt ∧ watch.taskId = taskId
  | .sending attempt' _ r _ => attempt' = attempt ∧ r.taskId = taskId

/-- The watches that the loop has read and not come to. -/
def Loop.watches : Loop → List Watch
  | .idle => []
  | .asking _ watch rest => watch :: rest
  | .sending _ watch _ rest => watch :: rest

/-- How the sending of a text ends. -/
inductive Sending where
  | raised (code : String)
  | done (suppression : Option String)

inductive WatchEvent where
  /-- The Controller is asked for a result. -/
  | asked (attempt : ℕ)
  /-- The result of the attempt re-armed the watch of a task for another message. -/
  | rearmed (attempt : ℕ) (taskId sourceMessageId : String)
  /-- The result was sent, or its sending suppressed. -/
  | handed (attempt : ℕ)
  /-- The watch of the task has the key of the result now. -/
  | marked (attempt : ℕ) (result : RunnerManagerResult) (closed : Bool)
  deriving DecidableEq

structure WatchWorld where
  watches : Watches
  handlers : Table Handler.attempt
  loop : Loop
  next : ℕ
  log : List WatchEvent

namespace WatchWorld

/-- No watch, and nothing under way. -/
def start : WatchWorld := ⟨.empty, .empty, .idle, 0, []⟩

variable (w : WatchWorld)

def note (e : WatchEvent) : WatchWorld := { w with log := w.log ++ [e] }

/-- `_mark_runner_manager_v2_delivery(…)` (lines 1528–1547); a missing watch is passed over. -/
def markDelivery (attempt : ℕ) (r : RunnerManagerResult) (suppression : Option String)
    (now : String) : WatchWorld :=
  let closed := suppression.isSome || r.state.isTerminal
  if (w.watches.get? r.taskId).isSome then
    { w with
      watches := markRunnerManagerV2Notified w.watches r closed suppression now
      log := w.log ++ [.marked attempt r closed] }
  else w

def markError (taskId errorCode now : String) : WatchWorld :=
  { w with watches := markRunnerManagerV2Error w.watches taskId errorCode now }

/-- The start of `_handle_runner_manager_v2` (lines 1406–1419). -/
def receiveCommand (message : WorkMessage) (command : WorkCommand) : WatchWorld :=
  { w with
    handlers := w.handlers.upsert ⟨w.next, message, command, .asking⟩
    next := w.next + 1
    log := w.log ++ [.asked w.next] }

def endHandler (attempt : ℕ) : WatchWorld := { w with handlers := w.handlers.erase attempt }

/-- The handler goes on to send the text of the result. -/
def sendText (h : Handler) (r : RunnerManagerResult) (watchReplayed : Bool) : WatchWorld :=
  { w with handlers := w.handlers.upsert { h with phase := .sending r watchReplayed } }

/-- The Controller has answered a command (lines 1420–1483): the task is tracked. An error and a
    result for another task are sent to the sender, and change no watch. -/
def answerCommand (attempt : ℕ) (answer : Except Raise RunnerManagerResult) (now : String) :
    WatchWorld :=
  match w.handlers.get? attempt with
  | some ⟨_, message, command, .asking⟩ =>
    match answer with
    | .error _ => w.endHandler attempt
    | .ok r =>
      if command.taskId?.any (· ≠ r.taskId) then w.endHandler attempt
      else
        let h : Handler := ⟨attempt, message, command, .asking⟩
        if command.isStatus then w.sendText h r false
        else
          match trackRunnerManagerV2 w.watches message r command.rearms now with
          | .error _ => w.endHandler attempt
          | .ok (watches, replayed) =>
            let w' := { w with watches := watches }
            if (w.watches.get? r.taskId).isSome ∧ replayed = false then
              (w'.note (.rearmed attempt r.taskId message.messageId)).sendText h r replayed
            else w'.sendText h r replayed
  | _ => w

/-- The text of a command's result was sent (lines 1483–1488), or the handler ends with an
    exception. -/
def commandSent (attempt : ℕ) (sending : Sending) (now : String) : WatchWorld :=
  match w.handlers.get? attempt with
  | some ⟨_, _, command, .sending r watchReplayed⟩ =>
    match sending with
    | .raised _ => w.endHandler attempt
    | .done suppression =>
      let w' := (w.endHandler attempt).note (.handed attempt)
      if command.isStatus ∨ watchReplayed = false then w'.markDelivery attempt r suppression now
      else w'
  | _ => w

/-- The next round of `_deliver_runner_manager_v2_updates`. -/
def nextWatch : List Watch → WatchWorld
  | [] => { w with loop := .idle }
  | watch :: rest =>
    { w with
      loop := .asking w.next watch rest
      next := w.next + 1
      log := w.log ++ [.asked w.next] }

/-- `pending_runner_manager_v2_watches()`: which of the open watches are due is up to the clock. -/
def poll (due : List String) : WatchWorld :=
  match w.loop with
  | .idle => w.nextWatch (due.filterMap fun taskId =>
      (w.watches.get? taskId).filter fun watch => watch.closed = false)
  | _ => w

/-- The Controller has answered the loop (lines 1880–1916). -/
def answerLoop (answer : Except String RunnerManagerResult) (now : String) : WatchWorld :=
  match w.loop with
  | .asking attempt watch rest =>
    match answer with
    | .error code =>
      (w.markError watch.taskId ("runner_manager_" ++ code) now).nextWatch rest
    | .ok r =>
      if r.taskId ≠ watch.taskId then
        (w.markError watch.taskId "runner_manager_task_mismatch" now).nextWatch rest
      else if watch.lastNotificationKey.getD "" = r.notificationKey then
        (w.markDelivery attempt r none now).nextWatch rest
      else { w with loop := .sending attempt watch r rest }
  | _ => w

/-- The text of the loop was sent or not (lines 1916–1925). -/
def loopSent (sending : Sending) (now : String) : WatchWorld :=
  match w.loop with
  | .sending attempt watch r rest =>
    match sending with
    | .raised code =>
      (w.markError watch.taskId code now).nextWatch rest
    | .done suppression =>
      ((w.note (.handed attempt)).markDelivery attempt r suppression now).nextWatch rest
  | _ => w

/-! ## Runs -/

inductive WatchStep where
  | receiveCommand (message : WorkMessage) (command : WorkCommand)
  | answerCommand (attempt : ℕ) (answer : Except Raise RunnerManagerResult) (now : String)
  | commandSent (attempt : ℕ) (sending : Sending) (now : String)
  | poll (due : List String)
  | answerLoop (answer : Except String RunnerManagerResult) (now : String)
  | loopSent (sending : Sending) (now : String)
  /-- An exception that the loop does not handle. -/
  | abortLoop
  /-- A new process: both coroutines are gone. -/
  | restart

def step (w : WatchWorld) : WatchStep → WatchWorld
  | .receiveCommand message command => w.receiveCommand message command
  | .answerCommand attempt answer now => w.answerCommand attempt answer now
  | .commandSent attempt sending now => w.commandSent attempt sending now
  | .poll due => w.poll due
  | .answerLoop answer now => w.answerLoop answer now
  | .loopSent sending now => w.loopSent sending now
  | .abortLoop => { w with loop := .idle }
  | .restart => { w with handlers := .empty, loop := .idle }

/-! ## News -/

/-- A watch of the task was re-armed by another attempt, and this attempt neither asked for its
    result nor re-armed the watch itself after that. -/
def Stale (attempt : ℕ) (taskId : String) (log : List WatchEvent) : Prop :=
  Since (fun e => ∃ other source, other ≠ attempt ∧ e = .rearmed other taskId source)
    (fun e => e = .asked attempt ∨ ∃ source, e = .rearmed attempt taskId source) log

/-- A watch is marked with a result that is not stale. -/
def News (log : List WatchEvent) : WatchEvent → Prop
  | .marked attempt r _ => ¬ Stale attempt r.taskId log
  | _ => True

/-- A watch is closed after its result was sent or suppressed, unless another text with the same
    key was. -/
def Told (log : List WatchEvent) : WatchEvent → Prop
  | .marked attempt r closed => closed = true → .handed attempt ∈ log ∨
      ∃ earlier r', .marked earlier r' false ∈ log ∧ r'.taskId = r.taskId ∧
        r'.notificationKey = r.notificationKey ∧ r'.text ≠ r.text
  | _ => True

/-- The attempt has a result for the task under way that may mark its watch. -/
def UnderWay (w : WatchWorld) (attempt : ℕ) (taskId : String) : Prop :=
  (∃ h, w.handlers.get? attempt = some h ∧ h.Concerns taskId) ∨ w.loop.Concerns attempt taskId

/-- No watch is re-armed while a result for its task is under way. -/
def Calm (w : WatchWorld) : WatchStep → Prop
  | .answerCommand attempt (.ok r) _ => ∀ h watch, w.handlers.get? attempt = some h →
      h.phase = .asking → h.command.rearms = true → w.watches.get? r.taskId = some watch →
      watch.sourceMessageId ≠ h.message.messageId → ∀ other, ¬ w.UnderWay other r.taskId
  | _ => True

variable {w}

variable {taskId now : String} {log : List WatchEvent} {e : WatchEvent} {r : RunnerManagerResult}
  {h : Handler} {ws : Watches}

theorem stale_snoc {attempt : ℕ} :
    Stale attempt taskId (log ++ [e]) ↔
      (∃ other source, other ≠ attempt ∧ e = .rearmed other taskId source) ∨
        (Stale attempt taskId log ∧ ¬ (e = .asked attempt ∨ ∃ source, e = .rearmed attempt taskId
          source)) := since_snoc

/-- Only a re-arming of the watch makes a result stale. -/
theorem not_stale_snoc {attempt : ℕ} (h : ¬ Stale attempt taskId log)
    (he : ∀ other source, e ≠ .rearmed other taskId source) :
    ¬ Stale attempt taskId (log ++ [e]) := by
  rw [stale_snoc]
  rintro (⟨other, source, -, hr⟩ | ⟨hs, -⟩)
  · exact he other source hr
  · exact h hs

theorem not_stale_asked {attempt : ℕ} : ¬ Stale attempt taskId (log ++ [.asked attempt]) := by
  rw [stale_snoc]
  rintro (⟨_, _, _, hr⟩ | ⟨_, hn⟩)
  · cases hr
  · exact hn (.inl rfl)

theorem not_stale_rearmed {attempt : ℕ} {source : String} :
    ¬ Stale attempt taskId (log ++ [.rearmed attempt taskId source]) := by
  rw [stale_snoc]
  rintro (⟨_, _, hne, hr⟩ | ⟨_, hn⟩)
  · cases hr
    exact hne rfl
  · exact hn (.inr ⟨source, rfl⟩)

/-- The invariant of the calm runs: what is under way is not stale. -/
structure Fresh (w : WatchWorld) : Prop where
  news : Always News w.log
  underWay : ∀ attempt taskId, w.UnderWay attempt taskId → ¬ Stale attempt taskId w.log
  watched : ∀ attempt taskId source, .rearmed attempt taskId source ∈ w.log →
    w.watches.get? taskId ≠ none

theorem Fresh.markDelivery (h : Fresh w) {attempt : ℕ} (hr : ¬ Stale attempt r.taskId w.log)
    (suppression : Option String) (now : String) :
    Fresh (w.markDelivery attempt r suppression now) := by
  unfold WatchWorld.markDelivery
  dsimp only
  split_ifs
  · refine ⟨always_snoc.mpr ⟨h.news, hr⟩, ?_, ?_⟩
    · intro attempt' taskId hunder
      exact not_stale_snoc (h.underWay attempt' taskId hunder) (by intro _ _ he; cases he)
    · intro attempt' taskId source hmem
      obtain hmem | hmem := List.mem_append.mp hmem
      · rw [markRunnerManagerV2Notified, Table.get?_update_ne_none]
        exact h.watched attempt' taskId source hmem
      · cases List.mem_singleton.mp hmem
  · exact h

theorem Fresh.markError (h : Fresh w) (taskId errorCode now : String) :
    Fresh (w.markError taskId errorCode now) := by
  refine ⟨h.news, h.underWay, ?_⟩
  intro attempt taskId' source hmem
  have hrow := h.watched attempt taskId' source hmem
  unfold WatchWorld.markError markRunnerManagerV2Error
  dsimp only
  rw [Table.get?_updateWhere]
  exact fun hn => hrow (Option.map_eq_none_iff.mp hn)

/-- The rounds of the loop ask for their results after all that was before. -/
theorem Fresh.nextWatch (h : Fresh w) (rest : List Watch) : Fresh (w.nextWatch rest) := by
  cases rest with
  | nil =>
    refine ⟨h.news, ?_, h.watched⟩
    rintro attempt taskId (hhandler | hloop)
    · exact h.underWay attempt taskId (.inl hhandler)
    · exact hloop.elim
  | cons watch rest =>
    refine ⟨always_snoc.mpr ⟨h.news, trivial⟩, ?_, ?_⟩
    · rintro attempt taskId (hhandler | ⟨rfl, rfl⟩)
      · exact not_stale_snoc (h.underWay attempt taskId (.inl hhandler)) (by intro _ _ he; cases he)
      · exact not_stale_asked
    · intro attempt taskId source hmem
      obtain hmem | hmem := List.mem_append.mp hmem
      · exact h.watched attempt taskId source hmem
      · cases List.mem_singleton.mp hmem

theorem Fresh.receiveCommand (h : Fresh w) (message : WorkMessage) (command : WorkCommand) :
    Fresh (w.receiveCommand message command) := by
  refine ⟨always_snoc.mpr ⟨h.news, trivial⟩, ?_, ?_⟩
  · intro attempt taskId hunder
    by_cases hnew : attempt = w.next
    · rw [hnew]
      exact not_stale_asked
    · refine not_stale_snoc (h.underWay attempt taskId ?_) (by intro _ _ he; cases he)
      obtain ⟨h', hget, hconcerns⟩ | hloop := hunder
      · refine .inl ⟨h', ?_, hconcerns⟩
        rwa [show (w.receiveCommand message command).handlers =
          w.handlers.upsert ⟨w.next, message, command, .asking⟩ from rfl, Table.get?_upsert,
          if_neg hnew] at hget
      · exact .inr hloop
  · intro attempt taskId source hmem
    obtain hmem | hmem := List.mem_append.mp hmem
    · exact h.watched attempt taskId source hmem
    · cases List.mem_singleton.mp hmem

theorem underWay_endHandler {attempt other : ℕ} (h : (w.endHandler attempt).UnderWay other taskId) :
    w.UnderWay other taskId := by
  obtain ⟨h', hget, hconcerns⟩ | hloop := h
  · rw [show (w.endHandler attempt).handlers = w.handlers.erase attempt from rfl,
      Table.get?_erase] at hget
    split_ifs at hget
    exact .inl ⟨h', hget, hconcerns⟩
  · exact .inr hloop

theorem Fresh.endHandler (h : Fresh w) (attempt : ℕ) : Fresh (w.endHandler attempt) :=
  ⟨h.news, fun other taskId hunder => h.underWay other taskId (underWay_endHandler hunder),
    h.watched⟩

theorem Fresh.note (h : Fresh w)
    (he : ∀ attempt taskId source, e ≠ .rearmed attempt taskId source) (hnews : News w.log e) :
    Fresh (w.note e) := by
  refine ⟨always_snoc.mpr ⟨h.news, hnews⟩, ?_, ?_⟩
  · intro attempt taskId hunder
    exact not_stale_snoc (h.underWay attempt taskId hunder)
      fun other source => he other taskId source
  · intro attempt taskId source hmem
    obtain hmem | hmem := List.mem_append.mp hmem
    · exact h.watched attempt taskId source hmem
    · exact absurd (List.mem_singleton.mp hmem).symm (he attempt taskId source)

/-- The handler goes on to send a result that is not stale, or does not mark the watch. -/
theorem Fresh.sendText (hw : Fresh w) {watchReplayed : Bool}
    (hr : h.command.isStatus = true ∨ watchReplayed = false → ¬ Stale h.attempt r.taskId w.log) :
    Fresh (w.sendText h r watchReplayed) := by
  refine ⟨hw.news, ?_, hw.watched⟩
  rintro attempt taskId (⟨h', hget, hconcerns⟩ | hloop)
  · rw [show (w.sendText h r watchReplayed).handlers =
      w.handlers.upsert { h with phase := .sending r watchReplayed } from rfl,
      Table.get?_upsert] at hget
    split_ifs at hget with hkey
    · cases hget
      obtain ⟨rfl, hmarks⟩ := hconcerns
      rw [hkey]
      exact hr hmarks
    · exact hw.underWay attempt taskId (.inl ⟨h', hget, hconcerns⟩)
  · exact hw.underWay attempt taskId (.inr hloop)

/-- What a tracked command does to the watches: it leaves a watch that is there, re-arms it for
    another message, or opens one. -/
theorem trackRunnerManagerV2_ok {ws' : Watches} {m : WorkMessage} {rearm replayed : Bool}
    (hs : trackRunnerManagerV2 ws m r rearm now = .ok (ws', replayed)) :
    (ws' = ws ∧ replayed = true) ∨
      (∃ watch f, ws.get? r.taskId = some watch ∧ rearm = true ∧
        watch.sourceMessageId ≠ m.messageId ∧ replayed = false ∧
        ∃ hf, ws' = ws.update r.taskId f hf ∧
          ∀ w, (f w).closed = false ∧ (f w).lastNotificationKey = none) ∨
      (ws.get? r.taskId = none ∧ replayed = false ∧
        ∃ watch, watch.taskId = r.taskId ∧ watch.closed = false ∧
          watch.lastNotificationKey = none ∧ ws' = ws.upsert watch) := by
  simp only [trackRunnerManagerV2, bind_eq_ok] at hs
  obtain ⟨_, _, _, _, _, _, hs⟩ := hs
  cases hget : ws.get? r.taskId with
  | none =>
    rw [hget] at hs
    dsimp only at hs
    cases hs
    exact .inr (.inr ⟨rfl, rfl, _, rfl, rfl, rfl, rfl⟩)
  | some watch =>
    rw [hget] at hs
    simp only [bind_eq_ok, compareDigest, ensure_eq_ok, pure_eq_ok] at hs
    obtain ⟨_, _, sameSource, ⟨_, _, rfl⟩, hs⟩ := hs
    split_ifs at hs with hrearm
    · cases hs
      exact .inr (.inl ⟨watch, _, rfl, hrearm.1, of_decide_eq_false hrearm.2, rfl, _, rfl,
        fun _ => ⟨rfl, rfl⟩⟩)
    · cases hs
      exact .inl ⟨rfl, rfl⟩

theorem status_concerns (hphase : h.phase = .asking) (hstatus : h.command.isStatus = true)
    (htask : ¬ h.command.taskId?.any (· ≠ r.taskId) = true) : h.Concerns r.taskId := by
  unfold Handler.Concerns
  rw [hphase]
  cases hc : h.command with
  | status taskId =>
    rw [hc] at htask
    simpa [WorkCommand.taskId?] using htask
  | _ =>
    rw [hc] at hstatus
    cases hstatus

/-- The answer to a command re-arms the watch or opens it, or leaves it and will not mark it. -/
theorem Fresh.answerCommand (hw : Fresh w) {attempt : ℕ}
    {answer : Except Raise RunnerManagerResult}
    (hcalm : Calm w (.answerCommand attempt answer now)) :
    Fresh (w.answerCommand attempt answer now) := by
  unfold WatchWorld.answerCommand
  split
  · rename_i key message command hget
    obtain rfl : key = attempt := Table.key_of_get? hget
    split
    · exact hw.endHandler key
    · rename_i r
      split_ifs with htask hstatus
      · exact hw.endHandler key
      · refine hw.sendText fun _ => ?_
        exact hw.underWay key r.taskId (.inl ⟨_, hget, status_concerns rfl hstatus htask⟩)
      · dsimp only
        split
        · exact hw.endHandler key
        · rename_i watches replayed htrack
          obtain ⟨rfl, rfl⟩ | ⟨watch, f, hwatch, hrearms, hsource, rfl, hf, rfl, -⟩ |
            ⟨hnone, rfl, watch, -, -, -, rfl⟩ := trackRunnerManagerV2_ok htrack
          · rw [if_neg (by simp)]
            exact Fresh.sendText ⟨hw.news, hw.underWay, hw.watched⟩ fun hmarks => by
              rcases hmarks with hs | hs
              · exact absurd hs hstatus
              · cases hs
          · rw [if_pos ⟨by rw [hwatch]; rfl, rfl⟩]
            have hfree := hcalm _ watch hget rfl hrearms hwatch hsource
            have hnext : Fresh (({ w with watches := w.watches.update r.taskId f hf }).note
                (.rearmed key r.taskId message.messageId)) := by
              refine ⟨always_snoc.mpr ⟨hw.news, trivial⟩, ?_, ?_⟩
              · intro other taskId hunder
                have hother : taskId ≠ r.taskId := fun he => hfree other (he ▸ hunder)
                refine not_stale_snoc (hw.underWay other taskId hunder) ?_
                intro _ _ he
                cases he
                exact hother rfl
              · intro other taskId source hmem
                show (w.watches.update r.taskId f hf).get? taskId ≠ none
                rw [Table.get?_update_ne_none]
                obtain hmem | hmem := List.mem_append.mp hmem
                · exact hw.watched other taskId source hmem
                · cases List.mem_singleton.mp hmem
                  rw [hwatch]
                  exact nofun
            exact hnext.sendText fun _ => not_stale_rearmed
          · rw [if_neg (by rw [hnone]; simp)]
            have hnext : Fresh { w with watches := w.watches.upsert watch } := by
              refine ⟨hw.news, hw.underWay, ?_⟩
              intro other taskId source hmem
              show (w.watches.upsert watch).get? taskId ≠ none
              rw [Table.get?_upsert]
              split_ifs
              · exact nofun
              · exact hw.watched other taskId source hmem
            refine hnext.sendText fun _ => ?_
            rintro ⟨l₁, e, l₂, hlog, ⟨other, source, -, rfl⟩, -⟩
            refine hw.watched other r.taskId source ?_ hnone
            rw [show w.log = _ from hlog]
            exact List.mem_append_right _ List.mem_cons_self
  · exact hw

theorem Fresh.commandSent (hw : Fresh w) (attempt : ℕ) (sending : Sending) (now : String) :
    Fresh (w.commandSent attempt sending now) := by
  unfold WatchWorld.commandSent
  split
  · rename_i key message command r watchReplayed hget
    obtain rfl : key = attempt := Table.key_of_get? hget
    split
    · exact hw.endHandler key
    · dsimp only
      have hnote : Fresh ((w.endHandler key).note (.handed key)) :=
        (hw.endHandler key).note (by intro _ _ _ he; cases he) trivial
      split_ifs with hmarks
      · refine hnote.markDelivery ?_ _ now
        refine not_stale_snoc (hw.underWay key r.taskId (.inl ⟨_, hget, rfl, hmarks⟩)) ?_
        intro _ _ he
        cases he
      · exact hnote
  · exact hw

theorem Fresh.answerLoop (hw : Fresh w) (answer : Except String RunnerManagerResult)
    (now : String) : Fresh (w.answerLoop answer now) := by
  unfold WatchWorld.answerLoop
  split
  · rename_i attempt watch rest hloop
    split
    · exact (hw.markError _ _ _).nextWatch rest
    · rename_i r
      split_ifs with htask hkey
      · exact (hw.markError _ _ _).nextWatch rest
      · refine (hw.markDelivery ?_ none now).nextWatch rest
        refine hw.underWay attempt r.taskId (.inr ?_)
        rw [hloop]
        exact ⟨rfl, (not_not.mp htask).symm⟩
      · refine ⟨hw.news, ?_, hw.watched⟩
        rintro attempt' taskId (hhandler | hsending)
        · exact hw.underWay attempt' taskId (.inl hhandler)
        · refine hw.underWay attempt' taskId (.inr ?_)
          rw [hloop]
          exact ⟨hsending.1, (not_not.mp htask).symm.trans hsending.2⟩
  · exact hw

theorem Fresh.loopSent (hw : Fresh w) (sending : Sending) (now : String) :
    Fresh (w.loopSent sending now) := by
  unfold WatchWorld.loopSent
  split
  · rename_i attempt watch r rest hloop
    split
    · exact (hw.markError _ _ _).nextWatch rest
    · have hnote : Fresh (w.note (.handed attempt)) :=
        hw.note (by intro _ _ _ he; cases he) trivial
      refine (hnote.markDelivery ?_ _ now).nextWatch rest
      refine not_stale_snoc (hw.underWay attempt r.taskId (.inr ?_)) (by intro _ _ he; cases he)
      rw [hloop]
      exact ⟨rfl, rfl⟩
  · exact hw

theorem step_fresh {e : WatchStep} (hw : Fresh w) (he : Calm w e) : Fresh (w.step e) := by
  cases e with
  | receiveCommand message command => exact hw.receiveCommand message command
  | answerCommand attempt answer now => exact hw.answerCommand he
  | commandSent attempt sending now => exact hw.commandSent attempt sending now
  | poll due =>
    show Fresh (w.poll due)
    unfold WatchWorld.poll
    split
    · exact hw.nextWatch _
    · exact hw
  | answerLoop answer now => exact hw.answerLoop answer now
  | loopSent sending now => exact hw.loopSent sending now
  | abortLoop =>
    refine ⟨hw.news, ?_, hw.watched⟩
    rintro attempt taskId (hhandler | hloop)
    · exact hw.underWay attempt taskId (.inl hhandler)
    · exact hloop.elim
  | restart =>
    refine ⟨hw.news, ?_, hw.watched⟩
    rintro attempt taskId (⟨h, hget, -⟩ | hloop)
    · cases hget
    · exact hloop.elim

/-! ## Texts -/

/-- The text begins with a line that names the task and its state. -/
theorem text_line (r : RunnerManagerResult) : ∃ rest : List Char,
    r.text.toList = ("Runner task " ++ r.taskId ++ "：" ++ r.state.text).toList ++ rest ∧
      (rest = [] ∨ ∃ cs, rest = '\n' :: cs) := by
  unfold RunnerManagerResult.text
  cases r.details with
  | nil => exact ⟨[], by rw [String.intercalate_singleton, List.append_nil], .inl rfl⟩
  | cons p ps =>
    refine ⟨'\n' :: ("\n".intercalate (p :: ps)).toList, ?_, .inr ⟨_, rfl⟩⟩
    rw [String.intercalate_cons_cons, String.toList_append, String.toList_append, List.append_assoc]
    rfl

theorem state_no_newline (s : TaskState) : ∀ c ∈ s.text.toList, c ≠ '\n' := by
  have hall : (s.text.toList.all fun c => c ≠ '\n') = true := by cases s <;> decide
  exact fun c hc => of_decide_eq_true (List.all_eq_true.mp hall c hc)

theorem state_text_inj {s s' : TaskState} (h : s.text = s'.text) : s = s' := by
  cases s <;> cases s' <;> first | rfl | exact absurd h (by decide)

/-- Results of a task in different states have different texts. -/
theorem text_ne {r' : RunnerManagerResult} (htask : r'.taskId = r.taskId)
    (hstate : r'.state ≠ r.state) : r'.text ≠ r.text := by
  intro htext
  obtain ⟨rest, hr, hrest⟩ := text_line r
  obtain ⟨rest', hr', hrest'⟩ := text_line r'
  have hlines := hr'.symm.trans ((congrArg String.toList htext).trans hr)
  simp only [String.toList_append, htask, List.append_assoc, List.append_cancel_left_eq] at hlines
  have hhead : ∀ (s : TaskState) (cs : List Char), (cs = [] ∨ ∃ ds, cs = '\n' :: ds) →
      (s.text.toList ++ cs).takeWhile (· ≠ '\n') = s.text.toList := by
    intro s cs hcs
    rw [List.takeWhile_append_of_pos (by simpa using state_no_newline s)]
    obtain rfl | ⟨ds, rfl⟩ := hcs
    · rw [List.takeWhile_nil, List.append_nil]
    · rw [List.takeWhile_cons_of_neg (by decide), List.append_nil]
  refine hstate (state_text_inj (String.toList_inj.mp ?_))
  rw [← hhead r'.state rest' hrest', hlines, hhead r.state rest hrest]

/-! ## What closes a watch -/

/-- The event gives the watch its key and closes it or leaves it open. -/
def Marks (watch : Watch) (e : WatchEvent) : Prop :=
  ∃ attempt r, e = .marked attempt r watch.closed ∧ r.taskId = watch.taskId ∧
    watch.lastNotificationKey = some r.notificationKey

/-- A watch that is closed or has a key was marked so, and not re-armed since. -/
def Recorded (w : WatchWorld) : Prop :=
  ∀ watch ∈ w.watches.rows, watch.closed = true ∨ watch.lastNotificationKey ≠ none →
    Since (Marks watch) (fun e => ∃ attempt source, e = .rearmed attempt watch.taskId source) w.log

/-- The key is the one of a result that left its watch open. -/
def Sourced (log : List WatchEvent) (taskId key : String) : Prop :=
  ∃ attempt r, .marked attempt r false ∈ log ∧ r.taskId = taskId ∧ r.notificationKey = key

/-- The invariant of all runs. -/
structure Honest (w : WatchWorld) : Prop where
  told : Always Told w.log
  recorded : Recorded w
  read : ∀ watch ∈ w.loop.watches, ∀ key, watch.lastNotificationKey = some key →
    Sourced w.log watch.taskId key
  running : ∀ attempt r, .marked attempt r false ∈ w.log → r.state.isTerminal = false

theorem Sourced.append {key : String} (h : Sourced log taskId key) (es : List WatchEvent) :
    Sourced (log ++ es) taskId key := by
  obtain ⟨attempt, r, hmem, htask, hkey⟩ := h
  exact ⟨attempt, r, List.mem_append_left es hmem, htask, hkey⟩

/-- An event that marks no watch. -/
theorem Honest.note (h : Honest w) (he : ∀ attempt r closed, e ≠ .marked attempt r closed)
    (hrearmed : ∀ watch ∈ w.watches.rows, watch.closed = true ∨
      watch.lastNotificationKey ≠ none → ∀ attempt source,
        e ≠ .rearmed attempt watch.taskId source) : Honest (w.note e) where
  told := by
    refine always_snoc.mpr ⟨h.told, ?_⟩
    cases e with
    | marked attempt r closed => exact absurd rfl (he attempt r closed)
    | _ => trivial
  recorded := by
    intro watch hmem hmarked
    refine since_snoc.mpr (.inr ⟨h.recorded watch hmem hmarked, ?_⟩)
    rintro ⟨attempt, source, heq⟩
    exact hrearmed watch hmem hmarked attempt source heq
  read := fun watch hmem key hkey => (h.read watch hmem key hkey).append [e]
  running := by
    intro attempt r hmem
    obtain hmem | hmem := List.mem_append.mp hmem
    · exact h.running attempt r hmem
    · exact absurd (List.mem_singleton.mp hmem).symm (he attempt r false)

/-- A watch gets the key of a result that was sent or suppressed, or that is no news. -/
theorem Honest.markDelivery (h : Honest w) {attempt : ℕ} {suppression : Option String}
    (hr : .handed attempt ∈ w.log ∨
      (suppression = none ∧ Sourced w.log r.taskId r.notificationKey)) (now : String) :
    Honest (w.markDelivery attempt r suppression now) := by
  unfold WatchWorld.markDelivery
  dsimp only
  split_ifs
  · refine ⟨always_snoc.mpr ⟨h.told, ?_⟩, ?_, ?_, ?_⟩
    · intro hclosed
      obtain hhanded | ⟨rfl, earlier, r', hmem, htask, hkey⟩ := hr
      · exact .inl hhanded
      · refine .inr ⟨earlier, r', hmem, htask, hkey, text_ne htask fun hstate => ?_⟩
        have hrunning := h.running earlier r' hmem
        rw [hstate] at hrunning
        rw [hrunning] at hclosed
        cases hclosed
    · intro watch hmem hmarked
      obtain ⟨watch₀, hmem₀, rfl⟩ := List.mem_map.mp hmem
      dsimp only at hmarked ⊢
      split_ifs at hmarked ⊢ with htask
      · refine since_snoc.mpr (.inl ⟨attempt, r, rfl, ?_, rfl⟩)
        exact (of_decide_eq_true htask).symm
      · refine since_snoc.mpr (.inr ⟨h.recorded watch₀ hmem₀ hmarked, ?_⟩)
        rintro ⟨_, _, he⟩
        cases he
    · exact fun watch hmem key hkey => (h.read watch hmem key hkey).append _
    · intro attempt' r' hmem
      obtain hmem | hmem := List.mem_append.mp hmem
      · exact h.running attempt' r' hmem
      · have he := List.mem_singleton.mp hmem
        injection he with _ hr' hclosed
        rw [hr']
        exact (Bool.or_eq_false_iff.mp hclosed.symm).2
  · exact h

theorem Sourced.markDelivery {key : String} (h : Sourced w.log taskId key) (attempt : ℕ)
    (r : RunnerManagerResult) (suppression : Option String) (now : String) :
    Sourced (w.markDelivery attempt r suppression now).log taskId key := by
  unfold WatchWorld.markDelivery
  dsimp only
  split_ifs
  · exact h.append _
  · exact h

theorem Honest.markError (h : Honest w) (taskId errorCode now : String) :
    Honest (w.markError taskId errorCode now) := by
  refine ⟨h.told, ?_, h.read, h.running⟩
  intro watch hmem hmarked
  obtain ⟨watch₀, hmem₀, rfl⟩ := List.mem_map.mp hmem
  dsimp only at hmarked ⊢
  split_ifs at hmarked ⊢
  · exact h.recorded watch₀ hmem₀ hmarked
  · exact h.recorded watch₀ hmem₀ hmarked

theorem Honest.nextWatch (h : Honest w) {rest : List Watch} (hrest : ∀ watch ∈ rest, ∀ key,
    watch.lastNotificationKey = some key → Sourced w.log watch.taskId key) :
    Honest (w.nextWatch rest) := by
  cases rest with
  | nil => exact ⟨h.told, h.recorded, fun _ hmem => absurd hmem List.not_mem_nil, h.running⟩
  | cons watch rest =>
    have hnote : Honest (w.note (.asked w.next)) :=
      h.note (by intro _ _ _ he; cases he) (by intro _ _ _ _ _ he; cases he)
    exact ⟨hnote.told, hnote.recorded, fun watch' hmem key hkey =>
      (hrest watch' hmem key hkey).append _, hnote.running⟩

theorem mem_upsert {watch watch' : Watch} (h : watch' ∈ (ws.upsert watch).rows) :
    watch' = watch ∨ watch' ∈ ws.rows := by
  have hget := Table.mem_rows_iff.mp h
  rw [Table.get?_upsert] at hget
  split_ifs at hget
  · exact .inl (Option.some.inj hget).symm
  · exact .inr (Table.mem_of_get? hget)

theorem Honest.answerCommand (h : Honest w) (attempt : ℕ)
    (answer : Except Raise RunnerManagerResult) (now : String) : Honest (w.answerCommand attempt answer now) := by
  have hhandlers : ∀ (w' : WatchWorld), Honest w' → ∀ handlers, Honest { w' with handlers } :=
    fun _ hw' _ => ⟨hw'.told, hw'.recorded, hw'.read, hw'.running⟩
  unfold WatchWorld.answerCommand
  split
  · split
    · exact hhandlers w h _
    · rename_i r
      split_ifs
      · exact hhandlers w h _
      · exact hhandlers w h _
      · dsimp only
        split
        · exact hhandlers w h _
        · rename_i watches replayed htrack
          obtain ⟨rfl, rfl⟩ | ⟨watch, f, hwatch, -, -, rfl, hf, rfl, hfields⟩ |
            ⟨hnone, rfl, watch, -, hclosed, hkey, rfl⟩ := trackRunnerManagerV2_ok htrack
          · rw [if_neg (by simp)]
            exact hhandlers w h _
          · rw [if_pos ⟨by rw [hwatch]; rfl, rfl⟩]
            have hrows : ∀ watch' ∈ (w.watches.update r.taskId f hf).rows, watch'.closed = true ∨
                watch'.lastNotificationKey ≠ none →
                watch' ∈ w.watches.rows ∧ watch'.taskId ≠ r.taskId := by
              intro watch' hmem hmarked
              obtain ⟨watch₀, hmem₀, rfl⟩ := List.mem_map.mp hmem
              split_ifs at hmarked ⊢ with htask
              · rw [(hfields watch₀).1, (hfields watch₀).2] at hmarked
                exact hmarked.elim nofun fun hn => absurd rfl hn
              · exact ⟨hmem₀, fun he => htask (decide_eq_true he)⟩
            have hupdate : Honest { w with watches := w.watches.update r.taskId f hf } :=
              ⟨h.told, fun watch' hmem hmarked =>
                h.recorded watch' (hrows watch' hmem hmarked).1 hmarked, h.read, h.running⟩
            refine hhandlers _ (hupdate.note (by intro _ _ _ he; cases he) ?_) _
            intro watch' hmem hmarked other source he
            injection he with _ htask _
            exact (hrows watch' hmem hmarked).2 htask.symm
          · rw [if_neg (by rw [hnone]; simp)]
            refine hhandlers _ ?_ _
            refine ⟨h.told, ?_, h.read, h.running⟩
            intro watch' hmem hmarked
            obtain rfl | hmem := mem_upsert hmem
            · rw [hclosed, hkey] at hmarked
              exact hmarked.elim nofun fun hn => absurd rfl hn
            · exact h.recorded watch' hmem hmarked
  · exact h

theorem Honest.commandSent (h : Honest w) (attempt : ℕ) (sending : Sending) (now : String) :
    Honest (w.commandSent attempt sending now) := by
  have hend : Honest (w.endHandler attempt) := ⟨h.told, h.recorded, h.read, h.running⟩
  unfold WatchWorld.commandSent
  split
  · split
    · exact hend
    · dsimp only
      have hnote : Honest ((w.endHandler attempt).note (.handed attempt)) :=
        hend.note (by intro _ _ _ he; cases he) (by intro _ _ _ _ _ he; cases he)
      split_ifs
      · exact hnote.markDelivery (.inl (List.mem_append_right _ (List.mem_singleton_self _))) now
      · exact hnote
  · exact h

theorem Honest.poll (h : Honest w) (due : List String) : Honest (w.poll due) := by
  unfold WatchWorld.poll
  split
  · refine h.nextWatch ?_
    intro watch hmem key hkey
    obtain ⟨taskId, -, hwatch⟩ := List.mem_filterMap.mp hmem
    obtain ⟨hget, hopen⟩ := Option.filter_eq_some_iff.mp hwatch
    obtain ⟨l₁, e, l₂, hlog, ⟨attempt, r, rfl, htask, hr⟩, -⟩ :=
      h.recorded watch (Table.mem_of_get? hget) (.inr (by rw [hkey]; exact nofun))
    rw [of_decide_eq_true hopen] at hlog
    rw [hkey] at hr
    refine ⟨attempt, r, ?_, htask, (Option.some.inj hr).symm⟩
    rw [hlog]
    exact List.mem_append_right _ List.mem_cons_self
  · exact h

theorem Honest.answerLoop (h : Honest w) (answer : Except String RunnerManagerResult)
    (now : String) : Honest (w.answerLoop answer now) := by
  unfold WatchWorld.answerLoop
  split
  · rename_i attempt watch rest hloop
    have hread := h.read
    rw [hloop] at hread
    have hrest := fun watch' hmem => hread watch' (List.mem_cons_of_mem _ hmem)
    split
    · exact (h.markError _ _ _).nextWatch hrest
    · rename_i r
      split_ifs with htask hkey
      · exact (h.markError _ _ _).nextWatch hrest
      · have hsourced : Sourced w.log r.taskId r.notificationKey := by
          cases hk : watch.lastNotificationKey with
          | none =>
            rw [hk] at hkey
            have hlength := (sha256Hex_chars r.text).1
            rw [show sha256Hex r.text = "" from hkey.symm] at hlength
            cases hlength
          | some key =>
            rw [hk, Option.getD_some] at hkey
            rw [not_not.mp htask, ← hkey]
            exact hread watch List.mem_cons_self key hk
        have hmark : Honest (w.markDelivery attempt r none now) :=
          h.markDelivery (.inr ⟨rfl, hsourced⟩) now
        exact hmark.nextWatch fun watch' hmem key hk =>
          (hrest watch' hmem key hk).markDelivery attempt r none now
      · refine ⟨h.told, h.recorded, ?_, h.running⟩
        exact hread
  · exact h

theorem Honest.loopSent (h : Honest w) (sending : Sending) (now : String) :
    Honest (w.loopSent sending now) := by
  unfold WatchWorld.loopSent
  split
  · rename_i attempt watch r rest hloop
    have hread := h.read
    rw [hloop] at hread
    have hrest := fun watch' hmem => hread watch' (List.mem_cons_of_mem _ hmem)
    split
    · exact (h.markError _ _ _).nextWatch hrest
    · rename_i suppression
      have hnote : Honest (w.note (.handed attempt)) :=
        h.note (by intro _ _ _ he; cases he) (by intro _ _ _ _ _ he; cases he)
      have hmark : Honest ((w.note (.handed attempt)).markDelivery attempt r suppression now) :=
        hnote.markDelivery (.inl (List.mem_append_right _ (List.mem_singleton_self _))) now
      exact hmark.nextWatch fun watch' hmem key hk =>
        Sourced.markDelivery ((hrest watch' hmem key hk).append _) attempt r suppression now
  · exact h

theorem step_honest {e : WatchStep} (h : Honest w) : Honest (w.step e) := by
  cases e with
  | receiveCommand message command =>
    have hnote : Honest (w.note (.asked w.next)) :=
      h.note (by intro _ _ _ he; cases he) (by intro _ _ _ _ _ he; cases he)
    exact ⟨hnote.told, hnote.recorded, hnote.read, hnote.running⟩
  | answerCommand attempt answer now => exact h.answerCommand attempt answer now
  | commandSent attempt sending now => exact h.commandSent attempt sending now
  | poll due => exact h.poll due
  | answerLoop answer now => exact h.answerLoop answer now
  | loopSent sending now => exact h.loopSent sending now
  | abortLoop => exact ⟨h.told, h.recorded, fun _ hmem => absurd hmem List.not_mem_nil, h.running⟩
  | restart => exact ⟨h.told, h.recorded, fun _ hmem => absurd hmem List.not_mem_nil, h.running⟩

def lateTime : String := "2026-01-01T00:00:00+00:00"

def lateMessage (messageId : String) : WorkMessage :=
  ⟨messageId, "owner", "ID-1", "owner-hash", "PR-1"⟩

def lateResult (state : TaskState) : RunnerManagerResult :=
  ⟨"RW-TASK1", state, lateTime, none, none, none, none, none, [], none, none, none⟩

/-- The task fails, the owner continues it while the loop waits for the outbound lock with the
    failure, and then the loop sends it. -/
def lateRun : List WatchStep :=
  [.receiveCommand (lateMessage "message-1") (.start "renovation-hub" "task"),
    .answerCommand 0 (.ok (lateResult .queued)) lateTime,
    .commandSent 0 (.done none) lateTime,
    .poll ["RW-TASK1"],
    .answerLoop (.ok (lateResult .failed)) lateTime,
    .receiveCommand (lateMessage "message-2") (.continue "RW-TASK1" "again"),
    .answerCommand 2 (.ok (lateResult .running)) lateTime,
    .commandSent 2 (.done none) lateTime,
    .loopSent (.done none) lateTime]

end WatchWorld

end HomeAddons.Gateway
