import HomeAddons.Controller.Dispatch

/-!
# Codex Controller: what a failed job means

A job that `_dispatch` leaves in `failed` invites its sender to ask again, so that nothing that was
asked for it should have taken effect.

* `settle_failed_iff`: the exceptions after which a job is failed.
* `Leaks`: the inputs on which a write takes effect and the job is failed all the same.
* `dispatch_definite_iff`: exactly on the other inputs a failed job has written nothing.
-/

namespace HomeAddons.Controller

open HomeAddons.Common

/-! ## Rules for the steps of a dispatch -/

namespace Work

variable {α β : Type} {P : Dispatching → Prop} {Q : α → Dispatching → Prop}
  {E : Fault → Dispatching → Prop}

theorem lift_exits {x : Except Fault α} (hok : ∀ a s, x = .ok a → P s → Q a s)
    (herr : ∀ f s, x = .error f → P s → E f s) : Exits P (lift x) Q E := by
  cases x with
  | ok a => exact Exits.pure fun s hs => hok a s rfl hs
  | error f => exact Exits.throw fun s hs => herr f s rfl hs

theorem raise_exits {x : Except Raise α} (hok : ∀ a s, x = .ok a → P s → Q a s)
    (herr : ∀ e s, x = .error e → P s → E e.fault s) : Exits P (raise x) Q E := by
  cases x with
  | ok a => exact Exits.pure fun s hs => hok a s rfl hs
  | error e => exact Exits.throw fun s hs => herr e s rfl hs

theorem onStore_exits {f : ControllerStore → Except Raise ControllerStore} {Q : Dispatching → Prop}
    (hok : ∀ s store, P s → f s.store = .ok store → Q { s with store := store })
    (herr : ∀ s e, P s → f s.store = .error e → E e.fault s) :
    Exits P (onStore f) (fun _ => Q) E := by
  refine Exits.get_bind fun s hs => ?_
  refine Exits.bind (R := fun store s' => s' = s ∧ f s.store = .ok store)
    (raise_exits (fun store s' hx hs' => ⟨hs', hx⟩) fun e s' hx hs' => hs' ▸ herr s e hs hx) ?_
  intro store
  refine Exits.modify fun s' hs' => ?_
  rw [hs'.1]
  exact hok s store hs hs'.2

theorem atEnd_exits {p : Work α} {f : Dispatching → Dispatching}
    (h : Exits P p (fun a s => Q a (f s)) fun e s => E e (f s)) : Exits P (atEnd p f) Q E := by
  intro s hs
  have hp := h s hs
  unfold atEnd
  cases hrun : p s with
  | ok a s' =>
    rw [hrun] at hp
    exact hp
  | error e s' =>
    rw [hrun] at hp
    exact hp

theorem took_exits {effect : Bool} {ws : List Write} {Q : Dispatching → Prop}
    (h : ∀ s, P s → Q (if effect then { s with writes := s.writes ++ ws } else s)) :
    Exits P (took effect ws) (fun _ => Q) E :=
  Exits.modify h

end Work

/-! ## The end of a job -/

/-- The job runs, in the attempt in which it was handed out. -/
def Running (job : Job) (s : ControllerStore) : Prop :=
  ∃ j, s.jobs.get? job.jobId = some j ∧ j.state = .running ∧ j.attempt = job.attempt

/-- The job is in `failed`. -/
def Failed (job : Job) (s : ControllerStore) : Prop :=
  ∃ j, s.jobs.get? job.jobId = some j ∧ j.state = .failed

/-- After this exception the job is failed. -/
def Fault.final (f : Fault) (job : Job) : Prop :=
  f.uncertain = false ∧ ¬ (f = .appServer "app_server_overloaded" true ∧ job.attempt < 3)

variable {s : ControllerStore}

theorem Running.runningJob {job : Job} (h : Running job s) :
    ∃ j, s.runningJob job.jobId = some j ∧ j.attempt = job.attempt := by
  obtain ⟨j, hj, hstate, hattempt⟩ := h
  exact ⟨j, s.runningJob_eq_some.mpr ⟨hj, hstate⟩, hattempt⟩

/-- `fail_claimed` of a running job. -/
theorem Running.failClaimed {job : Job} (h : Running job s) (code : String) (uncertain : Bool)
    (now : String) : s.failClaimed job.jobId code uncertain now =
      .ok (s.updateJob job.jobId fun j => { j with
        state := if uncertain then .recoveryRequired else .failed
        errorCode := some code
        finishedAt := some now }) := by
  obtain ⟨j, hj, _⟩ := h.runningJob
  have hget := (s.runningJob_eq_some.mp hj).1
  unfold ControllerStore.failClaimed
  rw [ensure_bind_of (by rw [hget]; rfl), hj]
  rfl

/-- A row that was written. -/
theorem failed_updateJob {job : Job} {j : Job} {f : Job → Job} {hf : ∀ j, (f j).jobId = j.jobId}
    (h : s.jobs.get? job.jobId = some j) :
    Failed job (s.updateJob job.jobId f hf) ↔ (f j).state = .failed := by
  have hget : (s.updateJob job.jobId f hf).jobs.get? job.jobId = some (f j) := by
    rw [ControllerStore.updateJob_jobs, Table.get?_update_of_get? h]
  constructor
  · rintro ⟨j', hj', hstate⟩
    rw [hget] at hj'
    cases hj'
    exact hstate
  · exact fun hstate => ⟨f j, hget, hstate⟩

/-- The handlers fail a running job exactly after a definite exception that is not retried. -/
theorem settle_failed_iff (env : Services) {job : Job} (h : Running job s) (f : Fault) :
    Failed job (settle env job f s) ↔ f.final job := by
  obtain ⟨j, hj, hattempt⟩ := h.runningJob
  have hget := (s.runningJob_eq_some.mp hj).1
  have hfails : Failed job ((s.failClaimed job.jobId f.code f.uncertain
      env.moment.utcNow).toOption.getD s) ↔ f.uncertain = false := by
    rw [h.failClaimed]
    show Failed job (s.updateJob job.jobId _) ↔ _
    rw [failed_updateJob hget]
    cases f.uncertain <;> simp
  unfold settle Fault.final
  dsimp only
  by_cases hover : f = .appServer "app_server_overloaded" true
  · rw [if_pos hover]
    unfold ControllerStore.retryOverloaded
    rw [hj]
    by_cases hlt : job.attempt < 3
    · have hfilter : (some j).filter (fun j => (j.attempt : ℤ) < 3) = some j := by
        rw [Option.filter_some, if_pos (by rw [hattempt]; simpa using hlt)]
      rw [hfilter]
      show Failed job (s.updateJob job.jobId _) ↔ _
      rw [failed_updateJob hget]
      simp [hover, hlt]
    · have hfilter : (some j).filter (fun j => (j.attempt : ℤ) < 3) = none := by
        rw [Option.filter_some, if_neg (by rw [hattempt]; simpa using hlt)]
      rw [hfilter]
      show Failed job ((s.failClaimed job.jobId f.code f.uncertain
        env.moment.utcNow).toOption.getD s) ↔ _
      rw [hfails]
      simp [hlt]
  · rw [if_neg hover, hfails]
    simp [hover]

/-! ## Where a write is forgotten -/

section Leaks

variable (env : Services)

/-- The request of a memo tool call under a context. -/
def issuedMemo (context : ToolContext) (name : String) (arguments : Dict) :
    Except Fault MemoRequest := do
  let _ ← authorizeTool env.config env.hub (env.callPolicy name) (some context) name
  memoRequest env.config (some context) name arguments

/-- The write that a memo command issues. -/
def issuedWrite (context : ToolContext) : MemoCommand → Option MemoRequest
  | .create arguments => (issuedMemo env context "memo_create" arguments).toOption
  | .list _ => none
  | .complete query => do
    let listing ← (issuedMemo env context "memo_list" pendingListing).toOption
    let listed ← (requestMemoJson (env.memo listing)).toOption
    let records ← (memoRecords listed).toOption
    match matchingPendingMemos env.toTextEnv records query with
    | [memo] => (issuedMemo env context "memo_complete" [("id", memo.get "id")]).toOption
    | _ => none

/-- The memos did what they were asked, and no usable answer says so. -/
def Exchange.unconfirmed : Exchange → Bool
  | .answered .tooLarge | .answered .invalid | .lost true => true
  | .answered (.document v) => v.asDict?.isNone
  | _ => false

/-- The identifier in the result of a request. -/
def Rpc.id (field : String) : Rpc → Option String
  | .result v => resultId v field
  | _ => none

/-- The Thread that is had instead of one, and whether it was created. -/
def resumedOf (d : Desk) (fingerprint t : String) : Option (String × Bool) :=
  match d.loadedThreads.lookup t with
  | none => (((env.thread .resume).id "thread").filter fun t' => t' = t).map fun t => (t, false)
  | some loaded =>
    if loaded = fingerprint then some (t, false)
    else if t ∉ d.forkableThreads then ((env.thread .start).id "thread").map fun t => (t, true)
    else (((env.thread .fork).id "thread").filter fun t' => t' ≠ t).map fun t => (t, true)

/-- The Thread that a job gets, and whether it was created for it. -/
def threadOf (d : Desk) (fingerprint : String) (job : Job) : Option (String × Bool) :=
  match (d.store.conversations.get? job.conversationKey).bind (·.threadId) with
  | none => ((env.thread .start).id "thread").map fun t => (t, true)
  | some t => resumedOf env d fingerprint t

/-- The app-server refuses the Turn for good. -/
def TurnRefused (job : Job) : Prop :=
  ∃ code, env.turn = .refused code ∧ code ≠ some (-32099) ∧
    ¬ (code = some (-32001) ∧ job.attempt < 3)

/-- The calls for what is seen of a Turn before it is bound. -/
def seenCalls (turnId : String) : List StoreCall :=
  (env.pending.filter fun n => n.turnId = turnId).flatMap fun n =>
    match n with
    | .seen _ first rest => first :: rest
    | .completed .. => []

/-- The first completion of a Turn before it is bound. -/
def firstEnding (turnId : String) : Option Ending :=
  (env.pending.filter fun n => n.turnId = turnId).findSome? fun n =>
    match n with
    | .seen .. => none
    | .completed _ e => some e

/-- The app-server says before the Turn is bound that it failed, and it is not tried again. -/
def TurnFailed (job : Job) (s : ControllerStore) (turnId : String) : Prop :=
  ∃ e j, firstEnding env turnId = some e ∧ s.jobs.get? job.jobId = some j ∧
    (e.completion job.attempt env.moment).state = .failed ∧
    s.canRetry (e.completion job.attempt env.moment)
      ((seenCalls env turnId).foldl (fun j c => c.write env.toSettings j) j) = false

/-- A Thread or a Turn was started for the job that fails. -/
def TurnLeaks (d : Desk) (fingerprint : String) (job : Job) : Prop :=
  ∃ t created store, threadOf env d fingerprint job = some (t, created) ∧
    d.store.assignThread job.jobId t env.moment.utcNow = .ok store ∧
    ((created = true ∧ ((∃ code, env.media = .rejected code) ∨
        env.media = .items ∧ TurnRefused env job)) ∨
      ∃ turnId store', env.media = .items ∧ env.turn.id "turn" = some turnId ∧
        store.assignTurn job.jobId turnId = .ok store' ∧ TurnFailed env job store' turnId)

/-- What a job is served as, as far as writes matter. -/
inductive Plan where
  | memo (request : MemoRequest)
  | turn
  | other

/-- What a job is served as. -/
def plan (job : Job) (d : Desk) : Plan :=
  if isNewThreadCommand job.input then .other
  else match jobContext d.active job with
  | .error _ => .other
  | .ok context =>
    if (prepareCarIntent job.input).isSome then .other
    else match memoCommand env (effectiveTools env job) job.input with
    | .error _ => .other
    | .ok none => .turn
    | .ok (some command) => match issuedWrite env context command with
      | some request => .memo request
      | none => .other

/-- A write takes effect and the job is failed all the same. -/
def Leaks (job : Job) (d : Desk) : Prop :=
  match plan env job d with
  | .memo request => (env.memo request).unconfirmed = true
  | .turn =>
    TurnLeaks env d (env.fingerprint (effectiveTools env job) job.input.capabilityProfile) job
  | .other => False

end Leaks

/-! ## Steps that write nothing that is forgotten -/

section Branches

variable (env : Services) {job : Job}

/-- The job runs and nothing was written. -/
def Fresh (job : Job) (s : Dispatching) : Prop := Running job s.store ∧ s.writes = []

/-- The job runs, and an exception that fails it comes before every write. -/
def Harmless (job : Job) (f : Fault) (s : Dispatching) : Prop :=
  Running job s.store ∧ (f.uncertain = false → s.writes = [])

variable {s : Dispatching} {name now jobId turnId : String} {arguments : Dict}
  {request : MemoRequest} {x : Exchange} {f : Fault} {e : Raise} {s' : ControllerStore} {j : Job}

theorem Fresh.harmless (h : Fresh job s) (f : Fault) : Harmless job f s :=
  ⟨h.1, fun _ => h.2⟩

/-- A result of the store is stored for a running job, which is then not failed. -/
theorem completeDirect_exits (text : String) {E : Fault → Dispatching → Prop} :
    Exits (fun s => Running job s.store) (completeDirect env job text)
      (fun _ s => ¬ Failed job s.store) E := by
  refine Work.onStore_exits ?_ ?_
  · intro s store h hs
    obtain ⟨j, hj, -⟩ := h.runningJob
    have hget := (s.store.runningJob_eq_some.mp hj).1
    simp only [ControllerStore.completeDirectResult, bind_eq_ok, orRaise_eq_ok, pure_eq_ok] at hs
    obtain ⟨_, _, rfl⟩ := hs
    show ¬ Failed job (s.store.updateJob job.jobId _)
    rw [failed_updateJob hget]
    simp
  · intro s e h hs
    obtain ⟨j, hj, -⟩ := h.runningJob
    simp [ControllerStore.completeDirectResult, hj] at hs

theorem Running.recordToolActivity {s : ControllerStore} (h : Running job s)
    (jobId : Option String) : Running job (s.recordToolActivity jobId) := by
  obtain ⟨j, hj, hstate, hattempt⟩ := h
  cases jobId with
  | none => exact ⟨j, hj, hstate, hattempt⟩
  | some jobId =>
    have hget := Table.get?_updateWhere s.jobs (fun j => j.jobId = jobId ∧ j.state = .running)
      (fun j => { j with toolActivityObserved := true }) (by intro _; rfl) job.jobId
    rw [hj, Option.map_some] at hget
    refine ⟨_, hget, ?_, ?_⟩
    · split
      · exact hstate
      · exact hstate
    · split
      · exact hattempt
      · exact hattempt

/-! ### Memos -/

/-- The context of the tools is the one of the job. -/
def Serving (job : Job) (context : ToolContext) (s : Dispatching) : Prop :=
  Running job s.store ∧ s.active = some context

/-- What a request to the memos leaves among the writes. -/
def wrote (request : MemoRequest) : List Write :=
  if request.isWrite && (env.memo request).tookEffect then [.memo request] else []

theorem memoCall_exits (context : ToolContext) (name : String) (arguments : Dict) :
    Exits (fun s => Serving job context s ∧ s.writes = []) (memoCall env name arguments)
      (fun r s => Serving job context s ∧ ∃ request,
        memoRequest env.config (some context) name arguments = .ok request ∧
        requestMemoJson (env.memo request) = .ok r ∧ s.writes = wrote env request)
      (fun f s => Running job s.store ∧
        (memoRequest env.config (some context) name arguments = .error f ∧ s.writes = [] ∨
        ∃ request, memoRequest env.config (some context) name arguments = .ok request ∧
          requestMemoJson (env.memo request) = .error f ∧ s.writes = wrote env request)) := by
  refine Exits.get_bind fun s ⟨hs, hw⟩ => ?_
  rw [hs.2]
  refine Exits.bind (R := fun request s' => s' = s ∧
      memoRequest env.config (some context) name arguments = .ok request) ?_ ?_
  · refine Work.lift_exits (fun request s' h hs' => ⟨hs', h⟩) fun f s' h hs' => ?_
    subst hs'
    exact ⟨hs.1, .inl ⟨h, hw⟩⟩
  intro request
  refine Exits.bind (R := fun _ s' => Serving job context s' ∧ s'.writes = wrote env request ∧
      memoRequest env.config (some context) name arguments = .ok request) ?_ ?_
  · refine Work.took_exits fun s' ⟨hs', h⟩ => ?_
    subst hs'
    unfold wrote
    split
    · exact ⟨hs, by simp [hw], h⟩
    · exact ⟨hs, hw, h⟩
  intro _
  refine Work.lift_exits (fun r s' hr ⟨hs', hw', h⟩ => ⟨hs', request, h, hr, hw'⟩) ?_
  exact fun f s' hr ⟨hs', hw', h⟩ => ⟨hs'.1, .inr ⟨request, h, hr, hw'⟩⟩

/-- A memo tool call: which request it makes, and what the answer becomes. -/
theorem toolCall_memo_exits (context : ToolContext) (name : String) (arguments : Dict) :
    Exits (fun s => Serving job context s ∧ s.writes = [])
      (toolCall env name (memoCall env name arguments))
      (fun r s => Serving job context s ∧ ∃ request,
        issuedMemo env context name arguments = .ok request ∧
        requestMemoJson (env.memo request) = .ok r ∧ s.writes = wrote env request)
      (fun f s => Running job s.store ∧
        (issuedMemo env context name arguments = .error f ∧ s.writes = [] ∨
        ∃ request, issuedMemo env context name arguments = .ok request ∧
          requestMemoJson (env.memo request) = .error f ∧ s.writes = wrote env request)) := by
  refine Exits.get_bind fun s₀ hs₀ => ?_
  refine Work.atEnd_exits (Exits.get_bind fun s hs => ?_)
  subst hs
  rw [hs₀.1.2]
  refine Exits.bind (R := fun d s' => s' = s ∧ authorizeTool env.config env.hub
      (env.callPolicy name) (some context) name = .ok d) ?_ ?_
  · refine Work.lift_exits (fun d s' h hs' => ⟨hs', h⟩) fun f s' h hs' => ?_
    subst hs'
    refine ⟨hs₀.1.1.recordToolActivity _, .inl ⟨?_, hs₀.2⟩⟩
    rw [issuedMemo, h]
    rfl
  intro d
  refine Exits.of_state fun s' ⟨hs', hd⟩ => ?_
  subst hs'
  have hissued : issuedMemo env context name arguments =
      memoRequest env.config (some context) name arguments := by
    rw [issuedMemo, hd]
    rfl
  rw [hissued]
  refine (memoCall_exits env context name arguments).conseq (fun s' hs' => hs' ▸ hs₀) ?_ ?_
  · exact fun r s' ⟨hs', h⟩ => ⟨⟨hs'.1.recordToolActivity _, hs'.2⟩, h⟩
  · exact fun f s' ⟨hs', h⟩ => ⟨hs'.recordToolActivity _, h⟩

/-- A memo tool other than the listing writes. -/
theorem memoRequest_isWrite {config : RouterConfig} {context : Option ToolContext}
    (h : memoRequest config context name arguments = .ok request) :
    request.isWrite = (name ≠ "memo_list" : Bool) := by
  simp only [memoRequest, bind_eq_ok, ensure_eq_ok] at h
  obtain ⟨_, _, _, _, h⟩ := h
  split at h
  · rename_i hname
    simp only [bind_eq_ok, pure_eq_ok] at h
    obtain ⟨_, _, _, _, _, _, rfl⟩ := h
    simp [hname, MemoRequest.isWrite]
  · split at h
    · rename_i hname
      simp only [bind_eq_ok, pure_eq_ok] at h
      obtain ⟨_, _, _, _, rfl⟩ := h
      simp [hname, MemoRequest.isWrite]
    · rename_i hlist
      split at h
      · simp only [bind_eq_ok, pure_eq_ok] at h
        obtain ⟨_, _, _, _, _, _, rfl⟩ := h
        simp [hlist, MemoRequest.isWrite]
      · simp only [bind_eq_ok, pure_eq_ok] at h
        obtain ⟨_, _, _, _, rfl⟩ := h
        split <;> simp [hlist, MemoRequest.isWrite]

theorem issuedMemo_isWrite {context : ToolContext}
    (h : issuedMemo env context name arguments = .ok request) :
    request.isWrite = (name ≠ "memo_list" : Bool) := by
  simp only [issuedMemo, bind_eq_ok] at h
  obtain ⟨_, _, h⟩ := h
  exact memoRequest_isWrite h

/-- An exception of the memos fails the job although it did what it was asked exactly when no usable
    answer came. -/
theorem requestMemoJson_error (h : requestMemoJson x = .error f) :
    f.final job ∧ x.tookEffect = true ↔ x.unconfirmed = true := by
  cases x with
  | answered reply =>
    cases reply with
    | document v =>
      rw [requestMemoJson, orRaise_eq_error] at h
      obtain ⟨hv, rfl⟩ := h
      simp [Fault.final, Fault.uncertain, Exchange.tookEffect, Exchange.unconfirmed, hv]
    | _ =>
      cases h
      simp [Fault.final, Fault.uncertain, Exchange.tookEffect, Exchange.unconfirmed]
  | refused status body => simp [Exchange.tookEffect, Exchange.unconfirmed]
  | lost unavailable =>
    cases unavailable <;> cases h <;>
      simp [Fault.final, Fault.uncertain, Exchange.tookEffect, Exchange.unconfirmed]

theorem requestMemoJson_ok {r : Dict} (h : requestMemoJson x = .ok r) : x.unconfirmed = false := by
  cases x with
  | answered reply =>
    cases reply with
    | document v =>
      rw [requestMemoJson, orRaise_eq_ok] at h
      simp [Exchange.unconfirmed, h]
    | _ => cases h
  | refused status body => cases h
  | lost unavailable => cases unavailable <;> cases h

/-- What a command leaves when it is answered. -/
def Confirmed (job : Job) (issued : Option MemoRequest) (s : Dispatching) : Prop :=
  Running job s.store ∧ ∀ request ∈ issued, (env.memo request).unconfirmed = false

/-- What a command leaves when it raises. -/
def Raised (job : Job) (issued : Option MemoRequest) (f : Fault) (s : Dispatching) : Prop :=
  Running job s.store ∧
    (f.final job ∧ s.writes ≠ [] ↔ ∃ request ∈ issued, (env.memo request).unconfirmed = true)

theorem wrote_ne_nil (h : request.isWrite = true) :
    wrote env request ≠ [] ↔ (env.memo request).tookEffect = true := by
  unfold wrote
  rw [h, Bool.true_and]
  split <;> simp_all

theorem Fresh.raised (h : Fresh job s) (f : Fault) : Raised env job none f s :=
  ⟨h.1, by simp [h.2]⟩

/-- A writing call that ends a command. -/
theorem toolCall_write_exits (context : ToolContext) (arguments : Dict)
    (hname : name ≠ "memo_list") :
    Exits (fun s => Serving job context s ∧ s.writes = [])
      (toolCall env name (memoCall env name arguments))
      (fun _ s => Confirmed env job (issuedMemo env context name arguments).toOption s)
      (fun f s => Raised env job (issuedMemo env context name arguments).toOption f s) := by
  refine (toolCall_memo_exits env context name arguments).conseq (fun _ h => h) ?_ ?_
  · rintro r s ⟨hs, request, hrequest, hr, hw⟩
    rw [hrequest]
    refine ⟨hs.1, fun request' h => ?_⟩
    cases h
    exact requestMemoJson_ok hr
  · rintro f s ⟨hs, ⟨herror, hw⟩ | ⟨request, hrequest, hr, hw⟩⟩
    · rw [herror]
      exact Fresh.raised env ⟨hs, hw⟩ f
    · rw [hrequest]
      refine ⟨hs, ?_⟩
      have hwrite : request.isWrite = true := by
        rw [issuedMemo_isWrite env hrequest]
        simpa using hname
      rw [hw, wrote_ne_nil env hwrite, requestMemoJson_error hr]
      constructor
      · exact fun h => ⟨request, rfl, h⟩
      · rintro ⟨_, ⟨⟩, h⟩
        exact h

/-- An exception of the dispatch itself leaves the job in doubt. -/
theorem Confirmed.raised_internal {issued : Option MemoRequest} (h : Confirmed env job issued s)
    (hf : f.uncertain = true) : Raised env job issued f s := by
  refine ⟨h.1, ?_⟩
  constructor
  · rintro ⟨⟨hcertain, -⟩, -⟩
    rw [hf] at hcertain
    cases hcertain
  · rintro ⟨request, hmem, hlost⟩
    rw [h.2 request hmem] at hlost
    cases hlost

theorem memoCreateResultText_error {env : TextEnv} {result : Dict}
    (h : memoCreateResultText env result arguments = .error f) : f = .internal := by
  simp only [memoCreateResultText, bind_eq_error, orRaise_eq_error] at h
  obtain ⟨-, h⟩ | ⟨_, _, h⟩ := h
  · exact h.symm
  · cases h

/-- A listing writes nothing. -/
theorem toolCall_list_exits (context : ToolContext) (arguments : Dict) :
    Exits (fun s => Serving job context s ∧ s.writes = [])
      (toolCall env "memo_list" (memoCall env "memo_list" arguments))
      (fun r s => (Serving job context s ∧ s.writes = []) ∧
        ∃ request, issuedMemo env context "memo_list" arguments = .ok request ∧
          requestMemoJson (env.memo request) = .ok r)
      (fun f s => Fresh job s ∧ ∀ request,
        issuedMemo env context "memo_list" arguments = .ok request →
          requestMemoJson (env.memo request) = .error f) := by
  have hread : ∀ request, issuedMemo env context "memo_list" arguments = .ok request →
      wrote env request = [] := by
    intro request h
    have := issuedMemo_isWrite env h
    simp only [ne_eq, not_true_eq_false, decide_false] at this
    rw [wrote, this]
    rfl
  refine (toolCall_memo_exits env context "memo_list" arguments).conseq (fun _ h => h) ?_ ?_
  · rintro r s ⟨hs, request, hrequest, hr, hw⟩
    exact ⟨⟨hs, hw.trans (hread request hrequest)⟩, request, hrequest, hr⟩
  · rintro f s ⟨hs, ⟨herror, hw⟩ | ⟨request, hrequest, hr, hw⟩⟩
    · exact ⟨⟨hs, hw⟩, fun request h => by rw [herror] at h; cases h⟩
    · refine ⟨⟨hs, hw.trans (hread request hrequest)⟩, fun request' h => ?_⟩
      rw [hrequest] at h
      cases h
      exact hr

/-- The completion of a memo writes what `issuedWrite` says. -/
theorem completeMemo_exits (context : ToolContext) (query : String) :
    Exits (fun s => Serving job context s ∧ s.writes = []) (completeMemo env query)
      (fun _ s => Confirmed env job (issuedWrite env context (.complete query)) s)
      (fun f s => Raised env job (issuedWrite env context (.complete query)) f s) := by
  refine Exits.bind (R := fun listed s => (Serving job context s ∧ s.writes = []) ∧
      ∃ request, issuedMemo env context "memo_list" pendingListing = .ok request ∧
        requestMemoJson (env.memo request) = .ok listed) ?_ ?_
  · refine (toolCall_list_exits env context pendingListing).conseq (fun _ h => h)
      (fun _ _ h => h) fun f s h => ?_
    obtain ⟨hs, hlist⟩ := h
    have hnone : issuedWrite env context (.complete query) = none := by
      unfold issuedWrite
      cases hrequest : issuedMemo env context "memo_list" pendingListing with
      | error e => rfl
      | ok request =>
        simp only [Except.toOption, Option.bind_eq_bind, Option.bind_some]
        rw [hlist request hrequest]
        rfl
    rw [hnone]
    exact hs.raised env f
  intro listed
  refine Exits.of_state ?_
  rintro s₀ ⟨⟨hs₀, hw⟩, request, hrequest, hlisted⟩
  refine Exits.bind (R := fun records s => s = s₀ ∧ memoRecords listed = .ok records) ?_ ?_
  · refine Work.lift_exits (fun records s h hs => ⟨hs, h⟩) fun f s h hs => ?_
    have hnone : issuedWrite env context (.complete query) = none := by
      unfold issuedWrite
      rw [hrequest]
      simp only [Except.toOption, Option.bind_eq_bind, Option.bind_some, hlisted]
      rw [h]
      rfl
    rw [hnone, hs]
    exact Fresh.raised env ⟨hs₀.1, hw⟩ f
  intro records
  refine Exits.of_state ?_
  rintro s₁ ⟨hs₁, hrecords⟩
  subst hs₁
  have hissued : issuedWrite env context (.complete query) =
      match matchingPendingMemos env.toTextEnv records query with
      | [memo] => (issuedMemo env context "memo_complete" [("id", memo.get "id")]).toOption
      | _ => none := by
    unfold issuedWrite
    rw [hrequest]
    simp only [Except.toOption, Option.bind_eq_bind, Option.bind_some, hlisted]
    rw [hrecords]
    rfl
  rw [hissued]
  generalize matchingPendingMemos env.toTextEnv records query = found
  rcases found with _ | ⟨memo, _ | ⟨memo', rest⟩⟩
  · exact Exits.pure fun s hs => ⟨hs ▸ hs₀.1, fun _ h => by cases h⟩
  · refine Exits.bind ((toolCall_write_exits env context [("id", memo.get "id")]
      (by decide)).pre fun s hs => ?_) fun _ => Exits.pure fun _ h => h
    rw [hs]
    exact ⟨hs₀, hw⟩
  · exact Exits.pure fun s hs => ⟨hs ▸ hs₀.1, fun _ h => by cases h⟩

variable (job) in
/-- A memo command writes what `issuedWrite` says, and a write whose answer is lost is the one that
    fails the job. -/
theorem serveMemo_exits (context : ToolContext) (command : MemoCommand) :
    Exits (fun s => Serving job context s ∧ s.writes = []) (serveMemo env command)
      (fun _ s => Confirmed env job (issuedWrite env context command) s)
      (fun f s => Raised env job (issuedWrite env context command) f s) := by
  cases command with
  | create arguments =>
    refine Exits.bind (toolCall_write_exits env context arguments (by decide)) fun r => ?_
    refine Work.lift_exits (fun _ _ _ h => h) fun f s hf h => ?_
    rw [memoCreateResultText_error hf]
    exact h.raised_internal env rfl
  | list arguments =>
    refine Exits.bind (R := fun _ s => Fresh job s) ?_ fun r => ?_
    · exact (toolCall_list_exits env context arguments).conseq (fun _ h => h)
        (fun _ _ h => ⟨h.1.1.1, h.1.2⟩) fun f s h => h.1.raised env f
    · exact Work.lift_exits (fun _ s _ h => ⟨h.1, fun _ h' => by cases h'⟩)
        fun f s _ h => h.raised env f
  | complete query => exact completeMemo_exits env context query

/-! ### The car -/

/-- The exceptions of `finish_prepare_car_execute` leave the job in doubt. -/
theorem finishExecute_error {t : Confirmations} {confirmationId : String} {r : ExecuteResult}
    {now : Instant} (h : t.finishExecute confirmationId r now = .error e) :
    e.fault.uncertain = true := by
  simp only [Confirmations.finishExecute, bind_eq_error, ensure_eq_error, orRaise_eq_error] at h
  obtain ⟨-, rfl⟩ | ⟨_, _, ⟨-, rfl⟩ | ⟨c, _, h⟩⟩ := h
  · rfl
  · rfl
  · split at h
    · simp only [bind_eq_error, orRaise_eq_error] at h
      obtain ⟨-, rfl⟩ | ⟨_, _, h⟩ := h
      · rfl
      · cases h
    · cases h

/-- An exception that leaves the job in doubt. -/
def InDoubt (job : Job) (f : Fault) (s : Dispatching) : Prop :=
  Running job s.store ∧ f.uncertain = true

theorem InDoubt.harmless (h : InDoubt job f s) : Harmless job f s :=
  ⟨h.1, fun hcertain => by rw [h.2] at hcertain; cases hcertain⟩

variable (job) in
theorem finishCar_exits (confirmationId : String) (status : ExecuteStatus)
    (errorCode : Option String) (target : Bool) :
    Exits (fun s => Running job s.store) (finishCar env confirmationId status errorCode target)
      (fun _ s => Running job s.store) (InDoubt job) := by
  refine Exits.get_bind fun s hs => ?_
  refine Exits.bind (R := fun _ s' => s' = s) ?_ fun r => ?_
  · exact Work.raise_exits (fun _ _ _ h => h) fun e s' he hs' =>
      ⟨hs' ▸ hs, finishExecute_error he⟩
  · refine Exits.bind (R := fun _ s' => Running job s'.store) ?_ fun _ => Exits.pure fun _ h => h
    exact Exits.set fun _ _ => hs

theorem executeClaimed_exits (confirmationId : String) (target : Bool) :
    Exits (fun s => Running job s.store) (executeClaimed env confirmationId target)
      (fun _ s => Running job s.store) (InDoubt job) := by
  have hfinish := fun status errorCode =>
    finishCar_exits env job confirmationId status errorCode target
  have hthrow : Exits (fun s => Running job s.store) (throw .internal : Work ExecuteAnswer)
      (fun _ s => Running job s.store) (InDoubt job) := Exits.throw fun _ h => ⟨h, rfl⟩
  unfold executeClaimed
  split
  · exact hthrow
  · exact hfinish _ _
  · refine Exits.ite (fun _ => hfinish _ _) fun _ => Exits.ite (fun _ => hfinish _ _) fun _ => ?_
    refine Exits.bind (R := fun _ s => Running job s.store) ?_ fun _ => ?_
    · refine Work.took_exits fun s h => ?_
      split
      · exact h
      · exact h
    · split
      · exact hthrow
      · exact hfinish _ _
      · exact hfinish _ _

theorem executeCar_exits (context : ToolContext) (target : Bool) :
    Exits (Fresh job) (executeCar env context target) (fun _ s => Running job s.store)
      (Harmless job) := by
  refine Exits.get_bind fun s hs => ?_
  rcases s.confirmations.claimExecute context.conversationKey context.messageId target env.now
    with ⟨t, reply⟩
  refine Exits.bind (R := fun _ => Fresh job) ?_ fun _ => ?_
  · exact Exits.set fun _ _ => hs
  have hthrow : ∀ f : Fault, Exits (Fresh job) (throw f : Work ExecuteAnswer)
      (fun _ s => Running job s.store) (Harmless job) := fun f =>
    Exits.throw fun _ h => h.harmless f
  split
  · exact Exits.ite (fun _ => Exits.pure fun _ h => h.1) fun _ => hthrow _
  · exact hthrow _
  · exact Exits.pure fun _ h => h.1
  · exact Exits.pure fun _ h => h.1
  · exact (executeClaimed_exits env _ target).conseq (fun _ h => h.1) (fun _ _ h => h)
      fun _ _ h => h.harmless

theorem requestCar_exits (context : ToolContext) (target : Bool) :
    Exits (Fresh job) (requestCar env context target) (fun _ s => Running job s.store)
      (Harmless job) := by
  refine Exits.get_bind fun s hs => ?_
  dsimp only
  split
  · exact Exits.throw fun s' hs' => hs' ▸ hs.harmless _
  · exact Exits.bind (R := fun _ s => Running job s.store)
      (Exits.modify fun s' hs' => by rw [hs']; exact hs.1) fun _ => Exits.pure fun _ h => h

theorem carCall_exits (intent : CarIntent) :
    Exits (Fresh job) (carCall env intent) (fun _ s => Running job s.store) (Harmless job) := by
  refine Exits.bind (R := fun _ => Fresh job)
    (Work.lift_exits (fun _ _ _ h => h) fun f _ _ h => h.harmless f) fun _ => ?_
  refine Exits.get_bind fun s hs => ?_
  refine Exits.bind (R := fun _ => Fresh job)
    (Work.lift_exits (fun _ _ _ h => h ▸ hs) fun f _ _ h => h ▸ hs.harmless f) fun context => ?_
  cases intent with
  | status =>
    dsimp only
    split
    · exact Exits.pure fun _ h => h.1
    · exact Exits.pure fun _ h => h.1
    · exact Exits.throw fun _ h => h.harmless _
  | request target => exact requestCar_exits env context target
  | execute target =>
    exact Exits.bind (executeCar_exits env context target) fun _ => Exits.pure fun _ h => h

/-- A command for the car never fails the job once the service was requested. -/
theorem serveCar_exits (tools : List String) (intent : CarIntent) :
    Exits (Fresh job) (serveCar env tools job intent) (fun _ s => Running job s.store)
      (Harmless job) := by
  have hcancel : Exits (Fresh job) (cancelPendingCar env job) (fun _ => Fresh job)
      (Harmless job) := Exits.modify fun _ h => h
  refine Exits.bind (R := fun _ => Fresh job) (Exits.ite (fun _ => hcancel)
    fun _ => Exits.pure fun _ h => h) fun _ => ?_
  refine Exits.ite (fun _ => ?_) fun _ => Exits.ite (fun _ => Exits.pure fun _ h => h.1) fun _ => ?_
  · exact Exits.bind hcancel fun _ => Exits.pure fun _ h => h.1
  · refine Exits.get_bind fun s₀ hs₀ => Work.atEnd_exits (Exits.get_bind fun s hs => ?_)
    refine Exits.bind (R := fun _ => Fresh job) ?_ fun _ => ?_
    · refine Work.lift_exits (fun _ s' _ h => ?_) fun f s' _ h => ?_
      · rw [h, hs]
        exact hs₀
      · rw [h, hs]
        exact ⟨hs₀.1.recordToolActivity _, fun _ => hs₀.2⟩
    · exact (carCall_exits env intent).conseq (fun _ h => h)
        (fun _ _ h => h.recordToolActivity _) fun _ _ h => ⟨h.1.recordToolActivity _, h.2⟩

/-! ### The Thread -/

/-- A request of the app-server leaves the tables and the context alone. -/
def Beside (s₀ s : Dispatching) : Prop := s.store = s₀.store ∧ s.active = s₀.active

theorem appRequest_exits (rpc : Rpc) (ws : List Write) (s₀ : Dispatching) :
    Exits (fun s => s = s₀) (appRequest rpc ws)
      (fun v s => rpc = .result v ∧ s = { s₀ with writes := s₀.writes ++ ws })
      (fun f s => rpc.reply = .error f ∧ Beside s₀ s ∧
        (rpc.tookEffect = false → s.writes = s₀.writes)) := by
  refine Exits.bind (R := fun _ s => s = { s₀ with
    writes := if rpc.tookEffect then s₀.writes ++ ws else s₀.writes })
    (Work.took_exits fun s hs => ?_) fun _ => ?_
  · rw [hs]
    split <;> rfl
  refine Work.lift_exits (fun v s h hs => ?_) fun f s h hs => ?_
  · cases rpc with
    | result v' =>
      cases h
      exact ⟨rfl, hs⟩
    | refused code => cases h
    | lost => cases h
  · subst hs
    exact ⟨h, ⟨rfl, rfl⟩, fun hno => by simp [hno]⟩

/-- Only an error that the app-server sends is definite. -/
theorem Rpc.reply_error {rpc : Rpc} (h : rpc.reply = .error f) :
    (∀ field, rpc.id field = none) ∧ (f.uncertain = false → rpc.tookEffect = false) := by
  cases rpc with
  | result v => cases h
  | refused code => exact ⟨fun _ => rfl, fun _ => rfl⟩
  | lost =>
    cases h
    exact ⟨fun _ => rfl, fun h => by cases h⟩

/-- How the Thread of a dispatch is had: which it is and whether it was created, or an exception
    that leaves the job in doubt when something was created. -/
def GotThread (s₀ : Dispatching) (created : Bool) (s : Dispatching) : Prop :=
  Beside s₀ s ∧ (s₀.writes = [] → (s.writes ≠ [] ↔ created = true))

def NoThread (s₀ : Dispatching) (f : Fault) (s : Dispatching) : Prop :=
  Beside s₀ s ∧ (f.uncertain = false → s.writes = s₀.writes)

theorem startThread_exits (fingerprint : String) (s₀ : Dispatching) :
    Exits (fun s => s = s₀) (startThread env fingerprint)
      (fun t s => (env.thread .start).id "thread" = some t ∧ GotThread s₀ true s)
      (fun f s => (env.thread .start).id "thread" = none ∧ NoThread s₀ f s) := by
  refine Exits.bind ((appRequest_exits (env.thread .start) [.thread .start] s₀).conseq
    (fun _ h => h) (fun _ _ h => h) fun f s ⟨hf, hs, hw⟩ => ?_) fun v => ?_
  · exact ⟨(Rpc.reply_error hf).1 _, hs, fun h => hw ((Rpc.reply_error hf).2 h)⟩
  refine Exits.of_state fun s₁ ⟨hv, hs₁⟩ => ?_
  rw [hv]
  subst hs₁
  refine Exits.bind (R := fun t s => resultId v "thread" = some t ∧
    s = { s₀ with writes := s₀.writes ++ [.thread .start] }) ?_ fun t => ?_
  · refine Work.lift_exits (fun t s h hs => ⟨orRaise_eq_ok.mp h, hs⟩) fun f s h hs => ?_
    obtain ⟨hnone, rfl⟩ := orRaise_eq_error.mp h
    rw [hs]
    exact ⟨hnone, ⟨rfl, rfl⟩, fun h => by cases h⟩
  · refine Exits.bind (R := fun _ s => resultId v "thread" = some t ∧ GotThread s₀ true s)
      (Exits.modify fun s ⟨ht, hs⟩ => ?_) fun _ => Exits.pure fun _ h => h
    rw [hs]
    exact ⟨ht, ⟨rfl, rfl⟩, by simp⟩

/-- A request that loads the Thread of a conversation again, or a copy of it. -/
theorem reloadThread_exits (method : ThreadMethod) (p : String → Bool) (f : String → Dispatching →
    Dispatching) (hf : ∀ t s, Beside s (f t s) ∧ (f t s).writes = s.writes) (s₀ : Dispatching) :
    Exits (fun s => s = s₀)
      (do
        let v ← appRequest (env.thread method)
          (if method = .fork then [.thread .fork] else [])
        let t ← Work.lift (orRaise ((resultId v "thread").filter p) threadUnavailable)
        modify (f t)
        return t)
      (fun t s => ((env.thread method).id "thread").filter p = some t ∧
        GotThread s₀ (method = .fork) s)
      (fun e s => ((env.thread method).id "thread").filter p = none ∧ NoThread s₀ e s) := by
  refine Exits.bind ((appRequest_exits (env.thread method) _ s₀).conseq
    (fun _ h => h) (fun _ _ h => h) fun e s ⟨he, hs, hw⟩ => ?_) fun v => ?_
  · rw [(Rpc.reply_error he).1]
    exact ⟨rfl, hs, fun h => hw ((Rpc.reply_error he).2 h)⟩
  refine Exits.of_state fun s₁ ⟨hv, hs₁⟩ => ?_
  rw [hv]
  refine Exits.bind (R := fun t s => (resultId v "thread").filter p = some t ∧ s = s₁) ?_ fun t => ?_
  · refine Work.lift_exits (fun t s h hs => ⟨orRaise_eq_ok.mp h, hs⟩) fun e s h hs => ?_
    obtain ⟨hnone, rfl⟩ := orRaise_eq_error.mp h
    rw [hs, hs₁]
    exact ⟨hnone, ⟨rfl, rfl⟩, fun h => by cases h⟩
  · refine Exits.bind (R := fun _ s => (resultId v "thread").filter p = some t ∧
      GotThread s₀ (method = .fork) s) (Exits.modify fun s ⟨ht, hs⟩ => ?_) fun _ =>
        Exits.pure fun _ h => h
    obtain ⟨⟨hstore, hactive⟩, hw⟩ := hf t s
    rw [hs, hs₁] at hstore hactive hw ⊢
    refine ⟨ht, ⟨hstore, hactive⟩, fun hempty => ?_⟩
    rw [hw, hempty]
    by_cases hfork : method = .fork
    · simp [hfork]
    · simp [hfork]

theorem resumeThread_exits (fingerprint t : String) (s₀ : Dispatching) :
    Exits (fun s => s = s₀) (resumeThread env t fingerprint)
      (fun t' s => ∃ created, resumedOf env s₀.toDesk fingerprint t = some (t', created) ∧
        GotThread s₀ created s)
      (fun f s => resumedOf env s₀.toDesk fingerprint t = none ∧ NoThread s₀ f s) := by
  have hstart : Exits (fun s => s = s₀) (startThread env fingerprint)
      (fun t' s => ∃ created,
        ((env.thread .start).id "thread").map (fun t => (t, true)) = some (t', created) ∧
        GotThread s₀ created s)
      (fun f s => ((env.thread .start).id "thread").map (fun t => (t, true)) = none ∧
        NoThread s₀ f s) :=
    (startThread_exits env fingerprint s₀).conseq (fun _ h => h)
      (fun t' s ⟨h, hs⟩ => ⟨true, by rw [h]; rfl, hs⟩) fun f s ⟨h, hs⟩ => ⟨by rw [h]; rfl, hs⟩
  refine Exits.get_bind fun s hs => ?_
  subst hs
  unfold resumedOf
  cases hloaded : s.loadedThreads.lookup t with
  | none =>
    rw [if_neg (by simp), if_neg (by simp)]
    refine (reloadThread_exits env .resume (fun t' => t' = t) (fun t' s => { s with
      loadedThreads := (t', fingerprint) :: s.loadedThreads
      forkableThreads := t' :: s.forkableThreads }) (fun _ _ => ⟨⟨rfl, rfl⟩, rfl⟩) s).conseq
      (fun _ h => h) (fun t' s' ⟨h, hs'⟩ => ⟨false, ?_, hs'⟩) fun f s' ⟨h, hs'⟩ => ⟨?_, hs'⟩
    · simp only [h, Option.map_some]
    · simp only [h, Option.map_none]
  | some loaded =>
    simp only [Option.some.injEq, Option.isSome_some, true_and]
    by_cases hsame : loaded = fingerprint
    · rw [if_pos hsame, if_pos hsame]
      refine Exits.pure fun s' hs' => ⟨false, rfl, ?_⟩
      rw [hs']
      exact ⟨⟨rfl, rfl⟩, fun h => by simp [h]⟩
    · rw [if_neg hsame, if_neg hsame]
      by_cases hfork : t ∈ s.forkableThreads
      · rw [if_neg (by simp [hfork]), if_neg (by simp)]
        refine (reloadThread_exits env .fork (fun t' => t' ≠ t) (fun t' s => { s with
          loadedThreads := (t', fingerprint) :: s.loadedThreads
          forkableThreads := t' :: s.forkableThreads }) (fun _ _ => ⟨⟨rfl, rfl⟩, rfl⟩) s).conseq
          (fun _ h => h) (fun t' s' ⟨h, hs'⟩ => ⟨true, ?_, hs'⟩) fun f s' ⟨h, hs'⟩ => ⟨?_, hs'⟩
        · simp only [h, Option.map_some, hfork, not_true_eq_false, if_false]
        · simp only [h, Option.map_none, hfork, not_true_eq_false, if_false]
      · simp only [hfork, not_false_eq_true, if_true]
        exact hstart

/-- The Thread of the job is had and stored. -/
def Opened (job : Job) (fingerprint : String) (s₀ : Dispatching) (t : String) (s : Dispatching) :
    Prop :=
  ∃ created, threadOf env s₀.toDesk fingerprint job = some (t, created) ∧
    s₀.store.assignThread job.jobId t env.moment.utcNow = .ok s.store ∧
    s.active = s₀.active ∧ (s₀.writes = [] → (s.writes ≠ [] ↔ created = true))

/-- There is no stored Thread for the job. -/
def NotOpened (job : Job) (fingerprint : String) (s₀ : Dispatching) (f : Fault) (s : Dispatching) :
    Prop :=
  (∀ t created store, threadOf env s₀.toDesk fingerprint job = some (t, created) →
    s₀.store.assignThread job.jobId t env.moment.utcNow ≠ .ok store) ∧
  s.store = s₀.store ∧ (f.uncertain = false → s.writes = s₀.writes)

/-- The exceptions of `assign_thread` leave the job in doubt. -/
theorem assignThread_error {s : ControllerStore} {threadId : String}
    (h : s.assignThread jobId threadId now = .error e) : e.fault.uncertain = true := by
  simp only [ControllerStore.assignThread, ControllerStore.setConversationThread, bind_eq_error,
    ensure_eq_error, orRaise_eq_error] at h
  obtain ⟨-, rfl⟩ | ⟨_, _, ⟨-, rfl⟩ | ⟨_, _, (⟨-, rfl⟩ | ⟨_, _, h⟩) | ⟨_, _, h⟩⟩⟩ := h
  · rfl
  · rfl
  · rfl
  · cases h
  · cases h

theorem openThread_exits (fingerprint : String) (s₀ : Dispatching) :
    Exits (fun s => s = s₀) (openThread env fingerprint job)
      (Opened env job fingerprint s₀) (NotOpened env job fingerprint s₀) := by
  have hgot : ∀ {p : Work String},
      Exits (fun s => s = s₀) p
        (fun t s => ∃ created, threadOf env s₀.toDesk fingerprint job = some (t, created) ∧
          GotThread s₀ created s)
        (fun f s => threadOf env s₀.toDesk fingerprint job = none ∧ NoThread s₀ f s) →
      Exits (fun s => s = s₀) (do
        let t ← p
        Work.onStore fun s => s.assignThread job.jobId t env.moment.utcNow
        return t) (Opened env job fingerprint s₀) (NotOpened env job fingerprint s₀) := by
    intro p hp
    refine Exits.bind (hp.conseq (fun _ h => h) (fun _ _ h => h) fun f s ⟨hnone, hs, hw⟩ => ?_)
      fun t => ?_
    · refine ⟨fun t created store h => ?_, hs.1, hw⟩
      rw [hnone] at h
      cases h
    · refine Exits.bind (R := fun _ => Opened env job fingerprint s₀ t)
        (Work.onStore_exits ?_ ?_) fun _ => Exits.pure fun _ h => h
      · rintro s store ⟨created, ht, ⟨hstore, hactive⟩, hw⟩ hs
        rw [hstore] at hs
        exact ⟨created, ht, hs, hactive, hw⟩
      · rintro s e ⟨created, ht, ⟨hstore, hactive⟩, hw⟩ hs
        rw [hstore] at hs
        refine ⟨fun t' created' store h => ?_, hstore, fun hcertain => ?_⟩
        · rw [ht] at h
          cases h
          rw [hs]
          exact nofun
        · rw [assignThread_error hs] at hcertain
          cases hcertain
  refine Exits.get_bind fun s hs => ?_
  subst hs
  unfold threadOf at hgot
  cases hthread : (s.store.conversations.get? job.conversationKey).bind (·.threadId) with
  | none =>
    rw [hthread] at hgot
    refine hgot ((startThread_exits env fingerprint s).conseq (fun _ h => h)
      (fun t s' ⟨h, hs'⟩ => ⟨true, by rw [h]; rfl, hs'⟩) fun f s' ⟨h, hs'⟩ => ⟨by rw [h]; rfl, hs'⟩)
  | some t =>
    rw [hthread] at hgot
    exact hgot (resumeThread_exits env fingerprint t s)

/-! ### The Turn -/

theorem canRetry_congr {s : ControllerStore} (h : s'.artifacts = s.artifacts) (c : Completion)
    (j : Job) : s'.canRetry c j = s.canRetry c j := by
  simp only [ControllerStore.canRetry, ControllerStore.hasArtifact, h]

/-- Whether a Turn is tried again does not depend on the delay. -/
theorem canRetry_completion (s : ControllerStore) (e : Ending) (attempt attempt' : ℕ) (m : Moment)
    (j : Job) : s.canRetry (e.completion attempt m) j = s.canRetry (e.completion attempt' m) j := by
  by_cases hfailed : e.status = "failed"
  · simp [ControllerStore.canRetry, Ending.completion, Completion.state, Completion.effective,
      hfailed]
  · simp [ControllerStore.canRetry, Ending.completion, hfailed]

/-- The completion of a Turn that runs. -/
theorem complete_failed_iff {s : ControllerStore} (h : s.runningTurn turnId = some j) (e : Ending)
    (attempt : ℕ) (m : Moment) :
    ∃ j', (e.complete s turnId attempt m).1.jobs.get? j.jobId = some j' ∧ j'.state ≠ .running ∧
      (j'.state = .failed ↔ (e.completion attempt m).state = .failed ∧
        s.canRetry (e.completion attempt m) j = false) := by
  obtain ⟨hget, -, -⟩ := s.runningTurn_some h
  unfold Ending.complete ControllerStore.completeTurn
  rw [h]
  dsimp only
  by_cases hretry : s.canRetry (e.completion attempt m) j = true
  · rw [if_pos hretry]
    have hdelay : (e.completion attempt m).retryDelaySeconds.isSome = true := by
      simp only [ControllerStore.canRetry, Bool.and_eq_true] at hretry
      exact hretry.1.1.1.1.1.1.2
    obtain ⟨delay, hdelay⟩ := Option.isSome_iff_exists.mp hdelay
    refine ⟨requeued (e.completion attempt m) (m.shanghaiAfter delay) j, ?_, ?_⟩
    · rw [hdelay]
      exact Table.get?_update_of_get? hget _ (by intro _; rfl)
    · simp [requeued, hretry]
  · rw [if_neg hretry]
    refine ⟨ended (e.completion attempt m) (s.hasArtifact j.jobId) m.clock.utcNow j,
      Table.get?_update_of_get? hget _ (by intro _; rfl), ?_⟩
    have hstate : (e.completion attempt m).state ≠ .running ∧
        (e.completion attempt m).state ≠ .queued := by
      unfold Completion.state
      constructor <;> split_ifs <;> simp
    exact ⟨hstate.1, by simp [ended, hretry]⟩

/-- What a completion does to a job that does not run. -/
theorem handleBuffered_ended {e : Ending} (h : s.store.jobs.get? jobId = some j)
    (hj : j.state ≠ .running) :
    (handleBuffered env s (.completed turnId e)).store.jobs.get? jobId = some j := by
  show (e.complete s.store turnId _ env.moment).1.jobs.get? jobId = some j
  generalize ((s.store.turnAttempt turnId).filter (· ≠ 0)).getD 1 = attempt
  unfold Ending.complete ControllerStore.completeTurn
  cases hrun : s.store.runningTurn turnId with
  | none => exact h
  | some j' =>
    obtain ⟨hget, -, hstate⟩ := s.store.runningTurn_some hrun
    have hne : jobId ≠ j'.jobId := by
      rintro rfl
      rw [hget] at h
      cases h
      exact hj hstate
    have hother : ∀ f hf, (s.store.updateJob j'.jobId f hf).jobs.get? jobId = some j := by
      intro f hf
      rw [ControllerStore.updateJob_jobs, Table.get?_update_of_ne _ hne]
      exact h
    dsimp only
    split_ifs
    · cases (e.completion attempt env.moment).retryDelaySeconds with
      | none => exact h
      | some delay => exact hother _ _
    · exact hother _ _

theorem handleBuffered_ends (hj : j.state ≠ .running) (l : List Notice)
    (hl : ∀ n ∈ l, n.turnId = turnId ∧ n.isCompleted = true) (s : Dispatching)
    (h : s.store.jobs.get? jobId = some j) :
    (l.foldl (handleBuffered env) s).store.jobs.get? jobId = some j := by
  induction l generalizing s with
  | nil => exact h
  | cons n l ih =>
    refine ih (fun n hn => hl n (List.mem_cons_of_mem _ hn)) _ ?_
    cases n with
    | seen t first rest => exact absurd (hl _ List.mem_cons_self).2 (by simp [Notice.isCompleted])
    | completed t e => exact handleBuffered_ended env h hj

theorem handleBuffered_writes (l : List Notice) (s : Dispatching) :
    (l.foldl (handleBuffered env) s).writes = s.writes := by
  induction l generalizing s with
  | nil => rfl
  | cons n l ih =>
    rw [List.foldl_cons, ih]
    cases n <;> rfl

/-- The part of the notifications that tells what was seen. -/
theorem handleBuffered_seen (l : List Notice) (hl : ∀ n ∈ l, n.turnId = turnId) (s : Dispatching) :
    ((l.filter (!·.isCompleted)).foldl (handleBuffered env) s).store =
      (l.flatMap fun n => match n with
        | .seen _ first rest => first :: rest
        | .completed .. => []).foldl
          (fun s c => (StoreCall.run env.toSettings s turnId c).1) s.store := by
  induction l generalizing s with
  | nil => rfl
  | cons n l ih =>
    have hrest := ih fun n hn => hl n (List.mem_cons_of_mem _ hn)
    cases n with
    | completed t e => exact hrest s
    | seen t first rest =>
      obtain rfl : t = turnId := hl _ List.mem_cons_self
      rw [List.flatMap_cons, List.foldl_append]
      exact hrest _

/-- The first completion is the head of the completions. -/
theorem ending_head (l : List Notice) :
    (l.filter (·.isCompleted) = [] ∧ (l.findSome? fun n => match n with
      | .seen .. => none
      | .completed _ e => some e) = none) ∨
    ∃ t e rest, l.filter (·.isCompleted) = .completed t e :: rest ∧
      (l.findSome? fun n => match n with
        | .seen .. => none
        | .completed _ e => some e) = some e := by
  induction l with
  | nil => exact .inl ⟨rfl, rfl⟩
  | cons n l ih =>
    cases n with
    | seen t first rest => exact ih
    | completed t e => exact .inr ⟨t, e, _, rfl, rfl⟩

/-- The notifications that were buffered fail the job exactly when the first completion says so. -/
theorem flush_failed_iff (h : s.store.runningTurn turnId = some j) (hj : j.jobId = job.jobId) :
    Failed job ((flushTurnEvents env turnId).foldl (handleBuffered env) s).store ↔
      TurnFailed env job s.store turnId := by
  have hget := (s.store.runningTurn_some h).1
  rw [hj] at hget
  have hturn : ∀ n ∈ env.pending.filter fun n => n.turnId = turnId, n.turnId = turnId := by
    intro n hn
    simpa using (List.mem_filter.mp hn).2
  unfold flushTurnEvents
  dsimp only
  rw [List.foldl_append]
  have hseen := handleBuffered_seen env _ hturn s
  obtain ⟨hrow, hartifacts⟩ := StoreCall.run_all env.toSettings (seenCalls env turnId) h
  rw [show ((env.pending.filter fun n => n.turnId = turnId).flatMap fun n => match n with
    | .seen _ first rest => first :: rest
    | .completed .. => []) = seenCalls env turnId from rfl] at hseen
  rw [← hseen] at hrow hartifacts
  generalize hs₁ : ((env.pending.filter fun n => n.turnId = turnId).filter (!·.isCompleted)).foldl
    (handleBuffered env) s = s₁ at hrow hartifacts
  have hid : ∀ calls : List StoreCall,
      (calls.foldl (fun j c => c.write env.toSettings j) j).jobId = job.jobId := by
    intro calls
    induction calls using List.reverseRecOn with
    | nil => exact hj
    | append_singleton calls c ih =>
      rw [List.foldl_append, List.foldl_cons, List.foldl_nil, StoreCall.write_jobId]
      exact ih
  obtain ⟨hnil, hnone⟩ | ⟨t, e, rest, hcons, hsome⟩ :=
    ending_head (env.pending.filter fun n => n.turnId = turnId)
  · rw [hnil, List.foldl_nil]
    obtain ⟨hget₁, -, hstate₁⟩ := s₁.store.runningTurn_some hrow
    rw [hid] at hget₁
    constructor
    · rintro ⟨j', hj', hfailed⟩
      rw [hget₁] at hj'
      cases hj'
      rw [hstate₁] at hfailed
      cases hfailed
    · rintro ⟨e, _, he, _⟩
      rw [firstEnding, hnone] at he
      cases he
  · have hmem : ∀ n ∈ Notice.completed t e :: rest, n.turnId = turnId ∧ n.isCompleted = true := by
      intro n hn
      rw [← hcons] at hn
      exact ⟨hturn n (List.mem_filter.mp hn).1, (List.mem_filter.mp hn).2⟩
    obtain rfl : t = turnId := (hmem _ List.mem_cons_self).1
    rw [hcons, List.foldl_cons]
    obtain ⟨j', hj', hended, hiff⟩ := complete_failed_iff hrow e
      (((s₁.store.turnAttempt t).filter (· ≠ 0)).getD 1) env.moment
    rw [hid] at hj'
    have hlast := handleBuffered_ends env hended rest
      (fun n hn => hmem n (List.mem_cons_of_mem _ hn)) (handleBuffered env s₁ (.completed t e)) hj'
    have hcanRetry : s₁.store.canRetry (e.completion
          (((s₁.store.turnAttempt t).filter (· ≠ 0)).getD 1) env.moment)
          ((seenCalls env t).foldl (fun j c => c.write env.toSettings j) j) =
        s.store.canRetry (e.completion job.attempt env.moment)
          ((seenCalls env t).foldl (fun j c => c.write env.toSettings j) j) := by
      rw [canRetry_congr hartifacts, canRetry_completion]
    rw [hcanRetry] at hiff
    constructor
    · rintro ⟨j'', hj'', hfailed⟩
      rw [hlast] at hj''
      cases hj''
      obtain ⟨hstate, hno⟩ := hiff.mp hfailed
      exact ⟨e, j, hsome, hget, hstate, hno⟩
    · rintro ⟨e', j'', he', hj'', hstate, hno⟩
      rw [firstEnding, hsome] at he'
      cases he'
      rw [hget] at hj''
      cases hj''
      exact ⟨j', hlast, hiff.mpr ⟨hstate, hno⟩⟩

/-- Which errors of the app-server fail the job. -/
theorem turnRefused_iff (h : env.turn.reply = .error f) : f.final job ↔ TurnRefused env job := by
  unfold TurnRefused Fault.final
  cases hturn : env.turn with
  | result v =>
    rw [hturn] at h
    cases h
  | lost =>
    rw [hturn] at h
    cases h
    simp [Fault.uncertain]
  | refused code =>
    rw [hturn] at h
    cases h
    by_cases hclosed : code = some (-32099)
    · simp [hclosed, Fault.uncertain]
    · by_cases hover : code = some (-32001)
      · simp [hover, Fault.uncertain]
      · simp [hclosed, hover, Fault.uncertain]

variable (job) in
theorem startTurn_exits (threadId : String) (s₁ : Dispatching) :
    Exits (fun s => s = s₁) (startTurn env threadId)
      (fun turnId s => env.turn.id "turn" = some turnId ∧ Beside s₁ s ∧ s.writes ≠ [])
      (fun f s => env.turn.id "turn" = none ∧ Beside s₁ s ∧
        (f.final job ∧ s.writes ≠ [] ↔ TurnRefused env job ∧ s₁.writes ≠ [])) := by
  refine Exits.bind ((appRequest_exits env.turn [.turn] s₁).conseq
    (fun _ h => h) (fun _ _ h => h) fun f s ⟨hf, hs, hw⟩ => ?_) fun v => ?_
  · refine ⟨(Rpc.reply_error hf).1 _, hs, ?_⟩
    rw [← turnRefused_iff env hf]
    constructor
    · rintro ⟨hfinal, hwrites⟩
      rw [hw ((Rpc.reply_error hf).2 hfinal.1)] at hwrites
      exact ⟨hfinal, hwrites⟩
    · rintro ⟨hfinal, hwrites⟩
      rw [hw ((Rpc.reply_error hf).2 hfinal.1)]
      exact ⟨hfinal, hwrites⟩
  refine Exits.of_state fun s₂ ⟨hv, hs₂⟩ => ?_
  have hrefused : ¬ TurnRefused env job := by
    rintro ⟨code, hcode, -⟩
    rw [hv] at hcode
    cases hcode
  rw [hv]
  refine Exits.bind (R := fun turnId s => resultId v "turn" = some turnId ∧ s = s₂) ?_
    fun turnId => ?_
  · refine Work.lift_exits (fun turnId s h hs => ⟨orRaise_eq_ok.mp h, hs⟩) fun f s h hs => ?_
    obtain ⟨hnone, rfl⟩ := orRaise_eq_error.mp h
    rw [hs, hs₂]
    refine ⟨hnone, ⟨rfl, rfl⟩, ?_⟩
    simp [Fault.final, Fault.uncertain, hrefused]
  · refine Exits.bind (R := fun _ s => resultId v "turn" = some turnId ∧ Beside s₁ s ∧
      s.writes ≠ []) (Exits.modify fun s ⟨ht, hs⟩ => ?_) fun _ => Exits.pure fun _ h => h
    rw [hs, hs₂]
    exact ⟨ht, ⟨rfl, rfl⟩, by simp⟩

theorem Running.assignThread {s : ControllerStore} {t : String} (h : Running job s)
    (hs : s.assignThread job.jobId t now = .ok s') : Running job s' := by
  simp only [ControllerStore.assignThread, ControllerStore.setConversationThread, bind_eq_ok,
    ensure_eq_ok, orRaise_eq_ok, pure_eq_ok] at hs
  obtain ⟨_, _, _, _, _, ⟨_, _, rfl⟩, rfl⟩ := hs
  obtain ⟨j, hj, hstate, hattempt⟩ := h
  exact ⟨_, Table.get?_update_of_get? hj _ (by intro _; rfl), hstate, hattempt⟩

/-- The exceptions of `assign_turn` leave the job in doubt. -/
theorem assignTurn_error {s : ControllerStore} (h : s.assignTurn jobId turnId = .error e) :
    e.fault.uncertain = true := by
  simp only [ControllerStore.assignTurn, bind_eq_error, ensure_eq_error, orRaise_eq_error] at h
  obtain ⟨-, rfl⟩ | ⟨_, _, ⟨-, rfl⟩ | ⟨_, _, ⟨-, rfl⟩ | ⟨_, _, h⟩⟩⟩ := h
  · rfl
  · rfl
  · rfl
  · cases h

/-- The Turn of a job: it is failed with something started exactly as `TurnLeaks` says. -/
theorem serveTurn_exits (fingerprint : String) (context : ToolContext)
    (hcontext : context.jobId = job.jobId) (s₀ : Dispatching) (hs₀ : Serving job context s₀)
    (hw₀ : s₀.writes = []) :
    Exits (fun s => s = s₀) (serveTurn env fingerprint job)
      (fun _ s => Failed job s.store ∧ s.writes ≠ [] ↔ TurnLeaks env s₀.toDesk fingerprint job)
      (fun f s => Running job s.store ∧
        (f.final job ∧ s.writes ≠ [] ↔ TurnLeaks env s₀.toDesk fingerprint job)) := by
  refine Exits.bind ((openThread_exits env fingerprint s₀).conseq (fun _ h => h) (fun _ _ h => h)
    fun f s h => ?_) fun t => ?_
  · obtain ⟨hnone, hstore, hw⟩ := h
    refine ⟨hstore ▸ hs₀.1, ?_⟩
    constructor
    · rintro ⟨hfinal, hwrites⟩
      exact absurd ((hw hfinal.1).trans hw₀) hwrites
    · rintro ⟨t, created, store, ht, hassign, -⟩
      exact absurd hassign (hnone t created store ht)
  refine Exits.of_state ?_
  rintro s₁ ⟨created, ht, hassign, hactive, hw⟩
  have hrunning := hs₀.1.assignThread hassign
  have hcreated := hw hw₀
  have hleaks : TurnLeaks env s₀.toDesk fingerprint job ↔
      (created = true ∧ ((∃ code, env.media = .rejected code) ∨
        env.media = .items ∧ TurnRefused env job)) ∨
      ∃ turnId store', env.media = .items ∧ env.turn.id "turn" = some turnId ∧
        s₁.store.assignTurn job.jobId turnId = .ok store' ∧ TurnFailed env job store' turnId := by
    constructor
    · rintro ⟨t', created', store, ht', hassign', h⟩
      rw [ht] at ht'
      cases ht'
      rw [hassign] at hassign'
      cases hassign'
      exact h
    · exact fun h => ⟨t, created, s₁.store, ht, hassign, h⟩
  rw [hleaks]
  refine Exits.bind (R := fun _ s => s = s₁ ∧ env.media = .items) ?_ fun _ => ?_
  · unfold prepareMedia
    cases hmedia : env.media with
    | items => exact Exits.pure fun s hs => ⟨hs, rfl⟩
    | rejected code =>
      refine Exits.throw fun s hs => ?_
      rw [hs]
      refine ⟨hrunning, ?_⟩
      rw [hcreated]
      simp [Fault.final, Fault.uncertain]
    | broken =>
      refine Exits.throw fun s hs => ?_
      rw [hs]
      refine ⟨hrunning, ?_⟩
      simp [Fault.final, Fault.uncertain]
  refine Exits.of_state ?_
  rintro s₂ ⟨hs₂, hmedia⟩
  subst hs₂
  simp only [hmedia, true_and, reduceCtorEq, exists_false, false_or]
  refine Exits.bind ((startTurn_exits env job t s₂).conseq (fun _ h => h) (fun _ _ h => h)
    fun f s h => ?_) fun turnId => ?_
  · obtain ⟨hid, hs, hiff⟩ := h
    refine ⟨hs.1 ▸ hrunning, ?_⟩
    rw [hiff, hcreated, hid]
    simp [and_comm]
  refine Exits.get_bind ?_
  rintro s₃ ⟨hid, hs₃, hwrites⟩
  have hrefused : ¬ TurnRefused env job := by
    rintro ⟨code, hcode, -⟩
    rw [hcode] at hid
    cases hid
  have hbind : bindTurn s₃.active job.jobId turnId = .ok (some { context with turnId := turnId }) := by
    rw [hs₃.2, hactive, hs₀.2, bindTurn, Option.filter_some, if_pos (by simp [hcontext])]
    rfl
  rw [hbind]
  refine Exits.bind (R := fun _ s => s = s₃) (Exits.pure fun _ h => h) fun active => ?_
  refine Exits.bind (R := fun _ s => s.store = s₂.store ∧ s.writes ≠ [])
    (Exits.modify fun s hs => ?_) fun _ => ?_
  · rw [hs]
    exact ⟨hs₃.1, hwrites⟩
  have hleaks' : (created = true ∧ TurnRefused env job ∨
      ∃ turnId store', env.turn.id "turn" = some turnId ∧
        s₂.store.assignTurn job.jobId turnId = .ok store' ∧ TurnFailed env job store' turnId) ↔
      ∃ store', s₂.store.assignTurn job.jobId turnId = .ok store' ∧
        TurnFailed env job store' turnId := by
    rw [hid]
    simp [hrefused]
  rw [hleaks']
  refine Exits.bind (R := fun _ s => s₂.store.assignTurn job.jobId turnId = .ok s.store ∧
    s.writes ≠ []) (Work.onStore_exits ?_ ?_) fun _ => ?_
  · rintro s store ⟨hstore, hw⟩ hs
    rw [hstore] at hs
    exact ⟨hs, hw⟩
  · rintro s e ⟨hstore, hw⟩ hs
    refine ⟨hstore ▸ hrunning, ?_⟩
    rw [hstore] at hs
    rw [hs]
    simp [Fault.final, assignTurn_error hs]
  · refine Exits.modify ?_
    rintro s ⟨hstore, hw⟩
    obtain ⟨j, hj, hjob⟩ := ControllerStore.runningTurn_assignTurn hstore
    rw [hstore]
    rw [handleBuffered_writes, flush_failed_iff env hj hjob]
    simp [hw]

theorem serveNewThread_exits (fingerprint : String) :
    Exits (Fresh job) (serveNewThread env fingerprint job) (fun _ s => ¬ Failed job s.store)
      (Harmless job) := by
  refine Exits.of_state fun s₀ hs₀ => ?_
  refine Exits.bind (R := fun _ s => Running job s.store) ?_ fun t => ?_
  · refine (startThread_exits env fingerprint s₀).conseq (fun _ h => h)
      (fun t s ⟨_, hs, _⟩ => hs.1 ▸ hs₀.1) fun f s ⟨_, hs, hw⟩ => ⟨hs.1 ▸ hs₀.1, fun hf => ?_⟩
    exact (hw hf).trans hs₀.2
  refine Exits.bind (R := fun _ s => Running job s.store) (Work.lift_exits (fun _ _ _ h => h) ?_)
    fun short => Work.onStore_exits ?_ ?_
  · intro f s hf h
    obtain ⟨-, rfl⟩ := orRaise_eq_error.mp hf
    exact ⟨h, fun hcertain => by cases hcertain⟩
  · rintro s store ⟨j, hj, -⟩ hs
    simp only [ControllerStore.completeNewThread, ControllerStore.setConversationThread, bind_eq_ok,
      ensure_eq_ok, orRaise_eq_ok, pure_eq_ok] at hs
    obtain ⟨_, _, _, _, _, ⟨_, _, rfl⟩, rfl⟩ := hs
    exact (failed_updateJob (s := { s.store with conversations := _ }) hj).not.mpr (by simp)
  · rintro s e h hs
    refine ⟨h, fun hcertain => ?_⟩
    simp only [ControllerStore.completeNewThread, ControllerStore.setConversationThread,
      bind_eq_error, ensure_eq_error, orRaise_eq_error] at hs
    obtain ⟨-, rfl⟩ | ⟨_, _, ⟨-, rfl⟩ | ⟨_, _, (⟨-, rfl⟩ | ⟨_, _, hs⟩) | ⟨_, _, hs⟩⟩⟩ := hs
    · cases hcertain
    · cases hcertain
    · cases hcertain
    · cases hs
    · cases hs

end Branches

/-! ## The whole dispatch -/

variable (env : Services) {job : Job}

/-- What the body of a dispatch leaves, when it returns and when it raises. -/
theorem dispatchBody_exits {d : Desk} (h : d.store.runningJob job.jobId = some job) :
    Exits (fun s => s = ⟨d, false, []⟩) (dispatchBody env job)
      (fun _ s => Failed job s.store ∧ s.writes ≠ [] ↔ Leaks env job d)
      (fun f s => Running job s.store ∧ (f.final job ∧ s.writes ≠ [] ↔ Leaks env job d)) := by
  have hrunning : Running job d.store := by
    obtain ⟨hget, hstate⟩ := d.store.runningJob_eq_some.mp h
    exact ⟨job, hget, hstate, rfl⟩
  -- a branch that is not about a forgotten write
  have hother : plan env job d = .other → ∀ {P : Dispatching → Prop} {p : Work Unit},
      Exits P p (fun _ s => ¬ Failed job s.store) (Harmless job) →
      Exits P p (fun _ s => Failed job s.store ∧ s.writes ≠ [] ↔ Leaks env job d)
        (fun f s => Running job s.store ∧
          (f.final job ∧ s.writes ≠ [] ↔ Leaks env job d)) := by
    intro hplan P p hp
    have hleaks : ¬ Leaks env job d := by
      rw [Leaks, hplan]
      exact not_false
    refine hp.conseq (fun _ h => h) (fun _ s hs => ?_) fun f s hs => ⟨hs.1, ?_⟩
    · simp [hs, hleaks]
    · constructor
      · rintro ⟨hfinal, hwrites⟩
        exact absurd (hs.2 hfinal.1) hwrites
      · exact fun h => absurd h hleaks
  refine Exits.ite (fun hnew => ?_) fun hnew => ?_
  · refine hother (by rw [plan, if_pos hnew]) ((serveNewThread_exits env _).pre fun s hs => ?_)
    rw [hs]
    exact ⟨hrunning, rfl⟩
  refine Exits.get_bind fun s₀ hs₀ => ?_
  subst hs₀
  cases hcontext : jobContext d.active job with
  | error e =>
    have hplan : plan env job d = .other := by rw [plan, if_neg hnew, hcontext]
    refine Exits.bind (R := fun _ _ => False) (Exits.throw fun s hs => ?_) fun _ _ hs => hs.elim
    rw [hs]
    refine ⟨hrunning, ?_⟩
    rw [Leaks, hplan]
    simp
  | ok context =>
  have hjob : context.jobId = job.jobId := by
    simp only [jobContext, beginJob, bind_eq_ok, ensure_eq_ok, pure_eq_ok] at hcontext
    obtain ⟨_, _, _, _, rfl⟩ := hcontext
    rfl
  refine Exits.bind (R := fun c s => s = ⟨d, false, []⟩ ∧ c = context)
    (Exits.pure fun _ h => ⟨h, rfl⟩) fun c => ?_
  refine Exits.bind (R := fun _ s => s = ⟨{ d with active := some context }, false, []⟩)
    (Exits.modify fun s hs => by rw [hs.1, hs.2]) fun _ => ?_
  cases hcar : prepareCarIntent job.input with
  | some intent =>
    have hplan : plan env job d = .other := by
      rw [plan, if_neg hnew, hcontext]
      simp [hcar]
    refine hother hplan (Exits.bind ((serveCar_exits env _ intent).pre fun s hs => ?_)
      fun text => completeDirect_exits env text)
    rw [hs]
    exact ⟨hrunning, rfl⟩
  | none =>
  obtain ⟨s₁, hs₁⟩ : ∃ s₁ : Dispatching, s₁ = ⟨{ d with
      active := some context
      confirmations := d.confirmations.cancelPending job.conversationKey job.input.messageId
        env.now }, false, []⟩ := ⟨_, rfl⟩
  have hserving : Serving job context s₁ := by
    rw [hs₁]
    exact ⟨hrunning, rfl⟩
  have hwrites : s₁.writes = [] := by rw [hs₁]
  refine Exits.bind (R := fun _ s => s = s₁) (Exits.modify fun s hs => by rw [hs, hs₁]) fun _ => ?_
  have hplan : plan env job d = match memoCommand env (effectiveTools env job) job.input with
      | .error _ => .other
      | .ok none => .turn
      | .ok (some command) => match issuedWrite env context command with
        | some request => .memo request
        | none => .other := by
    rw [plan, if_neg hnew, hcontext]
    simp [hcar]
  cases hcommand : memoCommand env (effectiveTools env job) job.input with
  | error f =>
    rw [hcommand] at hplan
    refine Exits.bind (R := fun _ _ => False) (Exits.throw fun s hs => ?_) fun _ _ hs => hs.elim
    rw [hs, Leaks, hplan]
    exact ⟨hserving.1, by simp [hwrites]⟩
  | ok command =>
  rw [hcommand] at hplan
  refine Exits.bind (R := fun c s => s = s₁ ∧ c = command) (Exits.pure fun _ h => ⟨h, rfl⟩)
    fun c => ?_
  refine Exits.of_state ?_
  rintro s ⟨hs, hc⟩
  subst hs hc
  cases c with
  | none =>
    have hleaks : Leaks env job d ↔ TurnLeaks env s.toDesk
        (env.fingerprint (effectiveTools env job) job.input.capabilityProfile) job := by
      rw [Leaks, hplan, hs₁]
      rfl
    rw [hleaks]
    exact serveTurn_exits env _ context hjob s hserving hwrites
  | some command =>
    have hleaks : Leaks env job d ↔
        ∃ request ∈ issuedWrite env context command, (env.memo request).unconfirmed = true := by
      rw [Leaks, hplan]
      cases hissued : issuedWrite env context command with
      | none => simp [hissued]
      | some request => simp [hissued]
    refine Exits.bind (((serveMemo_exits env job context command).pre fun s' hs' => ?_).conseq
      (fun _ h => h) (fun _ _ h => h) fun f s' h => ?_) fun text => ?_
    · rw [hs']
      exact ⟨hserving, hwrites⟩
    · rw [hleaks]
      exact h
    · refine Exits.of_state fun s' hs' => ?_
      refine ((completeDirect_exits env text (E := fun _ _ => False)).pre fun s'' h => ?_).conseq
        (fun _ h => h) (fun _ s'' h => ?_) fun _ _ h => h.elim
      · rw [h]
        exact hs'.1
      · rw [hleaks]
        constructor
        · exact fun h' => absurd h'.1 h
        · rintro ⟨request, hmem, hlost⟩
          rw [hs'.2 request hmem] at hlost
          cases hlost

/-- A job that a dispatch leaves in `failed` has written nothing, exactly unless a write is
    forgotten: the memos did what they were asked and no usable answer came, or a Thread or a Turn
    was started for it and the Turn is then refused or reported as failed. -/
theorem dispatch_definite_iff (d : Desk) (h : d.store.runningJob job.jobId = some job) :
    (Failed job (dispatch env job d).store → (dispatch env job d).writes = []) ↔
      ¬ Leaks env job d := by
  have hbody := dispatchBody_exits env h _ (Eq.refl (⟨d, false, []⟩ : Dispatching))
  have hiff : Failed job (dispatch env job d).store ∧ (dispatch env job d).writes ≠ [] ↔
      Leaks env job d := by
    unfold dispatch
    generalize dispatchBody env job ⟨d, false, []⟩ = r at hbody ⊢
    cases r with
    | ok a s =>
      have hleave : (leave job s).store = s.store ∧ (leave job s).writes = s.writes := by
        unfold leave
        split <;> exact ⟨rfl, rfl⟩
      dsimp only
      rw [hleave.1, hleave.2]
      exact hbody
    | error f s =>
      have hleave : (leave job { s with store := settle env job f s.store }).store =
          settle env job f s.store ∧
          (leave job { s with store := settle env job f s.store }).writes = s.writes := by
        unfold leave
        split <;> exact ⟨rfl, rfl⟩
      dsimp only
      rw [hleave.1, hleave.2, settle_failed_iff env hbody.1]
      exact hbody.2
  rw [← hiff]
  constructor
  · rintro hdefinite ⟨hfailed, hwrites⟩
    exact hwrites (hdefinite hfailed)
  · intro hnot hfailed
    by_contra hwrites
    exact hnot ⟨hfailed, hwrites⟩

/-! ### A memo whose answer is lost -/

/-- The hours of `Asia/Shanghai` in this century. -/
def eastEight : Zone := ⟨fun _ => 28800000000, fun _ => 28800000000⟩

/-- Everything is configured, and the answer of the memos is lost. -/
def lostMemo : Services where
  maxQueue := 10
  maxResultChars := 1000
  repr := fun _ => ""
  shanghai := eastEight
  system := eastEight
  casefold := fun s => s
  config := ⟨true, true, true, true, true⟩
  hub := []
  catalogPolicy := some ["memo_create", "memo_list", "memo_complete"]
  callPolicy := fun _ => some ["memo_create", "memo_list", "memo_complete"]
  fingerprint := fun _ _ => ""
  thread := fun _ => .lost
  turn := .lost
  memo := fun _ => .lost true
  carState := .lost true
  carService := fun _ => .lost true
  media := .items
  pending := []
  shortId := some
  now := 0
  confirmationId := "PC-1"
  moment := ⟨"2026-08-10T00:00:01+00:00", "2026-08-10T08:00:01+08:00",
    fun _ => "2026-08-10T08:00:03+08:00", 0⟩

/-- `提醒我明天九点买菜` of the owner, claimed. -/
def memoJob : Job := claimed "2026-08-10T00:00:01+00:00" (newJob
  ⟨"wx-1", "sha256:" ++ String.ofList (List.replicate 64 '0'), "2026-08-10T08:00:00+08:00",
    "提醒我明天九点买菜", [], ["text"], .owner⟩ "job-1" "2026-08-10T00:00:00+00:00")

/-- Nothing but that job. -/
def memoDesk : Desk := ⟨⟨.empty, ⟨[memoJob], by simp⟩, .empty⟩, .empty, none, [], []⟩

/-- The memo is created, its answer is lost, and the job is failed. -/
theorem lost_memo_fails :
    ¬ (Failed memoJob (dispatch lostMemo memoJob memoDesk).store →
      (dispatch lostMemo memoJob memoDesk).writes = []) := by
  have hstate : ((dispatch lostMemo memoJob memoDesk).store.jobs.get? memoJob.jobId).map
      (·.state) = some .failed := by decide +kernel
  have hwrites : (dispatch lostMemo memoJob memoDesk).writes.length = 1 := by decide +kernel
  intro hdefinite
  obtain ⟨j, hj, hfailed⟩ := Option.map_eq_some_iff.mp hstate
  rw [hdefinite ⟨j, hj, hfailed⟩] at hwrites
  cases hwrites

theorem dispatch_definite_iff_memo :
    (Failed memoJob (dispatch lostMemo memoJob memoDesk).store →
      (dispatch lostMemo memoJob memoDesk).writes = []) ↔ ¬ Leaks lostMemo memoJob memoDesk :=
  dispatch_definite_iff lostMemo memoDesk rfl

end HomeAddons.Controller
