import HomeAddons.Gateway.Delivery

/-!
# Weixin Gateway: the switch of the pollers

Whether the pollers are to run is kept twice: in the override of the table `gateway_meta`, which a
restart reads, and in the field `poller_enabled` of the service. The calls `start_poller` and
`stop_poller` write both, the first under the request table and the second always. A pause for
maintenance is a lease in memory, which ends with a call or with its time.

* `single_valued_iff`: both copies agree after every call, and no poller starts against them or
  during a pause, exactly when no request is answered from file after its effect was undone.
* `replayed_start_enables`: a start, a stop and the same start again.
-/

namespace HomeAddons.Gateway

open HomeAddons.Common

/-! ## The service -/

/-- `_poller_maintenance_request_id`, `…_expires_at` and `…_resume_enabled`, while there is a
    task that waits for the end of the pause. -/
structure MaintenanceLease where
  requestId : String
  expiresAt : String
  resumeEnabled : Bool

/-- The service with `poller_override` and `poller_revision` of `gateway_meta`, where no override is
    NULL. -/
structure PollerService where
  world : DeliveryWorld
  override : Option Bool
  revision : ℕ
  defaultEnabled : Bool
  maintenance : Option MaintenanceLease

/-- What a call finds outside: the identities whose token lock is held elsewhere, those without an
    allowed user, the time and the time some seconds later. -/
structure PollerEnv where
  conflicts : List String
  unpaired : List String
  now : String
  later : ℤ → String

inductive PollerCall where
  | startPoller (payload : Dict)
  | stopPoller (payload : Dict)
  | pauseMaintenance (payload : Dict)
  | resumeMaintenance (payload : Dict)
  | maintenanceTimeout (requestId : String)
  /-- The poll task of an identity ends, or another request learns that its session expired. -/
  | expire (identityId : String) (toPoller : Bool)

/-- `str(v or "")`; `repr` is `str` of a `list` or a `dict`. -/
def textOrEmpty (repr : Json → String) : Json → String
  | .null => ""
  | .bool b => if b then "True" else ""
  | .int n => if n = 0 then "" else toString n
  | .float _ "NaN" => "nan"
  | .float _ "Infinity" => "inf"
  | .float _ "-Infinity" => "-inf"
  | .float value text => if value = some 0 then "" else text
  | .str s => s
  | .arr items => if items.isEmpty then "" else repr (.arr items)
  | .obj items => if items.isEmpty then "" else repr (.obj items)

/-- `poller_override` of a switch. -/
def overrideText (enabled : Bool) : String := if enabled then "enabled" else "disabled"

/-- The part of a request to switch the pollers that its digest is taken of. -/
def switchPayload (enabled : Bool) (payload : Dict) : Dict :=
  [("enabled", .bool enabled), ("revision", Dict.get payload "revision")]

namespace DeliveryWorld

/-- A poll task of the identity runs. -/
def polls (w : DeliveryWorld) (identityId : String) : Bool :=
  (w.service.runtimes.get? identityId).any Runtime.polling

/-- What `_start_pollers_unlocked` raises after it has started what it could. -/
def startRaise (w : DeliveryWorld) (unpaired : List String) : Except Raise Unit :=
  match w.service.identity with
  | none => .ok ()
  | some identity => do
    ensure (¬ (identity ∈ unpaired ∧ w.service.ownerPairingEnabled = false))
      (raising "owner_binding_required" "新身份必须先启用一次性 owner 绑定" 409)
    ensure (w.service.runtimes.rows.all fun r =>
      r.polling || (w.store.identities.get? r.identityId).isSome)
      (raising "identity_not_found" "ClawBot 身份不存在" 404)

end DeliveryWorld

namespace PollerService

variable (repr : Json → String) (env : PollerEnv) (p : PollerService)

/-- What `__init__` makes of what it finds (lines 492–545). -/
def boot (world : DeliveryWorld) (override : Option Bool) (revision : ℕ) (defaultEnabled : Bool) :
    PollerService where
  world := { world with service := { world.service with
    pollerEnabled := override.getD defaultEnabled } }
  override := override
  revision := revision
  defaultEnabled := defaultEnabled
  maintenance := none

/-- `set_poller_enabled(enabled, expected_revision=…, request_id=…)` (lines 1023–1074). -/
def setPollerEnabled (enabled : Bool) (payload : Dict) : Except Raise (PollerService × Json) := do
  let requestId := textOrEmpty repr (Dict.get payload "request_id")
  let expected := Dict.get payload "revision"
  let response : Dict := [("enabled", .bool enabled), ("override", .str (overrideText enabled)),
    ("revision", .int (p.revision + 1))]
  let (store, response, replayed) ← p.world.store.administer (.str requestId) "poller_control"
    (switchPayload enabled payload) env.now fun g => do
      ensure (expected.asInt? = some (p.revision : ℤ))
        (raising "poller_revision_conflict" "Poller 状态已变化，请刷新页面后重试" 409)
      return (g, .obj response, .obj response)
  if replayed then
    return (p, .obj (Dict.without (response.asDict?.getD []) "replayed" ++
      [("replayed", .bool true)]))
  else
    return ({ p with
      world := { p.world with store := store }
      override := some enabled
      revision := p.revision + 1 }, response)

/-- The assignment to `poller_enabled`. -/
def enable (enabled : Bool) : PollerService :=
  { p with world := { p.world with service := { p.world.service with pollerEnabled := enabled } } }

/-- `_cancel_poller_maintenance_unlocked()`, and `_clear_poller_maintenance_unlocked()`. -/
def clearMaintenance : PollerService := { p with maintenance := none }

/-- `_start_pollers_unlocked()`. -/
def startPollers : PollerService × Except Raise Unit :=
  ({ p with world := p.world.startPollers env.conflicts env.unpaired env.now },
    p.world.startRaise env.unpaired)

/-- `_stop_pollers_unlocked()`. -/
def stopPollers : PollerService := { p with world := p.world.stopPollers env.now }

/-- `{**response, "poller_state": self.poller_state}`. -/
def switched (response : Json) : Json :=
  .obj (Dict.without (response.asDict?.getD []) "poller_state" ++
    [("poller_state", .str p.world.service.pollerState.text)])

/-- `_poller_maintenance_document(replayed=…)` (lines 708–718). -/
def maintenanceDocument (replayed : Bool) : Json :=
  .obj [("active", .bool p.maintenance.isSome),
    ("request_id", optionalText (p.maintenance.map MaintenanceLease.requestId)),
    ("expires_at", optionalText (p.maintenance.map MaintenanceLease.expiresAt)),
    ("resume_enabled", (p.maintenance.map fun l => Json.bool l.resumeEnabled).getD .null),
    ("poller_state", .str p.world.service.pollerState.text),
    ("poller_enabled", .bool p.world.service.pollerEnabled), ("replayed", .bool replayed)]

/-- `start_poller(payload)` (lines 625–637). -/
def startPoller (payload : Dict) : PollerService × Except Raise Json :=
  let p := p.clearMaintenance
  match p.setPollerEnabled repr env true payload with
  | .error e => (p, .error e)
  | .ok (p, response) =>
    let (p, started) := (p.enable true).startPollers env
    (p, started.map fun _ => p.switched response)

/-- `stop_poller(payload)` (lines 639–649). -/
def stopPoller (payload : Dict) : PollerService × Except Raise Json :=
  let p := p.clearMaintenance
  match p.setPollerEnabled repr env false payload with
  | .error e => (p, .error e)
  | .ok (p, response) =>
    let p := (p.enable false).stopPollers env
    (p, .ok (p.switched response))

/-- `isinstance(duration_seconds, int)` between the bounds, and no `bool`. -/
def maintenanceDuration (payload : Dict) : Except Raise ℤ := do
  let error := rejecting "maintenance_duration_invalid" "维护暂停时长必须为 30～1800 秒"
  let seconds ← orRaise (Dict.get payload "duration_seconds").asInt? error
  ensure (30 ≤ seconds ∧ seconds ≤ 1800) error
  return seconds

/-- The part of `pause_poller_maintenance` under the lock (lines 660–682). -/
def pauseLocked (requestId : String) (seconds : ℤ) : PollerService × Except Raise Json :=
  match p.maintenance with
  | some lease =>
    if lease.requestId = requestId then (p, .ok (p.maintenanceDocument true))
    else (p, .error (raising "maintenance_pause_active" "已有维护暂停正在生效" 409))
  | none =>
    let enabled := p.world.service.pollerEnabled
    let p := { p with maintenance := some ⟨requestId, env.later seconds, enabled⟩ }
    let p := if enabled then p.stopPollers env else p
    (p, .ok (p.maintenanceDocument false))

/-- `pause_poller_maintenance(payload)` (lines 651–682). -/
def pauseMaintenance (payload : Dict) : PollerService × Except Raise Json :=
  let checked := do
    let requestId ← requestIdOf (.str (textOrEmpty repr (Dict.get payload "request_id")))
    let seconds ← maintenanceDuration payload
    return (requestId, seconds)
  match checked with
  | .error e => (p, .error e)
  | .ok (requestId, seconds) => p.pauseLocked env requestId seconds

/-- The end of a pause: the pollers go on if they ran before it. -/
def endMaintenance (lease : MaintenanceLease) : PollerService × Except Raise Unit :=
  let p := p.clearMaintenance
  if lease.resumeEnabled ∧ p.world.service.pollerEnabled then p.startPollers env else (p, .ok ())

/-- `resume_poller_maintenance(payload)` (lines 684–696). -/
def resumeMaintenance (payload : Dict) : PollerService × Except Raise Json :=
  match requestIdOf (.str (textOrEmpty repr (Dict.get payload "request_id"))) with
  | .error e => (p, .error e)
  | .ok requestId =>
    match p.maintenance with
    | none => (p, .ok (p.maintenanceDocument true))
    | some lease =>
      if lease.requestId = requestId then
        let (p, started) := p.endMaintenance env lease
        (p, started.map fun _ => p.maintenanceDocument false)
      else (p, .error (raising "maintenance_request_conflict"
        "维护恢复 request_id 与当前租约不一致" 409))

/-- `_poller_maintenance_timeout(request_id, duration_seconds)` after its sleep (lines 698–706). -/
def maintenanceTimeout (requestId : String) : PollerService :=
  match p.maintenance with
  | none => p
  | some lease => if lease.requestId = requestId then (p.endMaintenance env lease).1 else p

/-- The calls hold `_poller_control_lock`, so they come one after the other. -/
def step (p : PollerService) (call : PollerEnv × PollerCall) : PollerService :=
  match call.2 with
  | .startPoller payload => (p.startPoller repr call.1 payload).1
  | .stopPoller payload => (p.stopPoller repr call.1 payload).1
  | .pauseMaintenance payload => (p.pauseMaintenance repr call.1 payload).1
  | .resumeMaintenance payload => (p.resumeMaintenance repr call.1 payload).1
  | .maintenanceTimeout requestId => p.maintenanceTimeout call.1 requestId
  | .expire identityId toPoller =>
    { p with world := p.world.expireSession identityId toPoller call.1.now }

/-! ## The property -/

/-- The persisted switch, or the default when there is none. -/
def desired : Bool := p.override.getD p.defaultEnabled

/-- The copy in memory says what is persisted. -/
def SingleValued : Prop := p.world.service.pollerEnabled = p.desired

/-- A poller starts only while the persisted switch is on and there is no pause. -/
def StartsPermitted (call : PollerEnv × PollerCall) : Prop :=
  ∀ id, p.world.polls id = false → (step repr p call).world.polls id = true →
    (step repr p call).desired = true ∧ (step repr p call).maintenance = none

/-- The request to switch the pollers is on file, as this request. -/
def onFile (enabled : Bool) (payload : Dict) : Bool :=
  ((requestIdOf (.str (textOrEmpty repr (Dict.get payload "request_id")))).toOption.bind
    p.world.store.mutations.get?).any fun row =>
      row.scope = "poller_control" ∧
        row.requestDigest = requestDigest "poller_control" (switchPayload enabled payload)

/-- A request that is answered from file asks for what is persisted. -/
def AnswersAgree (call : PollerEnv × PollerCall) : Prop :=
  match call.2 with
  | .startPoller payload => p.onFile repr true payload = true → p.desired = true
  | .stopPoller payload => p.onFile repr false payload = true → p.desired = false
  | _ => True

end PollerService

/-! ## Pollers -/

namespace DeliveryWorld

variable {w : DeliveryWorld}

@[simp] theorem polls_setRuntimeState (id : String) (state : PollerState)
    (errorCode : Option String) (identityState : Option IdentityState) (now id' : String) :
    (w.setRuntimeState id state errorCode identityState now).polls id' = w.polls id' := by
  simp only [polls, setRuntimeState, Table.get?_update]
  split_ifs with h
  · subst h
    cases w.service.runtimes.get? id' <;> rfl
  · rfl

variable {id' now : String}

theorem polls_setPolling_false {id : String} (h : (w.setPolling id false).polls id' = true) :
    w.polls id' = true := by
  simp only [polls, setPolling, Table.get?_update] at h ⊢
  split_ifs at h with he
  · rw [Option.any_map] at h
    simp at h
  · exact h

theorem polls_stopRuntimes {ids : List String} {id : String}
    (h : (stopRuntimes now ids w).polls id = true) : w.polls id = true := by
  induction ids generalizing w with
  | nil => exact h
  | cons _ _ ih =>
    have hrest := ih h
    rw [polls_setRuntimeState] at hrest
    exact polls_setPolling_false hrest

/-- Nothing starts when the pollers are stopped. -/
theorem polls_stopPollers {id : String} (h : (w.stopPollers now).polls id = true) :
    w.polls id = true := polls_stopRuntimes h

theorem polls_expireSession {id : String} {toPoller : Bool}
    (h : (w.expireSession id toPoller now).polls id' = true) : w.polls id' = true := by
  unfold expireSession at h
  split at h
  · exact h
  · rename_i r hr
    cases hpolling : r.polling && !toPoller with
    | false =>
      rw [hpolling] at h
      simpa using polls_setPolling_false h
    | true =>
      by_cases he : id' = id
      · rw [polls, he, hr]
        exact (Bool.and_eq_true_iff.mp hpolling).1
      · simpa [polls, setPolling, setRuntimeState, Table.get?_update_of_ne _ he] using h

@[simp] theorem pollerEnabled_stopPollers (now : String) :
    (w.stopPollers now).service.pollerEnabled = w.service.pollerEnabled := by
  have hloop : ∀ (ids : List String) (w : DeliveryWorld),
      (stopRuntimes now ids w).service.pollerEnabled = w.service.pollerEnabled := by
    intro ids
    induction ids with
    | nil => exact fun _ => rfl
    | cons id ids ih => exact fun w => ih _
  exact hloop _ w

@[simp] theorem pollerEnabled_startPollers (conflicts unpaired : List String) (now : String) :
    (w.startPollers conflicts unpaired now).service.pollerEnabled = w.service.pollerEnabled := by
  have hloop : ∀ (ids : List String) (w : DeliveryWorld),
      (startRuntimes conflicts unpaired now ids w).service.pollerEnabled =
        w.service.pollerEnabled := by
    intro ids
    induction ids with
    | nil => exact fun _ => rfl
    | cons id ids ih =>
      intro w
      unfold startRuntimes
      split
      · exact ih w
      · split
        · rfl
        · split
          · split
            · exact ih _
            · exact ih _
          · exact ih w
  unfold startPollers
  split
  · rfl
  · split
    · rfl
    · exact hloop _ w

@[simp] theorem pollerEnabled_expireSession (id : String) (toPoller : Bool) (now : String) :
    (w.expireSession id toPoller now).service.pollerEnabled = w.service.pollerEnabled := by
  unfold expireSession
  split <;> rfl

end DeliveryWorld

/-! ## One call -/

namespace PollerService

variable {repr : Json → String} {env : PollerEnv} {p p' : PollerService}

variable {enabled : Bool} {payload : Dict} {response : Json} {q : PollerService}
  {call : PollerEnv × PollerCall}

/-- A request is answered from file and changes nothing, or it sets the override. -/
theorem setPollerEnabled_cases
    (h : p.setPollerEnabled repr env enabled payload = .ok (p', response)) :
    (p.onFile repr enabled payload = true ∧ p' = p) ∨
      (p.onFile repr enabled payload = false ∧ p'.desired = enabled ∧
        p'.world.service = p.world.service ∧ p'.maintenance = p.maintenance) := by
  simp only [setPollerEnabled, bind_eq_ok] at h
  obtain ⟨⟨store, filed, replayed⟩, hadminister, h⟩ := h
  obtain ⟨id, hid, hcases⟩ := GatewayStore.administer_cases hadminister
  obtain ⟨row, hrow, hscope, hdigest, -, hreplayed⟩ |
    ⟨hnone, _, _, _, _, _, _, _, hreplayed⟩ := hcases
  · obtain ⟨-, rfl⟩ := Prod.mk.inj hreplayed
    rw [if_pos rfl, pure_eq_ok, Prod.mk.injEq] at h
    refine .inl ⟨?_, h.1.symm⟩
    simp only [onFile, hid, Except.toOption, Option.bind_some, hrow, Option.any_some]
    exact decide_eq_true ⟨hscope, hdigest⟩
  · obtain ⟨-, rfl⟩ := Prod.mk.inj hreplayed
    rw [if_neg Bool.false_ne_true, pure_eq_ok, Prod.mk.injEq] at h
    refine .inr ⟨?_, ?_⟩
    · simp only [onFile, hid, Except.toOption, Option.bind_some, hnone, Option.any_none]
    · rw [← h.1]
      exact ⟨rfl, rfl, rfl⟩

/-- A request on file is answered, and changes nothing. -/
theorem setPollerEnabled_of_onFile (h : p.onFile repr enabled payload = true) :
    ∃ response, p.setPollerEnabled repr env enabled payload = .ok (p, response) := by
  obtain ⟨row, hrow, hfiled⟩ := (Option.any_eq_true _ _).mp h
  obtain ⟨id, hid, hget⟩ := Option.bind_eq_some_iff.mp hrow
  obtain ⟨hscope, hdigest⟩ := of_decide_eq_true hfiled
  have hid := toOption_eq_some.mp hid
  refine ⟨.obj (Dict.without (row.response.asDict?.getD []) "replayed" ++
    [("replayed", .bool true)]), ?_⟩
  simp only [setPollerEnabled, GatewayStore.administer, hid, ok_bind, hget, hscope, hdigest,
    and_self, ensure, if_true]
  rfl

/-- A switch that went through leaves both copies to agree exactly when it was carried out, or was
    asked for what is persisted. -/
theorem desired_iff
    (h : p.clearMaintenance.setPollerEnabled repr env enabled payload = .ok (q, response)) :
    enabled = q.desired ↔ (p.onFile repr enabled payload = true → p.desired = enabled) := by
  obtain ⟨hfile, rfl⟩ | ⟨hfile, hdesired, -, -⟩ := setPollerEnabled_cases h
  · have hfile : p.onFile repr enabled payload = true := hfile
    exact ⟨fun he _ => he.symm, fun he => (he hfile).symm⟩
  · have hfile : p.onFile repr enabled payload = false := hfile
    refine ⟨fun _ ht => ?_, fun _ => hdesired.symm⟩
    rw [hfile] at ht
    cases ht

theorem switch_aside
    (h : p.clearMaintenance.setPollerEnabled repr env enabled payload = .ok (q, response)) :
    q.world.service = p.world.service ∧ q.maintenance = none := by
  obtain ⟨-, rfl⟩ | ⟨-, -, hservice, hmaintenance⟩ := setPollerEnabled_cases h
  · exact ⟨rfl, rfl⟩
  · exact ⟨hservice, hmaintenance⟩

/-- A switch that is refused was not on file. -/
theorem onFile_of_error {e : Raise}
    (h : p.clearMaintenance.setPollerEnabled repr env enabled payload = .error e) :
    p.onFile repr enabled payload = false := by
  by_contra hfile
  have hclear : p.clearMaintenance.onFile repr enabled payload = true :=
    (Bool.not_eq_false _).mp hfile
  obtain ⟨response, hok⟩ := setPollerEnabled_of_onFile hclear
  rw [h] at hok
  cases hok

theorem startPoller_sound_iff (hp : p.SingleValued) (payload : Dict) :
    ((step repr p (env, .startPoller payload)).SingleValued ∧
      p.StartsPermitted repr (env, .startPoller payload)) ↔
      p.AnswersAgree repr (env, .startPoller payload) := by
  simp only [StartsPermitted, AnswersAgree, step, startPoller]
  cases h : p.clearMaintenance.setPollerEnabled repr env true payload with
  | error e =>
    have hfile := onFile_of_error h
    refine ⟨fun _ ht => ?_, fun _ => ⟨hp, fun id hn hs => ?_⟩⟩
    · rw [hfile] at ht
      cases ht
    · cases hn.symm.trans hs
  | ok r =>
    obtain ⟨q, response⟩ := r
    rw [← desired_iff h]
    have hmaintenance := (switch_aside h).2
    constructor
    · rintro ⟨hsingle, -⟩
      have henabled : ((q.enable true).startPollers env).1.world.service.pollerEnabled = true :=
        DeliveryWorld.pollerEnabled_startPollers _ _ _
      exact henabled.symm.trans hsingle
    · intro hdesired
      refine ⟨?_, fun _ _ _ => ⟨hdesired.symm, hmaintenance⟩⟩
      exact (DeliveryWorld.pollerEnabled_startPollers _ _ _).trans hdesired

theorem stopPoller_sound_iff (hp : p.SingleValued) (payload : Dict) :
    ((step repr p (env, .stopPoller payload)).SingleValued ∧
      p.StartsPermitted repr (env, .stopPoller payload)) ↔
      p.AnswersAgree repr (env, .stopPoller payload) := by
  simp only [StartsPermitted, AnswersAgree, step, stopPoller]
  cases h : p.clearMaintenance.setPollerEnabled repr env false payload with
  | error e =>
    have hfile := onFile_of_error h
    refine ⟨fun _ ht => ?_, fun _ => ⟨hp, fun id hn hs => ?_⟩⟩
    · rw [hfile] at ht
      cases ht
    · cases hn.symm.trans hs
  | ok r =>
    obtain ⟨q, response⟩ := r
    rw [← desired_iff h]
    have hservice := (switch_aside h).1
    have henabled : ((q.enable false).stopPollers env).world.service.pollerEnabled = false :=
      DeliveryWorld.pollerEnabled_stopPollers _
    constructor
    · exact fun hsound => henabled.symm.trans hsound.1
    · refine fun hdesired => ⟨henabled.trans hdesired, fun id hn hs => ?_⟩
      have hpolls : (q.enable false).world.polls id = true := DeliveryWorld.polls_stopPollers hs
      have hsame : (q.enable false).world.polls id = p.world.polls id := by
        rw [DeliveryWorld.polls, DeliveryWorld.polls, ← hservice]
        rfl
      cases hn.symm.trans (hsame.symm.trans hpolls)

/-- What neither touches the copies nor starts a poller is sound. -/
theorem sound_of_idle (hq : step repr p call = q) (hp : p.SingleValued)
    (henabled : q.world.service.pollerEnabled = p.world.service.pollerEnabled)
    (hdesired : q.desired = p.desired)
    (hpolls : ∀ id, q.world.polls id = true → p.world.polls id = true) :
    (step repr p call).SingleValued ∧ p.StartsPermitted repr call := by
  subst hq
  refine ⟨henabled.trans (hp.trans hdesired.symm), fun id hn hs => ?_⟩
  cases hn.symm.trans (hpolls id hs)

/-- The end of a pause starts pollers only when they are to run. -/
theorem endMaintenance_sound {lease : MaintenanceLease}
    (hq : step repr p call = (p.endMaintenance env lease).1) (hp : p.SingleValued) :
    (step repr p call).SingleValued ∧ p.StartsPermitted repr call := by
  unfold endMaintenance at hq
  dsimp only at hq
  split at hq
  · rename_i hresume
    have hdesired : p.desired = true := hp.symm.trans hresume.2
    rw [StartsPermitted, hq]
    refine ⟨?_, fun _ _ _ => ⟨hdesired, rfl⟩⟩
    exact (DeliveryWorld.pollerEnabled_startPollers _ _ _).trans hp
  · exact sound_of_idle hq hp rfl rfl fun _ => id

theorem pauseLocked_sound {requestId : String} {seconds : ℤ}
    (hq : step repr p call = (p.pauseLocked env requestId seconds).1) (hp : p.SingleValued) :
    (step repr p call).SingleValued ∧ p.StartsPermitted repr call := by
  cases hlease : p.maintenance with
  | some lease =>
    have hsame : step repr p call = p := by
      rw [hq, pauseLocked, hlease]
      dsimp only
      split <;> rfl
    exact sound_of_idle hsame hp rfl rfl fun _ => id
  | none =>
    rw [pauseLocked, hlease] at hq
    dsimp only at hq
    split at hq
    · exact sound_of_idle hq hp (DeliveryWorld.pollerEnabled_stopPollers _) rfl
        fun _ => DeliveryWorld.polls_stopPollers
    · exact sound_of_idle hq hp rfl rfl fun _ => id

/-- Both hold after a call exactly when the call is not answered from file against what is
    persisted. -/
theorem step_sound_iff (call : PollerEnv × PollerCall) (hp : p.SingleValued) :
    ((step repr p call).SingleValued ∧ p.StartsPermitted repr call) ↔ p.AnswersAgree repr call := by
  obtain ⟨env, call⟩ := call
  cases call with
  | startPoller payload => exact startPoller_sound_iff hp payload
  | stopPoller payload => exact stopPoller_sound_iff hp payload
  | pauseMaintenance payload =>
    refine iff_of_true ?_ trivial
    have hstep : step repr p (env, .pauseMaintenance payload) =
        (p.pauseMaintenance repr env payload).1 := rfl
    unfold pauseMaintenance at hstep
    dsimp only at hstep
    split at hstep
    · exact sound_of_idle hstep hp rfl rfl fun _ => id
    · exact pauseLocked_sound hstep hp
  | resumeMaintenance payload =>
    refine iff_of_true ?_ trivial
    have hstep : step repr p (env, .resumeMaintenance payload) =
        (p.resumeMaintenance repr env payload).1 := rfl
    unfold resumeMaintenance at hstep
    split at hstep
    · exact sound_of_idle hstep hp rfl rfl fun _ => id
    · split at hstep
      · exact sound_of_idle hstep hp rfl rfl fun _ => id
      · split at hstep
        · exact endMaintenance_sound hstep hp
        · exact sound_of_idle hstep hp rfl rfl fun _ => id
  | maintenanceTimeout requestId =>
    refine iff_of_true ?_ trivial
    have hstep : step repr p (env, .maintenanceTimeout requestId) =
        p.maintenanceTimeout env requestId := rfl
    unfold maintenanceTimeout at hstep
    split at hstep
    · exact sound_of_idle hstep hp rfl rfl fun _ => id
    · split at hstep
      · exact endMaintenance_sound hstep hp
      · exact sound_of_idle hstep hp rfl rfl fun _ => id
  | expire identityId toPoller =>
    refine iff_of_true ?_ trivial
    exact sound_of_idle rfl hp (DeliveryWorld.pollerEnabled_expireSession _ _ _) rfl
      fun _ => DeliveryWorld.polls_expireSession

/-! ## Runs -/

/-- Both copies of the switch agree after every call of a run, and no poller starts against them,
    exactly when no request of the run is answered from file against what is persisted. -/
theorem single_valued_iff (repr : Json → String) (world : DeliveryWorld) (override : Option Bool)
    (revision : ℕ) (defaultEnabled : Bool) (calls : List (PollerEnv × PollerCall)) :
    (Throughout (step repr) SingleValued (boot world override revision defaultEnabled) calls ∧
      EveryStep (step repr) (StartsPermitted repr) (boot world override revision defaultEnabled)
        calls) ↔
      EveryStep (step repr) (AnswersAgree repr) (boot world override revision defaultEnabled)
        calls :=
  sound_iff_everyStep (step repr) (fun _ h => h)
    (fun _ call hs hg => ((step_sound_iff call hs).mpr hg).1)
    (fun _ call hs => step_sound_iff call hs) rfl

/-! ### A start, a stop and the start again -/

def pollerEnv : PollerEnv := ⟨[], [], "2026-01-01T00:00:00+00:00", fun _ => ""⟩

/-- A service with one identity, whose pollers are off. -/
def pollerWorld : DeliveryWorld where
  store := { GatewayStore.created with
    identities := Table.empty.upsert ⟨"ID-1", "account-1", .active, "stopped", none,
      pollerEnv.now, pollerEnv.now, none⟩ }
  service :=
    { identity := some "ID-1"
      pollerState := .disabled
      pollerEnabled := false
      ownerPairingEnabled := false
      runtimes := Table.empty.upsert ⟨"ID-1", .disabled, false⟩ }
  messages := .empty
  phase := .idle
  log := []

def switchRequest (requestId : String) (revision : ℕ) : Dict :=
  [("request_id", .str requestId), ("revision", .int revision)]

/-- The administrator starts the pollers and stops them, and the first request comes again. -/
def replayedStart : List (PollerEnv × PollerCall) :=
  [(pollerEnv, .startPoller (switchRequest "start-0000000001" 0)),
    (pollerEnv, .stopPoller (switchRequest "stop-00000000001" 1)),
    (pollerEnv, .startPoller (switchRequest "start-0000000001" 0))]

theorem replayed_start_enables :
    ¬ (Throughout (step fun _ => "") SingleValued (boot pollerWorld none 0 false) replayedStart ∧
      EveryStep (step fun _ => "") (StartsPermitted fun _ => "") (boot pollerWorld none 0 false)
        replayedStart) := by
  rintro ⟨hsingle, -⟩
  have hend : (runFrom (step fun _ => "") (boot pollerWorld none 0 false)
      replayedStart).world.service.pollerEnabled = true ∧
      (runFrom (step fun _ => "") (boot pollerWorld none 0 false) replayedStart).desired = false := by
    decide +kernel
  have hlast := hsingle.last
  rw [SingleValued, hend.1, hend.2] at hlast
  cases hlast

end PollerService

end HomeAddons.Gateway
