import HomeAddons.Controller.HubManifest

/-!
# Codex Controller: what the calls of a member reach

Model of `ToolRouter.call` (`tool_proxy.py` 526–729) as calls in flight. A call carries nothing of the job
that issued it: the router reads the active context each time it needs one, and `begin_job`,
`bind_turn`, `end_turn` and `clear_job` come at any time in between.

* `firstRequest`: the first request of a service that an authorized call makes.
* `Router.step`: the operations on the context and the steps of the calls.
* `Confined`: a member reaches a service only with an allowed tool that reads.
* `member_confined`: so it is, as long as the Hub declares the allowed tools as reading and every call
  of a member is authorized under the context of a member, or names an allowed tool.
-/

namespace HomeAddons.Controller

open HomeAddons.Common

/-! ## Requests -/

/-- The first request of a call. -/
inductive ServiceRequest where
  /-- `stream_media`: the attachment is read from the Gateway and written to the Hub. -/
  | media (attachmentRef : String) (metadata : Dict)
  /-- The attachment is read from the Gateway, for a call of the Hub. -/
  | attachment (attachmentRef : String)
  | ledger (name : String) (arguments : Dict)
  | memo (request : MemoRequest)
  /-- The state of the car. -/
  | homeAssistant
  | operations (method path : String) (payload : Option Json)

/-- `ATTACHMENT_REF_RE`. -/
def isAttachmentRef (s : String) : Bool :=
  32 ≤ s.length && s.length ≤ 128 && s.toList.all fun c => c.isAlphanum || c = '_' || c = '-'

/-- `ADDON_SLUG_RE`. -/
def isAddonSlug (s : String) : Bool :=
  match s.toList with
  | [] => false
  | c :: cs => (c.isLower || c.isDigit) && cs.length ≤ 63 &&
      cs.all fun c => c.isLower || c.isDigit || c = '_'

/-- A label and so many characters. -/
def isMarked (label : String) (p : Char → Bool) (n : ℕ) (cs : List Char) : Bool :=
  label.toList.isPrefixOf cs && (cs.drop label.length).length = n && (cs.drop label.length).all p

/-- `[A-F0-9]`. -/
def isUpperHex (c : Char) : Bool := c.isDigit || ('A' ≤ c && c ≤ 'F')

/-- `ACTION_ID_RE`. -/
def isActionId (s : String) : Bool :=
  isMarked "OPS-" Char.isDigit 8 (s.toList.take 12) && isMarked "-" isUpperHex 12 (s.toList.drop 12)

/-- `RECEIPT_ID_RE`. -/
def isReceiptId (s : String) : Bool := isMarked "RCPT-" isUpperHex 32 s.toList

/-- `re.fullmatch(r"[A-Za-z0-9_-]{8,160}", s)`. -/
def isApprovalId (s : String) : Bool :=
  8 ≤ s.length && s.length ≤ 160 && s.toList.all fun c => c.isAlphanum || c = '_' || c = '-'

/-- A text of a form, or the error. -/
def textOf (v : Json) (p : String → Bool) (e : Fault) : Except Fault String :=
  orRaise (v.asStr?.filter p) e

/-- `_deterministic_idempotency(name, arguments)`. -/
def deterministicIdempotency (context : Option ToolContext) (name : String) (arguments : Dict) :
    Except Fault String := do
  let c ← orRaise context
    (.tool "tool_context_unavailable" "写工具只能在活动 Controller 作业中调用")
  return "sha256:" ++ sha256Hex ("codex-controller-tool-v1\n" ++ c.messageId ++ "\n" ++ name ++ "\n" ++
    canonical (.obj arguments))

/-- `_with_deterministic_idempotency(name, arguments)`, for a tool that asks for it. -/
def withIdempotency (context : Option ToolContext) (d : ToolDefinition) (arguments : Dict) :
    Except Fault Dict :=
  if d.idempotentWrite then do
    let normalized := arguments.without "idempotency_key"
    let key ← deterministicIdempotency context d.name normalized
    return normalized ++ [("idempotency_key", .str key)]
  else .ok arguments

/-- The branches of `renovation_hub` (lines 641–675). -/
def hubRequest (config : RouterConfig) (context : Option ToolContext) (d : ToolDefinition)
    (arguments : Dict) : Except Fault ServiceRequest :=
  let reference := textOf (arguments.get "attachment_ref") isAttachmentRef
    (.tool "attachment_ref_invalid" "attachment_ref 无效")
  let noGateway : Fault := .tool "gateway_unavailable" "Weixin Gateway 附件接口未配置"
  if d.transport = "gateway_media_stream" then do
    ensure (config.hub = true) (.tool "ledger_unavailable" "Renovation Hub 媒体接口未配置")
    ensure (config.gateway = true) noGateway
    let reference ← reference
    let arguments ← withIdempotency context d arguments
    return .media reference (arguments.without "attachment_ref")
  else do
    ensure (config.hub = true) (.tool "ledger_unavailable" "Renovation Hub 账本接口未配置")
    ensure (d.transport = "gateway_attachment" → config.gateway = true) noGateway
    ensure (d.transport = "json" ∨ d.transport = "gateway_attachment")
      (.tool "tool_transport_invalid" "工具传输方式不受支持")
    let arguments ← withIdempotency context d arguments
    if d.transport = "gateway_attachment" then return .attachment (← reference)
    else return .ledger d.name arguments

/-- The branches of `ha_operations_*` (lines 680–728). -/
def operationsRequest (config : RouterConfig) (context : Option ToolContext) (name : String)
    (arguments : Dict) : Except Fault ServiceRequest := do
  let actionId := textOf (arguments.get "action_id") isActionId
    (.tool "invalid_action_id" "action_id 无效")
  let request : String × String × Option Json ←
    if name = "ha_operations_propose_restart" then do
      requireExactKeys arguments ["target"]
      let target ← textOf (arguments.get "target") isAddonSlug
        (.tool "invalid_target" "Add-on slug 无效")
      let key ← deterministicIdempotency context name arguments
      pure ("POST", "/v1/proposals", some (.obj [("version", .int 1),
        ("action_type", .str "restart_addon"), ("target", .str target),
        ("idempotency_key", .str key)]))
    else if name = "ha_operations_authorization_request" then do
      requireExactKeys arguments ["action_id"]
      let id ← actionId
      pure ("POST", "/v1/authorization/requests",
        some (.obj [("version", .int 1), ("action_id", .str id)]))
    else if name = "ha_operations_authorization_status" then do
      requireExactKeys arguments ["approval_id"]
      let approvalId ← textOf (arguments.get "approval_id") isApprovalId
        (.tool "invalid_approval_id" "approval_id 无效")
      pure ("GET", "/v1/authorization/requests/" ++ approvalId, none)
    else if name = "ha_operations_execute_restart" then do
      requireExactKeys arguments ["receipt_id", "action_id", "proposal_hash", "idempotency_key"]
      let invalid : Fault := invalidArguments "Operations 执行参数无效"
      let receiptId ← textOf (arguments.get "receipt_id") isReceiptId invalid
      let id ← textOf (arguments.get "action_id") isActionId invalid
      let proposalHash ← textOf (arguments.get "proposal_hash") isSha256Ref invalid
      let key ← textOf (arguments.get "idempotency_key") isSha256Ref invalid
      pure ("POST", "/v1/executions", some (.obj [("version", .int 1), ("action_id", .str id),
        ("idempotency_key", .str key), ("proposal_hash", .str proposalHash),
        ("receipt_id", .str receiptId)]))
    else if name = "ha_operations_execution_status" then do
      requireExactKeys arguments ["action_id"]
      let id ← actionId
      pure ("GET", "/v1/executions/" ++ id, none)
    else .error (.tool "unknown_tool" "工具不在允许清单")
  ensure (config.operations = true)
    (.tool "operations_unavailable" "HA Operations Broker 未配置")
  return .operations request.1 request.2.1 request.2.2

/-- `_prepare_car_call(name, arguments)` up to its first request (lines 739–803); `claimed` says that
    the store let the execution begin. -/
def prepareCarRequest (config : RouterConfig) (context : Option ToolContext) (name : String)
    (arguments : Dict) (claimed : Bool) : Except Fault (Option ServiceRequest) := do
  ensure (config.prepareCar = true) (.tool "prepare_car_unavailable" "备车工具未配置")
  ensure (context.map (·.capabilityProfile) = some .owner) (notAllowed "只有 owner 可以调用备车工具")
  if name = "aito_prepare_car_status" then
    requireExactKeys arguments []
    return some .homeAssistant
  else
    requireExactKeys arguments ["target"]
    let _ ← orRaise (arguments.get "target").asBool? (invalidArguments "target 必须是布尔值")
    -- A request only makes a confirmation of the store.
    return if name = "aito_prepare_car_execute" ∧ claimed = true then some .homeAssistant else none

/-- `_call_authorized(definition, arguments)` up to its first request (lines 637–729). -/
def firstRequest (config : RouterConfig) (context : Option ToolContext) (d : ToolDefinition)
    (arguments : Json) (claimed : Bool) : Except Fault (Option ServiceRequest) := do
  let arguments ← orRaise arguments.asDict? (invalidArguments "工具参数必须是对象")
  match d.service with
  | .renovationHub => some <$> hubRequest config context d arguments
  | .familyMemo => (fun r => some (.memo r)) <$> memoRequest config context d.name arguments
  | .prepareCar => prepareCarRequest config context d.name arguments claimed
  | .operationsBroker => some <$> operationsRequest config context d.name arguments

/-! ## The router -/

/-- A call in flight. -/
structure ToolCall where
  /-- The context that the job of the issuing Turn was begun with. -/
  caller : ToolContext
  name : String
  arguments : Json
  /-- What `_authorize_tool` returned. -/
  definition : Option ToolDefinition
  /-- A chart has found its context (lines 533–537). -/
  charted : Bool

/-- A request that a call has made. -/
structure Contact where
  caller : ToolContext
  name : String
  request : ServiceRequest

/-- The context and the calls; `jobs` are the contexts that were ever begun. -/
structure Router where
  active : Option ToolContext
  jobs : List ToolContext
  calls : List ToolCall
  contacts : List Contact

def Router.initial : Router := ⟨none, [], [], []⟩

/-- What happens at the router. -/
inductive RouterStep where
  | beginJob (jobId messageId : String) (profile : CapabilityProfile) (conversationKey : String)
      (mediaArchiveAuthorized : Option Bool)
  | bindTurn (jobId turnId : String)
  | endTurn (turnId : String)
  | clearJob (jobId : String)
  /-- A Turn of a job issues a call, whether or not the job has ended. -/
  | arrive (caller : ToolContext) (name : String) (arguments : Json)
  /-- A call reads the context in `_authorize_tool`. -/
  | authorize (n : ℕ)
  /-- The call of a chart reads it again. -/
  | findContext (n : ℕ)
  /-- A call makes its first request, or ends. -/
  | request (n : ℕ) (claimed : Bool)

section

variable (config : RouterConfig) (hub : List HubDefinition) (policy : Option (List String))

/-- The calls after a step of one, which may be its last. -/
def Router.advance (s : Router) (n : ℕ) (call : Option ToolCall) : Router :=
  { s with calls := match call with
      | some c => s.calls.set n c
      | none => s.calls.eraseIdx n }

/-- `_authorize_tool(name)` of a call. -/
def Router.authorize (s : Router) (n : ℕ) (c : ToolCall) : Router :=
  match authorizeTool config hub policy s.active c.name with
  | .ok d => s.advance n (some { c with definition := some d })
  | .error _ => s.advance n none

/-- The chart of a call is of an active job. -/
def Router.findContext (s : Router) (n : ℕ) (c : ToolCall) : Router :=
  s.advance n (if s.active.any fun a => a.jobId ≠ "" then some { c with charted := true } else none)

/-- The first request of an authorized call. -/
def Router.request (s : Router) (n : ℕ) (c : ToolCall) (d : ToolDefinition) (claimed : Bool) :
    Router :=
  match firstRequest config s.active d c.arguments claimed with
  | .ok (some r) => { s.advance n none with contacts := s.contacts ++ [⟨c.caller, d.name, r⟩] }
  | _ => s.advance n none

def Router.step (s : Router) : RouterStep → Router
  | .beginJob jobId messageId profile conversationKey archive =>
    match Controller.beginJob s.active jobId messageId profile conversationKey archive with
    | .ok context => { s with active := some context, jobs := s.jobs ++ [context] }
    | .error _ => s
  | .bindTurn jobId turnId => match Controller.bindTurn s.active jobId turnId with
    | .ok active => { s with active := active }
    | .error _ => s
  | .endTurn turnId => { s with active := Controller.endTurn s.active turnId }
  | .clearJob jobId => { s with active := Controller.clearJob s.active jobId }
  | .arrive caller name arguments =>
    if caller ∈ s.jobs then
      { s with calls := s.calls ++ [⟨caller, name, arguments, none, false⟩] }
    else s
  | .authorize n => match s.calls[n]? with
    | some c => if c.definition.isNone then s.authorize config hub policy n c else s
    | none => s
  | .findContext n => match s.calls[n]? with
    | some c => if c.name = "ledger_generate_chart" ∧ c.definition.isSome then s.findContext n c else s
    | none => s
  | .request n claimed => match s.calls[n]? with
    | some c => match c.definition with
      | some d =>
        if c.name = "ledger_generate_chart" → c.charted = true then s.request config n c d claimed
        else s
      | none => s
    | none => s

end

/-! ## Confinement -/

/-- The tool is one that a member may use, and its active definition reads. -/
def MemberTool (m : ValidatedHubManifest) (name : String) : Prop :=
  name ∈ memberAllowedToolNames ∧ m.isReadOnly name = true

/-- A member has reached services only with such tools. -/
def Confined (m : ValidatedHubManifest) (s : Router) : Prop :=
  ∀ c ∈ s.contacts, c.caller.capabilityProfile = .memberReadOnly → MemberTool m c.name

/-- The entries of a manifest. -/
def manifestEntries (document : Json) : List Json :=
  ((document.asDict?.getD []).get "tools").asList?.getD []

/-- The manifest declares no tool that a member may use as writing. -/
def DeclaresReads (document : Json) : Prop :=
  ∀ entry ∈ manifestEntries document, ∀ d, entry.asDict? = some d →
    ∀ name ∈ memberAllowedToolNames, (d.get "name").asStr? = some name →
      ¬ (d.get "risk_type").eqStr "write"

/-- A call of a member is authorized under the context of a member, or it names an allowed tool. -/
def Supervised (s : Router) : RouterStep → Prop
  | .authorize n => ∀ c, s.calls[n]? = some c → c.caller.capabilityProfile = .memberReadOnly →
      s.active.map (·.capabilityProfile) = some .memberReadOnly ∨ c.name ∈ memberAllowedToolNames
  | _ => True

section

variable {config : RouterConfig} {hub : List HubDefinition} {policy : Option (List String)}
  {m : ValidatedHubManifest} {s : Router}

variable {name : String} {d : ToolDefinition} {n : ℕ} {c : ToolCall} {closed : Bool}
  {t : ManifestTool}

theorem authorizeTool_ok {context : Option ToolContext}
    (h : authorizeTool config hub policy context name = .ok d) :
    toolDefinition? hub name = some d ∧
      (context.map (·.capabilityProfile) = some .memberReadOnly → name ∈ memberAllowedToolNames) := by
  simp only [authorizeTool, bind_eq_ok, orRaise_eq_ok, ensure_eq_ok, pure_eq_ok] at h
  obtain ⟨d', hd, -, -, -, hallowed, -, -, -, -, -, -, -, -, -, -, rfl⟩ := h
  exact ⟨hd, hallowed⟩

/-- The tool has a definition, and a caller that is a member may use it. -/
def Vetted (hub : List HubDefinition) (caller : ToolContext) (name : String) : Prop :=
  (toolDefinition? hub name).isSome = true ∧
    (caller.capabilityProfile = .memberReadOnly → name ∈ memberAllowedToolNames)

/-- Whatever has been authorized, and whatever has reached a service, is vetted. -/
structure Router.Vets (hub : List HubDefinition) (s : Router) : Prop where
  calls : ∀ c ∈ s.calls, ∀ d, c.definition = some d → d.name = c.name ∧ Vetted hub c.caller c.name
  contacts : ∀ c ∈ s.contacts, Vetted hub c.caller c.name

theorem Router.Vets.advance (h : s.Vets hub) (n : ℕ) {call : Option ToolCall}
    (hcall : ∀ c, call = some c → ∀ d, c.definition = some d →
      d.name = c.name ∧ Vetted hub c.caller c.name) : (s.advance n call).Vets hub := by
  refine ⟨fun c hc d hd => ?_, h.contacts⟩
  cases call with
  | none => exact h.calls c (List.mem_of_mem_eraseIdx hc) d hd
  | some c' =>
    obtain hc | rfl := List.mem_or_eq_of_mem_set hc
    · exact h.calls c hc d hd
    · exact hcall c rfl d hd

/-- A call of a member that is authorized under supervision names an allowed tool. -/
theorem Router.Vets.authorize (h : s.Vets hub) (hc : s.calls[n]? = some c)
    (hsupervised : Supervised s (.authorize n)) : (s.authorize config hub policy n c).Vets hub := by
  unfold Router.authorize
  split
  · next d hd =>
    obtain ⟨hdefinition, hallowed⟩ := authorizeTool_ok hd
    refine h.advance n ?_
    rintro _ ⟨⟩ _ ⟨⟩
    have hname : d.name = c.name := by simpa using List.find?_some hdefinition
    refine ⟨hname, Option.isSome_of_eq_some hdefinition, fun hmember => ?_⟩
    exact (hsupervised c hc hmember).elim hallowed fun hname => hname
  · exact h.advance n fun _ hnone => by cases hnone

theorem Router.Vets.request (h : s.Vets hub) (hc : s.calls[n]? = some c)
    (hd : c.definition = some d) (claimed : Bool) : (s.request config n c d claimed).Vets hub := by
  have hended : ∀ c' : ToolCall, none = some c' → ∀ d, c'.definition = some d →
      d.name = c'.name ∧ Vetted hub c'.caller c'.name := fun _ hnone => by cases hnone
  unfold Router.request
  split
  · next r _ =>
    refine ⟨(h.advance n hended).calls, fun contact hcontact => ?_⟩
    obtain hcontact | hcontact := List.mem_append.mp hcontact
    · exact h.contacts contact hcontact
    · obtain ⟨hname, hvetted⟩ := h.calls c (List.mem_of_getElem? hc) d hd
      rw [List.mem_singleton.mp hcontact]
      exact hname ▸ hvetted
  · exact h.advance n hended

/-- A supervised step vets what it lets through. -/
theorem Router.Vets.step (h : s.Vets hub) (step : RouterStep) (hsupervised : Supervised s step) :
    (s.step config hub policy step).Vets hub := by
  cases step with
  | beginJob jobId messageId profile conversationKey archive =>
    rw [Router.step]
    split <;> exact ⟨h.calls, h.contacts⟩
  | bindTurn jobId turnId =>
    rw [Router.step]
    split <;> exact ⟨h.calls, h.contacts⟩
  | endTurn turnId => exact ⟨h.calls, h.contacts⟩
  | clearJob jobId => exact ⟨h.calls, h.contacts⟩
  | arrive caller name arguments =>
    rw [Router.step]
    split
    · refine ⟨fun c hc d hd => ?_, h.contacts⟩
      obtain hc | hc := List.mem_append.mp hc
      · exact h.calls c hc d hd
      · rw [List.mem_singleton.mp hc] at hd
        cases hd
    · exact h
  | authorize n =>
    rw [Router.step]
    split
    · next c hc =>
      split
      · exact h.authorize hc hsupervised
      · exact h
    · exact h
  | findContext n =>
    rw [Router.step]
    split
    · next c hc =>
      split
      · refine h.advance n fun c' hc' d hd => ?_
        split at hc'
        · cases hc'
          exact h.calls c (List.mem_of_getElem? hc) d hd
        · cases hc'
      · exact h
    · exact h
  | request n claimed =>
    rw [Router.step]
    split
    · next c hc =>
      split
      · next d hd =>
        split
        · exact h.request hc hd claimed
        · exact h
      · exact h
    · exact h

/-- The only allowed tool that the Controller defines itself is the list of the memos. -/
theorem memo_list_of_local (hallowed : name ∈ memberAllowedToolNames)
    (hlocal : name ∈ (memoDefinitions ++ operationDefinitions ++ prepareCarDefinitions).map
      (·.name)) : name = "memo_list" := by
  revert hlocal
  revert name
  decide

/-- An allowed tool that has a definition reads. -/
theorem isReadOnly_of_allowed
    (hreads : ∀ t ∈ m.tools, t.name ∈ memberAllowedToolNames → t.riskType = .read)
    (hdefined : (toolDefinition? m.definitions name).isSome = true)
    (hallowed : name ∈ memberAllowedToolNames) : m.isReadOnly name = true := by
  unfold ValidatedHubManifest.isReadOnly
  split
  · next t ht =>
    have hname : t.name = name := by simpa using List.find?_some ht
    exact decide_eq_true (hreads t (List.mem_of_find?_eq_some ht) (hname ▸ hallowed))
  · next hnone =>
    -- No tool of the Hub has the name, so the definition is one of the Controller's own.
    obtain ⟨d, hd⟩ := Option.isSome_iff_exists.mp hdefined
    have hname : d.name = name := by simpa using List.find?_some hd
    have hmem := List.mem_of_find?_eq_some hd
    rw [toolDefinitions, List.append_assoc, List.append_assoc, List.mem_append] at hmem
    obtain hhub | hlocal := hmem
    · rw [ValidatedHubManifest.definitions, List.map_map] at hhub
      obtain ⟨t, ht, rfl⟩ := List.mem_map.mp hhub
      exact absurd (decide_eq_true hname) (List.find?_eq_none.mp hnone t ht)
    · have hmemo := memo_list_of_local hallowed
        (List.mem_map.mpr ⟨d, by rwa [List.append_assoc], hname⟩)
      rw [hmemo]
      decide

/-- A validated tool is an entry of the document. -/
theorem entry_of_mem_tools {document : Json} (h : validateHubManifest document closed = .ok m)
    (ht : t ∈ m.tools) : ∃ entry ∈ manifestEntries document, validateTool entry closed = .ok t := by
  simp only [validateHubManifest, bind_eq_ok, orRaise_eq_ok, Option.filter_eq_some_iff,
    pure_eq_ok] at h
  obtain ⟨d, hd, -, -, -, -, -, -, -, -, revision, -, digest, -, entries, ⟨hentries, -⟩, normalized,
    hnormalized, -, -, -, -, rfl⟩ := h
  rw [List.mem_insertionSort] at ht
  obtain ⟨entry, hentry, hvalid⟩ := mem_of_mapM_ok hnormalized ht
  refine ⟨entry, ?_, hvalid⟩
  rwa [manifestEntries, hd, Option.getD_some, hentries, Option.getD_some]

theorem validateTool_ok {entry : Json} (h : validateTool entry closed = .ok t) :
    ∃ d, entry.asDict? = some d ∧
      (d.get "name").asStr? = some t.name ∧ riskType? (d.get "risk_type") = some t.riskType := by
  simp only [validateTool, bind_eq_ok, orRaise_eq_ok, Option.filter_eq_some_iff] at h
  obtain ⟨d, ⟨hd, -⟩, name, hname, displayName, -, description, -, -, -, riskType, hrisk, -, -,
    transport, -, context, -, idempotent, -, -, -, h⟩ := h
  have hname' : (d.get "name").asStr? = some name.1 := by
    obtain ⟨s, hs, hnamed⟩ := Option.bind_eq_some_iff.mp hname
    split at hnamed
    · cases hnamed
      exact hs
    · cases hnamed
  split at h
  · simp only [bind_eq_ok, pure_eq_ok] at h
    obtain ⟨-, -, -, -, -, -, schema, -, annotations, -, rfl⟩ := h
    exact ⟨d, hd, hname', hrisk⟩
  · cases h

/-- Where the Hub declares the allowed tools as reading and every call of a member is supervised, the
    members are confined. -/
theorem member_confined {document : Json} {closed : Bool}
    (hmanifest : validateHubManifest document closed = .ok m) (hreads : DeclaresReads document)
    (config : RouterConfig) (policy : Option (List String)) {steps : List RouterStep}
    (hsupervised :
      EveryStep (Router.step config m.definitions policy) Supervised Router.initial steps) :
    Throughout (Router.step config m.definitions policy) (Confined m) Router.initial steps := by
  have hinitial : Router.initial.Vets m.definitions :=
    ⟨fun c hc => absurd hc List.not_mem_nil, fun c hc => absurd hc List.not_mem_nil⟩
  have hallReads : ∀ t ∈ m.tools, t.name ∈ memberAllowedToolNames → t.riskType = .read := by
    intro t ht hallowed
    obtain ⟨entry, hentry, hvalid⟩ := entry_of_mem_tools hmanifest ht
    obtain ⟨d, hd, hname, hrisk⟩ := validateTool_ok hvalid
    have hwrite := hreads entry hentry d hd t.name hallowed hname
    unfold riskType? at hrisk
    split at hrisk
    · exact (Option.some.inj hrisk).symm
    · cases hrisk
  refine (throughout_of_everyStep _ (fun s step h => h.step step) hinitial hsupervised).imp _
    fun s hs c hc hmember => ?_
  obtain ⟨hdefined, hallowed⟩ := hs.contacts c hc
  exact ⟨hallowed hmember, isReadOnly_of_allowed hallReads hdefined (hallowed hmember)⟩

end

/-! ## A late call -/

/-- The entry of a tool that reads. -/
def sampleEntry : Json :=
  .obj [("name", .str "ledger_show"), ("display_name", .str "show"), ("description", .str "show"),
    ("risk_type", .str "read"), ("transport", .str "json"), ("exposure", .str "mcp"),
    ("requires_job_context", .bool false), ("idempotent_write", .bool false),
    ("inputSchema", .obj [("type", .str "object"), ("additionalProperties", .bool false)]),
    ("annotations", .obj [("readOnlyHint", .bool true), ("destructiveHint", .bool false),
      ("idempotentHint", .bool true), ("openWorldHint", .bool false)])]

/-- A manifest of that tool. -/
def sampleManifest : Json :=
  .obj [("version", .int 1), ("service", .str "renovation_hub"), ("scope", .str "business"),
    ("catalog_revision", .int 1),
    ("catalog_digest",
      .str "sha256:8290b7a62dc27ab75ed5e08b58d948fc166c7ad1d77b0c81bfaa60fdf87ad3ff"),
    ("tools", .arr [sampleEntry])]

/-- The definition that is made of it. -/
def sampleDefinition : HubDefinition where
  name := "ledger_show"
  service := .renovationHub
  transport := "json"
  requiresJobContext := false
  idempotentWrite := false
  isHub := rfl
  named := by decide

theorem sampleManifest_valid : ∃ m, validateHubManifest sampleManifest true = .ok m ∧
    m.definitions = [sampleDefinition] := by
  have h : (validateHubManifest sampleManifest true).toOption.any (fun m =>
      m.tools.map (fun t => (t.name, t.transport, t.requiresJobContext, t.idempotentWrite)) =
        [("ledger_show", "json", false, false)]) = true := by decide +kernel
  obtain ⟨m, hm, htools⟩ := (Option.any_eq_true _ _).mp h
  refine ⟨m, toOption_eq_some.mp hm, ?_⟩
  obtain ⟨t, ht, hcolumns⟩ := List.map_eq_singleton_iff.mp (of_decide_eq_true htools)
  rw [ValidatedHubManifest.definitions, ht, List.map_singleton, ManifestTool.definition]
  simp only [Prod.mk.injEq] at hcolumns
  simp only [hcolumns, sampleDefinition]

/-- The job of a member. -/
def sampleMember : ToolContext :=
  ⟨"job-1", "message-1", "", .memberReadOnly, "conversation", some false⟩

/-- Its Turn reads from the ledger while the job is active. -/
def sampleReading : List RouterStep := [
  .beginJob "job-1" "message-1" .memberReadOnly "conversation" (some false),
  .bindTurn "job-1" "turn-1",
  .arrive sampleMember "ledger_show" (.obj []),
  .authorize 0, .request 0 false, .clearJob "job-1"]

/-- Its Turn asks for an authorization of an operation, and the call is looked at after the job. -/
def sampleLateCall : List RouterStep := [
  .beginJob "job-1" "message-1" .memberReadOnly "conversation" (some false),
  .bindTurn "job-1" "turn-1",
  .arrive sampleMember "ha_operations_authorization_request"
    (.obj [("action_id", .str "OPS-20260810-ABCDEF012345")]),
  .clearJob "job-1", .authorize 0, .request 0 false]

def samplePolicy : Option (List String) :=
  some ["ledger_show", "ha_operations_authorization_request"]

theorem member_confined_reading : ∃ m, validateHubManifest sampleManifest true = .ok m ∧
    (runFrom (Router.step ⟨true, true, true, true, true⟩ m.definitions samplePolicy) Router.initial
      sampleReading).contacts.map (·.name) = ["ledger_show"] ∧
    Throughout (Router.step ⟨true, true, true, true, true⟩ m.definitions samplePolicy) (Confined m)
      Router.initial sampleReading := by
  obtain ⟨m, hm, hdefinitions⟩ := sampleManifest_valid
  refine ⟨m, hm, ?_, member_confined hm ?_ _ _ ?_⟩
  · rw [hdefinitions]
    decide +kernel
  · intro entry hentry d hd name _ _ hwrite
    obtain rfl := List.mem_singleton.mp hentry
    cases hd
    exact absurd hwrite (by decide)
  · rw [hdefinitions]
    exact ⟨trivial, trivial, trivial, fun _ _ _ => .inl (by decide +kernel), trivial, trivial,
      trivial⟩

theorem late_call_unconfined : ∃ m, validateHubManifest sampleManifest true = .ok m ∧
    ¬ Throughout (Router.step ⟨true, true, true, true, true⟩ m.definitions samplePolicy) (Confined m)
      Router.initial sampleLateCall := by
  obtain ⟨m, hm, hdefinitions⟩ := sampleManifest_valid
  refine ⟨m, hm, fun hconfined => ?_⟩
  have hcontacts : (runFrom (Router.step ⟨true, true, true, true, true⟩ m.definitions samplePolicy)
      Router.initial sampleLateCall).contacts.map (fun c => (c.caller, c.name)) =
      [(sampleMember, "ha_operations_authorization_request")] := by
    rw [hdefinitions]
    decide +kernel
  obtain ⟨c, hc, hcall⟩ := List.map_eq_singleton_iff.mp hcontacts
  obtain ⟨hcaller, hname⟩ := Prod.mk.inj hcall
  have hallowed := (hconfined.last _ c (hc ▸ List.mem_singleton_self c) (hcaller ▸ rfl)).1
  rw [hname] at hallowed
  exact absurd hallowed (by decide)

end HomeAddons.Controller
