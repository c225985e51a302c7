import HomeAddons.Gateway.WorkCommands

/-!
# Weixin Gateway: commands that cannot be built

Both parsers accept an instruction of up to 12000 characters, and both builders refuse a document of
more than 32768 bytes. A character has up to four bytes, and an escape of one that is written as
`\u00XX` has six, so an accepted command may be one of which no document can be built; its caller
does not expect the exception.

* `Accepted`: the commands of a text, with the instruction that they carry.
* `work_commands_build_iff`: a command is built exactly when its document is short enough.
-/

namespace HomeAddons.Gateway.WorkCommands

open HomeAddons.Common RemoteWork

/-! ## Accepted commands -/

/-- The instruction that a text has behind its first two words, or three of a continuation, with the
    task id of a continuation. -/
def spoken (text : String) : Option (String × Option String) :=
  let tokens := tokensOf text
  if tokens[1]? = some "continue" then some (remainder 3 text, tokens[2]?)
  else if tokens[1]? = some "status" ∨ tokens[1]? = some "cancel" then none
  else some (remainder 2 text, none)

/-- The commands that a text can be parsed into. -/
inductive Accepted (isTask : String → Bool) (validate : String → Except ParseRaise Unit)
    (text : String) : WorkCommand → Prop where
  | status {taskId : String} : isTask taskId = true → spoken text = none →
      Accepted isTask validate text { operation := .status, taskId := taskId }
  | cancel {taskId : String} : isTask taskId = true → spoken text = none →
      Accepted isTask validate text { operation := .cancel, taskId := taskId }
  | continue {taskId : String} : isTask taskId = true → validate (remainder 3 text) = .ok () →
      spoken text = some (remainder 3 text, some taskId) →
      Accepted isTask validate text
        { operation := .continue, taskId := taskId, instruction := remainder 3 text }
  | start : validate (remainder 2 text) = .ok () → spoken text = some (remainder 2 text, none) →
      Accepted isTask validate text
        { operation := .start, projectAlias := "renovation-hub", instruction := remainder 2 text }

section

variable {isTask : String → Bool} {validate : String → Except ParseRaise Unit}
  {text deployMessage : String} {command : WorkCommand}

theorem instructionOf_ok {n : ℕ} (hn : n ≠ 0) {instruction : String}
    (h : instructionOf n text = .ok instruction) : instruction = remainder n text := by
  simp only [instructionOf, bind_eq_ok, orRaise_eq_ok, pure_eq_ok] at h
  obtain ⟨rest, hrest, rfl⟩ := h
  exact strip_remainder hn hrest

theorem parseAction_accepted {first action : String} {tail : List String}
    (htokens : tokensOf text = first :: action :: tail)
    (h : parseAction deployMessage isTask validate text action tail = .ok command) :
    Accepted isTask validate text command := by
  unfold parseAction at h
  split at h
  · cases h
  · split at h
    · rename_i haction
      have hspoken : spoken text = none := by
        rw [spoken, htokens, haction]
        rfl
      split at h
      · split at h
        · rename_i htask
          cases h
          exact .status htask hspoken
        · cases h
      · cases h
    · split at h
      · rename_i haction
        have hspoken : spoken text = none := by
          rw [spoken, htokens, haction]
          rfl
        split at h
        · split at h
          · rename_i htask
            cases h
            exact .cancel htask hspoken
          · cases h
        · cases h
      · split at h
        · rename_i haction
          split at h
          · split at h
            · rename_i htask
              simp only [bind_eq_ok, pure_eq_ok] at h
              obtain ⟨instruction, hinstruction, _, hvalid, rfl⟩ := h
              obtain rfl := instructionOf_ok (by decide) hinstruction
              refine .continue htask hvalid ?_
              rw [spoken, htokens, haction]
              rfl
            · cases h
          · cases h
        · split at h
          · cases h
          · rename_i hproject
            have hproject : action = "renovation-hub" := by
              simpa [supportedProjects] using hproject
            split at h
            · cases h
            · simp only [bind_eq_ok, pure_eq_ok] at h
              obtain ⟨instruction, hinstruction, _, hvalid, rfl⟩ := h
              obtain rfl := instructionOf_ok (by decide) hinstruction
              rw [hproject]
              refine .start hvalid ?_
              rw [spoken, htokens, hproject]
              rfl

theorem parseText_accepted (h : parseText deployMessage isTask validate text = .ok (some command)) :
    Accepted isTask validate text command := by
  unfold parseText at h
  split at h
  · rename_i htokens
    simp only [map_eq_ok, Option.some.injEq] at h
    obtain ⟨c, hc, rfl⟩ := h
    exact parseAction_accepted htokens hc
  · cases h
  · cases h

end

/-! ## Identifiers -/

variable {c : Char}

theorem isPlain_of_isAlphanum (h : c.isAlphanum = true) : isPlain c = true := by
  have hbounds : (48 ≤ c.toNat ∧ c.toNat ≤ 57) ∨ (65 ≤ c.toNat ∧ c.toNat ≤ 90) ∨
      (97 ≤ c.toNat ∧ c.toNat ≤ 122) := by
    simp only [Char.isAlphanum, Char.isAlpha, Char.isUpper, Char.isLower, Char.isDigit,
      Bool.or_eq_true, Bool.and_eq_true, decide_eq_true_eq, UInt32.le_iff_toNat_le] at h
    have h48 : ('0' : Char).val.toNat = 48 := rfl
    have h57 : ('9' : Char).val.toNat = 57 := rfl
    have h65 : ('A' : Char).val.toNat = 65 := rfl
    have h90 : ('Z' : Char).val.toNat = 90 := rfl
    have h97 : ('a' : Char).val.toNat = 97 := rfl
    have h122 : ('z' : Char).val.toNat = 122 := rfl
    have hval : c.val.toNat = c.toNat := rfl
    omega
  refine decide_eq_true ?_
  omega

theorem isPlain_of_isLowerHex (h : isLowerHex c = true) : isPlain c = true := by
  have hbounds := of_decide_eq_true h
  simp only [Char.le_def, UInt32.le_iff_toNat_le] at hbounds
  have h48 : ('0' : Char).val.toNat = 48 := rfl
  have h57 : ('9' : Char).val.toNat = 57 := rfl
  have h97 : ('a' : Char).val.toNat = 97 := rfl
  have h102 : ('f' : Char).val.toNat = 102 := rfl
  have hval : c.val.toNat = c.toNat := rfl
  refine decide_eq_true ?_
  omega

theorem matchesTail_plain {least most : ℕ} {cs : List Char}
    (h : matchesTail Char.isAlphanum (fun c => c.isAlphanum || "._:-".toList.contains c) least most
      cs = true) : cs.all isPlain = true ∧ cs.length ≤ most + 1 := by
  cases cs with
  | nil => cases h
  | cons c cs =>
    simp only [matchesTail, Bool.and_eq_true, decide_eq_true_eq, List.all_eq_true,
      Bool.or_eq_true, List.contains_eq_mem] at h
    obtain ⟨⟨⟨hhead, htail⟩, -⟩, hmost⟩ := h
    refine ⟨List.all_eq_true.mpr fun d hd => ?_, by simpa using hmost⟩
    obtain rfl | hd := List.mem_cons.mp hd
    · exact isPlain_of_isAlphanum hhead
    · obtain hd | hd := htail d hd
      · exact isPlain_of_isAlphanum hd
      · have hmarks : "._:-".toList.all isPlain = true := by decide
        exact List.all_eq_true.mp hmarks d hd

/-- A task id of the second version. -/
theorem isTaskId_plain {text : String} (h : isTaskId text = true) :
    quotedSize text = 2 + text.length ∧ text.length ≤ 128 := by
  unfold isTaskId at h
  split at h
  · next cs hcs =>
    have htext := List.isPrefixOf?_eq_some_iff_append_eq.mp hcs
    obtain ⟨hplain, hlength⟩ := matchesTail_plain h
    constructor
    · refine quotedSize_plain ?_
      rw [← htext, List.all_append, hplain]
      rfl
    · rw [← String.length_toList, ← htext, List.length_append]
      have hfront : "RW-".toList.length = 3 := rfl
      omega
  · cases h

/-! ## The second version -/

section

variable {isAlnum : WordChars}

variable {text principalHash identityId messageId requestId normalised : String}
  {command : WorkCommand} {digest : List Char}

/-- A command that is routed to the Runner Manager was parsed. -/
theorem selectWorkRoute_parsed {text : Json} {role : String}
    {hasAttachments v2Enabled v1Available : Bool} {decision : RouteDecision}
    (h : selectWorkRoute isAlnum text role hasAttachments v2Enabled v1Available = some decision)
    (hcommand : decision.command = some command) :
    ∃ s, text = .str s ∧ parseWorkCommand isAlnum s = .ok (some command) := by
  unfold selectWorkRoute at h
  split at h
  · cases h
    cases hcommand
  · rename_i hexact
    split at h
    · split at h <;> cases h <;> cases hcommand
    · split at h
      · cases h
        cases hcommand
      · cases h
      · cases h
      · rename_i parsed hparsed
        split at h
        · cases h
          cases hcommand
        · split at h
          · cases h
            cases hcommand
          · cases h
            cases hcommand
            cases text with
            | str s => exact ⟨s, rfl, hparsed⟩
            | _ => exact absurd rfl hexact

/-- An identity id, a message id and a principal hash that the builder takes. -/
structure ValidSource (identityId messageId principalHash : String) : Prop where
  identity : isOpaque 255 identityId.toList = true
  message : isOpaque 255 messageId.toList = true
  principal : ∃ digest : List Char, digest.all isLowerHex = true ∧ digest.length = 64 ∧
    (principalHash = String.ofList digest ∨ principalHash = "sha256:" ++ String.ofList digest)

/-- The bytes of the body without the instruction. -/
def requestRest : Option String → ℕ
  | none => 270
  | some taskId => 253 + taskId.length

/-- The instruction of a text, with its escapes, leaves room for the rest of the body. -/
def FitsRequest (text : String) : Prop :=
  ∀ p ∈ spoken text, quotedSize p.1 + requestRest p.2 ≤ 32768

theorem validateInstruction_ok {instruction : String}
    (h : validateInstruction isAlnum instruction = .ok ()) :
    ∃ text, validateInstructionValue isAlnum (.str instruction) = .ok text := by
  unfold validateInstruction at h
  unfold validateInstructionValue
  cases hcheck : checkInstruction isAlnum (.str instruction) with
  | ok text => exact ⟨text, rfl⟩
  | error e =>
    rw [hcheck] at h
    cases h

/-- The hash as the body has it. -/
theorem normalisePrincipalHash_of (hhex : digest.all isLowerHex = true)
    (hlength : digest.length = 64)
    (h : principalHash = String.ofList digest ∨ principalHash = "sha256:" ++ String.ofList digest) :
    normalisePrincipalHash (.str principalHash) = .ok ("sha256:" ++ String.ofList digest) := by
  have hdigest : ("sha256:".toList.isPrefixOf? principalHash.toList).getD principalHash.toList =
      digest := by
    obtain rfl | rfl := h
    · rw [@String.toList_ofList digest]
      cases hfront : "sha256:".toList.isPrefixOf? digest with
      | none => rfl
      | some cs =>
        -- An `s` is no hexadecimal digit.
        have htext := List.isPrefixOf?_eq_some_iff_append_eq.mp hfront
        have hs := List.all_eq_true.mp hhex 's' (htext ▸ by simp)
        cases hs
    · rw [String.toList_append, @String.toList_ofList digest,
        List.isPrefixOf?_eq_some_iff_append_eq.mpr rfl]
      rfl
  unfold normalisePrincipalHash
  dsimp only [Json.asStr?]
  rw [orRaise_some, ok_bind, hdigest, ensure_bind_of ⟨hhex, hlength⟩]
  rfl

theorem quotedSize_digest (hhex : digest.all isLowerHex = true) (hlength : digest.length = 64) :
    quotedSize ("sha256:" ++ String.ofList digest) = 73 := by
  have hplain : ("sha256:" ++ String.ofList digest).toList.all isPlain = true := by
    rw [String.toList_append, @String.toList_ofList digest, List.all_append, Bool.and_eq_true_iff]
    exact ⟨rfl, List.all_eq_true.mpr fun c hc =>
      isPlain_of_isLowerHex (List.all_eq_true.mp hhex c hc)⟩
  have hseven : "sha256:".length = 7 := rfl
  rw [quotedSize_plain hplain, String.length_append, hseven, @String.length_ofList digest, hlength]

/-- The request id that is built has the form that is asked for. -/
theorem buildRequestId_ok (hidentity : isOpaque 255 identityId.toList = true)
    (hmessage : isOpaque 255 messageId.toList = true) :
    ∃ requestId, buildRequestId identityId messageId = .ok requestId ∧
      isRequestId requestId = true ∧ quotedSize requestId = 39 := by
  obtain ⟨hlength, hhex⟩ := sha256Hex_chars
    ("weixin-runner-manager-v2\x00" ++ identityId ++ "\x00" ++ messageId)
  refine ⟨"WRV2-" ++ String.ofList ((sha256Hex ("weixin-runner-manager-v2\x00" ++ identityId ++
    "\x00" ++ messageId)).toList.take 32), ?_, ?_, ?_⟩
  · rw [buildRequestId, validateOpaqueId, validateOpaqueId, ensure_bind_of hidentity,
      ensure_bind_of hmessage]
    rfl
  all_goals
    generalize (sha256Hex ("weixin-runner-manager-v2\x00" ++ identityId ++ "\x00" ++
      messageId)).toList = digest at hlength hhex
    have htake : (digest.take 32).all isLowerHex = true := List.all_eq_true.mpr fun c hc =>
      List.all_eq_true.mp hhex c (List.mem_of_mem_take hc)
    have hthirty : (digest.take 32).length = 32 := by
      rw [List.length_take, hlength]
      rfl
  · rw [isRequestId, String.toList_append, @String.toList_ofList (digest.take 32),
      List.isPrefixOf?_eq_some_iff_append_eq.mpr rfl]
    dsimp only
    rw [htake, hthirty]
    rfl
  · have hplain : ("WRV2-" ++ String.ofList (digest.take 32)).toList.all isPlain = true := by
      rw [String.toList_append, @String.toList_ofList (digest.take 32), List.all_append,
        Bool.and_eq_true_iff]
      exact ⟨rfl, List.all_eq_true.mpr fun c hc =>
        isPlain_of_isLowerHex (List.all_eq_true.mp htake c hc)⟩
    have hfive : "WRV2-".length = 5 := rfl
    rw [quotedSize_plain hplain, String.length_append, hfive,
      @String.length_ofList (digest.take 32), hthirty]

/-- The checks of a body before the ones of its operation. -/
theorem validateRunnerManagerRequest_eq {body : Dict} {operation : String}
    (hoperation : body.get "operation" = .str operation)
    (hknown : operation ∈ requiredFields.map Prod.fst)
    (hkeys : body.keysAre ((requiredFields.lookup operation).getD []) = true)
    (hversion : body.get "version" = .int 2) (hid : body.get "request_id" = .str requestId)
    (hrequest : isRequestId requestId = true)
    (hsource : body.get "source" = .obj [("channel", .str "weixin"),
      ("principal_hash", .str principalHash), ("role", .str "owner")])
    (hprincipal : normalisePrincipalHash (.str principalHash) = .ok normalised) :
    validateRunnerManagerRequest isAlnum body = do
      if (Json.str operation).eqStr "start" then do
        ensureIn (body.get "project_alias") supportedProjects
          (.validation "work_project_unknown" "Runner Manager project is unknown")
        let _ ← validateInstructionValue isAlnum (body.get "instruction")
      else do
        ensure ((body.get "task_id").asStr?.any isTaskId = true)
          (.validation "work_task_id_invalid" "Runner Manager task ID is invalid")
        if (Json.str operation).eqStr "continue" then
          let _ ← validateInstructionValue isAlnum (body.get "instruction")
      ensure ((canonical (.obj body)).utf8ByteSize ≤ 32768)
        (.validation "payload_too_large" "Runner Manager document is too large")
      return body := by
  have hin : ∀ e, ensureIn (.str operation) (requiredFields.map Prod.fst) e = .ok () := by
    intro e
    refine ensure_of ?_ e
    simpa [Json.eqStr, List.any_eq_true] using hknown
  have hoperation' : (Json.str operation).asStr?.getD "" = operation := rfl
  have hversion' : (body.get "version").eqInt 2 = true := by
    rw [hversion]
    rfl
  have hid' : (body.get "request_id").asStr?.any isRequestId = true := by
    rw [hid]
    exact hrequest
  generalize hdict : ([("channel", .str "weixin"), ("principal_hash", .str principalHash),
    ("role", .str "owner")] : Dict) = source at hsource
  have hfields : (body.get "source").asDict?.filter (fun d =>
      d.keysAre ["channel", "principal_hash", "role"]) = some source := by
    rw [hsource, ← hdict]
    rfl
  have hchannel : (Dict.get source "channel").eqStr "weixin" = true ∧
      (Dict.get source "role").eqStr "owner" = true := by
    rw [← hdict]
    exact ⟨rfl, rfl⟩
  have hhash : Dict.get source "principal_hash" = .str principalHash := by
    rw [← hdict]
    rfl
  unfold validateRunnerManagerRequest
  dsimp only
  rw [hoperation, hin, ok_bind, hoperation', ensure_bind_of hkeys, ensure_bind_of hversion',
    ensure_bind_of hid', hfields, orRaise_some, ok_bind, ensure_bind_of hchannel, hhash, hprincipal,
    ok_bind]

/-- The body of an accepted command passes every check but the one of its size. -/
theorem validateRunnerManagerRequest_body
    (h : Accepted isTaskId (validateInstruction isAlnum) text command)
    (hrequest : isRequestId requestId = true)
    (hprincipal : normalisePrincipalHash (.str principalHash) = .ok normalised) :
    validateRunnerManagerRequest isAlnum (requestBody command requestId principalHash) = do
      ensure ((canonical (.obj (requestBody command requestId principalHash))).utf8ByteSize ≤ 32768)
        (.validation "payload_too_large" "Runner Manager document is too large")
      return requestBody command requestId principalHash := by
  cases h with
  | @status taskId htask _ =>
    generalize hbody : requestBody { operation := .status, taskId := taskId } requestId
      principalHash = body
    have hoperation : body.get "operation" = .str "status" := hbody ▸ rfl
    have hid : (body.get "task_id").asStr?.any isTaskId = true := hbody ▸ htask
    rw [validateRunnerManagerRequest_eq hoperation (by decide) (hbody ▸ rfl) (hbody ▸ rfl)
      (hbody ▸ rfl) hrequest (hbody ▸ rfl) hprincipal, if_neg (by decide), ensure_bind_of hid,
      if_neg (by decide)]
  | @cancel taskId htask _ =>
    generalize hbody : requestBody { operation := .cancel, taskId := taskId } requestId
      principalHash = body
    have hoperation : body.get "operation" = .str "cancel" := hbody ▸ rfl
    have hid : (body.get "task_id").asStr?.any isTaskId = true := hbody ▸ htask
    rw [validateRunnerManagerRequest_eq hoperation (by decide) (hbody ▸ rfl) (hbody ▸ rfl)
      (hbody ▸ rfl) hrequest (hbody ▸ rfl) hprincipal, if_neg (by decide), ensure_bind_of hid,
      if_neg (by decide)]
  | @«continue» taskId htask hvalid _ =>
    obtain ⟨_, hvalue⟩ := validateInstruction_ok hvalid
    generalize hbody : requestBody
      { operation := .continue, taskId := taskId, instruction := remainder 3 text } requestId
      principalHash = body
    have hoperation : body.get "operation" = .str "continue" := hbody ▸ rfl
    have hid : (body.get "task_id").asStr?.any isTaskId = true := hbody ▸ htask
    have hinstruction : body.get "instruction" = .str (remainder 3 text) := hbody ▸ rfl
    rw [validateRunnerManagerRequest_eq hoperation (by decide) (hbody ▸ rfl) (hbody ▸ rfl)
      (hbody ▸ rfl) hrequest (hbody ▸ rfl) hprincipal, if_neg (by decide), ensure_bind_of hid,
      if_pos (by decide), hinstruction, hvalue, ok_bind]
  | start hvalid _ =>
    obtain ⟨_, hvalue⟩ := validateInstruction_ok hvalid
    generalize hbody : requestBody
      { operation := .start, projectAlias := "renovation-hub", instruction := remainder 2 text }
      requestId principalHash = body
    have hoperation : body.get "operation" = .str "start" := hbody ▸ rfl
    have hproject : body.get "project_alias" = .str "renovation-hub" := hbody ▸ rfl
    have hsupported : ∀ e, ensureIn (.str "renovation-hub") supportedProjects e = .ok () :=
      fun _ => rfl
    have hinstruction : body.get "instruction" = .str (remainder 2 text) := hbody ▸ rfl
    rw [validateRunnerManagerRequest_eq hoperation (by decide) (hbody ▸ rfl) (hbody ▸ rfl)
      (hbody ▸ rfl) hrequest (hbody ▸ rfl) hprincipal, if_pos (by decide), hproject, hsupported,
      ok_bind, hinstruction, hvalue, ok_bind]

/-- The size of the body of an accepted command. -/
theorem dumpSize_requestBody (h : Accepted isTaskId (validateInstruction isAlnum) text command)
    (hrequest : quotedSize requestId = 39) (hprincipal : quotedSize principalHash = 73) :
    (Json.obj (requestBody command requestId principalHash)).dumpSize ≤ 32768 ↔
      FitsRequest text := by
  have hversion : quotedSize "version" = 9 := rfl
  have hid : quotedSize "request_id" = 12 := rfl
  have hoperation : quotedSize "operation" = 11 := rfl
  have hsource : quotedSize "source" = 8 := rfl
  have hchannel : quotedSize "channel" = 9 := rfl
  have hweixin : quotedSize "weixin" = 8 := rfl
  have hhash : quotedSize "principal_hash" = 16 := rfl
  have hrole : quotedSize "role" = 6 := rfl
  have howner : quotedSize "owner" = 7 := rfl
  have htask : quotedSize "task_id" = 9 := rfl
  have hinstruction : quotedSize "instruction" = 13 := rfl
  have hproject : quotedSize "project_alias" = 15 := rfl
  have halias : quotedSize "renovation-hub" = 16 := rfl
  have htwo : utf8Length (toString (2 : ℤ)).toList = 1 := rfl
  cases h with
  | @status taskId ht hspoken =>
    obtain ⟨hplain, hlength⟩ := isTaskId_plain ht
    have hname : quotedSize "status" = 8 := rfl
    refine iff_of_true ?_ fun _ hp => by simp [hspoken] at hp
    simp only [requestBody, Json.dumpSize, pairsSize, List.cons_append, List.nil_append,
      Operation.text, optionalText, Option.map_some, Option.getD_some, hplain]
    omega
  | @cancel taskId ht hspoken =>
    obtain ⟨hplain, hlength⟩ := isTaskId_plain ht
    have hname : quotedSize "cancel" = 8 := rfl
    refine iff_of_true ?_ fun _ hp => by simp [hspoken] at hp
    simp only [requestBody, Json.dumpSize, pairsSize, List.cons_append, List.nil_append,
      Operation.text, optionalText, Option.map_some, Option.getD_some, hplain]
    omega
  | @«continue» taskId ht hvalid hspoken =>
    obtain ⟨hplain, -⟩ := isTaskId_plain ht
    have hname : quotedSize "continue" = 10 := rfl
    simp only [requestBody, Json.dumpSize, pairsSize, List.cons_append, List.nil_append,
      FitsRequest, hspoken, requestRest, Operation.text, optionalText, Option.map_some,
      Option.getD_some, Option.mem_def, Option.some.injEq, forall_eq', hplain]
    omega
  | start hvalid hspoken =>
    have hname : quotedSize "start" = 7 := rfl
    simp only [requestBody, Json.dumpSize, pairsSize, List.cons_append, List.nil_append,
      FitsRequest, hspoken, requestRest, Operation.text, optionalText, Option.map_some,
      Option.getD_some, Option.mem_def, Option.some.injEq, forall_eq']
    omega

/-- A document carries the instruction of its text, and none where the text has none. -/
def Carries (text : String) (command : WorkCommand) (document : Dict) : Prop :=
  command.instruction = (spoken text).map Prod.fst ∧
    (document.get "instruction").asStr? = (spoken text).map Prod.fst

theorem requestBody_carries (h : Accepted isTaskId (validateInstruction isAlnum) text command)
    (requestId principalHash : String) :
    Carries text command (requestBody command requestId principalHash) := by
  cases h with
  | status _ hspoken => exact ⟨hspoken ▸ rfl, hspoken ▸ rfl⟩
  | cancel _ hspoken => exact ⟨hspoken ▸ rfl, hspoken ▸ rfl⟩
  | «continue» _ _ hspoken => exact ⟨hspoken ▸ rfl, hspoken ▸ rfl⟩
  | start _ hspoken => exact ⟨hspoken ▸ rfl, hspoken ▸ rfl⟩

/-- An accepted command is built exactly when its instruction leaves room for the rest. -/
theorem buildRunnerManagerRequest_iff
    (h : Accepted isTaskId (validateInstruction isAlnum) text command)
    (hsource : ValidSource identityId messageId principalHash) :
    (∃ request, buildRunnerManagerRequest isAlnum command identityId messageId principalHash =
      .ok request ∧ Carries text command request.body) ↔ FitsRequest text := by
  obtain ⟨digest, hhex, hlength, hhash⟩ := hsource.principal
  obtain ⟨requestId, hid, hrequest, hsize⟩ := buildRequestId_ok hsource.identity hsource.message
  rw [← dumpSize_requestBody h hsize (quotedSize_digest hhex hlength), ← utf8ByteSize_canonical_eq,
    buildRunnerManagerRequest, hid, ok_bind, normalisePrincipalHash_of hhex hlength hhash, ok_bind,
    validateRunnerManagerRequest_body h hrequest
      (normalisePrincipalHash_of hhex hlength (.inr rfl))]
  constructor
  · rintro ⟨request, hok, -⟩
    simp only [bind_eq_ok, ensure_eq_ok] at hok
    obtain ⟨_, ⟨_, hfits, _⟩, _⟩ := hok
    exact hfits
  · intro hfits
    rw [ensure_bind_of hfits]
    exact ⟨_, rfl, requestBody_carries h _ _⟩

end

/-! ## The first version -/

namespace V1

/-- A message id, a task id, a principal hash, a clock and a lifetime that the builder takes. -/
structure ValidDelivery (messageId taskId principalHash : String) (now offset ttlSeconds : ℤ) :
    Prop where
  message : isMessageId messageId = true
  task : RemoteWork.isTaskId taskId = true
  principal : principalHash.toList.all isLowerHex = true ∧ principalHash.length = 64
  clock : inYears now = true ∧ offset.natAbs < 1440
  ttl : 60 ≤ ttlSeconds ∧ ttlSeconds ≤ 3600

/-- The bytes of the document without the instruction. -/
def documentRest (messageId taskId : String) (now offset ttlSeconds : ℤ) (named : Option String) :
    ℕ :=
  (if named = none then 319 else 286) + messageId.length + taskId.length +
    (isoformatAt offset now).length + (isoformatAt offset (now + ttlSeconds * 1000000)).length

/-- The command expires before the year 10000, and the instruction of its text, with its escapes,
    leaves room for the rest of the document. -/
def FitsDocument (text messageId taskId : String) (now offset ttlSeconds : ℤ) : Prop :=
  inYears (now + ttlSeconds * 1000000) = true ∧ ∀ p ∈ spoken text,
    quotedSize p.1 + documentRest messageId taskId now offset ttlSeconds p.2 ≤ 32768

variable {now offset : ℤ} {principalHash : String}

theorem timeOf_isoformatAt (hnow : inYears now = true) (hoffset : offset.natAbs < 1440)
    (name : String) :
    timeOf (.str (isoformatAt offset now)) name = .ok (now - offset * 60000000) := by
  unfold timeOf
  dsimp only [Json.asStr?]
  rw [orRaise_some, ok_bind, fromIsoformat_isoformatAt hnow hoffset]
  rfl

/-- The common checks of a document, down to the one of its size. -/
theorem validateCommon_eq {payload : Dict} {idField messageId taskId : String} {ttlSeconds : ℤ}
    (h : ValidDelivery messageId taskId principalHash now offset ttlSeconds)
    (hexpires : inYears (now + ttlSeconds * 1000000) = true)
    (hversion : (payload.get "version").eqInt 1 = true)
    (hid : payload.get idField = .str messageId) (htask : payload.get "task_id" = .str taskId)
    (hcreated : payload.get "created_at" = .str (isoformatAt offset now))
    (hexpiry : payload.get "expires_at" = .str (isoformatAt offset (now + ttlSeconds * 1000000))) :
    validateCommon payload idField =
      ensure ((String.ofList (printed (.obj payload))).utf8ByteSize ≤ 32768)
        (.validation "payload_too_large" "payload is too large") := by
  have hmessage : (payload.get idField).asStr?.any isMessageId = true := by
    rw [hid]
    exact h.message
  have hname : (payload.get "task_id").asStr?.any RemoteWork.isTaskId = true := by
    rw [htask]
    exact h.task
  have hwindow : now - offset * 60000000 < now + ttlSeconds * 1000000 - offset * 60000000 ∧
      now + ttlSeconds * 1000000 - offset * 60000000 - (now - offset * 60000000) ≤
        3600 * 1000000 := by
    have := h.ttl
    omega
  rw [validateCommon, ensure_bind_of hversion, ensure_bind_of hmessage, ensure_bind_of hname,
    hcreated, timeOf_isoformatAt h.clock.1 h.clock.2, ok_bind, hexpiry,
    timeOf_isoformatAt hexpires h.clock.2, ok_bind, ensure_bind_of hwindow]

theorem isResultHash_of
    (h : principalHash.toList.all isLowerHex = true ∧ principalHash.length = 64) :
    isResultHash ("sha256:" ++ principalHash) = true := by
  rw [isResultHash, String.toList_append, List.isPrefixOf?_eq_some_iff_append_eq.mpr rfl]
  dsimp only
  rw [h.1, String.length_toList, h.2]
  rfl

/-- A remainder that the parser accepts is one that the builder accepts. -/
theorem validateInstructionValue_of {n : ℕ} {text : String}
    (h : validateInstruction (remainder n text) = .ok ()) :
    validateInstructionValue (.str (remainder n text)) = .ok () := by
  simp only [validateInstruction, bind_eq_ok, ensure_eq_ok] at h
  obtain ⟨_, hne, hlength⟩ := h
  refine ensure_of ?_ _
  have hstrip : strip (remainder n text) = remainder n text := strip_strip _
  simp only [Json.asStr?, Option.any_some, decide_eq_true_eq, hstrip]
  exact ⟨hne, hlength⟩

section

variable {text messageId taskId principalHash : String} {command : WorkCommand}
  {now offset ttlSeconds : ℤ}

/-- The document of an accepted command. -/
def documentOf (command : WorkCommand) (messageId taskId principalHash : String)
    (now offset ttlSeconds : ℤ) : Dict :=
  commandDocument command messageId taskId principalHash (isoformatAt offset now)
    (isoformatAt offset (now + ttlSeconds * 1000000))

def topicOf (command : WorkCommand) : CommandTopic :=
  if command.operation = .start then .request else .control

/-- The checks of the source and of the authority, for both topics. -/
theorem sourceChecks_eq {payload : Dict} {α : Type}
    (hauthority : (payload.get "authority").eqStr "owner_local_development_v1" = true)
    (hsource : payload.get "source" = .obj [("channel", .str "weixin"),
      ("principal_hash", .str ("sha256:" ++ principalHash)), ("role", .str "owner")])
    (hhash : isResultHash ("sha256:" ++ principalHash) = true) (rest : Except Refusal α) :
    (do
      ensure ((payload.get "authority").eqStr "owner_local_development_v1" = true)
        (.validation "authority_invalid" "authority is invalid")
      let source ← orRaise ((payload.get "source").asDict?.filter fun d =>
          d.keysAre ["channel", "principal_hash", "role"])
        (.validation "source_invalid" "source is invalid")
      ensure ((source.get "channel").eqStr "weixin" = true ∧
          (source.get "role").eqStr "owner" = true)
        (.validation "source_invalid" "source is invalid")
      ensure ((source.get "principal_hash").asStr?.any isResultHash = true)
        (.validation "source_invalid" "principal hash is invalid")
      rest) = rest := by
  generalize hdict : ([("channel", .str "weixin"),
    ("principal_hash", .str ("sha256:" ++ principalHash)), ("role", .str "owner")] : Dict) = source
    at hsource
  have hfields : (payload.get "source").asDict?.filter (fun d =>
      d.keysAre ["channel", "principal_hash", "role"]) = some source := by
    rw [hsource, ← hdict]
    rfl
  have hchannel : (Dict.get source "channel").eqStr "weixin" = true ∧
      (Dict.get source "role").eqStr "owner" = true := by
    rw [← hdict]
    exact ⟨rfl, rfl⟩
  have hprincipal : (Dict.get source "principal_hash").asStr?.any isResultHash = true := by
    rw [← hdict]
    exact hhash
  rw [ensure_bind_of hauthority, hfields, orRaise_some, ok_bind, ensure_bind_of hchannel,
    ensure_bind_of hprincipal]

/-- The document of an accepted command passes every check but the one of its size. -/
theorem validateOutgoingDocument_eq
    (h : Accepted RemoteWork.isTaskId validateInstruction text command)
    (hoperation : command.operation ≠ .status)
    (hvalid : ValidDelivery messageId taskId principalHash now offset ttlSeconds)
    (hexpires : inYears (now + ttlSeconds * 1000000) = true) {document : Dict}
    (hdocument : documentOf command messageId taskId principalHash now offset ttlSeconds =
      document) :
    validateOutgoingDocument (topicOf command) document = do
      ensure ((String.ofList (printed (.obj document))).utf8ByteSize ≤ 32768)
        (.validation "payload_too_large" "payload is too large")
      return document := by
  have hhash := isResultHash_of hvalid.principal
  cases h with
  | status _ _ => exact absurd rfl hoperation
  | cancel _ _ =>
    have haction : document.get "action" = .str "cancel" := hdocument ▸ rfl
    have hkeys : document.keysAre controlFields = true := hdocument ▸ rfl
    have hactions : ∀ e, ensureIn (.str "cancel") ["continue", "cancel"] e = .ok () := fun _ => rfl
    have hnone : document.has "instruction" = false := hdocument ▸ rfl
    show validateOutgoingDocument .control document = _
    unfold validateOutgoingDocument
    dsimp only
    rw [haction, if_neg (by decide), ensure_bind_of hkeys, if_neg (by decide),
      validateCommon_eq hvalid hexpires (hdocument ▸ rfl) (hdocument ▸ rfl) (hdocument ▸ rfl)
        (hdocument ▸ rfl) (hdocument ▸ rfl),
      sourceChecks_eq (hdocument ▸ rfl) (hdocument ▸ rfl) hhash, hactions, ok_bind,
      if_neg (by decide), ensure_bind_of hnone]
  | «continue» _ hinstruction _ =>
    have haction : document.get "action" = .str "continue" := hdocument ▸ rfl
    have hkeys : document.keysAre (controlFields ++ ["instruction"]) = true := hdocument ▸ rfl
    have hactions : ∀ e, ensureIn (.str "continue") ["continue", "cancel"] e = .ok () :=
      fun _ => rfl
    have htext : document.get "instruction" = .str (remainder 3 text) := hdocument ▸ rfl
    show validateOutgoingDocument .control document = _
    unfold validateOutgoingDocument
    dsimp only
    rw [haction, if_pos (by decide), ensure_bind_of hkeys, if_neg (by decide),
      validateCommon_eq hvalid hexpires (hdocument ▸ rfl) (hdocument ▸ rfl) (hdocument ▸ rfl)
        (hdocument ▸ rfl) (hdocument ▸ rfl),
      sourceChecks_eq (hdocument ▸ rfl) (hdocument ▸ rfl) hhash, hactions, ok_bind,
      if_pos (by decide), htext, validateInstructionValue_of hinstruction, ok_bind]
  | start hinstruction _ =>
    have hkeys : document.keysAre requestFields = true := hdocument ▸ rfl
    have hstart : (document.get "operation").eqStr "start" = true := hdocument ▸ rfl
    have hproject : document.get "project_alias" = .str "renovation-hub" := hdocument ▸ rfl
    have hsupported : ∀ e, ensureIn (.str "renovation-hub") supportedProjects e = .ok () :=
      fun _ => rfl
    have htext : document.get "instruction" = .str (remainder 2 text) := hdocument ▸ rfl
    show validateOutgoingDocument .request document = _
    unfold validateOutgoingDocument
    dsimp only
    rw [ensure_bind_of hkeys, if_pos rfl,
      validateCommon_eq hvalid hexpires (hdocument ▸ rfl) (hdocument ▸ rfl) (hdocument ▸ rfl)
        (hdocument ▸ rfl) (hdocument ▸ rfl),
      sourceChecks_eq (hdocument ▸ rfl) (hdocument ▸ rfl) hhash, ensure_bind_of hstart, hproject,
      hsupported, ok_bind, htext, validateInstructionValue_of hinstruction, ok_bind]

theorem isMessageId_plain {messageId : String} (h : isMessageId messageId = true) :
    quotedSize messageId = 2 + messageId.length ∧ messageId.length ≤ 128 := by
  obtain ⟨hplain, hlength⟩ := matchesTail_plain h
  exact ⟨quotedSize_plain hplain, hlength⟩

theorem isTaskId_plain {taskId : String} (h : RemoteWork.isTaskId taskId = true) :
    quotedSize taskId = 2 + taskId.length ∧ taskId.length ≤ 67 := by
  unfold RemoteWork.isTaskId at h
  split at h
  · next cs hcs =>
    have htext := List.isPrefixOf?_eq_some_iff_append_eq.mp hcs
    simp only [Bool.and_eq_true, decide_eq_true_eq, List.all_eq_true, Bool.or_eq_true] at h
    obtain ⟨⟨hchars, -⟩, hlength⟩ := h
    constructor
    · refine quotedSize_plain ?_
      rw [← htext, List.all_append, Bool.and_eq_true_iff]
      refine ⟨rfl, List.all_eq_true.mpr fun c hc => ?_⟩
      obtain (hc | hc) | hc := hchars c hc
      · exact isPlain_of_isAlphanum hc
      · rw [hc]
        rfl
      · rw [hc]
        rfl
    · rw [← String.length_toList, ← htext, List.length_append]
      have hfront : "RW-".toList.length = 3 := rfl
      omega
  · cases h

theorem quotedSize_principal
    (h : principalHash.toList.all isLowerHex = true ∧ principalHash.length = 64) :
    quotedSize ("sha256:" ++ principalHash) = 73 := by
  have hdigest := quotedSize_digest h.1 (String.length_toList.trans h.2)
  rwa [String.ofList_toList] at hdigest

/-- The size of the document of an accepted command. -/
theorem dumpSize_documentOf (h : Accepted RemoteWork.isTaskId validateInstruction text command)
    (hoperation : command.operation ≠ .status)
    (hvalid : ValidDelivery messageId taskId principalHash now offset ttlSeconds)
    (hexpires : inYears (now + ttlSeconds * 1000000) = true) :
    (Json.obj (documentOf command messageId taskId principalHash now offset ttlSeconds)).dumpSize ≤
        32768 ↔
      FitsDocument text messageId taskId now offset ttlSeconds := by
  obtain ⟨hmessage, hmessageLength⟩ := isMessageId_plain hvalid.message
  obtain ⟨htask, htaskLength⟩ := isTaskId_plain hvalid.task
  have hcreated := quotedSize_plain (isoformatAt_plain offset now)
  have hexpiry := quotedSize_plain (isoformatAt_plain offset (now + ttlSeconds * 1000000))
  have hprincipal := quotedSize_principal hvalid.principal
  have hversionKey : quotedSize "version" = 9 := rfl
  have hmessageKey : quotedSize "message_id" = 12 := rfl
  have hcontrolKey : quotedSize "control_id" = 12 := rfl
  have htaskKey : quotedSize "task_id" = 9 := rfl
  have hcreatedKey : quotedSize "created_at" = 12 := rfl
  have hexpiresKey : quotedSize "expires_at" = 12 := rfl
  have hprojectKey : quotedSize "project_alias" = 15 := rfl
  have halias : quotedSize "renovation-hub" = 16 := rfl
  have hoperationKey : quotedSize "operation" = 11 := rfl
  have hactionKey : quotedSize "action" = 8 := rfl
  have hinstructionKey : quotedSize "instruction" = 13 := rfl
  have hsourceKey : quotedSize "source" = 8 := rfl
  have hauthorityKey : quotedSize "authority" = 11 := rfl
  have hauthority : quotedSize "owner_local_development_v1" = 28 := rfl
  have hchannelKey : quotedSize "channel" = 9 := rfl
  have hchannel : quotedSize "weixin" = 8 := rfl
  have hprincipalKey : quotedSize "principal_hash" = 16 := rfl
  have hroleKey : quotedSize "role" = 6 := rfl
  have hrole : quotedSize "owner" = 7 := rfl
  have hone : utf8Length (toString (1 : ℤ)).toList = 1 := rfl
  cases h with
  | status _ _ => exact absurd rfl hoperation
  | cancel _ hspoken =>
    have hname : quotedSize "cancel" = 8 := rfl
    have hcreatedLength := length_isoformatAt hvalid.clock.1 hvalid.clock.2
    have hexpiryLength := length_isoformatAt hexpires hvalid.clock.2
    refine iff_of_true ?_ ⟨hexpires, fun _ hp => by simp [hspoken] at hp⟩
    simp only [documentOf, commandDocument, Json.dumpSize, pairsSize, Operation.text, reduceCtorEq,
      if_false, List.append_nil]
    omega
  | «continue» _ _ hspoken =>
    have hname : quotedSize "continue" = 10 := rfl
    simp only [documentOf, commandDocument, Json.dumpSize, pairsSize, List.cons_append,
      List.nil_append, Operation.text, if_true, FitsDocument, hspoken, hexpires, documentRest,
      optionalText, Option.map_some, Option.getD_some, Option.mem_def, Option.some.injEq,
      forall_eq', reduceCtorEq, if_false, true_and]
    omega
  | start _ hspoken =>
    have hname : quotedSize "start" = 7 := rfl
    simp only [documentOf, commandDocument, Json.dumpSize, pairsSize, FitsDocument, hspoken,
      hexpires, documentRest, optionalText, Option.map_some, Option.getD_some, Option.mem_def,
      Option.some.injEq, forall_eq', if_true, true_and]
    omega

theorem documentOf_carries (h : Accepted RemoteWork.isTaskId validateInstruction text command) :
    Carries text command
      (documentOf command messageId taskId principalHash now offset ttlSeconds) := by
  cases h with
  | status _ hspoken => exact ⟨hspoken ▸ rfl, hspoken ▸ rfl⟩
  | cancel _ hspoken => exact ⟨hspoken ▸ rfl, hspoken ▸ rfl⟩
  | «continue» _ _ hspoken => exact ⟨hspoken ▸ rfl, hspoken ▸ rfl⟩
  | start _ hspoken => exact ⟨hspoken ▸ rfl, hspoken ▸ rfl⟩

/-- What is built of an accepted command, and when. -/
theorem buildCommandDocument_eq_ok
    (h : Accepted RemoteWork.isTaskId validateInstruction text command)
    (hoperation : command.operation ≠ .status)
    (hvalid : ValidDelivery messageId taskId principalHash now offset ttlSeconds)
    {built : CommandTopic × Dict} :
    buildCommandDocument command messageId taskId principalHash now offset ttlSeconds = .ok built ↔
      FitsDocument text messageId taskId now offset ttlSeconds ∧
        built.1 = topicOf command ∧
        built.2 = documentOf command messageId taskId principalHash now offset ttlSeconds := by
  unfold buildCommandDocument
  dsimp only
  by_cases hexpires : inYears (now + ttlSeconds * 1000000) = true
  · have hchecked := validateOutgoingDocument_eq h hoperation hvalid hexpires rfl
    unfold topicOf documentOf at hchecked
    rw [ensure_bind_of hexpires, ensure_bind_of hoperation, hchecked,
      ← dumpSize_documentOf h hoperation hvalid hexpires, ← utf8ByteSize_printed]
    unfold documentOf
    by_cases hsize : (String.ofList (printed (.obj (commandDocument command messageId taskId
        principalHash (isoformatAt offset now)
        (isoformatAt offset (now + ttlSeconds * 1000000)))))).utf8ByteSize ≤ 32768
    · rw [ensure_bind_of hsize, and_iff_right hsize]
      constructor
      · intro hok
        cases hok
        exact ⟨rfl, rfl⟩
      · rintro ⟨htopic, hdocument⟩
        obtain ⟨topic, document⟩ := built
        cases htopic
        cases hdocument
        rfl
    · rw [ensure, if_neg hsize]
      exact ⟨fun hok => (by cases hok), fun hbuilt => absurd hbuilt.1 hsize⟩
  · rw [ensure, if_neg hexpires]
    exact ⟨fun hok => (by cases hok), fun hbuilt => absurd hbuilt.1.1 hexpires⟩

/-- An accepted command is built exactly when its instruction leaves room for the rest. -/
theorem buildCommandDocument_iff
    (h : Accepted RemoteWork.isTaskId validateInstruction text command)
    (hoperation : command.operation ≠ .status)
    (hvalid : ValidDelivery messageId taskId principalHash now offset ttlSeconds) :
    (∃ topic document, buildCommandDocument command messageId taskId principalHash now offset
      ttlSeconds = .ok (topic, document) ∧ Carries text command document) ↔
      FitsDocument text messageId taskId now offset ttlSeconds := by
  constructor
  · rintro ⟨topic, document, hok, -⟩
    exact ((buildCommandDocument_eq_ok h hoperation hvalid).mp hok).1
  · intro hfits
    exact ⟨_, _, (buildCommandDocument_eq_ok h hoperation hvalid).mpr ⟨hfits, rfl, rfl⟩,
      documentOf_carries h⟩

end

end V1

/-- A command that is routed to the Runner Manager is built, with the instruction of its text,
    exactly when the instruction leaves room for the rest of the body, and a command of the first
    version exactly when it leaves room for the rest of the document. -/
theorem work_commands_build_iff (isAlnum : WordChars) (text : Json) (command : WorkCommand)
    (messageId principalHash : String) :
    (∀ (role : String) (hasAttachments v2Enabled v1Available : Bool) (decision : RouteDecision)
      (identityId : String),
      selectWorkRoute isAlnum text role hasAttachments v2Enabled v1Available = some decision →
      decision.route = .v2 → decision.command = some command →
      ValidSource identityId messageId principalHash →
      ∃ s, text = .str s ∧
        ((∃ request, buildRunnerManagerRequest isAlnum command identityId messageId principalHash =
          .ok request ∧ Carries s command request.body) ↔ FitsRequest s)) ∧
    ∀ (s taskId : String) (now offset ttlSeconds : ℤ), text = .str s →
      V1.parseWorkCommand s = .ok (some command) → command.operation ≠ .status →
      V1.ValidDelivery messageId taskId principalHash now offset ttlSeconds →
      ((∃ topic document, V1.buildCommandDocument command messageId taskId principalHash now offset
        ttlSeconds = .ok (topic, document) ∧ Carries s command document) ↔
        V1.FitsDocument s messageId taskId now offset ttlSeconds) := by
  constructor
  · intro role hasAttachments v2Enabled v1Available decision identityId hroute _ hcommand hsource
    obtain ⟨s, rfl, hparsed⟩ := selectWorkRoute_parsed hroute hcommand
    exact ⟨s, rfl, buildRunnerManagerRequest_iff (parseText_accepted hparsed) hsource⟩
  · intro s taskId now offset ttlSeconds _ hparsed hoperation hvalid
    exact V1.buildCommandDocument_iff (parseText_accepted hparsed) hoperation hvalid

/-! ## A long instruction -/

/-- `/work renovation-hub ` -/
def taskFront : List Char :=
  ['/', 'w', 'o', 'r', 'k', ' ', 'r', 'e', 'n', 'o', 'v', 'a', 't', 'i', 'o', 'n', '-', 'h', 'u',
    'b', ' ']

/-- A task of one word. -/
def taskText (word : List Char) : String := String.ofList (taskFront ++ word)

section

variable {word : List Char}

theorem getLast_not_space (hword : ∀ c ∈ word, isPySpace c = false) (hne : word ≠ []) :
    ¬isPySpace (word.getLast hne) = true := by
  rw [hword _ (List.getLast_mem hne)]
  decide

theorem dropWhile_word (hword : ∀ c ∈ word, isPySpace c = false) :
    word.dropWhile isPySpace = word := by
  cases word with
  | nil => rfl
  | cons c word => exact List.dropWhile_cons_of_neg (by rw [hword c List.mem_cons_self]; decide)

theorem strip_taskText (hne : word ≠ []) (hword : ∀ c ∈ word, isPySpace c = false) :
    strip (taskText word) = taskText word := by
  have hlast : ∀ h, ¬isPySpace ((taskFront ++ word).getLast h) = true := by
    intro h
    rw [List.getLast_append_of_right_ne_nil _ _ hne]
    exact getLast_not_space hword hne
  have hhead : (taskFront ++ word).dropWhile isPySpace = taskFront ++ word := rfl
  rw [taskText, strip_ofList, hhead, List.rdropWhile_eq_self_iff.mpr hlast]

theorem splitMax_word (n : ℕ) (hne : word ≠ []) (hword : ∀ c ∈ word, isPySpace c = false) :
    splitMax (n + 1) word = [word] := by
  cases word with
  | nil => exact absurd rfl hne
  | cons c word =>
    have hall : ∀ d ∈ c :: word, (!isPySpace d) = true := fun d hd => by rw [hword d hd]; rfl
    rw [splitMax, dropWhile_word hword]
    dsimp only
    rw [List.takeWhile_eq_self_iff.mpr hall, List.dropWhile_eq_nil_iff.mpr hall]
    cases n <;> rfl

/-- The words of a task. -/
theorem splitMax_taskFront (n : ℕ) : splitMax (n + 2) (taskFront ++ word) =
    "/work".toList :: "renovation-hub".toList :: splitMax n (' ' :: word) := rfl

theorem tokensOf_taskText (hne : word ≠ []) (hword : ∀ c ∈ word, isPySpace c = false) :
    tokensOf (taskText word) = ["/work", "renovation-hub", String.ofList word] := by
  have hspace : ∀ n, splitMax (n + 1) (' ' :: word) = splitMax (n + 1) word := fun _ => rfl
  have hlength : taskFront.length + word.length = (18 + word.length) + 1 + 2 := by
    have : taskFront.length = 21 := rfl
    omega
  rw [tokensOf, strip_taskText hne hword, taskText, String.toList_ofList, words, List.length_append,
    hlength, splitMax_taskFront, hspace, splitMax_word _ hne hword]
  rfl

theorem remainder_taskText (hword : ∀ c ∈ word, isPySpace c = false) :
    remainder 2 (taskText word) = String.ofList word := by
  have hdrop : dropWord^[2] (taskFront ++ word) = ' ' :: word := rfl
  have hspace : (' ' :: word).dropWhile isPySpace = word.dropWhile isPySpace := rfl
  rw [remainder, taskText, String.toList_ofList, hdrop, strip_ofList, hspace, dropWhile_word hword,
    List.rdropWhile_eq_self_iff.mpr (getLast_not_space hword)]

theorem instructionOf_taskText (hne : word ≠ []) (hword : ∀ c ∈ word, isPySpace c = false) :
    instructionOf 2 (taskText word) = .ok (String.ofList word) := by
  have hrest : splitMax 0 (' ' :: word) = [word] := by
    have hspace : (' ' :: word).dropWhile isPySpace = word.dropWhile isPySpace := rfl
    rw [splitMax, hspace, dropWhile_word hword]
    cases word with
    | nil => exact absurd rfl hne
    | cons c word => rfl
  have hthird : (splitMax 2 (strip (taskText word)).toList)[2]? = some word := by
    rw [strip_taskText hne hword, taskText, String.toList_ofList, splitMax_taskFront, hrest]
    rfl
  rw [instructionOf, hthird, orRaise_some, ok_bind, strip_ofList, dropWhile_word hword,
    List.rdropWhile_eq_self_iff.mpr (getLast_not_space hword)]
  rfl

/-- A task of one word is accepted while it has no more than 12000 characters. -/
theorem V1.parseWorkCommand_taskText (hne : word ≠ []) (hword : ∀ c ∈ word, isPySpace c = false)
    (hlength : word.length ≤ 12000) :
    V1.parseWorkCommand (taskText word) = .ok (some
      { operation := .start, projectAlias := "renovation-hub",
        instruction := String.ofList word }) := by
  have hvalid : V1.validateInstruction (String.ofList word) = .ok () := by
    rw [V1.validateInstruction, ensure_bind_of (by simpa using hne)]
    exact ensure_of (by simpa using hlength) _
  unfold V1.parseWorkCommand parseText
  rw [tokensOf_taskText hne hword]
  show some <$> parseAction _ _ _ (taskText word) "renovation-hub" [String.ofList word] = _
  unfold parseAction
  rw [if_neg (by decide), if_neg (by decide), if_neg (by decide), if_neg (by decide),
    if_neg (by decide), if_neg (by simp), instructionOf_taskText hne hword, ok_bind, hvalid,
    ok_bind]
  rfl

theorem spoken_taskText (hne : word ≠ []) (hword : ∀ c ∈ word, isPySpace c = false) :
    spoken (taskText word) = some (String.ofList word, none) := by
  rw [spoken, tokensOf_taskText hne hword, remainder_taskText hword]
  rfl

theorem not_fitsDocument_taskText (hne : word ≠ []) (hword : ∀ c ∈ word, isPySpace c = false)
    (hsize : 32768 < quotedSize (String.ofList word)) {messageId taskId : String}
    {now offset ttlSeconds : ℤ} :
    ¬V1.FitsDocument (taskText word) messageId taskId now offset ttlSeconds := by
  rintro ⟨-, hfits⟩
  rw [spoken_taskText hne hword] at hfits
  have hroom := hfits _ rfl
  dsimp only at hroom
  omega

end

def sampleDigest : String :=
  "0123456789abcdef0123456789abcdef0123456789abcdef0123456789abcdef"

/-- A delivery at the beginning of the year 2026 in Shanghai. -/
theorem sampleDelivery : V1.ValidDelivery "message-0001" "RW-00000001" sampleDigest
    63902908800000000 480 600 where
  message := by decide +kernel
  task := by decide +kernel
  principal := by decide +kernel
  clock := by decide +kernel
  ttl := by decide

theorem work_commands_build_iff_short :
    (∃ request, buildRunnerManagerRequest (fun c => decide (0x4E00 ≤ c.toNat))
      { operation := .status, taskId := "RW-1" } "identity" "message-0001" sampleDigest =
        .ok request ∧
      Carries "/work status RW-1" { operation := .status, taskId := "RW-1" } request.body) ∧
    ∃ topic document, V1.buildCommandDocument
      { operation := .start, projectAlias := "renovation-hub", instruction := String.ofList ['你'] }
      "message-0001" "RW-00000001" sampleDigest 63902908800000000 480 600 =
        .ok (topic, document) ∧
      Carries (taskText ['你'])
        { operation := .start, projectAlias := "renovation-hub",
          instruction := String.ofList ['你'] } document := by
  have hword : ∀ c ∈ ['你'], isPySpace c = false := List.forall_mem_singleton.mpr (by decide)
  constructor
  · obtain ⟨s, hs, hbuilt⟩ := (work_commands_build_iff (fun c => decide (0x4E00 ≤ c.toNat))
      (.str "/work status RW-1") { operation := .status, taskId := "RW-1" } "message-0001"
      sampleDigest).1 "owner" false true false
      { route := .v2, reason := "v2_selected",
        command := some { operation := .status, taskId := "RW-1" } } "identity"
      (by decide +kernel) rfl rfl
      ⟨by decide +kernel, by decide +kernel, sampleDigest.toList, by decide +kernel,
        by decide +kernel, .inl String.ofList_toList.symm⟩
    cases hs
    have hspoken : spoken "/work status RW-1" = none := by decide +kernel
    exact hbuilt.mpr fun p hp => by simp [hspoken] at hp
  · refine ((work_commands_build_iff (fun _ => false) (.str (taskText ['你'])) _ "message-0001"
      sampleDigest).2 _ "RW-00000001" 63902908800000000 480 600 rfl
      (V1.parseWorkCommand_taskText (List.cons_ne_nil _ _) hword (by decide)) (by decide)
      sampleDelivery).mpr ⟨by decide +kernel, fun p hp => ?_⟩
    rw [spoken_taskText (List.cons_ne_nil _ _) hword] at hp
    cases hp
    decide +kernel

/-- A text of 12000 characters of three bytes each is accepted, and no document of it is built. -/
theorem long_instruction_not_built :
    V1.parseWorkCommand (taskText (List.replicate 12000 '你')) = .ok (some
      { operation := .start, projectAlias := "renovation-hub",
        instruction := String.ofList (List.replicate 12000 '你') }) ∧
    ∀ topic document, V1.buildCommandDocument
      { operation := .start, projectAlias := "renovation-hub",
        instruction := String.ofList (List.replicate 12000 '你') }
      "message-0001" "RW-00000001" sampleDigest 63902908800000000 480 600 ≠
        .ok (topic, document) := by
  have hne : List.replicate 12000 '你' ≠ [] := by
    rw [Ne, List.replicate_eq_nil_iff]
    decide
  have hword : ∀ c ∈ List.replicate 12000 '你', isPySpace c = false := by
    intro c hc
    rw [List.eq_of_mem_replicate hc]
    decide
  have hparsed := V1.parseWorkCommand_taskText hne hword List.length_replicate.le
  refine ⟨hparsed, fun topic document hbuilt => ?_⟩
  have hfits := (V1.buildCommandDocument_eq_ok (parseText_accepted hparsed) (by decide)
    sampleDelivery).mp hbuilt
  refine not_fitsDocument_taskText hne hword ?_ hfits.1
  have hthree : escapeSize '你' = 3 := rfl
  rw [quotedSize, String.toList_ofList, List.map_replicate, List.sum_replicate_nat, hthree]
  decide

end HomeAddons.Gateway.WorkCommands
