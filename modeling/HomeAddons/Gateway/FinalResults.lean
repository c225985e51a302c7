import HomeAddons.Common.Raises
import HomeAddons.Gateway.Notification

/-!
# Weixin Gateway: the final result of a notification

Whether `process` publishes one final result for every payload that arrives, and returns what came of
it. The worker catches what `process` raises, and acknowledges nothing then.

* `parseRequest_raised_iff`: the payloads on which `parse_request` raises something other than a
  `RequestValidationError`.
* `NotificationProcessor.final_result_iff`: the payloads that get a final result.
-/

namespace HomeAddons.Gateway

open HomeAddons.Common

/-! ## The payloads that are not answered -/

/-- What `json.loads(raw_payload.decode("utf-8"))` comes to. -/
inductive Decoded where
  | document (v : Json)
  /-- `UnicodeDecodeError` or `JSONDecodeError`. -/
  | invalid
  /-- `RecursionError` on too deep a nesting, or `ValueError` on too long an integer. -/
  | unreadable

/-- The text of a field without the white space around it, where `_require_string` accepts it. -/
def acceptedText (payload : Dict) (name : String) (maxLength : ℕ) (stable : Bool) : Option String :=
  ((payload.get name).asStr?.map strip).filter fun text =>
    text ≠ "" ∧ text.length ≤ maxLength ∧ (!stable || isStableName text)

/-- A document with the fields of a request, its version and a `message_id`, whose `created_at` is an
    instant; and either that instant is outside the years 1 to 9999 in UTC, or the `level` is a list or
    an object in a request whose time and `ttl` are good, or nothing is wrong with the request but that
    it expires after the year 9999. The clock may also be at the end of the year 9999. -/
def Escapes (allowedAudiences : List String) (payload : Json) (now : Instant) : Prop :=
  ∃ d, payload.asDict? = some d ∧ Dict.keysAre d requestFields = true ∧
    (Dict.get d "version").eqInt 1 = true ∧ isId ((Dict.get d "message_id").asStr?.getD "") = true ∧
    ∃ text, (Dict.get d "created_at").asStr? = some text ∧
    ∃ created offset, fromIsoformat (withOffset text) = some (created, some offset) ∧
      (¬ inCalendar (created - offset) ∨ ¬ inCalendar (now + seconds 300) ∨
        created - offset ≤ now + seconds 300 ∧
        ∃ ttl, (Dict.get d "ttl").asInt? = some ttl ∧ (30 ≤ ttl ∧ ttl ≤ 86400) ∧
          ((Dict.get d "level").hashable = false ∨
            (Dict.get d "level").inStrings (levelLabels.map Prod.fst) = some true ∧
            (acceptedText d "title" 100 false).isSome ∧
            (acceptedText d "message" 4000 false).isSome ∧
            (acceptedText d "source" 255 true).isSome ∧
            (acceptedText d "dedupe_key" 255 true).isSome ∧
            (∃ audience, acceptedText d "audience" 255 true = some audience ∧
              audience ∈ allowedAudiences) ∧
            ¬ inCalendar (created - offset + seconds ttl.toNat)))

/-- The codes of the failures that `parse_request` reports. -/
def validationCodes : List String :=
  ["invalid_payload", "unsupported_version", "invalid_message_id", "invalid_created_at",
    "created_at_in_future", "invalid_ttl", "invalid_level", "audience_not_allowed"]

section Texts

variable {payload : Dict} {name : String} {maxLength : ℕ} {stable : Bool} {messageId : String}

theorem requireString_eq_ok {value : String} :
    requireString payload name maxLength stable messageId = .ok value ↔
      acceptedText payload name maxLength stable = some value := by
  simp only [requireString, acceptedText, bind_eq_ok, orRaise_eq_ok, ensure_eq_ok, exists_const,
    pure_eq_ok, Option.filter_eq_some_iff, Option.map_eq_some_iff, decide_eq_true_eq]
  constructor
  · rintro ⟨text, htext, hne, hlength, hstable, rfl⟩
    exact ⟨⟨text, htext, rfl⟩, hne, hlength, hstable⟩
  · rintro ⟨⟨text, htext, rfl⟩, hne, hlength, hstable⟩
    exact ⟨text, htext, hne, hlength, hstable, rfl⟩

theorem requireString_eq_error {e : RequestError}
    (h : requireString payload name maxLength stable messageId = .error e) :
    ∃ message, e = .validation "invalid_payload" message messageId := by
  simp only [requireString, bind_eq_error, orRaise_eq_error, ensure_eq_error] at h
  obtain ⟨-, rfl⟩ | ⟨text, -, ⟨-, rfl⟩ | ⟨-, -, ⟨-, rfl⟩ | ⟨-, -, ⟨-, rfl⟩ | ⟨-, -, h⟩⟩⟩⟩ := h
  · exact ⟨_, rfl⟩
  · exact ⟨_, rfl⟩
  · exact ⟨_, rfl⟩
  · exact ⟨_, rfl⟩
  · cases h

theorem requireString_ne_raised :
    requireString payload name maxLength stable messageId ≠ .error .raised := by
  intro h
  obtain ⟨message, h⟩ := requireString_eq_error h
  cases h

end Texts

variable {allowedAudiences : List String} {payload : Json} {now : Instant} {messageId : String}

/-- The payloads on which `parse_request` raises something other than a `RequestValidationError`. -/
theorem parseRequest_raised_iff :
    parseRequest allowedAudiences payload now = .error .raised ↔
      Escapes allowedAudiences payload now := by
  have hpure : ∀ r : NotificationRequest, (pure r : Except RequestError _) ≠ .error .raised := nofun
  have hlevel : ∀ v : Json, v.inStrings (levelLabels.map Prod.fst) = none ↔ v.hashable = false := by
    intro v
    rw [Json.inStrings]
    split_ifs with h <;> simp [h]
  simp only [parseRequest, Escapes, bind_eq_error, orRaise_eq_error, ensure_eq_error, orRaise_eq_ok,
    ensure_eq_ok, requireString_ne_raised, requireString_eq_ok, reduceCtorEq, and_false, false_or,
    exists_const, and_true, hpure, or_false, hlevel, Option.isSome_iff_exists]
  constructor
  · rintro ⟨d, hd, hkeys, hversion, hid, text, htext, ⟨created, _⟩, hcreated, offset, rfl, h⟩
    refine ⟨d, hd, hkeys, hversion, hid, text, htext, created, offset, hcreated, ?_⟩
    obtain h | ⟨-, h | ⟨-, hpast, ttl, httl, hrange, h⟩⟩ := h
    · exact .inl h
    · exact .inr (.inl h)
    · refine .inr (.inr ⟨hpast, ttl, httl, hrange, h.imp_right ?_⟩)
      rintro ⟨_, hknown, rfl, title, htitle, message, hmessage, source, hsource, key, hkey, audience,
        haudience, hallowed, hlate⟩
      exact ⟨hknown, ⟨title, htitle⟩, ⟨message, hmessage⟩, ⟨source, hsource⟩, ⟨key, hkey⟩,
        ⟨audience, haudience, hallowed⟩, hlate⟩
  · rintro ⟨d, hd, hkeys, hversion, hid, text, htext, created, offset, hcreated, h⟩
    refine ⟨d, hd, hkeys, hversion, hid, text, htext, (created, some offset), hcreated, offset, rfl,
      ?_⟩
    refine or_iff_not_imp_left.mpr fun hin => ⟨not_not.mp hin, or_iff_not_imp_left.mpr fun hnow =>
      ⟨not_not.mp hnow, ?_⟩⟩
    obtain ⟨hpast, ttl, httl, hrange, h⟩ := (h.resolve_left hin).resolve_left hnow
    refine ⟨hpast, ttl, httl, hrange, h.imp_right ?_⟩
    rintro ⟨hknown, ⟨title, htitle⟩, ⟨message, hmessage⟩, ⟨source, hsource⟩, ⟨key, hkey⟩,
      ⟨audience, haudience, hallowed⟩, hlate⟩
    exact ⟨true, hknown, rfl, title, htitle, message, hmessage, source, hsource, key, hkey, audience, haudience,
      hallowed, hlate⟩

/-- A failure whose code is not one of them. -/
def Unlisted : RequestError → Prop
  | .validation code _ _ => code ∉ validationCodes
  | .raised => False

theorem requireString_listed {payload : Dict} {name : String} {maxLength : ℕ} {stable : Bool} :
    ¬ Raises Unlisted (requireString payload name maxLength stable messageId) := by
  rintro ⟨e, h, he⟩
  obtain ⟨message, rfl⟩ := requireString_eq_error h
  exact he (by decide)

/-- A failure that `parse_request` reports has one of the codes. -/
theorem parseRequest_code {code message : String}
    (h : parseRequest allowedAudiences payload now = .error (.validation code message messageId)) :
    code ∈ validationCodes := by
  have hlisted : ¬ Raises Unlisted (parseRequest allowedAudiences payload now) := by
    simp [parseRequest, requireString_listed, Unlisted, validationCodes]
  exact not_not.mp fun hcode => hlisted ⟨_, h, hcode⟩

namespace NotificationProcessor

variable (O : Surroundings)

/-- `process(raw_payload)`. -/
def processBytes (decode : List UInt8 → Decoded) (allowedAudiences : List String)
    (rawPayload : List UInt8) : Worker Bool :=
  match decode rawPayload with
  | .document payload => process O allowedAudiences (some payload)
  | .invalid => process O allowedAudiences none
  | .unreadable => throw ()

/-! ## Runs that nothing stops -/

/-- Nothing final was published since the log was `log`. -/
def Unfinished (log : List NotificationEvent) (w : NotificationWorld) : Prop :=
  ∃ es, w.log = log ++ es ∧ ∀ payload, .published payload ∈ es → payload.status.isFinal = false

/-- One final result was published since then, with `R`, and it was the last thing that was done;
    `done` is what came of it. -/
def Finished (log : List NotificationEvent) (R : ResultPayload → Prop) (done : Bool)
    (w : NotificationWorld) : Prop :=
  ∃ es payload, w.log = log ++ es ++ [.published payload] ∧
    (∀ payload, .published payload ∈ es → payload.status.isFinal = false) ∧
    payload.status.isFinal = true ∧ R payload ∧ done = O.publish (w.tick - 1)

section Total

variable {O} (hstops : ∀ k, O.stops k = false) {log : List NotificationEvent}
  {R : ResultPayload → Prop}

include hstops

variable {α : Type} {f : NotificationWorld → α × NotificationWorld} {status : NotificationStatus}

theorem effect_returns {P : NotificationWorld → Prop} {Q : α → NotificationWorld → Prop}
    (h : ∀ w, P w → Q (f w).1 { (f w).2 with tick := w.tick + 1 }) :
    Exits P (effect O f) Q fun _ _ => False := by
  intro w hw
  unfold effect
  rw [hstops, if_neg Bool.false_ne_true]
  exact h w hw

/-- An effect that publishes nothing. -/
theorem quiet_returns
    (h : ∀ w, ∃ es, (f w).2.log = w.log ++ es ∧ ∀ payload, .published payload ∉ es) :
    Exits (Unfinished log) (effect O f) (fun _ => Unfinished log) fun _ _ => False := by
  refine effect_returns hstops fun w hw => ?_
  obtain ⟨es, hes, hnone⟩ := hw
  obtain ⟨es', hes', hquiet⟩ := h w
  refine ⟨es ++ es', ?_, fun payload hmem => ?_⟩
  · show (f w).2.log = _
    rw [hes', hes, List.append_assoc]
  · exact hnone payload ((List.mem_append.mp hmem).resolve_right (hquiet payload))

theorem clock_returns : Exits (Unfinished log) (clock O) (fun _ => Unfinished log) fun _ _ => False :=
  quiet_returns hstops fun _ => ⟨[], (List.append_nil _).symm, fun _ => List.not_mem_nil⟩

theorem insert_returns (request : NotificationRequest) (status : NotificationStatus) (now : Instant) :
    Exits (Unfinished log) (insert O request status now) (fun _ => Unfinished log)
      fun _ _ => False := by
  refine quiet_returns hstops fun w => ?_
  cases w.ledger.insert? (request.row status now) with
  | none => exact ⟨[], (List.append_nil _).symm, fun _ => List.not_mem_nil⟩
  | some ledger => exact ⟨_, rfl, by simp⟩

theorem update_returns (messageId : String) (status : NotificationStatus) (attempts : ℕ)
    (errorCode : Option String) (finishedAt : Option Instant) :
    Exits (Unfinished log) (update O messageId status attempts errorCode finishedAt)
      (fun _ => Unfinished log) fun _ _ => False :=
  quiet_returns hstops fun w => ⟨_, rfl, by simp⟩

theorem cleanup_returns (before : Instant) :
    Exits (Unfinished log) (cleanup O before) (fun _ => Unfinished log) fun _ _ => False :=
  quiet_returns hstops fun w => ⟨_, rfl, by simp⟩

theorem publish_returns (messageId : String) (hstatus : status.isFinal = false) (attempt : ℕ)
    (errorCode : Option String) :
    Exits (Unfinished log) (publish O messageId status attempt errorCode) (fun _ => Unfinished log)
      fun _ _ => False := by
  refine (clock_returns hstops).bind fun now => effect_returns hstops fun w hw => ?_
  obtain ⟨es, hes, hnone⟩ := hw
  refine ⟨es ++ [.published ⟨messageId, status, now, attempt, errorCode⟩], ?_, fun payload hmem => ?_⟩
  · show w.log ++ _ = _
    rw [hes, List.append_assoc]
  · obtain hmem | hmem := List.mem_append.mp hmem
    · exact hnone payload hmem
    · cases List.mem_singleton.mp hmem
      exact hstatus

theorem publish_finishes (messageId : String) (hstatus : status.isFinal = true) (attempt : ℕ)
    (errorCode : Option String) (hR : ∀ now, R ⟨messageId, status, now, attempt, errorCode⟩) :
    Exits (Unfinished log) (publish O messageId status attempt errorCode) (Finished O log R)
      fun _ _ => False := by
  refine (clock_returns hstops).bind fun now => effect_returns hstops fun w hw => ?_
  obtain ⟨es, hes, hnone⟩ := hw
  refine ⟨es, ⟨messageId, status, now, attempt, errorCode⟩, ?_, hnone, hstatus, hR now, ?_⟩
  · show w.log ++ _ = _
    rw [hes]
  · show O.publish w.tick = O.publish (w.tick + 1 - 1)
    rw [Nat.add_sub_cancel]

theorem publishInvalid_finishes (errorCode : String)
    (hR : ∀ messageId now, R ⟨messageId, .failed, now, 0, some errorCode⟩) :
    Exits (Unfinished log) (publishInvalid O errorCode) (Finished O log R) fun _ _ => False :=
  (quiet_returns hstops fun _ => ⟨[], (List.append_nil _).symm, fun _ => List.not_mem_nil⟩).bind
    fun _ => publish_finishes hstops _ rfl _ _ fun now => hR _ now

theorem finish_finishes (messageId : String) (hstatus : status.isFinal = true) (attempt : ℕ)
    (errorCode : Option String) :
    Exits (Unfinished log) (finish O messageId status attempt errorCode)
      (Finished O log fun _ => True) fun _ _ => False :=
  (clock_returns hstops).bind fun _ => (update_returns hstops _ _ _ _ _).bind fun _ =>
    publish_finishes hstops _ hstatus _ _ fun _ => trivial

theorem attempt_finishes (request : NotificationRequest) (attempts : ℕ) {retry : Worker Bool}
    (hretry : Exits (Unfinished log) retry (Finished O log fun _ => True) fun _ _ => False) :
    Exits (Unfinished log) (attempt O request attempts retry) (Finished O log fun _ => True)
      fun _ _ => False := by
  refine (update_returns hstops _ _ _ _ _).bind fun _ => ?_
  refine (publish_returns hstops _ rfl _ _).bind fun _ => ?_
  refine Exits.bind (R := fun _ => Unfinished log) ?_ fun outcome => ?_
  · refine (quiet_returns hstops fun w => ⟨_, rfl, by simp⟩).bind fun _ => ?_
    exact quiet_returns hstops fun w => ⟨_, rfl, by simp⟩
  · refine Exits.ite (fun _ => ?_) fun _ => Exits.ite (fun _ => ?_) fun _ => hretry
    · exact finish_finishes hstops _ rfl _ _
    · exact finish_finishes hstops _ rfl _ _

/-- The rounds after the first, by induction on the delays that are left. -/
theorem deliverAgain_finishes (request : NotificationRequest) (delays : List ℕ) (attempts : ℕ) :
    Exits (Unfinished log) (deliverAgain O request attempts delays) (Finished O log fun _ => True)
      fun _ _ => False := by
  induction delays generalizing attempts with
  | nil => exact finish_finishes hstops _ rfl _ _
  | cons delay delays ih =>
    refine (clock_returns hstops).bind fun now => Exits.ite (fun _ => ?_) fun _ => ?_
    · exact finish_finishes hstops _ rfl _ _
    · refine (update_returns hstops _ _ _ _ _).bind fun _ => ?_
      refine (publish_returns hstops _ rfl _ _).bind fun _ => ?_
      refine Exits.bind (R := fun _ => Unfinished log) ?_ fun _ =>
        attempt_finishes hstops request _ (ih _)
      exact quiet_returns hstops fun _ => ⟨[], (List.append_nil _).symm, fun _ => List.not_mem_nil⟩

theorem deliver_finishes (request : NotificationRequest) :
    Exits (Unfinished log) (deliver O request) (Finished O log fun _ => True) fun _ _ => False :=
  attempt_finishes hstops request _ (deliverAgain_finishes hstops request _ _)

theorem resume_finishes (request : NotificationRequest) (now : Instant) (existing : MessageRow) :
    Exits (Unfinished log) (resume O request now existing) (Finished O log fun _ => True)
      fun _ _ => False := by
  refine Exits.ite (fun hfinal => ?_) fun _ => Exits.ite (fun _ => ?_) fun _ =>
    Exits.ite (fun _ => ?_) fun _ => ?_
  · exact publish_finishes hstops _ hfinal _ _ fun _ => trivial
  · exact finish_finishes hstops _ rfl _ _
  · exact finish_finishes hstops _ rfl _ _
  · exact deliver_finishes hstops request

theorem receive_finishes (request : NotificationRequest) (now : Instant)
    (ledger : NotificationLedger) :
    Exits (Unfinished log) (receive O request now ledger) (Finished O log fun _ => True)
      fun _ _ => False := by
  refine Exits.ite (fun _ => ?_) fun _ => Exits.ite (fun _ => ?_) fun _ =>
    Exits.ite (fun _ => ?_) fun _ => ?_
  · exact (insert_returns hstops _ _ _).bind fun _ => finish_finishes hstops _ rfl _ _
  · exact (insert_returns hstops _ _ _).bind fun _ => finish_finishes hstops _ rfl _ _
  · exact (insert_returns hstops _ _ _).bind fun _ => finish_finishes hstops _ rfl _ _
  · refine (insert_returns hstops _ _ _).bind fun _ => ?_
    exact (publish_returns hstops _ rfl _ _).bind fun _ => deliver_finishes hstops request

theorem handle_finishes (request : NotificationRequest) :
    Exits (Unfinished log) (handle O request) (Finished O log fun _ => True) fun _ _ => False := by
  refine (clock_returns hstops).bind fun now => (cleanup_returns hstops _).bind fun _ => ?_
  refine Exits.get_bind fun w hw => ?_
  cases w.ledger.get? request.messageId with
  | some existing =>
    refine (resume_finishes hstops request now existing).pre ?_
    rintro _ rfl
    exact hw
  | none =>
    refine (receive_finishes hstops request now w.ledger).pre ?_
    rintro _ rfl
    exact hw

end Total

/-- The code that a payload is refused with. -/
def refusalCode (decode : List UInt8 → Decoded) (allowedAudiences : List String)
    (rawPayload : List UInt8) (now : Instant) : Option String :=
  match decode rawPayload with
  | .document payload =>
    match parseRequest allowedAudiences payload now with
    | .error (.validation code _ _) => some code
    | _ => none
  | .invalid => some "invalid_json"
  | .unreadable => none

/-- What `process` does with a document, after it has read the clock. -/
theorem process_document (hstops : ∀ k, O.stops k = false) (allowedAudiences : List String)
    (payload : Json) (w : NotificationWorld) :
    process O allowedAudiences (some payload) w =
      (match parseRequest allowedAudiences payload (O.clock w.tick) with
      | .ok request => handle O request
      | .error (.validation code _ messageId) =>
        if isId messageId then publish O messageId .failed 0 (some code) else publishInvalid O code
      | .error .raised => throw ()) { w with tick := w.tick + 1 } := by
  show EStateM.bind (clock O) _ w = _
  unfold EStateM.bind clock effect
  rw [hstops, if_neg Bool.false_ne_true] <;> rfl

/-- `process` returns, for every payload on whatever ledger and with whatever the surroundings do,
    exactly when the payload can be read and is no document that `parse_request` raises on. It then
    has published one final result, as the last thing it did, and returns what came of it; and that
    result has the status `failed` and one of the codes when the payload is refused. -/
theorem final_result_iff (hstops : ∀ k, O.stops k = false) (decode : List UInt8 → Decoded)
    (allowedAudiences : List String) (rawPayload : List UInt8) (w : NotificationWorld) :
    (∃ done w', processBytes O decode allowedAudiences rawPayload w = .ok done w' ∧
      ∃ es payload, w'.log = w.log ++ es ++ [.published payload] ∧
        (∀ payload, .published payload ∈ es → payload.status.isFinal = false) ∧
        payload.status.isFinal = true ∧ done = O.publish (w'.tick - 1) ∧
        ∀ code, refusalCode decode allowedAudiences rawPayload (O.clock w.tick) = some code →
          payload.status = .failed ∧ payload.errorCode = some code ∧
            code ∈ "invalid_json" :: validationCodes) ↔
      decode rawPayload ≠ .unreadable ∧ ∀ payload, decode rawPayload = .document payload →
        ¬ Escapes allowedAudiences payload (O.clock w.tick) := by
  -- a program that ends in a final result
  have hfinal : ∀ {R : ResultPayload → Prop} {p : Worker Bool} {w₁ : NotificationWorld},
      w₁.log = w.log → Exits (Unfinished w.log) p (Finished O w.log R) (fun _ _ => False) →
      ∃ done w', p w₁ = .ok done w' ∧ ∃ es payload, w'.log = w.log ++ es ++ [.published payload] ∧
        (∀ payload, .published payload ∈ es → payload.status.isFinal = false) ∧
        payload.status.isFinal = true ∧ done = O.publish (w'.tick - 1) ∧ R payload := by
    intro R p w₁ hlog h
    obtain ⟨done, w', hrun, es, payload, hes, hnone, hstatus, hR, hdone⟩ := h.returns
      ⟨[], by rw [hlog, List.append_nil], fun _ hmem => absurd hmem List.not_mem_nil⟩
    exact ⟨done, w', hrun, es, payload, hes, hnone, hstatus, hdone, hR⟩
  unfold processBytes refusalCode
  cases hdecode : decode rawPayload with
  | unreadable =>
    refine iff_of_false ?_ fun h => h.1 rfl
    rintro ⟨done, w', hrun, -⟩
    cases hrun
  | invalid =>
    refine iff_of_true ?_ ⟨by simp, fun payload h => by cases h⟩
    refine hfinal rfl (publishInvalid_finishes hstops "invalid_json" fun messageId now code hcode => ?_)
    cases hcode
    exact ⟨rfl, rfl, by simp⟩
  | document payload =>
    have hcondition : (Decoded.document payload ≠ .unreadable ∧ ∀ payload',
        Decoded.document payload = .document payload' →
          ¬ Escapes allowedAudiences payload' (O.clock w.tick)) ↔
        parseRequest allowedAudiences payload (O.clock w.tick) ≠ .error .raised := by
      simp [parseRequest_raised_iff]
    rw [hcondition]
    dsimp only
    simp only [process_document O hstops]
    cases hparse : parseRequest allowedAudiences payload (O.clock w.tick) with
    | ok request =>
      refine iff_of_true (hfinal rfl ((handle_finishes hstops request).conseq (fun _ hw => hw) ?_
        fun _ _ he => he)) (by simp)
      rintro done w' ⟨es, payload, hes, hnone, hstatus, -, hdone⟩
      refine ⟨es, payload, hes, hnone, hstatus, ?_, hdone⟩
      intro code hcode
      cases hcode
    | error e =>
      cases e with
      | raised =>
        refine iff_of_false ?_ fun h => h rfl
        rintro ⟨done, w', hrun, -⟩
        cases hrun
      | validation code message messageId =>
        have hlisted := List.mem_cons_of_mem "invalid_json" (parseRequest_code hparse)
        refine iff_of_true ?_ (by simp)
        dsimp only
        split_ifs with hid
        · refine hfinal rfl (publish_finishes hstops messageId rfl 0 _ fun now code' hcode => ?_)
          cases hcode
          exact ⟨rfl, rfl, hlisted⟩
        · refine hfinal rfl (publishInvalid_finishes hstops code fun id now code' hcode => ?_)
          cases hcode
          exact ⟨rfl, rfl, hlisted⟩

/-! ### A level that is a list -/

/-- The request with a list for its level. -/
def listLevelRequest : Json := .obj [("version", .int 1), ("message_id", .str "boiler-1"),
  ("created_at", .str "2026-01-01T00:00:00Z"), ("level", .arr []), ("title", .str "锅炉"),
  ("message", .str "压力过低"), ("source", .str "boiler"), ("dedupe_key", .str "boiler.low"),
  ("ttl", .int 3600), ("audience", .str "owner")]

theorem listLevel_facts :
    (match process (quietSurroundings 0) ["owner"] (some listLevelRequest) start with
    | .ok _ _ => false
    | .error _ w' => w'.log.length = 0) = true := by decide +kernel

/-- It is a JSON object with all fields of a request, and `process` raises without a publication. -/
theorem listLevel_unanswered : ∃ w', processBytes (quietSurroundings 0)
    (fun _ => .document listLevelRequest) ["owner"] [] start = .error () w' ∧ w'.log = [] := by
  have hfacts := listLevel_facts
  show ∃ w', process (quietSurroundings 0) ["owner"] (some listLevelRequest) start =
    .error () w' ∧ w'.log = []
  cases hrun : process (quietSurroundings 0) ["owner"] (some listLevelRequest) start with
  | ok done w' =>
    rw [hrun] at hfacts
    cases hfacts
  | error e w' =>
    rw [hrun] at hfacts
    exact ⟨w', rfl, List.length_eq_zero_iff.mp (of_decide_eq_true hfacts)⟩

/-- The payload of a good request gets a final result. -/
theorem final_result_newYear : ∃ done w', processBytes (quietSurroundings 0)
    (fun _ => .document newYearRequest) ["owner"] [] start = .ok done w' := by
  have hfacts : (match parseRequest ["owner"] newYearRequest ((quietSurroundings 0).clock 0) with
    | .ok _ => true
    | .error _ => false) = true := by decide +kernel
  have hreadable : ¬ Escapes ["owner"] newYearRequest ((quietSurroundings 0).clock 0) := by
    rw [← parseRequest_raised_iff]
    intro hraised
    rw [hraised] at hfacts
    cases hfacts
  obtain ⟨done, w', hrun, -⟩ := (final_result_iff (quietSurroundings 0) (fun _ => rfl)
    (fun _ => .document newYearRequest) ["owner"] [] start).mpr ⟨by simp, by rintro _ ⟨⟩; exact hreadable⟩
  exact ⟨done, w', hrun⟩

end NotificationProcessor

end HomeAddons.Gateway
