import HomeAddons.Common.Digest
import HomeAddons.Common.IsoTime
import HomeAddons.Common.Pattern
import HomeAddons.Common.Result
import HomeAddons.Common.Value

/-!
# What the broker accepts

Models of the validators of `operations_broker/contract.py` (lines 13–538). They are called on what
`json.loads` returned, so every field may hold a value of every type. A `ContractError` is what a
caller handles; every other exception of Python leaves the caller.

* `validateEnvelope`, `validateBackupEvidence`, `validateNativeIntent`,
  `validateExecutionRequest`, `validateRecoveryResolution`.
* `urlsplit`: `urllib.parse.urlsplit` of Python 3.11, which raises on a malformed host.
* `sanitizeParameterSummary` goes through the keys of an object in their order, which is the order
  of the items of the sorted document.
-/

namespace HomeAddons.Broker

open HomeAddons.Common

/-! ## Exceptions -/

/-- What a call of the broker raises. -/
inductive Raise where
  /-- `ContractError(code, message)`. -/
  | contract (code message : String)
  /-- `AuthorizationError(code, message)`. -/
  | authorization (code message : String)
  | typeError
  | valueError
  | overflowError
  | unicodeError
  /-- `sqlite3.IntegrityError`. -/
  | integrityError
  deriving DecidableEq

/-- `isinstance(exc, ContractError)`. -/
def Raise.isContract : Raise → Bool
  | contract _ _ => true
  | _ => false

/-- `except ContractError as exc: raise AuthorizationError(exc.code, str(exc))`. -/
def authorized {α : Type} : Except Raise α → Except Raise α
  | .error (.contract code message) => .error (.authorization code message)
  | x => x

/-! ## What depends on the interpreter -/

/-- The Unicode data and the host check of the interpreter. -/
structure Python where
  /-- `unicodedata.normalize("NFKC", s)`. -/
  nfkc : String → String
  /-- `c.isalnum()`. -/
  isAlnum : Char → Bool
  /-- Whether `urlsplit` accepts the text between the brackets of a host. -/
  bracketedHost : String → Bool

/-! ## Constants (lines 14–141) -/

/-- `ACTION_RISKS`. -/
def actionRisks : List (String × String) :=
  [("check_ha_config", "L1"), ("install_addon", "L3"), ("configure_addon", "L3"),
    ("start_addon", "L3"), ("stop_addon", "L3"), ("restart_addon", "L3"), ("update_addon", "L3"),
    ("repair_addon", "L3"), ("uninstall_addon", "L3"), ("install_hacs", "L3"),
    ("update_hacs", "L3"), ("repair_hacs", "L3"), ("remove_hacs", "L3"),
    ("start_config_flow", "L3"), ("enable_integration", "L3"), ("disable_integration", "L3"),
    ("reload_integration", "L3"), ("remove_integration", "L3"), ("restart_core", "L3"),
    ("create_backup", "L3"), ("purge_recorder", "L3"), ("delete_expired_backup", "L3"),
    ("cleanup_allowlisted_cache", "L3")]

def isLowerHex (c : Char) : Bool := c.isDigit || ('a' ≤ c && c ≤ 'f')

def isUpperHex (c : Char) : Bool := c.isDigit || ('A' ≤ c && c ≤ 'F')

/-- The text after a literal front. -/
def after? (label : String) (cs : List Char) : Option (List Char) := label.toList.isPrefixOf? cs

/-- `part in text`. -/
def isIn (part : String) (cs : List Char) : Bool := cs.tails.any part.toList.isPrefixOf

/-- `^label[cs]{n}$` with `fullmatch`. -/
def labelled (label : String) (p : Char → Bool) (n : ℕ) (s : PyStr) : Bool :=
  (after? label s.shown.toList).any fun rest => rest.length = n && rest.all p

/-- `^[head][tail]{least,most}$` with `fullmatch`. -/
def bounded (head tail : Char → Bool) (least most : ℕ) (s : PyStr) : Bool :=
  match s.shown.toList with
  | [] => false
  | c :: cs => head c && cs.all tail && least ≤ cs.length && cs.length ≤ most

/-- `ACTION_ID_RE`. -/
def actionIdRe (s : PyStr) : Bool :=
  (after? "OPS-" s.shown.toList).any fun rest =>
    (rest.take 8).length = 8 && (rest.take 8).all Char.isDigit &&
      (after? "-" (rest.drop 8)).any fun tail => tail.length = 12 && tail.all isUpperHex

/-- `TARGET_RE`. -/
def targetRe : PyStr → Bool :=
  bounded Char.isAlphanum (fun c => c.isAlphanum || "_.:/-".toList.contains c) 0 127

/-- `PARAMETER_KEY_RE`. -/
def parameterKeyRe : PyStr → Bool :=
  bounded Char.isAlpha (fun c => c.isAlphanum || "_.:-".toList.contains c) 0 63

/-- `IDENTITY_HASH_RE`. -/
def identityHashRe : PyStr → Bool := labelled "" isLowerHex 64

/-- `SHA256_RE`. -/
def sha256Re : PyStr → Bool := labelled "sha256:" isLowerHex 64

/-- `BACKUP_EVIDENCE_ID_RE`. -/
def backupEvidenceIdRe : PyStr → Bool :=
  bounded Char.isAlphanum (fun c => c.isAlphanum || "_.:-".toList.contains c) 7 127

/-- `RECEIPT_ID_RE`. -/
def receiptIdRe : PyStr → Bool := labelled "RCPT-" isUpperHex 32

/-- `^[a-z0-9][a-z0-9_]{0,63}$` (line 356). -/
def addonSlugRe : PyStr → Bool :=
  bounded (fun c => c.isLower || c.isDigit) (fun c => c.isLower || c.isDigit || c = '_') 0 63

def nativeIntentFields : List String := ["version", "action_type", "target", "idempotency_key"]

def nativeAuthorizationRequestFields : List String := ["version", "action_id"]

def executionRequestFields : List String :=
  ["version", "receipt_id", "action_id", "proposal_hash", "idempotency_key"]

def recoveryResolutionFields : List String := ["version", "resolution", "evidence_hash"]

def recoveryResolutions : List String := ["confirmed_healthy", "compensated"]

def backupEvidenceFields : List String :=
  ["version", "scope", "logical_id", "completed", "created_at", "size", "sha256",
    "off_device_sha256", "readable", "baseline", "expires_at"]

def backupEvidenceScopes : List String := ["full", "addon", "dashboard", "recorder"]

def proposalHashFields : List String :=
  ["version", "action_id", "action_type", "target", "parameter_summary", "risk_level",
    "requires_backup", "expected_change", "validation_plan", "rollback_plan", "created_at",
    "expires_at", "state"]

def proposalAllowedFields : List String :=
  proposalHashFields ++ ["parameter_summary_hash", "proposal_hash"]

def approvalRequiredFields : List String :=
  ["version", "action_id", "proposal_hash", "state", "approved_by_hash", "approved_at",
    "expires_at"]

def sensitiveKeyParts : List String :=
  ["accesskey", "apikey", "authorization", "cookie", "credential", "password", "privatekey",
    "refreshtoken", "secret", "token"]

/-! ## `SENSITIVE_VALUE_RE` (lines 95–98) -/

/-- The small letter that a letter matches where the case is ignored; four letters outside of ASCII
    match `i`, `s` and `k`. -/
def foldCase (c : Char) : Char :=
  if c.toNat = 0x130 ∨ c.toNat = 0x131 then 'i'
  else if c.toNat = 0x17F then 's'
  else if c.toNat = 0x212A then 'k'
  else c.toLower

/-- `\w`. -/
def Python.isWord (py : Python) (c : Char) : Bool := c.isAlphanum || c = '_' || py.isAlnum c

/-- One of the alternatives of the pattern from here on; `prev` is the character before. -/
def Python.sensitiveAt (py : Python) (prev : Option Char) (text : List Char) : Bool :=
  let isKeyChar (c : Char) : Bool := c.isLower || c.isDigit
  -- `\b` before a letter.
  let boundary : Bool := !prev.any py.isWord
  let privateKey : Bool := (after? "-----begin " text).any fun rest =>
    (List.range (rest.takeWhile fun c => c.isLower || c = ' ').length.succ).any fun n =>
      ("private key-----".toList.isPrefixOf (rest.drop n))
  let bearer : Bool := (after? "bearer" text).any fun rest =>
    rest.head?.any isPySpace && !(rest.dropWhile isPySpace).isEmpty
  let secretKey : Bool := (after? "sk-" text).any fun rest =>
    16 ≤ (rest.takeWhile fun c => isKeyChar c || c = '_' || c = '-').length
  let accessKey : Bool := (after? "akia" text).any fun rest =>
    16 ≤ (rest.takeWhile isKeyChar).length && !(rest.drop 16).head?.any py.isWord
  privateKey || (boundary && (bearer || secretKey || accessKey))

/-- `SENSITIVE_VALUE_RE.search(text) is not None`. -/
def Python.sensitive (py : Python) (text : String) : Bool :=
  let cs := text.toList.map foldCase
  (List.range cs.length).any fun n =>
    py.sensitiveAt (if n = 0 then none else cs[n - 1]?) (cs.drop n)

/-! ## `urllib.parse.urlsplit` -/

/-- The parts of a URL that the broker looks at. -/
structure SplitResult where
  scheme : String
  netloc : List Char
  query : List Char
  fragment : List Char

/-- `text.partition(c)`: the text before the first `c` and, if there is one, the text after it. -/
def partition (c : Char) (cs : List Char) : List Char × Option (List Char) :=
  match cs.dropWhile (· ≠ c) with
  | [] => (cs, none)
  | _ :: rest => (cs.takeWhile (· ≠ c), some rest)

/-- `text.rpartition("@")[2]`, and what is before the last `@` if there is one. -/
def splitUserinfo (netloc : List Char) : Option (List Char) × List Char :=
  match partition '@' netloc.reverse with
  | (_, none) => (none, netloc)
  | (host, some user) => (some user.reverse, host.reverse)

/-- `_checknetloc` raises. -/
def Python.netlocRefused (py : Python) (netloc : List Char) : Bool :=
  let n := String.ofList (netloc.filter fun c => !"@:#?".toList.contains c)
  let normal := py.nfkc n
  netloc.any (fun c => 128 ≤ c.toNat) && n != normal && normal.toList.any "/?#@:".toList.contains

/-- The brackets of a host raise. -/
def Python.bracketsRefused (py : Python) (netloc : List Char) : Bool :=
  let opened := netloc.contains '['
  let closed := netloc.contains ']'
  if opened && closed then
    let inside := (partition '[' netloc).2.getD []
    !py.bracketedHost (String.ofList (partition ']' inside).1)
  else opened || closed

/-- `urlsplit(text)`; `none` is `ValueError`. -/
def Python.urlsplit (py : Python) (text : String) : Option SplitResult :=
  let url := text.toList.filter fun c => !"\t\r\n".toList.contains c
  let isSchemeChar (c : Char) : Bool := c.isAlphanum || "+-.".toList.contains c
  let (scheme, url) :=
    match partition ':' url with
    | (front, some rest) =>
      if front.head?.any Char.isAlpha && front.all isSchemeChar then
        (String.ofList (front.map Char.toLower), rest)
      else ("", url)
    | _ => ("", url)
  let (netloc, url) :=
    match after? "//" url with
    | some rest =>
      let isDelimiter (c : Char) : Bool := "/?#".toList.contains c
      (rest.takeWhile fun c => !isDelimiter c, rest.dropWhile fun c => !isDelimiter c)
    | none => ([], url)
  let (front, fragment) := partition '#' url
  let (_, query) := partition '?' front
  if py.bracketsRefused netloc || py.netlocRefused netloc then none
  else some ⟨scheme, netloc, query.getD [], fragment.getD []⟩

/-- `parsed.hostname` is empty or `None`. -/
def SplitResult.noHost (u : SplitResult) : Bool :=
  let hostinfo := (splitUserinfo u.netloc).2
  match (partition '[' hostinfo).2 with
  | some bracketed => (partition ']' bracketed).1.isEmpty
  | none => (partition ':' hostinfo).1.isEmpty

/-- `parsed.username or parsed.password`. -/
def SplitResult.hasUser (u : SplitResult) : Bool :=
  match (splitUserinfo u.netloc).1 with
  | some userinfo =>
    let (username, password) := partition ':' userinfo
    !username.isEmpty || !(password.getD []).isEmpty
  | none => false

/-! ## Timestamps, texts and hashes (lines 176–278) -/

/-- `parse_timestamp(value, field=field)` (lines 199–208). -/
def parseTimestamp (value : Value) (field : String) : Except Raise Instant := do
  let text ← orRaise value.asStr?
    (.contract "invalid_timestamp" (field ++ " must be a timestamp string"))
  ensure (text.length ≤ 64) (.contract "invalid_timestamp" (field ++ " must be a timestamp string"))
  let parsed ← orRaise (fromIsoformat text.shown)
    (.contract "invalid_timestamp" (field ++ " is invalid"))
  ensure parsed.2.isSome (.contract "invalid_timestamp" (field ++ " must include a timezone"))
  -- `astimezone(timezone.utc)`.
  orRaise (parseTime text.shown).toOption .overflowError

/-- `_safe_text(value, field=field, maximum=maximum)` (lines 269–285). -/
def Python.safeText (py : Python) (value : Value) (field : String) (maximum : ℕ) :
    Except Raise PyStr := do
  let raw ← orRaise value.asStr? (.contract "invalid_field" (field ++ " must be a string"))
  let text := raw.strip
  ensure (text ≠ [] ∧ text.length ≤ maximum)
    (.contract "invalid_field" (field ++ " must be 1-" ++ toString maximum ++ " characters"))
  ensure (!text.any fun c => c.ord < 32 ∧ c.shown ≠ '\t')
    (.contract "invalid_field" (field ++ " contains control characters"))
  ensure (!py.sensitive text.shown)
    (.contract "sensitive_value" (field ++ " contains a secret-like value"))
  if isIn "://" text.shown.toList then
    let parsed ← orRaise (py.urlsplit text.shown) .valueError
    ensure ((parsed.scheme = "http" ∨ parsed.scheme = "https") ∧ !parsed.noHost)
      (.contract "invalid_url" (field ++ " contains an unsupported URL"))
    ensure (!parsed.hasUser ∧ parsed.query.isEmpty ∧ parsed.fragment.isEmpty)
      (.contract "sensitive_url" (field ++ " contains a credentialed or variable URL"))
  return text

/-- `_safe_text_list(value, field=field)` (lines 288–291). -/
def Python.safeTextList (py : Python) (value : Value) (field : String) :
    Except Raise (List PyStr) := do
  let items ← orRaise value.asList? (.contract "invalid_field" (field ++ " must contain 1-10 items"))
  ensure (1 ≤ items.length ∧ items.length ≤ 10)
    (.contract "invalid_field" (field ++ " must contain 1-10 items"))
  items.mapM fun item => py.safeText item field 300

/-! ## The parameter summary (lines 294–333) -/

/-- A key of an object in the summary (lines 321–325). -/
def parameterKey (key : PyStr) (field : String) : Except Raise Unit := do
  ensure (parameterKeyRe key)
    (.contract "invalid_parameter_key" ("Invalid parameter key in " ++ field))
  let normalized := (key.shown.toList.map Char.toLower).filter fun c => c.isLower || c.isDigit
  ensure (!sensitiveKeyParts.any fun part => isIn part normalized)
    (.contract "sensitive_parameter" ("Sensitive parameter key rejected: " ++ key.shown))

mutual

/-- `_sanitize_parameter_value(value, field=field, depth=depth, count=[count])` of a document in the
    order of its keys; the count is passed on. -/
def Python.sanitizeValue (py : Python) (field : String) (depth count : ℕ) :
    Value → Except Raise (Value × ℕ)
  | .null => do
    ensure (count + 1 ≤ 64 ∧ depth ≤ 4)
      (.contract "parameters_too_large" "parameter_summary is too large")
    return (.null, count + 1)
  | .bool b => do
    ensure (count + 1 ≤ 64 ∧ depth ≤ 4)
      (.contract "parameters_too_large" "parameter_summary is too large")
    return (.bool b, count + 1)
  | .int n => do
    ensure (count + 1 ≤ 64 ∧ depth ≤ 4)
      (.contract "parameters_too_large" "parameter_summary is too large")
    return (.int n, count + 1)
  | .float value text => do
    ensure (count + 1 ≤ 64 ∧ depth ≤ 4)
      (.contract "parameters_too_large" "parameter_summary is too large")
    ensure value.isSome (.contract "invalid_number" (field ++ " must be finite"))
    return (.float value text, count + 1)
  | .str s => do
    ensure (count + 1 ≤ 64 ∧ depth ≤ 4)
      (.contract "parameters_too_large" "parameter_summary is too large")
    let text ← py.safeText (.str s) field 256
    return (.str text, count + 1)
  | .arr items => do
    ensure (count + 1 ≤ 64 ∧ depth ≤ 4)
      (.contract "parameters_too_large" "parameter_summary is too large")
    ensure (items.length ≤ 16)
      (.contract "parameters_too_large" (field ++ " has too many items"))
    let (items', count') ← py.sanitizeItems (field ++ "[]") (depth + 1) (count + 1) items
    return (.arr items', count')
  | .obj items => do
    ensure (count + 1 ≤ 64 ∧ depth ≤ 4)
      (.contract "parameters_too_large" "parameter_summary is too large")
    ensure (items.length ≤ 32)
      (.contract "parameters_too_large" (field ++ " has too many keys"))
    let (items', count') ← py.sanitizePairs field (depth + 1) (count + 1) items
    return (.obj items', count')

/-- The comprehension over a list (lines 312–315). -/
def Python.sanitizeItems (py : Python) (field : String) (depth count : ℕ) :
    List Value → Except Raise (List Value × ℕ)
  | [] => return ([], count)
  | v :: vs => do
    let (v', count') ← py.sanitizeValue field depth count v
    let (vs', count'') ← py.sanitizeItems field depth count' vs
    return (v' :: vs', count'')

/-- The loop over the keys (lines 320–328). -/
def Python.sanitizePairs (py : Python) (field : String) (depth count : ℕ) :
    List (PyStr × Value) → Except Raise (List (PyStr × Value) × ℕ)
  | [] => return ([], count)
  | (key, v) :: kvs => do
    parameterKey key field
    let (v', count') ← py.sanitizeValue (field ++ "." ++ key.shown) depth count v
    let (kvs', count'') ← py.sanitizePairs field depth count' kvs
    return ((key, v') :: kvs', count'')

end

/-- `sanitize_parameter_summary(value)` (lines 330–333). -/
def Python.sanitizeParameterSummary (py : Python) (value : Value) : Except Raise Value := do
  ensure value.asDict?.isSome
    (.contract "invalid_parameters" "parameter_summary must be an object")
  let (summary, _) ← py.sanitizeValue "parameter_summary" 0 0 value.sorted
  return summary

/-! ## Hashes -/

/-- `"sha256:" + sha256_text(canonical_json(value))`. -/
def hashOf (value : Value) : Except Raise String := do
  let document ← orRaise value.toJson? .unicodeError
  return "sha256:" ++ sha256Hex (canonical document)

/-- `_proposal_hash(proposal)` (lines 336–340). -/
def proposalHash (proposal : ValueDict) : Except Raise (String × String) := do
  let hashDocument : ValueDict :=
    proposalHashFields.map fun field => (PyStr.ofString field, proposal.get field)
  let parameterHash ← hashOf (hashDocument.get "parameter_summary")
  let hash ← hashOf (.obj hashDocument)
  return (parameterHash, hash)

/-! ## Backup evidence (lines 218–266) -/

/-- A validated backup record. -/
structure BackupEvidence where
  scope : String
  logicalId : String
  createdAt : String
  size : ℤ
  sha256 : String
  offDeviceSha256 : String
  baseline : String
  expiresAt : String
  deriving DecidableEq

/-- `value.replace(microsecond=0)`. -/
def wholeSecond (t : Instant) : Instant := t - t % 1000000

/-- `value.replace(microsecond=0).isoformat()` of an instant in UTC. -/
def isoTimestamp (t : Instant) : String := isoformat (wholeSecond t)

/-- The test of a hash in a backup record (lines 243–245). -/
def evidenceHash (value : ValueDict) (field : String) : Except Raise String := do
  let text ← orRaise (value.get field).asStr?
    (.contract "backup_evidence_hash_invalid" ("Backup evidence " ++ field ++ " is invalid"))
  ensure (sha256Re text)
    (.contract "backup_evidence_hash_invalid" ("Backup evidence " ++ field ++ " is invalid"))
  return text.shown

/-- `validate_backup_evidence(value, now=now)`. -/
def Python.validateBackupEvidence (py : Python) (value : Value) (now : Instant) :
    Except Raise BackupEvidence := do
  let d ← orRaise value.asDict?
    (.contract "backup_evidence_fields_invalid" "Backup evidence fields are invalid")
  ensure (d.keysAre backupEvidenceFields)
    (.contract "backup_evidence_fields_invalid" "Backup evidence fields are invalid")
  ensure ((d.get "version").eqInt 1)
    (.contract "backup_evidence_version_invalid" "Backup evidence version is invalid")
  ensure (d.get "scope").hashable .typeError
  let scope ← orRaise ((d.get "scope").among? backupEvidenceScopes)
    (.contract "backup_evidence_scope_invalid" "Backup evidence scope is invalid")
  let logicalId ← orRaise (d.get "logical_id").asStr?
    (.contract "backup_evidence_id_invalid" "Backup evidence logical ID is invalid")
  ensure (backupEvidenceIdRe logicalId ∧ !py.sensitive logicalId.shown)
    (.contract "backup_evidence_id_invalid" "Backup evidence logical ID is invalid")
  ensure (d.get "completed").isTrue
    (.contract "backup_evidence_incomplete" "Backup evidence is not completed")
  ensure (d.get "readable").isTrue
    (.contract "backup_evidence_unreadable" "Backup evidence is not readable")
  let size ← orRaise (d.get "size").asInt?
    (.contract "backup_evidence_size_invalid" "Backup evidence size is invalid")
  ensure (1 ≤ size ∧ size ≤ 9223372036854775807)
    (.contract "backup_evidence_size_invalid" "Backup evidence size is invalid")
  let sha256 ← evidenceHash d "sha256"
  let offDeviceSha256 ← evidenceHash d "off_device_sha256"
  let baseline ← evidenceHash d "baseline"
  let createdAt ← parseTimestamp (d.get "created_at") "backup_evidence.created_at"
  let expiresAt ← parseTimestamp (d.get "expires_at") "backup_evidence.expires_at"
  ensure (createdAt ≤ now) (.contract "backup_evidence_created_in_future"
    "Backup evidence creation time is in the future")
  ensure (now < expiresAt ∧ createdAt < expiresAt)
    (.contract "backup_evidence_expired" "Backup evidence is expired")
  return {
    scope := scope
    logicalId := logicalId.shown
    createdAt := isoTimestamp createdAt
    size := size
    sha256 := sha256
    offDeviceSha256 := offDeviceSha256
    baseline := baseline
    expiresAt := isoTimestamp expiresAt }

/-! ## Requests (lines 343–435) -/

/-- A field that has to be a text of a pattern. -/
def patternField (value : Value) (p : PyStr → Bool) (e : Raise) : Except Raise String := do
  let text ← orRaise value.asStr? e
  ensure (p text) e
  return text.shown

/-- A validated intent; its action type is `restart_addon`. -/
structure NativeIntent where
  target : String
  idempotencyKey : String
  deriving DecidableEq

/-- `validate_native_intent(intent, restart_addon_allowlist=allowlist)`. -/
def validateNativeIntent (intent : Value) (allowlist : List String) :
    Except Raise NativeIntent := do
  let d ← orRaise intent.asDict? (.contract "invalid_intent" "Operation intent fields are invalid")
  ensure (d.keysAre nativeIntentFields)
    (.contract "invalid_intent" "Operation intent fields are invalid")
  ensure ((d.get "version").eqInt 1)
    (.contract "unsupported_version" "Operation intent version is unsupported")
  ensure ((d.get "action_type").eqStr "restart_addon")
    (.contract "unsupported_action" "Only restart_addon is implemented")
  let target ← patternField (d.get "target") addonSlugRe
    (.contract "invalid_addon_slug" "Add-on target must be an exact slug")
  ensure (target ∈ allowlist)
    (.contract "target_not_allowlisted" "Add-on target is not allowlisted")
  let idempotencyKey ← patternField (d.get "idempotency_key") sha256Re
    (.contract "invalid_idempotency_key" "idempotency_key must be a SHA-256 identifier")
  return ⟨target, idempotencyKey⟩

/-- `validate_native_authorization_request(value)`. -/
def validateNativeAuthorizationRequest (value : Value) : Except Raise String := do
  let d ← orRaise value.asDict?
    (.contract "invalid_authorization_request" "Authorization request fields are invalid")
  ensure (d.keysAre nativeAuthorizationRequestFields)
    (.contract "invalid_authorization_request" "Authorization request fields are invalid")
  ensure ((d.get "version").eqInt 1)
    (.contract "unsupported_version" "Authorization request version is unsupported")
  patternField (d.get "action_id") actionIdRe (.contract "invalid_action_id" "Action ID is invalid")

/-- A validated execution request. -/
structure ExecutionRequest where
  actionId : String
  receiptId : String
  proposalHash : String
  idempotencyKey : String
  deriving DecidableEq

/-- `validate_execution_request(value)`. -/
def validateExecutionRequest (value : Value) : Except Raise ExecutionRequest := do
  let d ← orRaise value.asDict?
    (.contract "invalid_execution_request" "Execution request fields are invalid")
  ensure (d.keysAre executionRequestFields)
    (.contract "invalid_execution_request" "Execution request fields are invalid")
  ensure ((d.get "version").eqInt 1)
    (.contract "unsupported_version" "Execution request version is unsupported")
  let actionId ← patternField (d.get "action_id") actionIdRe
    (.contract "invalid_action_id" "Action ID is invalid")
  let receiptId ← patternField (d.get "receipt_id") receiptIdRe
    (.contract "invalid_receipt_id" "Receipt ID is invalid")
  let proposalHash ← patternField (d.get "proposal_hash") sha256Re
    (.contract "invalid_hash" "Proposal hash is invalid")
  let idempotencyKey ← patternField (d.get "idempotency_key") sha256Re
    (.contract "invalid_idempotency_key" "idempotency_key must be a SHA-256 identifier")
  return ⟨actionId, receiptId, proposalHash, idempotencyKey⟩

/-- A validated conclusion about a recovery. -/
structure RecoveryConclusion where
  resolution : String
  evidenceHash : String
  deriving DecidableEq

/-- `validate_recovery_resolution(value)`. -/
def validateRecoveryResolution (value : Value) : Except Raise RecoveryConclusion := do
  let d ← orRaise value.asDict?
    (.contract "invalid_recovery_resolution" "Recovery resolution fields are invalid")
  ensure (d.keysAre recoveryResolutionFields)
    (.contract "invalid_recovery_resolution" "Recovery resolution fields are invalid")
  ensure ((d.get "version").eqInt 1)
    (.contract "unsupported_version" "Recovery resolution version is unsupported")
  -- `isinstance` comes before the membership.
  let resolution ← orRaise ((d.get "resolution").among? recoveryResolutions)
    (.contract "invalid_recovery_resolution" "Recovery resolution is unsupported")
  let evidenceHash ← patternField (d.get "evidence_hash") sha256Re
    (.contract "invalid_evidence_hash" "evidence_hash must be a SHA-256 identifier")
  return ⟨resolution, evidenceHash⟩

/-! ## Envelopes (lines 438–538) -/

/-- A validated envelope. -/
structure ValidatedEnvelope where
  actionId : String
  actionType : String
  target : String
  proposalHash : String
  riskLevel : String
  requiresBackup : Bool
  parameterSummary : Value
  expectedChange : PyStr
  validationPlan : List PyStr
  rollbackPlan : List PyStr
  approvedByHash : String
  approvedAt : Value
  expiresAt : Value

/-- What comes before the texts of the proposal (lines 444–480). -/
def envelopeHead (envelope : Value) :
    Except Raise (ValueDict × ValueDict × String × String × String × Bool × String) := do
  let d ← orRaise envelope.asDict? (.contract "invalid_envelope" "Envelope fields are invalid")
  ensure (d.keysAre ["version", "proposal", "approval"])
    (.contract "invalid_envelope" "Envelope fields are invalid")
  ensure ((d.get "version").eqInt 1)
    (.contract "unsupported_version" "Envelope version is unsupported")
  let proposal ← orRaise (d.get "proposal").asDict?
    (.contract "invalid_proposal" "Proposal fields are invalid")
  ensure (proposal.keysAre proposalAllowedFields)
    (.contract "invalid_proposal" "Proposal fields are invalid")
  let approval ← orRaise (d.get "approval").asDict?
    (.contract "invalid_approval" "Approval receipt fields are invalid")
  ensure (approval.keysAre approvalRequiredFields)
    (.contract "invalid_approval" "Approval receipt fields are invalid")
  ensure ((proposal.get "version").eqInt 1 ∧ (approval.get "version").eqInt 1)
    (.contract "unsupported_version" "Proposal or approval version is unsupported")
  let actionId ← patternField (proposal.get "action_id") actionIdRe
    (.contract "invalid_action_id" "Action ID is invalid")
  ensure ((approval.get "action_id").eqStr actionId)
    (.contract "approval_mismatch" "Approval action ID does not match")
  ensure (proposal.get "action_type").hashable .typeError
  let actionType ← orRaise ((proposal.get "action_type").among? (actionRisks.map Prod.fst))
    (.contract "unsupported_action" "Action type is not allowlisted")
  let risk := (actionRisks.lookup actionType).getD ""
  ensure ((proposal.get "risk_level").eqStr risk)
    (.contract "risk_mismatch" "Proposal risk level does not match policy")
  let requiresBackup ← orRaise (proposal.get "requires_backup").asBool?
    (.contract "invalid_field" "requires_backup must be boolean")
  ensure (risk = "L3" → requiresBackup = true)
    (.contract "backup_required" "L3 proposals must require a backup")
  let target ← patternField (proposal.get "target") targetRe
    (.contract "invalid_target" "Target is not a bounded logical identifier")
  ensure (!isIn ".." target.toList ∧ target.toList.head? ≠ some '/' ∧
      target.toList.head? ≠ some '\\')
    (.contract "invalid_target" "Target paths are not accepted")
  return (proposal, approval, actionId, actionType, risk, requiresBackup, target)

/-- The texts of a proposal as they are put back into it. -/
structure ProposalTexts where
  parameterSummary : Value
  expectedChange : PyStr
  validationPlan : List PyStr
  rollbackPlan : List PyStr

/-- The texts of the proposal (lines 482–493). -/
def Python.envelopeTexts (py : Python) (proposal : ValueDict) : Except Raise ProposalTexts := do
  let parameterSummary ← py.sanitizeParameterSummary (proposal.get "parameter_summary")
  let expectedChange ← py.safeText (proposal.get "expected_change") "expected_change" 300
  let validationPlan ← py.safeTextList (proposal.get "validation_plan") "validation_plan"
  let rollbackPlan ← py.safeTextList (proposal.get "rollback_plan") "rollback_plan"
  return ⟨parameterSummary, expectedChange, validationPlan, rollbackPlan⟩

/-- `proposal[key] = value` for a key that is there. -/
def setItem (d : ValueDict) (key : String) (value : Value) : ValueDict :=
  d.map fun kv => if kv.1 = PyStr.ofString key then (kv.1, value) else kv

/-- The proposal with its texts put back. -/
def ProposalTexts.putInto (texts : ProposalTexts) (proposal : ValueDict) : ValueDict :=
  let d := setItem proposal "parameter_summary" texts.parameterSummary
  let d := setItem d "expected_change" (.str texts.expectedChange)
  let d := setItem d "validation_plan" (.arr (texts.validationPlan.map .str))
  setItem d "rollback_plan" (.arr (texts.rollbackPlan.map .str))

/-- The times of the proposal and of the approval (lines 497–508). -/
def envelopeTimes (proposal approval : ValueDict) (now : Instant) : Except Raise Unit := do
  let createdAt ← parseTimestamp (proposal.get "created_at") "proposal.created_at"
  let expiresAt ← parseTimestamp (proposal.get "expires_at") "proposal.expires_at"
  let approvedAt ← parseTimestamp (approval.get "approved_at") "approval.approved_at"
  let approvalExpiresAt ← parseTimestamp (approval.get "expires_at") "approval.expires_at"
  ensure (createdAt < expiresAt ∧ approvalExpiresAt = expiresAt)
    (.contract "expiry_mismatch" "Proposal and approval expiry are inconsistent")
  ensure (createdAt ≤ approvedAt ∧ approvedAt < expiresAt)
    (.contract "approval_time_invalid" "Approval time is outside proposal lifetime")
  ensure (now < expiresAt) (.contract "approval_expired" "Approval receipt has expired")

/-- `validate_envelope(envelope, trusted_owner_hashes=trusted, clock=clock)` where the clock
    returns `now`. -/
def Python.validateEnvelope (py : Python) (envelope : Value) (trusted : List String)
    (now : Instant) : Except Raise ValidatedEnvelope := do
  let (proposal, approval, actionId, actionType, risk, requiresBackup, target) ←
    envelopeHead envelope
  let texts ← py.envelopeTexts proposal
  let proposal := texts.putInto proposal
  ensure ((proposal.get "state").eqStr "awaiting_approval")
    (.contract "invalid_proposal_state" "Immutable proposal state is invalid")
  envelopeTimes proposal approval now
  let (parameterHash, hash) ← proposalHash proposal
  ensure ((proposal.get "parameter_summary_hash").eqStr parameterHash)
    (.contract "parameter_hash_mismatch" "Parameter summary hash is invalid")
  ensure ((proposal.get "proposal_hash").eqStr hash)
    (.contract "proposal_hash_mismatch" "Proposal hash is invalid")
  ensure ((approval.get "proposal_hash").eqStr hash)
    (.contract "approval_mismatch" "Approval proposal hash does not match")
  ensure ((approval.get "state").eqStr "approved")
    (.contract "not_approved" "Approval receipt is not approved")
  let ownerHash ← patternField (approval.get "approved_by_hash") identityHashRe
    (.contract "invalid_owner" "Approval owner hash is invalid")
  ensure (ownerHash ∈ trusted)
    (.contract "owner_not_trusted" "Approval owner is not trusted by the broker")
  let _ ← patternField (approval.get "proposal_hash") sha256Re
    (.contract "invalid_hash" "Approval proposal hash format is invalid")
  return {
    actionId := actionId
    actionType := actionType
    target := target
    proposalHash := hash
    riskLevel := risk
    requiresBackup := requiresBackup
    parameterSummary := texts.parameterSummary
    expectedChange := texts.expectedChange
    validationPlan := texts.validationPlan
    rollbackPlan := texts.rollbackPlan
    approvedByHash := ownerHash
    approvedAt := approval.get "approved_at"
    expiresAt := proposal.get "expires_at" }

end HomeAddons.Broker
