import HomeAddons.Broker.Evidence
import HomeAddons.Common.Raises

/-!
# What the validators raise

The validators of the broker are meant to refuse every document with a `ContractError`. Three of them
do. The other two raise another exception on the documents that get past their first checks and then
hold a list as a member to look up, a text that `urlsplit` refuses, a time outside of the years in UTC
or a lone surrogate.

* `Crashes`: the call raises anything but a `ContractError`.
* `utcOf?`: the instant that a text names, in whatever year.
* `visits`: what `sanitizeParameterSummary` comes across, in its order.
* `validators_fail_closed_iff`: the documents on which the validators fail closed.
-/

namespace HomeAddons.Broker

open HomeAddons.Common

/-! ## Exceptions -/

section

variable {α : Type}

/-- The call raises an exception that is no `ContractError`. -/
abbrev Crashes (x : Except Raise α) : Prop := Raises (fun e => e.isContract = false) x

end

@[simp] theorem isContract_contract (code message : String) :
    (Raise.contract code message).isContract = true := rfl

@[simp] theorem isContract_typeError : Raise.typeError.isContract = false := rfl

@[simp] theorem isContract_valueError : Raise.valueError.isContract = false := rfl

@[simp] theorem isContract_overflowError : Raise.overflowError.isContract = false := rfl

@[simp] theorem isContract_unicodeError : Raise.unicodeError.isContract = false := rfl

variable {p : PyStr → Bool} {t : PyStr} {v envelope : Value} {field : String}
  {d proposal approval : ValueDict} {py : Python} {now : Instant} {maximum : ℕ} {u : Unit}
  {texts : ProposalTexts}

theorem patternField_crashes {value : Value} {code message : String} :
    ¬ Crashes (patternField value p (.contract code message)) := by
  simp [patternField]

theorem patternField_ok {value : Value} {e : Raise} {t : String} :
    patternField value p e = .ok t ↔ ∃ s, value.asStr? = some s ∧ p s = true ∧ s.shown = t := by
  simp [patternField]

/-! ## The validators without a gap -/

theorem validateNativeIntent_crashes (intent : Value) (allowlist : List String) :
    ¬ Crashes (validateNativeIntent intent allowlist) := by
  simp [validateNativeIntent, patternField_crashes]

theorem validateExecutionRequest_crashes (value : Value) :
    ¬ Crashes (validateExecutionRequest value) := by
  simp [validateExecutionRequest, patternField_crashes]

theorem validateRecoveryResolution_crashes (value : Value) :
    ¬ Crashes (validateRecoveryResolution value) := by
  simp [validateRecoveryResolution, patternField_crashes]

/-! ## Times -/

/-- The instant that a text with an offset names, which may be before year 1 or after year 9999. -/
def utcOf? (v : Value) : Option ℤ := do
  let text ← v.asStr?
  if text.length ≤ 64 then
    let (micros, offset) ← fromIsoformat text.shown
    return micros - (← offset)
  else none

/-- The value names an instant that a `datetime` in UTC can hold. -/
def Timely (v : Value) : Prop := ∃ t, utcOf? v = some t ∧ inYears t = true

/-- The value names an instant that no `datetime` in UTC can hold. -/
def Untimely (v : Value) : Prop := ∃ t, utcOf? v = some t ∧ inYears t = false

theorem parseTime_toOption {text : String} {micros offset : ℤ}
    (h : fromIsoformat text = some (micros, some offset)) :
    (parseTime text).toOption = if inYears (micros - offset) then some (micros - offset) else none := by
  unfold parseTime
  rw [h]
  simp only [inYears, decide_eq_true_eq]
  split <;> rfl

/-- A text that names an instant is parsed iff the instant is in the years. -/
theorem parseTimestamp_of_utcOf? {t : ℤ} (h : utcOf? v = some t) (field : String) :
    parseTimestamp v field = if inYears t then .ok t else .error .overflowError := by
  unfold utcOf? at h
  cases hv : v.asStr? with
  | none => simp [hv] at h
  | some text =>
    simp only [hv, Option.bind_eq_bind, Option.bind_some] at h
    split at h
    · next hlength =>
      cases hparsed : fromIsoformat text.shown with
      | none => simp [hparsed] at h
      | some parsed =>
        obtain ⟨micros, offset⟩ := parsed
        cases offset with
        | none => simp [hparsed] at h
        | some offset =>
          obtain rfl : micros - offset = t := by simpa [hparsed] using h
          unfold parseTimestamp
          rw [hv, orRaise_some, ok_bind, ensure_bind_of hlength, hparsed, orRaise_some, ok_bind,
            ensure_bind_of (show (micros, some offset).2.isSome = true from rfl),
            parseTime_toOption hparsed]
          split <;> rfl
    · cases h

/-- Any other value is refused. -/
theorem parseTimestamp_of_none (h : utcOf? v = none) (field : String) :
    ∃ code message, parseTimestamp v field = .error (.contract code message) := by
  unfold utcOf? at h
  unfold parseTimestamp
  cases hv : v.asStr? with
  | none => exact ⟨_, _, rfl⟩
  | some text =>
    simp only [hv, Option.bind_eq_bind, Option.bind_some] at h
    rw [orRaise_some, ok_bind]
    split at h
    · next hlength =>
      rw [ensure_bind_of hlength]
      cases hparsed : fromIsoformat text.shown with
      | none => exact ⟨_, _, rfl⟩
      | some parsed =>
        obtain ⟨micros, offset⟩ := parsed
        cases offset with
        | none => exact ⟨_, _, rfl⟩
        | some offset => simp [hparsed] at h
    · next hlength =>
      rw [ensure, if_neg hlength]
      exact ⟨_, _, rfl⟩

theorem parseTimestamp_crashes : Crashes (parseTimestamp v field) ↔ Untimely v := by
  cases h : utcOf? v with
  | none =>
    obtain ⟨code, message, herror⟩ := parseTimestamp_of_none h field
    simp [Untimely, herror, h]
  | some t =>
    rw [parseTimestamp_of_utcOf? h]
    cases hyears : inYears t <;> simp [Untimely, h, hyears]

theorem parseTimestamp_ok {t : Instant} :
    parseTimestamp v field = .ok t ↔ utcOf? v = some t ∧ inYears t = true := by
  cases h : utcOf? v with
  | none =>
    obtain ⟨code, message, herror⟩ := parseTimestamp_of_none h field
    simp [herror]
  | some t' =>
    rw [parseTimestamp_of_utcOf? h]
    cases hyears : inYears t' with
    | false =>
      refine iff_of_false (fun hfalse => by cases hfalse) ?_
      rintro ⟨heq, ht⟩
      rw [Option.some.inj heq, ht] at hyears
      cases hyears
    | true =>
      constructor
      · rintro ⟨⟩
        exact ⟨rfl, hyears⟩
      · rintro ⟨⟨⟩, -⟩
        rfl

theorem parseTimestamp_returns : (∃ t, parseTimestamp v field = .ok t) ↔ Timely v :=
  exists_congr fun _ => parseTimestamp_ok

/-! ## Backup evidence -/

/-- A hash in a backup record. -/
def HashField (d : ValueDict) (field : String) : Prop :=
  ∃ s, (d.get field).asStr? = some s ∧ sha256Re s = true

theorem evidenceHash_crashes : ¬ Crashes (evidenceHash d field) := by
  simp [evidenceHash]

theorem evidenceHash_ok : (∃ t, evidenceHash d field = .ok t) ↔ HashField d field := by
  simp [evidenceHash, HashField]

/-- What is checked of a backup record between its scope and its times. -/
structure EvidenceChecked (py : Python) (d : ValueDict) : Prop where
  scope : ∃ scope, (d.get "scope").among? backupEvidenceScopes = some scope
  logicalId : ∃ s, (d.get "logical_id").asStr? = some s ∧ backupEvidenceIdRe s = true ∧
    py.sensitive s.shown = false
  completed : (d.get "completed").isTrue = true
  readable : (d.get "readable").isTrue = true
  size : ∃ n, (d.get "size").asInt? = some n ∧ 1 ≤ n ∧ n ≤ 9223372036854775807
  sha256 : HashField d "sha256"
  offDeviceSha256 : HashField d "off_device_sha256"
  baseline : HashField d "baseline"

/-- A record of the right fields and version either has an array or an object as its scope, or it
    passes every check before its times and the first of them that is not in the years in UTC is a
    time outside of them. -/
def EvidenceGap (py : Python) (value : Value) : Prop :=
  ∃ d, value.asDict? = some d ∧ d.keysAre backupEvidenceFields = true ∧
    (d.get "version").eqInt 1 = true ∧
    ((d.get "scope").hashable = false ∨
      EvidenceChecked py d ∧ StopsAt Timely Untimely [d.get "created_at", d.get "expires_at"])

theorem hashable_of_among? {names : List String} {s : String} (h : v.among? names = some s) :
    v.hashable = true := by
  have heq := List.find?_some h
  cases v <;> first | rfl | cases heq

theorem validateBackupEvidence_crashes {value : Value} :
    Crashes (py.validateBackupEvidence value now) ↔ EvidenceGap py value := by
  simp only [Python.validateBackupEvidence, EvidenceGap, raises_bind, raises_orRaise, raises_ensure,
    isContract_contract, isContract_typeError, evidenceHash_crashes, parseTimestamp_crashes,
    stopsAt_cons, stopsAt_nil, orRaise_eq_ok, ensure_eq_ok, exists_const, raises_pure, and_false,
    or_false, false_or, and_true, Bool.true_eq_false, Bool.not_eq_true]
  refine exists_congr fun d => and_congr_right fun _ => and_congr_right fun _ =>
    and_congr_right fun _ => or_congr_right ?_
  constructor
  · rintro ⟨-, scope, hscope, s, hs, ⟨hid, hplain⟩, hcompleted, hreadable, n, hn, hsize, sha, hsha,
      off, hoff, base, hbase, htimes⟩
    refine ⟨⟨⟨scope, hscope⟩, ⟨s, hs, hid, by simpa using hplain⟩, hcompleted, hreadable,
      ⟨n, hn, hsize⟩, evidenceHash_ok.mp ⟨sha, hsha⟩, evidenceHash_ok.mp ⟨off, hoff⟩,
      evidenceHash_ok.mp ⟨base, hbase⟩⟩, ?_⟩
    rwa [exists_and_right, parseTimestamp_returns] at htimes
  · rintro ⟨hchecked, htimes⟩
    obtain ⟨scope, hscope⟩ := hchecked.scope
    obtain ⟨s, hs, hid, hplain⟩ := hchecked.logicalId
    obtain ⟨n, hn, hsize⟩ := hchecked.size
    obtain ⟨sha, hsha⟩ := evidenceHash_ok.mpr hchecked.sha256
    obtain ⟨off, hoff⟩ := evidenceHash_ok.mpr hchecked.offDeviceSha256
    obtain ⟨base, hbase⟩ := evidenceHash_ok.mpr hchecked.baseline
    refine ⟨hashable_of_among? hscope, scope, hscope, s, hs, ⟨hid, by simpa using hplain⟩,
      hchecked.completed, hchecked.readable, n, hn, hsize, sha, hsha, off, hoff, base, hbase, ?_⟩
    rwa [exists_and_right, parseTimestamp_returns]

/-! ## Texts -/

section

variable (py : Python) (maximum : ℕ) (s : PyStr)

/-- What is checked of a text before its URL. -/
structure PlainText : Prop where
  nonempty : s.strip ≠ []
  length : s.strip.length ≤ maximum
  printable : (s.strip.any fun c => c.ord < 32 ∧ c.shown ≠ '\t') = false
  plain : py.sensitive s.strip.shown = false

/-- The URL of a text is refused or accepted; it is not looked at further. -/
def SafeUrl : Prop :=
  isIn "://" s.strip.shown.toList = true → ∃ u, py.urlsplit s.strip.shown = some u ∧
    ((u.scheme = "http" ∨ u.scheme = "https") ∧ u.noHost = false) ∧
    u.hasUser = false ∧ u.query.isEmpty = true ∧ u.fragment.isEmpty = true

/-- A text in which `urlsplit` finds a malformed host. -/
def MalformedUrl : Prop :=
  isIn "://" s.strip.shown.toList = true ∧ py.urlsplit s.strip.shown = none

end

theorem safeText_ok :
    py.safeText v field maximum = .ok t ↔
      ∃ s, v.asStr? = some s ∧ PlainText py maximum s ∧ SafeUrl py s ∧ s.strip = t := by
  simp only [Python.safeText, bind_eq_ok, orRaise_eq_ok, ensure_eq_ok, exists_const,
    Bool.not_eq_true']
  refine exists_congr fun s => and_congr_right fun _ => ?_
  constructor
  · rintro ⟨⟨hnonempty, hlength⟩, hprintable, hplain, hurl⟩
    refine ⟨⟨hnonempty, hlength, hprintable, hplain⟩, ?_⟩
    split at hurl
    · simp only [bind_eq_ok, orRaise_eq_ok, ensure_eq_ok, pure_eq_ok, exists_const] at hurl
      obtain ⟨u, hu, hhost, hfixed, ht⟩ := hurl
      exact ⟨fun _ => ⟨u, hu, hhost, hfixed⟩, ht⟩
    · next hnone => exact ⟨fun hsome => absurd hsome hnone, pure_eq_ok.mp hurl⟩
  · rintro ⟨hplain, hurl, ht⟩
    refine ⟨⟨hplain.nonempty, hplain.length⟩, hplain.printable, hplain.plain, ?_⟩
    split
    · next hsome =>
      obtain ⟨u, hu, hhost, hfixed⟩ := hurl hsome
      simp only [bind_eq_ok, orRaise_eq_ok, ensure_eq_ok, pure_eq_ok, exists_const]
      exact ⟨u, hu, hhost, hfixed, ht⟩
    · exact pure_eq_ok.mpr ht

theorem safeText_crashes :
    Crashes (py.safeText v field maximum) ↔
      ∃ s, v.asStr? = some s ∧ PlainText py maximum s ∧ MalformedUrl py s := by
  simp only [Python.safeText, raises_bind, raises_orRaise, raises_ensure, isContract_contract,
    orRaise_eq_ok, ensure_eq_ok, exists_const, Bool.true_eq_false, and_false, false_or,
    Bool.not_eq_true']
  refine exists_congr fun s => and_congr_right fun _ => ?_
  constructor
  · rintro ⟨⟨hnonempty, hlength⟩, hprintable, hplain, hurl⟩
    refine ⟨⟨hnonempty, hlength, hprintable, hplain⟩, ?_⟩
    split at hurl
    · next hsome =>
      simp only [raises_bind, raises_orRaise, raises_ensure, isContract_contract, raises_pure,
        isContract_valueError, Bool.true_eq_false, and_false, exists_false, or_false,
        and_true] at hurl
      exact ⟨hsome, hurl⟩
    · exact absurd hurl (raises_pure _)
  · rintro ⟨hplain, hsome, hurl⟩
    refine ⟨⟨hplain.nonempty, hplain.length⟩, hplain.printable, hplain.plain, ?_⟩
    rw [if_pos hsome, raises_bind, raises_orRaise]
    exact .inl ⟨hurl, rfl⟩

/-! ## The parameter summary -/

mutual

/-- The number of values in a document. -/
def size : Value → ℕ
  | .arr items => 1 + itemsSize items
  | .obj items => 1 + pairsSize items
  | _ => 1

def itemsSize : List Value → ℕ
  | [] => 0
  | v :: vs => size v + itemsSize vs

def pairsSize : List (PyStr × Value) → ℕ
  | [] => 0
  | (_, v) :: kvs => size v + pairsSize kvs

end

/-- A place of a parameter summary. -/
inductive Visit where
  /-- A value, with its number and its depth. -/
  | value (number depth : ℕ) (v : Value)
  /-- A key of an object. -/
  | key (key : PyStr)

mutual

/-- The places of a document after `number` others, in their order. -/
def visits (depth number : ℕ) : Value → List Visit
  | .arr items => .value (number + 1) depth (.arr items) :: visitsItems (depth + 1) (number + 1) items
  | .obj items => .value (number + 1) depth (.obj items) :: visitsPairs (depth + 1) (number + 1) items
  | v => [.value (number + 1) depth v]

def visitsItems (depth number : ℕ) : List Value → List Visit
  | [] => []
  | v :: vs => visits depth number v ++ visitsItems depth (number + size v) vs

def visitsPairs (depth number : ℕ) : List (PyStr × Value) → List Visit
  | [] => []
  | (key, v) :: kvs => .key key :: (visits depth number v ++ visitsPairs depth (number + size v) kvs)

end

/-- The key of an object is accepted (lines 321–325). -/
def PlainKey (key : PyStr) : Prop :=
  parameterKeyRe key = true ∧ (sensitiveKeyParts.any fun part =>
    isIn part ((key.shown.toList.map Char.toLower).filter fun c => c.isLower || c.isDigit)) = false

/-- A place passes its check. -/
def Visit.Passes (py : Python) : Visit → Prop
  | value number depth v => (number ≤ 64 ∧ depth ≤ 4) ∧
    match v with
    | .float q _ => q.isSome = true
    | .str s => PlainText py 256 s ∧ SafeUrl py s
    | .arr items => items.length ≤ 16
    | .obj items => items.length ≤ 32
    | _ => True
  | key k => PlainKey k

/-- A place is a text with a malformed URL. -/
def Visit.Breaks (py : Python) : Visit → Prop
  | value number depth (.str s) =>
    (number ≤ 64 ∧ depth ≤ 4) ∧ PlainText py 256 s ∧ MalformedUrl py s
  | _ => False

theorem parameterKey_ok {key : PyStr} : parameterKey key field = .ok u ↔ PlainKey key := by
  simp [parameterKey, PlainKey]

theorem parameterKey_crashes {key : PyStr} : ¬ Crashes (parameterKey key field) := by
  simp [parameterKey]

mutual

variable {py : Python}

/-- Sanitizing counts every value, and strips nothing that cannot be encoded. -/
theorem sanitizeValue_keeps : ∀ {v v' : Value} {field : String} {depth count n : ℕ},
    py.sanitizeValue field depth count v = .ok (v', n) →
      n = count + size v ∧ v'.encodable = v.encodable
  | .null, v', field, depth, count, n, h => by
    simp only [Python.sanitizeValue, bind_eq_ok, pure_eq_ok, Prod.mk.injEq] at h
    obtain ⟨-, -, rfl, rfl⟩ := h
    exact ⟨rfl, rfl⟩
  | .bool b, v', field, depth, count, n, h => by
    simp only [Python.sanitizeValue, bind_eq_ok, pure_eq_ok, Prod.mk.injEq] at h
    obtain ⟨-, -, rfl, rfl⟩ := h
    exact ⟨rfl, rfl⟩
  | .int m, v', field, depth, count, n, h => by
    simp only [Python.sanitizeValue, bind_eq_ok, pure_eq_ok, Prod.mk.injEq] at h
    obtain ⟨-, -, rfl, rfl⟩ := h
    exact ⟨rfl, rfl⟩
  | .float q text, v', field, depth, count, n, h => by
    simp only [Python.sanitizeValue, bind_eq_ok, pure_eq_ok, Prod.mk.injEq] at h
    obtain ⟨-, -, -, -, rfl, rfl⟩ := h
    exact ⟨rfl, rfl⟩
  | .str s, v', field, depth, count, n, h => by
    simp only [Python.sanitizeValue, bind_eq_ok, pure_eq_ok, Prod.mk.injEq, safeText_ok] at h
    obtain ⟨-, -, t, ⟨s', hs', -, -, rfl⟩, rfl, rfl⟩ := h
    cases hs'
    exact ⟨rfl, PyStr.encodable_strip s⟩
  | .arr items, v', field, depth, count, n, h => by
    simp only [Python.sanitizeValue, bind_eq_ok, pure_eq_ok, Prod.mk.injEq, Prod.exists] at h
    obtain ⟨-, -, -, -, items', count', hitems, rfl, rfl⟩ := h
    obtain ⟨rfl, hencodable⟩ := sanitizeItems_keeps hitems
    exact ⟨Nat.add_assoc count 1 _, hencodable⟩
  | .obj items, v', field, depth, count, n, h => by
    simp only [Python.sanitizeValue, bind_eq_ok, pure_eq_ok, Prod.mk.injEq, Prod.exists] at h
    obtain ⟨-, -, -, -, items', count', hitems, rfl, rfl⟩ := h
    obtain ⟨rfl, hencodable⟩ := sanitizePairs_keeps hitems
    exact ⟨Nat.add_assoc count 1 _, hencodable⟩

theorem sanitizeItems_keeps :
    ∀ {vs vs' : List Value} {field : String} {depth count n : ℕ},
    py.sanitizeItems field depth count vs = .ok (vs', n) →
      n = count + itemsSize vs ∧ itemsEncodable vs' = itemsEncodable vs
  | [], vs', field, depth, count, n, h => by
    simp only [Python.sanitizeItems, pure_eq_ok, Prod.mk.injEq] at h
    obtain ⟨rfl, rfl⟩ := h
    exact ⟨rfl, rfl⟩
  | v :: vs, vs', field, depth, count, n, h => by
    simp only [Python.sanitizeItems, bind_eq_ok, pure_eq_ok, Prod.mk.injEq, Prod.exists] at h
    obtain ⟨v', count', hv, vs'', count'', hvs, rfl, rfl⟩ := h
    obtain ⟨rfl, hencodable⟩ := sanitizeValue_keeps hv
    obtain ⟨rfl, hrest⟩ := sanitizeItems_keeps hvs
    refine ⟨Nat.add_assoc count _ _, ?_⟩
    rw [itemsEncodable, itemsEncodable, hencodable, hrest]

theorem sanitizePairs_keeps :
    ∀ {kvs kvs' : List (PyStr × Value)} {field : String} {depth count n : ℕ},
    py.sanitizePairs field depth count kvs = .ok (kvs', n) →
      n = count + pairsSize kvs ∧ pairsEncodable kvs' = pairsEncodable kvs
  | [], kvs', field, depth, count, n, h => by
    simp only [Python.sanitizePairs, pure_eq_ok, Prod.mk.injEq] at h
    obtain ⟨rfl, rfl⟩ := h
    exact ⟨rfl, rfl⟩
  | (key, v) :: kvs, kvs', field, depth, count, n, h => by
    simp only [Python.sanitizePairs, bind_eq_ok, pure_eq_ok, Prod.mk.injEq, Prod.exists] at h
    obtain ⟨-, -, v', count', hv, kvs'', count'', hkvs, rfl, rfl⟩ := h
    obtain ⟨rfl, hencodable⟩ := sanitizeValue_keeps hv
    obtain ⟨rfl, hrest⟩ := sanitizePairs_keeps hkvs
    refine ⟨Nat.add_assoc count _ _, ?_⟩
    rw [pairsEncodable, pairsEncodable, hencodable, hrest]

end

mutual

/-- A document is sanitized iff every place passes. -/
theorem sanitizeValue_returns {py : Python} : ∀ {v : Value} {field : String} {depth count : ℕ},
    (∃ r, py.sanitizeValue field depth count v = .ok r) ↔
      ∀ x ∈ visits depth count v, x.Passes py
  | .null, field, depth, count => by
    simp [Python.sanitizeValue, visits, Visit.Passes]
  | .bool b, field, depth, count => by
    simp [Python.sanitizeValue, visits, Visit.Passes]
  | .int m, field, depth, count => by
    simp [Python.sanitizeValue, visits, Visit.Passes]
  | .float q text, field, depth, count => by
    simp [Python.sanitizeValue, visits, Visit.Passes]
  | .str s, field, depth, count => by
    simp [Python.sanitizeValue, visits, Visit.Passes, safeText_ok, Value.asStr?]
  | .arr items, field, depth, count => by
    have hitems := @sanitizeItems_returns py items (field ++ "[]") (depth + 1) (count + 1)
    rw [visits, List.forall_mem_cons, ← hitems]
    simp [Python.sanitizeValue, Visit.Passes, and_assoc]
  | .obj items, field, depth, count => by
    have hitems := @sanitizePairs_returns py items field (depth + 1) (count + 1)
    rw [visits, List.forall_mem_cons, ← hitems]
    simp [Python.sanitizeValue, Visit.Passes, and_assoc]

theorem sanitizeItems_returns {py : Python} :
    ∀ {vs : List Value} {field : String} {depth count : ℕ},
    (∃ r, py.sanitizeItems field depth count vs = .ok r) ↔
      ∀ x ∈ visitsItems depth count vs, x.Passes py
  | [], field, depth, count => by simp [Python.sanitizeItems, visitsItems]
  | v :: vs, field, depth, count => by
    have hv := @sanitizeValue_returns py v field depth count
    have hvs := @sanitizeItems_returns py vs field depth (count + size v)
    rw [visitsItems, List.forall_mem_append, ← hv, ← hvs]
    simp only [Python.sanitizeItems, bind_eq_ok, pure_eq_ok, Prod.exists]
    constructor
    · rintro ⟨-, -, v', n, hv', vs', n', hvs', -⟩
      obtain ⟨rfl, -⟩ := sanitizeValue_keeps hv'
      exact ⟨⟨v', _, hv'⟩, vs', n', hvs'⟩
    · rintro ⟨⟨v', n, hv'⟩, vs', n', hvs'⟩
      obtain ⟨rfl, -⟩ := sanitizeValue_keeps hv'
      exact ⟨_, _, v', _, hv', vs', n', hvs', rfl⟩

theorem sanitizePairs_returns {py : Python} :
    ∀ {kvs : List (PyStr × Value)} {field : String} {depth count : ℕ},
    (∃ r, py.sanitizePairs field depth count kvs = .ok r) ↔
      ∀ x ∈ visitsPairs depth count kvs, x.Passes py
  | [], field, depth, count => by simp [Python.sanitizePairs, visitsPairs]
  | (key, v) :: kvs, field, depth, count => by
    have hv := @sanitizeValue_returns py v (field ++ "." ++ key.shown) depth count
    have hkvs := @sanitizePairs_returns py kvs field depth (count + size v)
    rw [visitsPairs, List.forall_mem_cons, List.forall_mem_append, ← hv, ← hkvs]
    simp only [Python.sanitizePairs, bind_eq_ok, pure_eq_ok, Prod.exists, parameterKey_ok,
      exists_const]
    constructor
    · rintro ⟨-, -, hkey, v', n, hv', kvs', n', hkvs', -⟩
      obtain ⟨rfl, -⟩ := sanitizeValue_keeps hv'
      exact ⟨hkey, ⟨v', _, hv'⟩, kvs', n', hkvs'⟩
    · rintro ⟨hkey, ⟨v', n, hv'⟩, kvs', n', hkvs'⟩
      obtain ⟨rfl, -⟩ := sanitizeValue_keeps hv'
      exact ⟨_, _, hkey, v', _, hv', kvs', n', hkvs', rfl⟩

end

mutual

/-- Sanitizing a document crashes iff the first place that does not pass is a malformed URL. -/
theorem sanitizeValue_crashes {py : Python} : ∀ {v : Value} {field : String} {depth count : ℕ},
    Crashes (py.sanitizeValue field depth count v) ↔
      StopsAt (Visit.Passes py) (Visit.Breaks py) (visits depth count v)
  | .null, field, depth, count => by
    simp [Python.sanitizeValue, visits, Visit.Breaks]
  | .bool b, field, depth, count => by
    simp [Python.sanitizeValue, visits, Visit.Breaks]
  | .int m, field, depth, count => by
    simp [Python.sanitizeValue, visits, Visit.Breaks]
  | .float q text, field, depth, count => by
    simp [Python.sanitizeValue, visits, Visit.Breaks]
  | .str s, field, depth, count => by
    simp [Python.sanitizeValue, visits, Visit.Breaks, safeText_crashes, Value.asStr?]
  | .arr items, field, depth, count => by
    have hitems := @sanitizeItems_crashes py items (field ++ "[]") (depth + 1) (count + 1)
    rw [visits, stopsAt_cons, ← hitems]
    simp [Python.sanitizeValue, Visit.Passes, Visit.Breaks, and_assoc]
  | .obj items, field, depth, count => by
    have hitems := @sanitizePairs_crashes py items field (depth + 1) (count + 1)
    rw [visits, stopsAt_cons, ← hitems]
    simp [Python.sanitizeValue, Visit.Passes, Visit.Breaks, and_assoc]

theorem sanitizeItems_crashes {py : Python} :
    ∀ {vs : List Value} {field : String} {depth count : ℕ},
    Crashes (py.sanitizeItems field depth count vs) ↔
      StopsAt (Visit.Passes py) (Visit.Breaks py) (visitsItems depth count vs)
  | [], field, depth, count => by simp [Python.sanitizeItems, visitsItems]
  | v :: vs, field, depth, count => by
    have hv := @sanitizeValue_crashes py v field depth count
    have hvs := @sanitizeItems_crashes py vs field depth (count + size v)
    rw [visitsItems, stopsAt_append, ← hv, ← hvs, ← sanitizeValue_returns]
    simp only [Python.sanitizeItems, raises_bind, raises_pure, and_false, exists_false, or_false,
      Prod.exists]
    refine or_congr_right ⟨?_, ?_⟩
    · rintro ⟨v', n, hv', hcrash⟩
      obtain ⟨rfl, -⟩ := sanitizeValue_keeps hv'
      exact ⟨⟨v', _, hv'⟩, hcrash⟩
    · rintro ⟨⟨v', n, hv'⟩, hcrash⟩
      obtain ⟨rfl, -⟩ := sanitizeValue_keeps hv'
      exact ⟨v', _, hv', hcrash⟩

theorem sanitizePairs_crashes {py : Python} :
    ∀ {kvs : List (PyStr × Value)} {field : String} {depth count : ℕ},
    Crashes (py.sanitizePairs field depth count kvs) ↔
      StopsAt (Visit.Passes py) (Visit.Breaks py) (visitsPairs depth count kvs)
  | [], field, depth, count => by simp [Python.sanitizePairs, visitsPairs]
  | (key, v) :: kvs, field, depth, count => by
    have hv := @sanitizeValue_crashes py v (field ++ "." ++ key.shown) depth count
    have hkvs := @sanitizePairs_crashes py kvs field depth (count + size v)
    rw [visitsPairs, stopsAt_cons, stopsAt_append, ← hv, ← hkvs,
      ← @sanitizeValue_returns py v (field ++ "." ++ key.shown)]
    simp only [Python.sanitizePairs, raises_bind, raises_pure, and_false, exists_false, or_false,
      Prod.exists, parameterKey_crashes, parameterKey_ok, exists_const, false_or, Visit.Passes,
      Visit.Breaks]
    refine and_congr_right fun _ => or_congr_right ⟨?_, ?_⟩
    · rintro ⟨v', n, hv', hcrash⟩
      obtain ⟨rfl, -⟩ := sanitizeValue_keeps hv'
      exact ⟨⟨v', _, hv'⟩, hcrash⟩
    · rintro ⟨⟨v', n, hv'⟩, hcrash⟩
      obtain ⟨rfl, -⟩ := sanitizeValue_keeps hv'
      exact ⟨v', _, hv', hcrash⟩

end

/-! ## The texts of a proposal -/

section

variable (py : Python)

/-- A text of at most so many characters that is accepted. -/
def SafeText (maximum : ℕ) (v : Value) : Prop :=
  ∃ s, v.asStr? = some s ∧ PlainText py maximum s ∧ SafeUrl py s

/-- A text that is accepted up to its URL, which is malformed. -/
def MalformedText (maximum : ℕ) (v : Value) : Prop :=
  ∃ s, v.asStr? = some s ∧ PlainText py maximum s ∧ MalformedUrl py s

/-- A plan that is accepted. -/
def SafeTexts (v : Value) : Prop :=
  ∃ items, v.asList? = some items ∧ (1 ≤ items.length ∧ items.length ≤ 10) ∧
    ∀ item ∈ items, SafeText py 300 item

/-- A plan whose first text that is not accepted has a malformed URL. -/
def MalformedTexts (v : Value) : Prop :=
  ∃ items, v.asList? = some items ∧ (1 ≤ items.length ∧ items.length ≤ 10) ∧
    StopsAt (SafeText py 300) (MalformedText py 300) items

/-- A parameter summary that is accepted. -/
def SafeSummary (v : Value) : Prop :=
  v.asDict?.isSome = true ∧ ∀ x ∈ visits 0 0 v.sorted, x.Passes py

/-- A parameter summary whose first place that does not pass has a malformed URL. -/
def MalformedSummary (v : Value) : Prop :=
  v.asDict?.isSome = true ∧ StopsAt (Visit.Passes py) (Visit.Breaks py) (visits 0 0 v.sorted)

end

theorem safeText_returns {py : Python} {v : Value} {field : String} {maximum : ℕ} :
    (∃ t, py.safeText v field maximum = .ok t) ↔ SafeText py maximum v := by
  simp [safeText_ok, SafeText]

theorem safeTextList_returns {py : Python} {v : Value} {field : String} :
    (∃ ts, py.safeTextList v field = .ok ts) ↔ SafeTexts py v := by
  have hloop : ∀ items : List Value,
      (∃ ts, items.mapM (fun item => py.safeText item field 300) = .ok ts) ↔
        ∀ item ∈ items, SafeText py 300 item := fun items =>
    returns_mapM.trans (forall₂_congr fun _ _ => safeText_returns)
  simp only [Python.safeTextList, bind_eq_ok, orRaise_eq_ok, ensure_eq_ok, exists_const]
  constructor
  · rintro ⟨ts, items, hitems, hlength, hts⟩
    exact ⟨items, hitems, hlength, (hloop items).mp ⟨ts, hts⟩⟩
  · rintro ⟨items, hitems, hlength, hsafe⟩
    obtain ⟨ts, hts⟩ := (hloop items).mpr hsafe
    exact ⟨ts, items, hitems, hlength, hts⟩

theorem safeTextList_crashes : Crashes (py.safeTextList v field) ↔ MalformedTexts py v := by
  simp only [Python.safeTextList, raises_bind, raises_orRaise, raises_ensure, isContract_contract,
    orRaise_eq_ok, ensure_eq_ok, exists_const, Bool.true_eq_false, and_false, false_or]
  refine exists_congr fun items => and_congr_right fun _ => and_congr_right fun _ => ?_
  exact raises_mapM.trans (stopsAt_congr (fun _ => safeText_returns) fun _ => safeText_crashes)

theorem summary_returns :
    (∃ summary, py.sanitizeParameterSummary v = .ok summary) ↔ SafeSummary py v := by
  rw [SafeSummary, ← @sanitizeValue_returns py _ "parameter_summary"]
  simp [Python.sanitizeParameterSummary]

theorem summary_crashes : Crashes (py.sanitizeParameterSummary v) ↔ MalformedSummary py v := by
  rw [MalformedSummary, ← @sanitizeValue_crashes py _ "parameter_summary"]
  simp [Python.sanitizeParameterSummary]

/-- A text of the proposal can be encoded iff it can be once it is stripped. -/
theorem safeText_encodable (h : py.safeText v field maximum = .ok t) :
    t.encodable = v.encodable := by
  obtain ⟨s, hs, -, -, rfl⟩ := safeText_ok.mp h
  cases v <;> cases hs
  exact PyStr.encodable_strip s

theorem safeTextList_encodable {ts : List PyStr} (h : py.safeTextList v field = .ok ts) :
    itemsEncodable (ts.map .str) = v.encodable := by
  simp only [Python.safeTextList, bind_eq_ok, orRaise_eq_ok, ensure_eq_ok] at h
  obtain ⟨items, hitems, -, -, h⟩ := h
  cases v <;> cases hitems
  rw [Value.encodable]
  have hall := mapM_ok h
  clear h
  induction hall with
  | nil => rfl
  | cons hitem _ ih =>
    rw [List.map_cons, itemsEncodable, itemsEncodable, ih, Value.encodable, safeText_encodable hitem]

theorem summary_encodable {summary : Value} (h : py.sanitizeParameterSummary v = .ok summary) :
    summary.encodable = v.encodable := by
  simp only [Python.sanitizeParameterSummary, bind_eq_ok, pure_eq_ok, Prod.exists] at h
  obtain ⟨-, -, summary', n, h, rfl⟩ := h
  rw [(sanitizeValue_keeps h).2, encodable_sorted]

/-! ## Envelopes -/

/-- What is checked of an envelope before its action type. -/
structure EnvelopeNamed (envelope : Value) (proposal approval : ValueDict) : Prop where
  fields : ∃ d, envelope.asDict? = some d ∧ d.keysAre ["version", "proposal", "approval"] = true ∧
    (d.get "version").eqInt 1 = true ∧ (d.get "proposal").asDict? = some proposal ∧
    (d.get "approval").asDict? = some approval
  proposalFields : proposal.keysAre proposalAllowedFields = true
  approvalFields : approval.keysAre approvalRequiredFields = true
  versions : (proposal.get "version").eqInt 1 = true ∧ (approval.get "version").eqInt 1 = true
  actionId : ∃ s, (proposal.get "action_id").asStr? = some s ∧ actionIdRe s = true ∧
    (approval.get "action_id").eqStr s.shown = true

/-- What is checked of a proposal between its action type and its texts. -/
structure ActionAllowed (proposal : ValueDict) : Prop where
  action : ∃ actionType,
    (proposal.get "action_type").among? (actionRisks.map Prod.fst) = some actionType ∧
    (proposal.get "risk_level").eqStr ((actionRisks.lookup actionType).getD "") = true ∧
    ∃ backup, (proposal.get "requires_backup").asBool? = some backup ∧
      ((actionRisks.lookup actionType).getD "" = "L3" → backup = true)
  target : ∃ s, (proposal.get "target").asStr? = some s ∧ targetRe s = true ∧
    isIn ".." s.shown.toList = false ∧ s.shown.toList.head? ≠ some '/' ∧
    s.shown.toList.head? ≠ some '\\'

/-- The texts of a proposal are accepted. -/
def SafeProposal (py : Python) (proposal : ValueDict) : Prop :=
  SafeSummary py (proposal.get "parameter_summary") ∧
    SafeText py 300 (proposal.get "expected_change") ∧
    SafeTexts py (proposal.get "validation_plan") ∧ SafeTexts py (proposal.get "rollback_plan")

/-- The first text of a proposal that is not accepted has a malformed URL. -/
def MalformedProposal (py : Python) (proposal : ValueDict) : Prop :=
  MalformedSummary py (proposal.get "parameter_summary") ∨
    SafeSummary py (proposal.get "parameter_summary") ∧
    (MalformedText py 300 (proposal.get "expected_change") ∨
      SafeText py 300 (proposal.get "expected_change") ∧
      (MalformedTexts py (proposal.get "validation_plan") ∨
        SafeTexts py (proposal.get "validation_plan") ∧
        MalformedTexts py (proposal.get "rollback_plan")))

/-- The times of a proposal and of its approval fit together, and the proposal has not expired. -/
def TimesFit (proposal approval : ValueDict) (now : ℤ) : Prop :=
  ∃ created expires approved : ℤ,
    (utcOf? (proposal.get "created_at") = some created ∧ inYears created = true) ∧
    (utcOf? (proposal.get "expires_at") = some expires ∧ inYears expires = true) ∧
    (utcOf? (approval.get "approved_at") = some approved ∧ inYears approved = true) ∧
    utcOf? (approval.get "expires_at") = some expires ∧
    created ≤ approved ∧ approved < expires ∧ now < expires

theorem envelopeHead_crashes : Crashes (envelopeHead envelope) ↔
    ∃ proposal approval, EnvelopeNamed envelope proposal approval ∧
      (proposal.get "action_type").hashable = false := by
  simp only [envelopeHead, raises_bind, raises_orRaise, raises_ensure, isContract_contract,
    isContract_typeError, patternField_crashes, patternField_ok, orRaise_eq_ok, ensure_eq_ok,
    exists_const, raises_pure, and_false, or_false, false_or, and_true, Bool.true_eq_false,
    Bool.not_eq_true]
  constructor
  · rintro ⟨d, hd, hfields, hversion, proposal, hproposal, hproposalFields, approval, happroval,
      happrovalFields, hversions, -, ⟨s, hs, hre, rfl⟩, hsame, hhashable⟩
    exact ⟨proposal, approval, ⟨⟨d, hd, hfields, hversion, hproposal, happroval⟩, hproposalFields,
      happrovalFields, hversions, ⟨s, hs, hre, hsame⟩⟩, hhashable⟩
  · rintro ⟨proposal, approval, hnamed, hhashable⟩
    obtain ⟨d, hd, hfields, hversion, hproposal, happroval⟩ := hnamed.fields
    obtain ⟨s, hs, hre, hsame⟩ := hnamed.actionId
    exact ⟨d, hd, hfields, hversion, proposal, hproposal, hnamed.proposalFields, approval, happroval,
      hnamed.approvalFields, hnamed.versions, s.shown, ⟨s, hs, hre, rfl⟩, hsame, hhashable⟩

theorem envelopeHead_returns :
    (∃ rest, envelopeHead envelope = .ok (proposal, approval, rest)) ↔
      EnvelopeNamed envelope proposal approval ∧ ActionAllowed proposal := by
  simp only [envelopeHead, bind_eq_ok, patternField_ok, orRaise_eq_ok, ensure_eq_ok, exists_const,
    pure_eq_ok, Prod.mk.injEq, Bool.not_eq_true']
  constructor
  · rintro ⟨rest, d, hd, hfields, hversion, proposal', hproposal, hproposalFields, approval',
      happroval, happrovalFields, hversions, -, ⟨s, hs, hre, rfl⟩, hsame, -, actionType, haction,
      hrisk, backup, hbackup, hneeded, -, ⟨target, htarget, htargetRe, rfl⟩, hpath, rfl, rfl, -⟩
    exact ⟨⟨⟨d, hd, hfields, hversion, hproposal, happroval⟩, hproposalFields, happrovalFields,
      hversions, ⟨s, hs, hre, hsame⟩⟩, ⟨actionType, haction, hrisk, backup, hbackup, hneeded⟩,
      ⟨target, htarget, htargetRe, hpath⟩⟩
  · rintro ⟨hnamed, hallowed⟩
    obtain ⟨d, hd, hfields, hversion, hproposal, happroval⟩ := hnamed.fields
    obtain ⟨s, hs, hre, hsame⟩ := hnamed.actionId
    obtain ⟨actionType, haction, hrisk, backup, hbackup, hneeded⟩ := hallowed.action
    obtain ⟨target, htarget, htargetRe, hpath⟩ := hallowed.target
    exact ⟨_, d, hd, hfields, hversion, proposal, hproposal, hnamed.proposalFields, approval,
      happroval, hnamed.approvalFields, hnamed.versions, s.shown, ⟨s, hs, hre, rfl⟩, hsame,
      hashable_of_among? haction, actionType, haction, hrisk, backup, hbackup, hneeded,
      target.shown, ⟨target, htarget, htargetRe, rfl⟩, hpath, rfl, rfl, rfl⟩

/-- The texts crash iff the first one that is not accepted has a malformed URL. -/
theorem envelopeTexts_crashes :
    Crashes (py.envelopeTexts proposal) ↔ MalformedProposal py proposal := by
  simp only [Python.envelopeTexts, raises_bind, summary_crashes, safeText_crashes,
    safeTextList_crashes, raises_pure, and_false, exists_false, or_false, exists_and_right,
    summary_returns, safeText_returns, safeTextList_returns, MalformedProposal, MalformedText]

theorem envelopeTexts_returns :
    (∃ texts, py.envelopeTexts proposal = .ok texts) ↔ SafeProposal py proposal := by
  simp only [Python.envelopeTexts, bind_eq_ok, pure_eq_ok, SafeProposal, ← summary_returns,
    ← @safeText_returns py (proposal.get "expected_change") "expected_change",
    ← @safeTextList_returns py (proposal.get "validation_plan") "validation_plan",
    ← @safeTextList_returns py (proposal.get "rollback_plan") "rollback_plan"]
  constructor
  · rintro ⟨-, summary, hsummary, change, hchange, plan, hplan, rollback, hrollback, -⟩
    exact ⟨⟨summary, hsummary⟩, ⟨change, hchange⟩, ⟨plan, hplan⟩, ⟨rollback, hrollback⟩⟩
  · rintro ⟨⟨summary, hsummary⟩, ⟨change, hchange⟩, ⟨plan, hplan⟩, ⟨rollback, hrollback⟩⟩
    exact ⟨_, summary, hsummary, change, hchange, plan, hplan, rollback, hrollback, rfl⟩

/-! ## The hashes of a proposal -/

theorem get_setItem_of_ne {key : String} (value : Value) (h : field ≠ key) :
    (setItem d key value).get field = d.get field := by
  rw [ValueDict.get, ValueDict.get, setItem]
  congr 1
  induction d with
  | nil => rfl
  | cons kv d ih =>
    rw [List.map_cons]
    split
    · next hkey =>
      rw [List.lookup_cons, List.lookup_cons, ih, hkey]
      have hne : (PyStr.ofString field == PyStr.ofString key) = false :=
        beq_eq_false_iff_ne.mpr fun heq => h (PyStr.ofString_inj.mp heq)
      rw [hne]
    · rw [List.lookup_cons, List.lookup_cons, ih]

theorem get_setItem_self {key : String} (value : Value) (h : PyStr.ofString key ∈ d.map Prod.fst) :
    (setItem d key value).get key = value := by
  rw [ValueDict.get, setItem]
  induction d with
  | nil => cases h
  | cons kv d ih =>
    rw [List.map_cons]
    split
    · next hkey => rw [hkey, List.lookup_cons, beq_self_eq_true]; rfl
    · next hkey =>
      rw [List.lookup_cons, beq_eq_false_iff_ne.mpr (Ne.symm hkey)]
      exact ih ((List.mem_cons.mp h).resolve_left (Ne.symm hkey))

@[simp] theorem keys_setItem (d : ValueDict) (key : String) (value : Value) :
    (setItem d key value).map Prod.fst = d.map Prod.fst := by
  rw [setItem, List.map_map]
  refine List.map_congr_left fun kv _ => ?_
  dsimp only [Function.comp_apply]
  split <;> rfl

theorem hashOf_crashes : Crashes (hashOf v) ↔ v.encodable = false := by
  simp [hashOf, ← toJson?_isSome]

theorem hashOf_returns : (∃ hash, hashOf v = .ok hash) ↔ v.encodable = true := by
  simp [hashOf, ← toJson?_isSome, Option.isSome_iff_exists]

theorem encodable_ofString (s : String) : (PyStr.ofString s).encodable = true := by
  rw [PyStr.encodable, PyStr.ofString, List.all_map]
  exact List.all_eq_true.mpr fun _ _ => rfl

theorem pairsEncodable_map (fields : List String) (g : String → Value) :
    pairsEncodable (fields.map fun field => (PyStr.ofString field, g field)) =
      fields.all fun field => (g field).encodable := by
  induction fields with
  | nil => rfl
  | cons field fields ih =>
    rw [List.map_cons, pairsEncodable, ih, encodable_ofString, Bool.true_and, List.all_cons]

theorem get_map {fields : List String} (g : String → Value) (h : field ∈ fields) :
    ValueDict.get (fields.map fun field => (PyStr.ofString field, g field)) field = g field := by
  rw [ValueDict.get]
  induction fields with
  | nil => cases h
  | cons field' fields ih =>
    rw [List.map_cons, List.lookup_cons]
    by_cases heq : field = field'
    · rw [heq, beq_self_eq_true]
      rfl
    · rw [beq_eq_false_iff_ne.mpr fun hsame => heq (PyStr.ofString_inj.mp hsame)]
      exact ih ((List.mem_cons.mp h).resolve_left heq)

/-- The hashes crash iff some hashed field has a surrogate. -/
theorem proposalHash_crashes : Crashes (proposalHash d) ↔
    ∃ field ∈ proposalHashFields, (d.get field).encodable = false := by
  have hsummary : "parameter_summary" ∈ proposalHashFields := by decide
  simp only [proposalHash, raises_bind, hashOf_crashes, raises_pure, and_false, exists_false,
    or_false, get_map d.get hsummary, Value.encodable, pairsEncodable_map, List.all_eq_false,
    Bool.not_eq_true]
  constructor
  · rintro (h | ⟨-, -, h⟩)
    · exact ⟨_, hsummary, h⟩
    · exact h
  · intro h
    cases hencodable : (d.get "parameter_summary").encodable with
    | false => exact .inl rfl
    | true =>
      obtain ⟨hash, hhash⟩ := hashOf_returns.mpr hencodable
      exact .inr ⟨hash, hhash, h⟩

/-- Putting the sanitized texts back changes no surrogate. -/
theorem encodable_putInto (hfields : proposal.keysAre proposalAllowedFields = true)
    (htexts : py.envelopeTexts proposal = .ok texts) (field : String) :
    ((texts.putInto proposal).get field).encodable = (proposal.get field).encodable := by
  have hkey : ∀ key ∈ proposalAllowedFields, PyStr.ofString key ∈ proposal.map Prod.fst := by
    rw [ValueDict.keysAre, Bool.and_eq_true, List.all_eq_true] at hfields
    exact fun key hkey => List.contains_iff_mem.mp (List.all_eq_true.mp hfields.2 key hkey)
  simp only [Python.envelopeTexts, bind_eq_ok, pure_eq_ok] at htexts
  obtain ⟨summary, hsummary, change, hchange, plan, hplan, rollback, hrollback, rfl⟩ := htexts
  rw [ProposalTexts.putInto]
  dsimp only
  by_cases h₄ : field = "rollback_plan"
  · rw [h₄, get_setItem_self _ (by simpa using hkey _ (by decide)), Value.encodable]
    exact safeTextList_encodable hrollback
  rw [get_setItem_of_ne _ h₄]
  by_cases h₃ : field = "validation_plan"
  · rw [h₃, get_setItem_self _ (by simpa using hkey _ (by decide)), Value.encodable]
    exact safeTextList_encodable hplan
  rw [get_setItem_of_ne _ h₃]
  by_cases h₂ : field = "expected_change"
  · rw [h₂, get_setItem_self _ (by simpa using hkey _ (by decide)), Value.encodable]
    exact safeText_encodable hchange
  rw [get_setItem_of_ne _ h₂]
  by_cases h₁ : field = "parameter_summary"
  · rw [h₁, get_setItem_self _ (hkey _ (by decide))]
    exact summary_encodable hsummary
  rw [get_setItem_of_ne _ h₁]

/-- The other fields are as they were. -/
theorem get_putInto
    (h : field ∉ ["parameter_summary", "expected_change", "validation_plan", "rollback_plan"]) :
    (texts.putInto proposal).get field = proposal.get field := by
  simp only [List.mem_cons, List.not_mem_nil, or_false, not_or] at h
  rw [ProposalTexts.putInto, get_setItem_of_ne _ h.2.2.2, get_setItem_of_ne _ h.2.2.1, get_setItem_of_ne _ h.2.1,
    get_setItem_of_ne _ h.1]

/-! ## The times of an envelope -/

theorem envelopeTimes_crashes :
    Crashes (envelopeTimes proposal approval now) ↔ StopsAt Timely Untimely
      [proposal.get "created_at", proposal.get "expires_at", approval.get "approved_at",
        approval.get "expires_at"] := by
  simp only [envelopeTimes, raises_bind, raises_ensure, isContract_contract, parseTimestamp_crashes,
    parseTimestamp_returns, stopsAt_cons, stopsAt_nil, exists_and_right, Bool.true_eq_false,
    and_false, or_false, exists_false]

theorem envelopeTimes_returns {now : ℤ} :
    envelopeTimes proposal approval now = .ok u ↔ TimesFit proposal approval now := by
  simp only [envelopeTimes, bind_eq_ok, parseTimestamp_ok, ensure_eq_ok, exists_const]
  constructor
  · rintro ⟨created, hcreated, expires, hexpires, approved, happroved, until_, huntil, ⟨-, rfl⟩,
      ⟨hcreatedApproved, hbefore⟩, hnow⟩
    exact ⟨created, until_, approved, hcreated, hexpires, happroved, huntil.1, hcreatedApproved,
      hbefore, hnow⟩
  · rintro ⟨created, expires, approved, hcreated, hexpires, happroved, huntil, hcreatedApproved,
      hbefore, hnow⟩
    exact ⟨created, hcreated, expires, hexpires, approved, happroved, expires,
      ⟨huntil, hexpires.2⟩, ⟨lt_of_le_of_lt hcreatedApproved hbefore, rfl⟩,
      ⟨hcreatedApproved, hbefore⟩, hnow⟩

/-- What is checked after the texts breaks: a time, or a surrogate in a field that is hashed. -/
def LateGap (proposal approval : ValueDict) (now : ℤ) : Prop :=
  (proposal.get "state").eqStr "awaiting_approval" = true ∧
    (StopsAt Timely Untimely [proposal.get "created_at", proposal.get "expires_at",
        approval.get "approved_at", approval.get "expires_at"] ∨
      TimesFit proposal approval now ∧
      ∃ field ∈ proposalHashFields, (proposal.get field).encodable = false)

/-- An envelope that passes every check before its action type either has an array or an object there,
    or it goes on to its texts and breaks at one of them or later. -/
def EnvelopeGap (py : Python) (envelope : Value) (now : ℤ) : Prop :=
  ∃ proposal approval, EnvelopeNamed envelope proposal approval ∧
    ((proposal.get "action_type").hashable = false ∨
      ActionAllowed proposal ∧ (MalformedProposal py proposal ∨
        SafeProposal py proposal ∧ LateGap proposal approval now))

/-- The sanitized texts make no difference to what is checked after them. -/
theorem lateGap_putInto {now : ℤ} (hfields : proposal.keysAre proposalAllowedFields = true)
    (htexts : py.envelopeTexts proposal = .ok texts) :
    LateGap (texts.putInto proposal) approval now ↔ LateGap proposal approval now := by
  have hstate : "state" ∉
      ["parameter_summary", "expected_change", "validation_plan", "rollback_plan"] := by decide
  have hcreated : "created_at" ∉
      ["parameter_summary", "expected_change", "validation_plan", "rollback_plan"] := by decide
  have hexpires : "expires_at" ∉
      ["parameter_summary", "expected_change", "validation_plan", "rollback_plan"] := by decide
  simp only [LateGap, TimesFit, get_putInto hstate, get_putInto hcreated, get_putInto hexpires,
    encodable_putInto hfields htexts]

theorem validateEnvelope_crashes {trusted : List String} :
    Crashes (py.validateEnvelope envelope trusted now) ↔
      EnvelopeGap py envelope now := by
  simp only [Python.validateEnvelope, raises_bind, Prod.exists, envelopeHead_crashes,
    envelopeTexts_crashes, raises_ensure, isContract_contract, ensure_eq_ok, envelopeTimes_crashes,
    envelopeTimes_returns, proposalHash_crashes, patternField_crashes, raises_pure, exists_const,
    Bool.true_eq_false, and_false, or_false, false_or]
  constructor
  · rintro (⟨proposal, approval, hnamed, hhashable⟩ |
      ⟨proposal, approval, actionId, actionType, risk, backup, target, hhead, h⟩)
    · exact ⟨proposal, approval, hnamed, .inl hhashable⟩
    · obtain ⟨hnamed, hallowed⟩ := envelopeHead_returns.mp ⟨_, hhead⟩
      refine ⟨proposal, approval, hnamed, .inr ⟨hallowed, ?_⟩⟩
      obtain hmalformed | ⟨texts, htexts, hlate⟩ := h
      · exact .inl hmalformed
      · exact .inr ⟨envelopeTexts_returns.mp ⟨texts, htexts⟩,
          (lateGap_putInto hnamed.proposalFields htexts).mp hlate⟩
  · rintro ⟨proposal, approval, hnamed, hhashable | ⟨hallowed, h⟩⟩
    · exact .inl ⟨proposal, approval, hnamed, hhashable⟩
    · obtain ⟨⟨actionId, actionType, risk, backup, target⟩, hhead⟩ :=
        envelopeHead_returns.mpr ⟨hnamed, hallowed⟩
      refine .inr ⟨proposal, approval, actionId, actionType, risk, backup, target, hhead, ?_⟩
      obtain hmalformed | ⟨hsafe, hlate⟩ := h
      · exact .inl hmalformed
      · obtain ⟨texts, htexts⟩ := envelopeTexts_returns.mpr hsafe
        exact .inr ⟨texts, htexts, (lateGap_putInto hnamed.proposalFields htexts).mpr hlate⟩

/-- Every validator returns or raises a `ContractError`, except for the gaps of two of them. -/
theorem validators_fail_closed_iff (py : Python) (value : Value) (allowlist trusted : List String)
    (now : Datetime) :
    ¬ Crashes (validateNativeIntent value allowlist) ∧
    ¬ Crashes (validateExecutionRequest value) ∧
    ¬ Crashes (validateRecoveryResolution value) ∧
    (¬ Crashes (py.validateBackupEvidence value now.1) ↔ ¬ EvidenceGap py value) ∧
    (¬ Crashes (py.validateEnvelope value trusted now.1) ↔ ¬ EnvelopeGap py value now.1) :=
  ⟨validateNativeIntent_crashes value allowlist, validateExecutionRequest_crashes value,
    validateRecoveryResolution_crashes value, not_congr validateBackupEvidence_crashes,
    not_congr validateEnvelope_crashes⟩

/-- A backup record whose scope is an array. -/
def sampleScopeList : Value :=
  .obj ((PyStr.ofString "scope", .arr []) :: (PyStr.ofString "version", .int 1) ::
    (backupEvidenceFields.drop 2).map fun field => (PyStr.ofString field, .null))

/-- Looking an array up among the scopes is a `TypeError`. -/
theorem validateBackupEvidence_scopeList : ¬ ∀ (py : Python) (value : Value) (now : Datetime),
    ¬ Crashes (py.validateBackupEvidence value now.1) := by
  intro hclosed
  have herror : samplePython.validateBackupEvidence sampleScopeList sampleNow.1 =
      .error .typeError := by decide +kernel
  exact hclosed samplePython sampleScopeList sampleNow ⟨.typeError, herror, rfl⟩

end HomeAddons.Broker
