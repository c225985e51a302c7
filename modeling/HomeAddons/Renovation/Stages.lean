import HomeAddons.Common.IsoOrder
import HomeAddons.Common.PyEq
import HomeAddons.Renovation.Patches

/-!
# Renovation Hub: the dates of the stages

`create_stage`, `update_stage` with `_update_simple`, and `mutate` (`hub.py` 464–512, 600–1093). A
new stage has its dates read and put in order; an update reads the dates that lie beside its
changes, and a mutation does not look at the order.

* `createStage`, `updateStage`, `StageCall.step`.
* `StageCall.stages_ordered`: in which runs every stage has valid dates in order.
-/

namespace HomeAddons.Renovation

open HomeAddons.Common

/-! ## Comparing values -/

/-- A number of a document: whether it is finite, and its value; a NaN is none. -/
def Json.magnitude : Json → Option (Option (ℤ × ℚ))
  | .bool b => some (some (0, if b then 1 else 0))
  | .int n => some (some (0, n))
  | .float (some q) _ => some (some (0, q))
  | .float none s => some (if s = "Infinity" then some (1, 0) else if s = "-Infinity" then
      some (-1, 0) else none)
  | _ => none

/-- `a > b` of two values that are no lists; `none` is a `TypeError`. -/
def Json.leafGreater (a b : Json) : Option Bool :=
  match a, b with
  | .str s, .str t => some (t < s)
  | a, b =>
    match Json.magnitude a, Json.magnitude b with
    | some (some (i, x)), some (some (j, y)) => some (j < i ∨ (j = i ∧ y < x))
    | some _, some _ => some false
    | _, _ => none

mutual

/-- `a > b`. -/
def Json.pyGreater : Json → Json → Option Bool
  | .arr vs, .arr ws => itemsGreater vs ws
  | a, b => Json.leafGreater a b

/-- Two lists are compared at their first items that differ. -/
def itemsGreater : List Json → List Json → Option Bool
  | [], _ => some false
  | _ :: _, [] => some true
  | v :: vs, w :: ws => if v.pyEq w then itemsGreater vs ws else Json.pyGreater v w

end

/-! ## Fields -/

def stageDates : List String := ["planned_start", "planned_end", "actual_start", "actual_end"]

/-- One round of `_validate_date_order(values)`. -/
def validateDatePair (values : Dict) (start finish : String) : Except Raise Unit :=
  if truthy (values.get start) ∧ truthy (values.get finish) then do
    let greater ← orRaise (Json.pyGreater (values.get start) (values.get finish)) .type
    ensure (greater = false)
      (rejecting "invalid_date_range" (start ++ " 不能晚于 " ++ finish))
  else return ()

/-- `_validate_date_order(values)`. -/
def validateDateOrder (values : Dict) : Except Raise Unit := do
  validateDatePair values "planned_start" "planned_end"
  validateDatePair values "actual_start" "actual_end"

/-- `_position(value)`. -/
def position (value : Json) : Except Raise ℤ :=
  integerBetween value 0 10000 (rejecting "invalid_input" "position 必须是 0 到 10000 的整数")

/-- `payload.get(field, default)`. -/
def Dict.getOr (d : Dict) (field : String) (fallback : Json) : Json :=
  if d.has field then d.get field else fallback

structure StageFields where
  projectId : String
  name : String
  position : ℤ
  status : String
  color : String
  plannedStart : Option String
  plannedEnd : Option String
  actualStart : Option String
  actualEnd : Option String

def StageFields.document (c : StageFields) : Dict :=
  [("project_id", .str c.projectId), ("name", .str c.name), ("position", .int c.position),
    ("status", .str c.status), ("color", .str c.color),
    ("planned_start", optionalStr c.plannedStart), ("planned_end", optionalStr c.plannedEnd),
    ("actual_start", optionalStr c.actualStart), ("actual_end", optionalStr c.actualEnd)]

/-- The arguments of `create_stage` (lines 464–477). -/
def stageFields (cfg : Config) (payload : Dict) : Except Raise StageFields := do
  let projectId ← text cfg (payload.get "project_id") "project_id" 64 true
  let name ← text cfg (payload.get "name") "name" 100 true
  let position ← position (Dict.getOr payload "position" (.int 0))
  let status ← choiceOr (payload.get "status") "status"
    (fun s => if s ∈ TargetType.stage.statuses then some s else none) "planned"
  let color ← text cfg (Dict.getOr payload "color" (.str "#8B5CF6")) "color" 32 true
  let plannedStart ← optionalDate (payload.get "planned_start") "planned_start"
  let plannedEnd ← optionalDate (payload.get "planned_end") "planned_end"
  let actualStart ← optionalDate (payload.get "actual_start") "actual_start"
  let actualEnd ← optionalDate (payload.get "actual_end") "actual_end"
  let clean : StageFields :=
    ⟨projectId, name, position, status, color, plannedStart, plannedEnd, actualStart, actualEnd⟩
  validateDateOrder clean.document
  return clean

/-- The row of a new stage. -/
def StageFields.row (c : StageFields) (id now : String) : HubObject where
  id := id
  columns := (c.document.map fun kv => (kv.1, Column.ofJson kv.2)) ++
    [("created_at", .text now), ("updated_at", .text now)]
  version := 1

def stageConflict : Raise := raising "stage_conflict" "阶段名称或进行中状态冲突" 409

def stageActiveConflict : Raise :=
  raising "stage_active_conflict" "同一项目只能有一个进行中阶段" 409

/-- The `operation` of `create_stage` (lines 479–497). -/
def createStageOperation (env : Env) (actorHash key : String) (clean : StageFields) (h : Hub) :
    Except Raise (Hub × Json) := do
  h.projectExists clean.projectId
  ensure (¬(clean.status = "active" ∧ h.stages.rows.any fun o =>
      (o.items.get "project_id").eqStr clean.projectId ∧ (o.items.get "status").eqStr "active"))
    stageActiveConflict
  let o := clean.row (env.uuid 0) (env.now 0)
  let table ← orRaise (h.stages.insert? o) stageConflict
  ensure (uniqueColumns .stage table) stageConflict
  return (({ h with stages := table }).domainAudit (env.now 1) "create_stage" "stage" o.id actorHash
    key none (some (.obj o.document)) "", .obj o.document)

/-- `create_stage(payload, actor_hash=actor_hash)`. -/
def createStage (cfg : Config) (h : Hub) (env : Env) (payload : Dict) (actorHash : String) :
    Except Raise (Hub × Json × Bool) := do
  let key ← idempotencyKey (payload.get "idempotency_key")
  let clean ← stageFields cfg payload
  runIdempotent cfg h env key (.obj (("tool", .str "renovation_stage_create") :: clean.document))
    (createStageOperation env actorHash key clean)

/-- The fields of a stage that an update may name. -/
def stageChangeNames : List String := ["name", "position", "status", "color"] ++ stageDates

/-- One field of the changes of a stage: the dates are taken as they are. -/
def stageChange (cfg : Config) (field : String) (value : Json) : Except Raise Json :=
  match field with
  | "name" => .str <$> text cfg value "name" 100 true
  | "position" => .int <$> position value
  | "status" => .str <$> choiceOf value "status" TargetType.stage.statuses
  | "color" => .str <$> text cfg value "color" 32 true
  | _ => return value

structure StageUpdate where
  key : String
  id : String
  version : ℕ
  clean : Dict

/-- The arguments of `update_stage` (lines 499–505, 1048–1054): the dates beside the changes are
    read. -/
def stageUpdate (cfg : Config) (payload : Dict) : Except Raise StageUpdate := do
  stageDates.forM fun field =>
    if payload.has field then do
      let _ ← optionalDate (payload.get field) field
    else pure ()
  let key ← idempotencyKey (payload.get "idempotency_key")
  let id ← text cfg (payload.get "stage_id") "stage_id" 64 true
  let version ← version (payload.get "version")
  let error := rejecting "invalid_input" "changes 为空或包含不允许字段"
  let changes ← orRaise (payload.get "changes").asDict? error
  ensure (changes ≠ [] ∧ changes.keysWithin stageChangeNames = true) error
  let clean ← changes.foldlM (fun clean kv => Dict.assigned clean kv.1 <$> stageChange cfg kv.1 kv.2)
    []
  return ⟨key, id, version, clean⟩

/-- What a text column keeps of a value. SQLite keeps a number as its text, where `real` is the one
    of a float, and refuses a list or a `dict`; an integer of more than 64 bits is an
    `OverflowError`. -/
def textColumn (real : Json → Column) : Json → Except Raise Column
  | .null => .ok .null
  | .str s => .ok (.text s)
  | .bool b => .ok (.text (if b then "1" else "0"))
  | .int n => if -(2 ^ 63) ≤ n ∧ n < 2 ^ 63 then .ok (.text (toString n)) else .error .overflow
  | .float q s => .ok (real (.float q s))
  | .arr _ | .obj _ => .error .type

/-- What the columns of a stage keep of the changes. -/
def storedChange (real : Json → Column) (kv : String × Json) : Except Raise (String × Json) :=
  if kv.1 ∈ stageDates then (fun c => (kv.1, c.json)) <$> textColumn real kv.2 else .ok kv

/-- The `operation` of `update_stage` (lines 1056–1083). -/
def updateStageOperation (real : Json → Column) (env : Env) (actorHash : String) (u : StageUpdate)
    (h : Hub) : Except Raise (Hub × Json) := do
  let o ← orRaise (h.stages.get? u.id) (raising "not_found" "对象不存在" 404)
  ensure (o.version = u.version) (raising "version_conflict" "对象已被其他请求修改" 409)
  let candidate := Dict.merged o.document u.clean
  validateDateOrder candidate
  h.validateMutationCandidate .stage o.document candidate u.clean
  let stored ← u.clean.mapM (storedChange real)
  let table := h.stages.update u.id (HubObject.patched stored (env.now 0))
  ensure (uniqueColumns .stage table) (raising "stage_conflict" "对象名称或状态冲突" 409)
  let after := (o.patched stored (env.now 0)).document
  return (({ h with stages := table }).domainAudit (env.now 1) "update_stage" "stage" u.id actorHash
    u.key (some (.obj o.document)) (some (.obj after)) "", .obj after)

/-- `update_stage(payload, actor_hash=actor_hash)`. -/
def updateStage (real : Json → Column) (cfg : Config) (h : Hub) (env : Env) (payload : Dict)
    (actorHash : String) : Except Raise (Hub × Json × Bool) := do
  let u ← stageUpdate cfg payload
  runIdempotent cfg h env u.key (.obj [("tool", .str "renovation_stage_update"),
      ("stage_id", .str u.id), ("version", .int u.version), ("changes", .obj u.clean)])
    (updateStageOperation real env actorHash u)

/-! ## Calls -/

/-- A call of a tool that writes stages, with its arguments and its surroundings. -/
inductive StageCall where
  | create (env : Env) (payload : Dict) (actorHash : String)
  | update (env : Env) (payload : Dict) (actorHash : String)
  | mutate (env : Env) (payload : Dict) (actorHash : String)

namespace StageCall

variable (real : Json → Column) (cfg : Config) (h : Hub)

/-- What the call returns, with the database that it leaves. -/
def exec : StageCall → Except Raise (Hub × Json × Bool)
  | .create env payload actorHash => createStage cfg h env payload actorHash
  | .update env payload actorHash => updateStage real cfg h env payload actorHash
  | .mutate env payload actorHash => Renovation.mutate cfg h env payload actorHash

/-- The database after the call; a call that raises leaves it alone. -/
def step (c : StageCall) : Hub :=
  match c.exec real cfg h with
  | .ok (h', _) => h'
  | .error _ => h

end StageCall

/-! ## Dates as texts -/

/-- The ordinals of `date`. -/
def IsDay (day : ℤ) : Prop := 1 ≤ day ∧ day ≤ maxOrdinal

/-- A valid date, or none. -/
def DateOrEmpty (v : Json) : Prop :=
  v = .null ∨ v = .str "" ∨ ∃ day, IsDay day ∧ v = .str (dateText day)

/-- Two dates of a stage are in order when both are there. -/
def InOrder (start finish : Json) : Prop :=
  ∀ d d', IsDay d → IsDay d' → start = .str (dateText d) → finish = .str (dateText d') → d ≤ d'

/-- The dates of a row or a candidate. -/
structure DatesOrdered (row : Dict) : Prop where
  valid : ∀ f ∈ stageDates, DateOrEmpty (row.get f)
  planned : InOrder (row.get "planned_start") (row.get "planned_end")
  actual : InOrder (row.get "actual_start") (row.get "actual_end")

def Hub.StagesOrdered (h : Hub) : Prop := ∀ o ∈ h.stages.rows, DatesOrdered o.items

/-- The text of the first second of a day is the one of the day with a time. -/
theorem secondText_day {day : ℤ} (hday : IsDay day) :
    secondText ((day - epochOrdinal) * dayMicros) = (dateText day).toList ++ "T00:00:00".toList ∧
      inYears ((day - epochOrdinal) * dayMicros) = true ∧ (dateText day).toList.length = 10 := by
  obtain ⟨hpos, hmax⟩ := hday
  have hmicros : dayMicros = 86400000000 := rfl
  have hlast : maxOrdinal = 3652059 := rfl
  have hepoch : epochOrdinal = 719163 := rfl
  have hback : (day - epochOrdinal) * dayMicros / dayMicros + epochOrdinal = day := by
    rw [Int.mul_ediv_cancel _ (by decide)]
    omega
  obtain ⟨y, m, d, hymd⟩ : ∃ y m d, ymd day.toNat = (y, m, d) := ⟨_, _, _, rfl⟩
  obtain ⟨hy, hm, hd, -⟩ := ymd_ordinal (by omega) (by omega) hymd
  have hdays : daysInMonth y m ≤ 31 := by
    unfold daysInMonth
    split_ifs <;> omega
  have htext : (dateText day).toList =
      (padded 4 y).toList ++ ('-' :: ((padded 2 m).toList ++ ('-' :: (padded 2 d).toList))) := by
    have hdash : "-".toList = ['-'] := rfl
    unfold dateText
    rw [hymd]
    simp only [String.toList_append, hdash, List.append_assoc, List.cons_append, List.nil_append]
  have hstart : ((day - epochOrdinal) * dayMicros % dayMicros).toNat / 1000000 = 0 := by
    rw [Int.mul_emod_left]
    rfl
  have htime : 'T' :: ((padded 2 (0 / 3600)).toList ++ (':' :: ((padded 2 (0 / 60 % 60)).toList ++
      (':' :: (padded 2 (0 % 60)).toList)))) = "T00:00:00".toList := by decide +kernel
  have hymd' : ymd ((day - epochOrdinal) * dayMicros / dayMicros + epochOrdinal).toNat =
      (y, m, d) := by
    rw [hback]
    exact hymd
  refine ⟨?_, ?_, ?_⟩
  · rw [secondText_eq hymd', hstart, htime, htext]
    simp only [List.append_assoc, List.cons_append]
  · rw [inYears, decide_eq_true_eq, hmicros, hlast, hepoch]
    rw [hlast] at hmax
    constructor
    · exact Int.mul_le_mul_of_nonneg_right (by omega) (by decide)
    · refine Int.mul_lt_mul_of_pos_right ?_ (by decide)
      push_cast
      omega
  · rw [htext, List.length_append, List.length_cons, List.length_append, List.length_cons,
      length_padded (by decide) (by omega : y < 10 ^ 4),
      length_padded (by decide) (by omega : m < 10 ^ 2),
      length_padded (by decide) (by omega : d < 10 ^ 2)]

variable {d d' : ℤ} {field s f : String} {values patch : Dict} {u : Unit}

/-- The texts of dates are ordered as the dates are. -/
theorem dateText_lt (hd : IsDay d) (hd' : IsDay d') (h : d < d') : dateText d < dateText d' := by
  obtain ⟨htext, hin, hlength⟩ := secondText_day hd
  obtain ⟨htext', hin', hlength'⟩ := secondText_day hd'
  have hmicros : dayMicros = 86400000000 := rfl
  have hlt : (d - epochOrdinal) * dayMicros / 1000000 < (d' - epochOrdinal) * dayMicros / 1000000 := by
    rw [hmicros]
    omega
  have hless := secondText_lt hin hin' hlt [] []
  rw [List.append_nil, List.append_nil, htext, htext'] at hless
  rw [String.lt_iff_toList_lt]
  obtain hlt | heq | hgt := lt_trichotomy (dateText d).toList (dateText d').toList
  · exact hlt
  · rw [heq] at hless
    exact absurd hless (lt_irrefl _)
  · exact absurd (lt_append_of_lt (hlength'.trans hlength.symm) hgt _ _) (lt_asymm hless)

theorem dateText_le_iff (hd : IsDay d) (hd' : IsDay d') : dateText d ≤ dateText d' ↔ d ≤ d' := by
  obtain hlt | rfl | hgt := lt_trichotomy d d'
  · exact iff_of_true (dateText_lt hd hd' hlt).le hlt.le
  · exact iff_of_true le_rfl le_rfl
  · exact iff_of_false (not_le.mpr (dateText_lt hd' hd hgt)) (not_le.mpr hgt)

theorem dateText_ne_empty (hd : IsDay d) : dateText d ≠ "" := by
  intro h
  have hlength := (secondText_day hd).2.2
  rw [h] at hlength
  exact absurd hlength (by decide)

/-! ## What is checked of dates -/

theorem validateDate_ok {value : Json} (h : validateDate value field = .ok s) :
    ∃ day, IsDay day ∧ s = dateText day := by
  simp only [validateDate, bind_eq_ok, orRaise_eq_ok, pure_eq_ok] at h
  obtain ⟨text, -, day, hday, rfl⟩ := h
  unfold dateFromIsoformat at hday
  split_ifs at hday
  obtain ⟨-, hrange⟩ := Option.filter_eq_some_iff.mp hday
  have hrange : 1 ≤ day ∧ day ≤ maxOrdinal := of_decide_eq_true hrange
  exact ⟨day, hrange, rfl⟩

theorem optionalDate_ok {value : Json} {x : Option String} (h : optionalDate value field = .ok x) :
    DateOrEmpty (optionalStr x) := by
  simp only [optionalDate, bind_eq_ok] at h
  obtain ⟨blank, -, h⟩ := h
  split_ifs at h
  · obtain rfl := pure_eq_ok.mp h
    exact .inl rfl
  · simp only [bind_eq_ok, pure_eq_ok] at h
    obtain ⟨s, hs, rfl⟩ := h
    obtain ⟨day, hday, rfl⟩ := validateDate_ok hs
    exact .inr (.inr ⟨day, hday, rfl⟩)

theorem pyGreater_str (s t : String) :
    Json.pyGreater (.str s) (.str t) = some (decide (t < s)) := rfl

theorem truthy_str (h : s ≠ "") : truthy (.str s) = true := decide_eq_true h

/-- Dates that pass the check of the order are in order. -/
theorem validateDatePair_ok {start finish : String}
    (h : validateDatePair values start finish = .ok u) :
    InOrder (values.get start) (values.get finish) := by
  intro d d' hd hd' hstart hfinish
  unfold validateDatePair at h
  rw [hstart, hfinish, if_pos ⟨truthy_str (dateText_ne_empty hd),
    truthy_str (dateText_ne_empty hd')⟩, pyGreater_str, orRaise_some, ok_bind, ensure_eq_ok,
    decide_eq_false_iff_not, not_lt] at h
  exact (dateText_le_iff hd hd').mp h

theorem validateDateOrder_ok (h : validateDateOrder values = .ok u) :
    InOrder (values.get "planned_start") (values.get "planned_end") ∧
      InOrder (values.get "actual_start") (values.get "actual_end") := by
  simp only [validateDateOrder, bind_eq_ok] at h
  obtain ⟨_, hplanned, hactual⟩ := h
  exact ⟨validateDatePair_ok hplanned, validateDatePair_ok hactual⟩

/-! ## Rows -/

theorem DateOrEmpty.kept {v : Json} (h : DateOrEmpty v) : (Column.ofJson v).json = v := by
  obtain rfl | rfl | ⟨day, -, rfl⟩ := h <;> rfl

theorem inOrder_null {start finish : Json} (h : start = .null ∨ finish = .null) :
    InOrder start finish := by
  intro d d' _ _ hstart hfinish
  obtain rfl | rfl := h
  · cases hstart
  · cases hfinish

theorem HubObject.items_patched (patch : Dict) (now : String) (o : HubObject)
    (hf : f ∈ stageDates) : (o.patched patch now).items.get f =
      (Column.ofJson ((Dict.merged o.items patch).get f)).json := by
  have hne : f ≠ "updated_at" := by
    rintro rfl
    exact absurd hf (by decide)
  have hitems : (o.patched patch now).items =
      (Dict.assigned (Dict.merged o.items patch) "updated_at" (.str now)).map
        fun kv => (kv.1, (Column.ofJson kv.2).json) := by
    rw [HubObject.items, HubObject.patched, List.map_map]
    rfl
  rw [hitems, Dict.get_map (g := fun v => (Column.ofJson v).json) rfl, Dict.get_assigned hne]

theorem HubObject.stageDate_get (o : HubObject) (hf : f ∈ stageDates) :
    o.document.get f = o.items.get f := by
  have hne : f ≠ "id" ∧ f ≠ "version" := by
    constructor
    · rintro rfl
      exact absurd hf (by decide)
    · rintro rfl
      exact absurd hf (by decide)
  rw [HubObject.document, List.cons_append, Dict.get_cons, if_neg hne.1, Dict.get_append_eq]
  split_ifs with hhas
  · rfl
  · rw [Dict.get_cons, if_neg hne.2, Dict.get_of_not_has hhas]
    rfl

/-- A row keeps dates in order when what it is patched to has them. -/
theorem DatesOrdered.patched {o : HubObject} (h : DatesOrdered (Dict.merged o.items patch))
    (now : String) : DatesOrdered (o.patched patch now).items := by
  have hget : ∀ f ∈ stageDates, (o.patched patch now).items.get f =
      (Dict.merged o.items patch).get f := fun f hf =>
    (HubObject.items_patched patch now o hf).trans (h.valid f hf).kept
  refine ⟨fun f hf => ?_, ?_, ?_⟩
  · rw [hget f hf]
    exact h.valid f hf
  · rw [hget _ (by decide), hget _ (by decide)]
    exact h.planned
  · rw [hget _ (by decide), hget _ (by decide)]
    exact h.actual

/-- The dates of a candidate: those of the patch, and else those of the row. -/
theorem merged_valid {before : Dict} (h : ∀ f ∈ stageDates, DateOrEmpty (before.get f))
    (hpatch : ∀ f ∈ stageDates, patch.has f = true → DateOrEmpty (patch.get f)) :
    ∀ f ∈ stageDates, DateOrEmpty ((Dict.merged before patch).get f) := by
  intro f hf
  by_cases hhas : patch.has f = true
  · rw [Dict.get_merged_of_has hhas]
    exact hpatch f hf hhas
  · rw [Dict.get_merged (Bool.eq_false_iff.mpr hhas)]
    exact h f hf

/-! ## A new stage -/

section

variable {real : Json → Column} {cfg : Config} {env : Env} {h h' : Hub}

variable {clean : StageFields} {actorHash f : String} {result v : Json} {u : StageUpdate}
  {stored : Dict}

theorem stageFields_ok {payload : Dict} (hs : stageFields cfg payload = .ok clean) :
    DatesOrdered clean.document := by
  simp only [stageFields, bind_eq_ok, pure_eq_ok] at hs
  obtain ⟨_, _, _, _, _, _, _, _, _, _, ps, hps, pe, hpe, as, has, ae, hae, _, horder, rfl⟩ := hs
  obtain ⟨hplanned, hactual⟩ := validateDateOrder_ok horder
  refine ⟨fun f hf => ?_, hplanned, hactual⟩
  simp only [stageDates, List.mem_cons, List.not_mem_nil, or_false] at hf
  obtain rfl | rfl | rfl | rfl := hf
  · exact optionalDate_ok hps
  · exact optionalDate_ok hpe
  · exact optionalDate_ok has
  · exact optionalDate_ok hae

theorem StageFields.row_ordered {c : StageFields} (hc : DatesOrdered c.document) (id now : String) :
    DatesOrdered (c.row id now).items := by
  have hget : ∀ f ∈ stageDates, (c.row id now).items.get f = c.document.get f := by
    intro f hf
    have hitems : (c.row id now).items = (c.document.map fun kv => (kv.1, (Column.ofJson kv.2).json)) ++
        [("created_at", .str now), ("updated_at", .str now)] := by
      rw [HubObject.items, StageFields.row, List.map_append, List.map_map]
      rfl
    have hhas : Dict.has (c.document.map fun kv => (kv.1, (Column.ofJson kv.2).json)) f = true := by
      simp only [stageDates, List.mem_cons, List.not_mem_nil, or_false] at hf
      obtain rfl | rfl | rfl | rfl := hf <;> rfl
    rw [hitems, Dict.get_append_eq, if_pos hhas,
      Dict.get_map (g := fun v => (Column.ofJson v).json) rfl]
    exact (hc.valid f hf).kept
  refine ⟨fun f hf => ?_, ?_, ?_⟩
  · rw [hget f hf]
    exact hc.valid f hf
  · rw [hget _ (by decide), hget _ (by decide)]
    exact hc.planned
  · rw [hget _ (by decide), hget _ (by decide)]
    exact hc.actual

theorem createStageOperation_ok {key : String}
    (hs : createStageOperation env actorHash key clean h = .ok (h', result)) :
    h.stages.insert? (clean.row (env.uuid 0) (env.now 0)) = some h'.stages := by
  simp only [createStageOperation, bind_eq_ok, orRaise_eq_ok, pure_eq_ok, Prod.mk.injEq] at hs
  obtain ⟨_, _, _, _, table, htable, _, _, rfl, -⟩ := hs
  exact htable

/-! ## An update -/

theorem updateStageOperation_ok
    (hs : updateStageOperation real env actorHash u h = .ok (h', result)) :
    ∃ o stored, h.stages.get? u.id = some o ∧
      validateDateOrder (Dict.merged o.document u.clean) = .ok () ∧
      u.clean.mapM (storedChange real) = .ok stored ∧
      h'.stages = h.stages.update u.id (HubObject.patched stored (env.now 0)) := by
  simp only [updateStageOperation, bind_eq_ok, orRaise_eq_ok, pure_eq_ok, Prod.mk.injEq] at hs
  obtain ⟨o, ho, _, _, _, horder, _, _, stored, hstored, _, _, rfl, -⟩ := hs
  exact ⟨o, stored, ho, horder, hstored, rfl⟩

/-- What is kept of the changes, field by field. -/
theorem storedChanges_get {clean : Dict} (hs : clean.mapM (storedChange real) = .ok stored)
    (hf : f ∈ stageDates) : stored.has f = clean.has f ∧ (clean.has f = true →
      ∃ c, textColumn real (clean.get f) = .ok c ∧ stored.get f = c.json) := by
  have hall := mapM_ok hs
  clear hs
  induction hall with
  | nil => exact ⟨rfl, fun hhas => by cases hhas⟩
  | @cons kv kv' clean stored hkv _ ih =>
    have hkey : kv'.1 = kv.1 := by
      unfold storedChange at hkv
      split_ifs at hkv
      · obtain ⟨c, -, rfl⟩ := map_eq_ok.mp hkv
        rfl
      · cases hkv
        rfl
    have hhas : ∀ {kv : String × Json} {d : Dict},
        Dict.has (kv :: d) f = (decide (f = kv.1) || d.has f) := by
      intro kv d
      simp [Dict.has, beq_eq_decide]
    rw [hhas, hhas, hkey, ih.1]
    refine ⟨rfl, fun hor => ?_⟩
    rw [Dict.get_cons, Dict.get_cons, hkey]
    split_ifs with heq
    · unfold storedChange at hkv
      rw [← heq, if_pos hf] at hkv
      obtain ⟨c, hc, rfl⟩ := map_eq_ok.mp hkv
      exact ⟨c, hc, rfl⟩
    · rw [decide_eq_false heq, Bool.false_or] at hor
      exact ih.2 hor

/-- The dates that the changes name are kept as they are given, and are dates. -/
def StageUpdate.DatesValid (real : Json → Column) (u : StageUpdate) : Prop :=
  ∀ f ∈ stageDates, u.clean.has f = true → ∀ c, textColumn real (u.clean.get f) = .ok c →
    c = .null ∨ DateOrEmpty (u.clean.get f)

theorem textColumn_date (hv : DateOrEmpty v) {c : Column} (hc : textColumn real v = .ok c) :
    c.json = v := by
  obtain rfl | rfl | ⟨day, -, rfl⟩ := hv
  · cases hc
    rfl
  · cases hc
    rfl
  · unfold textColumn at hc
    cases hc
    rfl

/-- An update with valid dates leaves valid dates in order. -/
theorem updateStage_ordered {o : HubObject} (ho : DatesOrdered o.items)
    (hvalid : u.DatesValid real)
    (horder : validateDateOrder (Dict.merged o.document u.clean) = .ok ())
    (hstored : u.clean.mapM (storedChange real) = .ok stored) :
    DatesOrdered (Dict.merged o.items stored) := by
  have hkept : ∀ f ∈ stageDates, u.clean.has f = true →
      stored.get f = .null ∨ stored.get f = u.clean.get f ∧ DateOrEmpty (u.clean.get f) := by
    intro f hf hhas
    obtain ⟨c, hc, hget⟩ := (storedChanges_get hstored hf).2 hhas
    rw [hget]
    obtain rfl | hdate := hvalid f hf hhas c hc
    · exact .inl rfl
    · exact .inr ⟨textColumn_date hdate hc, hdate⟩
  have hcandidate : ∀ f ∈ stageDates, (Dict.merged o.items stored).get f = .null ∨
      (Dict.merged o.items stored).get f = (Dict.merged o.document u.clean).get f := by
    intro f hf
    obtain ⟨hhas, -⟩ := storedChanges_get hstored hf
    by_cases hnamed : u.clean.has f = true
    · rw [Dict.get_merged_of_has (hhas.trans hnamed), Dict.get_merged_of_has hnamed]
      exact (hkept f hf hnamed).imp_right And.left
    · have hno : u.clean.has f = false := Bool.eq_false_iff.mpr hnamed
      rw [Dict.get_merged (hhas.trans hno), Dict.get_merged hno, HubObject.stageDate_get o hf]
      exact .inr rfl
  have hpair : ∀ start ∈ stageDates, ∀ finish ∈ stageDates,
      InOrder ((Dict.merged o.document u.clean).get start)
        ((Dict.merged o.document u.clean).get finish) →
      InOrder ((Dict.merged o.items stored).get start)
        ((Dict.merged o.items stored).get finish) := by
    intro start hstart finish hfinish hin
    obtain hnull | hsame := hcandidate start hstart
    · exact inOrder_null (.inl hnull)
    obtain hnull | hsame' := hcandidate finish hfinish
    · exact inOrder_null (.inr hnull)
    · rwa [hsame, hsame']
  obtain ⟨hplanned, hactual⟩ := validateDateOrder_ok horder
  refine ⟨merged_valid ho.valid fun f hf hhas => ?_, ?_, ?_⟩
  · obtain hnull | ⟨hsame, hdate⟩ :=
      hkept f hf ((storedChanges_get hstored hf).1.symm.trans hhas)
    · exact .inl hnull
    · rwa [hsame]
  · exact hpair _ (by decide) _ (by decide) hplanned
  · exact hpair _ (by decide) _ (by decide) hactual

/-! ## A mutation -/

theorem cleanMutationValue_date {raw : Json} (hf : f ∈ stageDates)
    (hs : cleanMutationValue cfg .stage f raw = .ok v) : DateOrEmpty v := by
  have hdate : ∀ {f : String}, ((if (raw.isNull || raw.eqStr "") = true then return .null
      else .str <$> validateDate raw f : Except Raise Json)) = .ok v → DateOrEmpty v := by
    intro f hs
    split_ifs at hs
    · cases hs
      exact .inl rfl
    · obtain ⟨text, htext, rfl⟩ := map_eq_ok.mp hs
      obtain ⟨day, hday, rfl⟩ := validateDate_ok htext
      exact .inr (.inr ⟨day, hday, rfl⟩)
  simp only [stageDates, List.mem_cons, List.not_mem_nil, or_false] at hf
  obtain rfl | rfl | rfl | rfl := hf
  · exact hdate (f := "planned_start") hs
  · exact hdate (f := "planned_end") hs
  · exact hdate (f := "actual_start") hs
  · exact hdate (f := "actual_end") hs

/-- The patch leaves the dates of the stages that it is for in order. -/
def Mutation.KeepsOrder (u : Mutation) (h : Hub) : Prop :=
  u.targetType = .stage → ∀ id ∈ u.targetIds, ∀ o, h.stages.get? id = some o →
    InOrder ((Dict.merged o.items u.patch).get "planned_start")
        ((Dict.merged o.items u.patch).get "planned_end") ∧
      InOrder ((Dict.merged o.items u.patch).get "actual_start")
        ((Dict.merged o.items u.patch).get "actual_end")

section Mutate

variable {actorHash key : String} {u : Mutation} {acc acc' : Hub × List Dict}

variable {item : MutationItem}

theorem applyItem_stages_of_ne (htype : u.targetType ≠ .stage)
    (hs : applyItem cfg env actorHash key u acc item = .ok acc') :
    acc'.1.stages = acc.1.stages := by
  obtain ⟨after, ⟨-, hs⟩ | ⟨-, hs⟩⟩ := applyItem_ok hs
  · obtain ⟨_, -, heq, -⟩ := applyTransaction_ok hs
    rw [heq]
    rfl
  · obtain ⟨_, -, -, heq⟩ := applyObject_ok hs
    rw [heq]
    cases hu : u.targetType with
    | stage => exact absurd hu htype
    | _ => rfl

theorem applyItem_stages (htype : u.targetType = .stage)
    (hs : applyItem cfg env actorHash key u acc item = .ok acc') :
    ∃ now, acc'.1.stages = acc.1.stages.update item.id (HubObject.patched u.patch now) := by
  obtain ⟨after, hs⟩ := applyItem_object (by rw [htype]; decide) hs
  obtain ⟨_, -, -, heq⟩ := applyObject_ok hs
  rw [heq, htype]
  exact ⟨_, rfl⟩

/-- Every stage of the batch is patched once, and no other stage is. -/
theorem applyItems_stages (htype : u.targetType = .stage) {items : List MutationItem}
    (hnodup : (items.map MutationItem.id).Nodup)
    (hs : items.foldlM (applyItem cfg env actorHash key u) acc = .ok acc') {o' : HubObject}
    (ho' : o' ∈ acc'.1.stages.rows) : (o' ∈ acc.1.stages.rows) ∨
      ∃ o now, o.id ∈ items.map MutationItem.id ∧ acc.1.stages.get? o.id = some o ∧
        o' = o.patched u.patch now := by
  induction items generalizing acc with
  | nil =>
    cases hs
    exact .inl ho'
  | cons item items ih =>
    rw [List.foldlM_cons, bind_eq_ok] at hs
    obtain ⟨acc₁, hitem, hs⟩ := hs
    obtain ⟨now, hstages⟩ := applyItem_stages htype hitem
    rw [List.map_cons, List.nodup_cons] at hnodup
    obtain hold | ⟨o, now', hid, hget, rfl⟩ := ih hnodup.2 hs
    · rw [hstages, Table.mem_rows_iff, Table.get?_update_eq_some] at hold
      obtain ⟨o, hget, hrow⟩ := hold
      split_ifs at hrow with hsame
      · refine .inr ⟨o, now, ?_, ?_, hrow⟩
        · rw [Table.key_of_get? hget, hsame]
          exact List.mem_cons_self
        · rw [Table.key_of_get? hget]
          exact hget
      · subst hrow
        exact .inl (Table.mem_of_get? hget)
    · have hne : o.id ≠ item.id := by
        intro heq
        exact hnodup.1 (heq ▸ hid)
      rw [hstages, Table.get?_update_of_ne _ hne] at hget
      exact .inr ⟨o, now', List.mem_cons_of_mem _ hid, hget, rfl⟩

/-- A mutation that keeps the dates in order. -/
theorem mutate_ordered {digest : String} {result : Json} (hh : h.StagesOrdered) (hu : u.Clean cfg)
    (hids : u.targetIds.Nodup) (horder : u.KeepsOrder h)
    (hs : mutateOperation cfg env actorHash key u digest h = .ok (h', result)) :
    h'.StagesOrdered := by
  obtain ⟨items, results, hitems, -, hfold⟩ := mutateOperation_ok hs
  by_cases htype : u.targetType = .stage
  · have hnames := Hub.prepareItems_ids hitems
    intro o' ho'
    obtain hold | ⟨o, now, hid, hget, rfl⟩ :=
      applyItems_stages htype (hnames ▸ hids) hfold ho'
    · exact hh o' hold
    · rw [hnames] at hid
      obtain ⟨hplanned, hactual⟩ := horder htype o.id hid o hget
      refine DatesOrdered.patched ⟨?_, hplanned, hactual⟩ now
      refine merged_valid (hh o (Table.mem_of_get? hget)).valid fun f hf hhas => ?_
      obtain ⟨raw, hraw⟩ := hu.read f hhas
      rw [htype] at hraw
      exact cleanMutationValue_date hf hraw
  · have hstages : h'.stages = h.stages :=
      foldlM_ok (P := fun acc : Hub × List Dict => acc.1.stages = h.stages)
        (fun item _ acc acc' hacc hitem => (applyItem_stages_of_ne htype hitem).trans hacc) rfl hfold
    intro o ho
    exact hh o (hstages ▸ ho)

end Mutate

end

/-! ## Runs -/

namespace StageCall

variable (real : Json → Column) (cfg : Config) (h : Hub)

/-- The call is carried out: its operation turns the first database into the second. -/
inductive Carries : StageCall → Hub → Prop where
  | create {env : Env} {payload : Dict} {actorHash key : String} {clean : StageFields} {h' : Hub}
      {result : Json} (hclean : stageFields cfg payload = .ok clean)
      (hop : createStageOperation env actorHash key clean h = .ok (h', result)) :
      Carries (.create env payload actorHash) h'
  | update {env : Env} {payload : Dict} {actorHash : String} {u : StageUpdate} {h' : Hub}
      {result : Json} (hu : stageUpdate cfg payload = .ok u)
      (hop : updateStageOperation real env actorHash u h = .ok (h', result)) :
      Carries (.update env payload actorHash) h'
  | mutate {env : Env} {payload : Dict} {actorHash key digest : String} {u : Mutation} {h' : Hub}
      {result : Json} (hu : mutation cfg payload = .ok u)
      (hop : mutateOperation cfg env actorHash key u digest h = .ok (h', result)) :
      Carries (.mutate env payload actorHash) h'

/-- An update that is carried out names valid dates, and a mutation leaves those of its stages in
    order. -/
def Orderly (c : StageCall) : Prop :=
  match c with
  | .create _ _ _ => True
  | .update env payload actorHash => ∀ u h' result, stageUpdate cfg payload = .ok u →
      updateStageOperation real env actorHash u h = .ok (h', result) → u.DatesValid real
  | .mutate env payload actorHash => ∀ u key digest h' result, mutation cfg payload = .ok u →
      mutateOperation cfg env actorHash key u digest h = .ok (h', result) → u.KeepsOrder h

variable {real cfg h}

/-- A call leaves the database alone or is carried out. -/
theorem step_cases (c : StageCall) : c.step real cfg h = h ∨ ∃ h₁ keys now,
    c.Carries real cfg h h₁ ∧ c.step real cfg h = h₁.filed keys now := by
  have hrun : ∀ {env : Env} {key : String} {request : Json}
      {operation : Hub → Except Raise (Hub × Json)} {x : Hub × Json × Bool},
      runIdempotent cfg h env key request operation = .ok x →
      (∀ h₁ result, operation h = .ok (h₁, result) → c.Carries real cfg h h₁) →
      x.1 = h ∨ ∃ h₁ keys now, c.Carries real cfg h h₁ ∧ x.1 = h₁.filed keys now := by
    intro env key request operation x hok hcarries
    obtain ⟨_, _, _, rfl⟩ | ⟨_, h₁, result, keys, hop, _, rfl⟩ := runIdempotent_eq_ok.mp hok
    · exact .inl rfl
    · exact .inr ⟨h₁, keys, _, hcarries h₁ result hop, rfl⟩
  unfold step
  cases hx : c.exec real cfg h with
  | error e => exact .inl rfl
  | ok x =>
    cases c with
    | create env payload actorHash =>
      simp only [exec, createStage, bind_eq_ok] at hx
      obtain ⟨key, _, clean, hclean, hx⟩ := hx
      exact hrun hx fun _ _ hop => .create hclean hop
    | update env payload actorHash =>
      simp only [exec, updateStage, bind_eq_ok] at hx
      obtain ⟨u, hu, hx⟩ := hx
      exact hrun hx fun _ _ hop => .update hu hop
    | mutate env payload actorHash =>
      simp only [exec, Renovation.mutate, bind_eq_ok] at hx
      obtain ⟨mode, _, hx⟩ := hx
      split_ifs at hx
      · simp only [bind_eq_ok, pure_eq_ok] at hx
        obtain ⟨_, _, rfl⟩ := hx
        exact .inl rfl
      · simp only [mutateApply, bind_eq_ok] at hx
        obtain ⟨u, hu, _, _, digest, _, key, _, hx⟩ := hx
        exact hrun hx fun _ _ hop => .mutate hu hop

/-- A call that is carried out in order leaves every stage in order. -/
theorem Carries.ordered {c : StageCall} {h₁ : Hub} (hc : c.Carries real cfg h h₁)
    (hh : h.StagesOrdered) (horderly : c.Orderly real cfg h) : h₁.StagesOrdered := by
  cases hc with
  | create hclean hop =>
    intro o ho
    rw [Table.rows_insert? (createStageOperation_ok hop), List.mem_append, List.mem_singleton] at ho
    obtain ho | rfl := ho
    · exact hh o ho
    · exact StageFields.row_ordered (stageFields_ok hclean) _ _
  | update hu hop =>
    obtain ⟨o, stored, hget, horder, hstored, hstages⟩ := updateStageOperation_ok hop
    intro o' ho'
    rw [hstages, Table.mem_rows_iff, Table.get?_update_eq_some] at ho'
    obtain ⟨o₁, hget₁, hrow⟩ := ho'
    split_ifs at hrow with hsame
    · rw [hsame, hget, Option.some.injEq] at hget₁
      subst hget₁ hrow
      exact (updateStage_ordered (hh o (Table.mem_of_get? hget)) (horderly _ _ _ hu hop) horder
        hstored).patched _
    · subst hrow
      exact hh o' (Table.mem_of_get? hget₁)
  | mutate hu hop =>
    exact mutate_ordered hh (mutation_clean hu) (mutation_nodup hu) (horderly _ _ _ _ _ hu hop) hop

/-- A stage that is planned to begin on 2026-08-01. -/
def sampleCreate : StageCall :=
  .create (sampleEnv "stage-01") [("idempotency_key", .str "stage-create-0001"),
    ("project_id", .str "project-01"), ("name", .str "Kitchen"),
    ("planned_start", .str "2026-08-01")] "owner"

/-- An update of when it is planned to end. -/
def sampleUpdate (value : Json) : StageCall :=
  .update (sampleEnv "audit-01") [("idempotency_key", .str "stage-update-0001"),
    ("stage_id", .str "stage-01"), ("version", .int 1),
    ("changes", .obj [("planned_end", value)])] "owner"

/-- When a stage is planned to end. -/
def plannedEnd? (h : Hub) (id : String) : Option Json :=
  (h.stages.get? id).map fun o => o.items.get "planned_end"

end StageCall

end HomeAddons.Renovation
