import HomeAddons.Common.IsoTime
import HomeAddons.Common.Pattern
import HomeAddons.Controller.Jobs

/-!
# Codex Controller: what a text asks for

The commands that `service.py` reads from the text of a message without the agent (lines 33–110 and
120–336): the intent to archive media, the memo that is spoken, the memos that are listed and the
memo that is done, with the texts that answer them.
-/

namespace HomeAddons.Controller

open HomeAddons.Common

/-- What `_dispatch` tells apart of an exception (lines 928–947). -/
inductive Fault where
  /-- `AppServerError`. -/
  | appServer (code : String) (definitive : Bool)
  /-- `StoreError`. -/
  | store (code : String)
  /-- `MediaInputError`. -/
  | media (code : String)
  /-- `ToolProxyError`. -/
  | tool (code message : String)
  /-- Any other exception. -/
  | internal
  deriving DecidableEq

/-- An exception of the store or of the context. -/
def Raise.fault : Raise → Fault
  | .store e => .store e.code
  | .tool code message => .tool code message
  | _ => .internal

/-- A time zone: the offset at an instant, and the offset of a local time. -/
structure Zone where
  utcOffset : Instant → ℤ
  wallOffset : ℤ → ℤ

/-- `Asia/Shanghai`, the zone of the host and `str.casefold`, with what the store is opened with. -/
structure TextEnv extends Settings where
  shanghai : Zone
  system : Zone
  casefold : String → String

/-- `value if isinstance(value, dict) else {}`. -/
def dictOf (v : Json) : Dict := v.asDict?.getD []

/-- `re.sub(r"\s+", "", text)`. -/
def withoutSpace (text : String) : String :=
  String.ofList (text.toList.filter fun c => !isPySpace c)

/-! ## The intent to archive media -/

section Archive

open Pattern

def archiveActionWords : List String := ["归档", "存档", "保存", "添加", "加入", "关联", "记录"]
def archivePlaces : List String := ["装修", "施工", "工地", "现场"]
def archiveMediaWords : List String := ["照片", "图片", "视频", "媒体"]
def archiveMediaActions : List String := ["归档", "存档", "归入", "收录", "记录"]
def quoteWords : List String := ["询价", "报价", "报价单", "价格单", "名片", "商品规格", "产品规格"]

/-- `(?:first).{0,gap}(?:second)`. -/
def within (first : List String) (gap : ℕ) (second : Pattern String) : Pattern String := do
  let _ ← oneOf first
  let _ ← chars dot 0 (some gap)
  second

/-- `MEDIA_ARCHIVE_ACTION_RE`. -/
def mediaArchiveAction : Pattern String := oneOf archiveActionWords

/-- `MEDIA_ARCHIVE_TARGET_RE`. -/
def mediaArchiveTarget : Pattern String :=
  within archivePlaces 12 (oneOf ["档案", "记录", "媒体库", "资料库"])

/-- `MEDIA_ARCHIVE_MEDIA_ACTION_RE`. -/
def mediaArchiveMediaAction : Pattern String :=
  within archivePlaces 12 (within archiveMediaWords 8 (oneOf archiveMediaActions)) <|>
    within archiveMediaActions 8 (within archivePlaces 12 (oneOf archiveMediaWords))

/-- `QUOTE_ARCHIVE_TARGET_RE`. -/
def quoteArchiveTarget : Pattern String :=
  oneOf ["询价", "报价", "报价单", "价格单", "供应商", "名片", "商品规格", "产品规格"]

/-- `QUOTE_ARCHIVE_MEDIA_ACTION_RE`. -/
def quoteArchiveMediaAction : Pattern String :=
  within quoteWords 10 (oneOf archiveActionWords) <|>
    within archiveActionWords 10 (oneOf quoteWords)

/-- `MEDIA_ARCHIVE_NEGATION_RE`. -/
def mediaArchiveNegation : Pattern String :=
  within ["不要", "别", "无需", "不用", "不需要"] 12 (oneOf archiveActionWords)

/-- `has_explicit_media_archive_intent(text, attachments)` (lines 94–110). -/
def hasExplicitMediaArchiveIntent (text : String) (attachments : List AttachmentInput) : Bool :=
  if strip text = "" ∨ attachments.isEmpty then false
  else
    let normalized := withoutSpace text
    if search mediaArchiveNegation normalized then false
    else search mediaArchiveAction normalized &&
      (search mediaArchiveTarget normalized || search mediaArchiveMediaAction normalized ||
        search quoteArchiveTarget normalized || search quoteArchiveMediaAction normalized)

end Archive

/-! ## A spoken memo -/

section Memo

open Pattern

/-- A character of `\d`. -/
def isDecimal (c : Char) : Bool := (decimalDigit? c).isSome

/-- `int(value)` of characters of `\d`. -/
def decimalValue (value : String) : ℕ :=
  value.toList.foldl (fun n c => 10 * n + (decimalDigit? c).getD 0) 0

/-- `CHINESE_DIGITS`. -/
def chineseDigits : List (String × ℕ) :=
  [("零", 0), ("〇", 0), ("一", 1), ("二", 2), ("两", 2), ("三", 3), ("四", 4), ("五", 5), ("六", 6),
    ("七", 7), ("八", 8), ("九", 9)]

/-- `_chinese_number(value)` (lines 120–137). -/
def chineseNumber (value : String) : Option ℕ :=
  if value ≠ "" ∧ value.toList.all isDecimal = true then some (decimalValue value)
  else
    let normalized := value.toList.map fun c => if c = '两' then '二' else if c = '〇' then '零' else c
    if '十' ∈ normalized then do
      let left := String.ofList (normalized.takeWhile fun c => c ≠ '十')
      let right := String.ofList (normalized.dropWhile fun c => c ≠ '十').tail
      let tens ← if left = "" then some 1 else chineseDigits.lookup left
      let ones ← if right = "" then some 0 else chineseDigits.lookup right
      return tens * 10 + ones
    else do
      let digits ← normalized.mapM fun c => chineseDigits.lookup (String.singleton c)
      if digits = [] then none else return digits.foldl (fun n d => 10 * n + d) 0

/-- `MEMO_CREATE_PREFIX_RE`. -/
def memoCreatePrefix : Pattern Unit := do
  let _ ← chars isPySpace 0 none
  let _ ← opt (lit "请")
  let _ ← opt (lit "帮我")
  let _ ← oneOf ["记一下", "记下", "记录一下"] <|>
    (do let _ ← oneOf ["添加", "新增"]; let _ ← opt (lit "一个"); lit "备忘录") <|> lit "提醒我"
  let _ ← chars (fun c => "，,：:".toList.contains c || isPySpace c) 0 none
  return ()

/-- The day that `MEMO_DUE_RE` reads. -/
inductive SpokenDay where
  | relative (word : String)
  | date (month day : String)
  deriving DecidableEq

/-- The groups of a match of `MEMO_DUE_RE`; a minute with a colon counts as a minute. -/
structure SpokenDue where
  day : Option SpokenDay
  period : Option String
  hour : String
  half : Bool
  minute : Option String
  deriving DecidableEq

/-- The characters of a number of hours. -/
def isHourNumeral (c : Char) : Bool := "零〇一二两三四五六七八九十".toList.contains c

/-- `(?P<relative>…)|(?P<month>\d{1,2})月(?P<day>\d{1,2})日`. -/
def spokenDay : Pattern SpokenDay :=
  SpokenDay.relative <$> oneOf ["今天", "明天", "后天"] <|> do
    let month ← chars isDecimal 1 (some 2)
    let _ ← lit "月"
    let day ← chars isDecimal 1 (some 2)
    let _ ← lit "日"
    return .date month day

/-- The minutes after the hour: `half` and the text of the minute. -/
def spokenMinute : Pattern (Bool × Option String) :=
  (do
    let _ ← oneOf ["点", "时"]
    let rest ← opt ((do let _ ← lit "半"; return (true, none)) <|> do
      let minute ← chars (fun c => isHourNumeral c || isDecimal c) 1 (some 3)
      let _ ← opt (lit "分")
      return (false, some minute))
    return rest.getD (false, none)) <|> do
    let _ ← oneOf [":", "："]
    let minute ← chars isDecimal 1 (some 2)
    return (false, some minute)

/-- `MEMO_DUE_RE`. -/
def memoDue : Pattern SpokenDue := do
  let day ← opt spokenDay
  let _ ← chars isPySpace 0 none
  let period ← opt (oneOf ["凌晨", "早上", "上午", "中午", "下午", "晚上"])
  let _ ← chars isPySpace 0 none
  let hour ← chars isDecimal 1 (some 2) <|> chars isHourNumeral 1 (some 3)
  let (half, minute) ← spokenMinute
  return ⟨day, period, hour, half, minute⟩

/-- The hour and the minute of a match (lines 154–166). -/
def SpokenDue.time (due : SpokenDue) : Option (ℕ × ℕ) := do
  let hour ← chineseNumber due.hour
  let minute ← if due.half then some 30 else match due.minute with
    | none => some 0
    | some text => chineseNumber text
  if hour ≤ 23 ∧ minute ≤ 59 then
    let hour :=
      if (due.period = some "下午" ∨ due.period = some "晚上") ∧ hour < 12 then hour + 12
      else if due.period = some "中午" ∧ hour < 11 then hour + 12
      else if (due.period = some "凌晨" ∨ due.period = some "早上" ∨ due.period = some "上午") ∧
        hour = 12 then 0
      else hour
    return (hour, minute)
  else none

/-- The number of a day since 1970-01-01 is between the years 1 and 9999. -/
def isDay (day : ℤ) : Bool := 1 ≤ day + epochOrdinal ∧ day + epochOrdinal ≤ maxOrdinal

/-- `value.astimezone(zone)` of an instant, as a local time; `none` is an `OverflowError`. -/
def Zone.localTime (zone : Zone) (instant : Instant) : Option ℤ :=
  if isDay (instant / dayMicros) then
    some (instant + zone.utcOffset instant) |>.filter fun t => isDay (t / dayMicros)
  else none

/-- `date.replace(month=month, day=day)` in a year; `none` is a `ValueError`. -/
def replaced (year month day : ℕ) : Option ℤ :=
  if year ≤ 9999 then (calendarDate year month day).map fun n => n - epochOrdinal else none

/-- The day that is meant, for a message of the local day `today` (lines 175–196). `none` is the
    exception, `some none` is no memo. -/
def SpokenDue.targetDay (due : SpokenDue) (today : ℤ) : Option (Option ℤ) :=
  match due.day with
  | some (.relative word) =>
    let day := today + (if word = "今天" then 0 else if word = "明天" then 1 else 2)
    if isDay day then some (some day) else none
  | some (.date month day) =>
    let year := (ymd (today + epochOrdinal).toNat).1
    match replaced year (decimalValue month) (decimalValue day) with
    | none => some none
    | some target =>
      if target < today then some (replaced (year + 1) (decimalValue month) (decimalValue day))
      else some (some target)
  | none => some (some today)

/-- `±HH:MM[:SS]` of an offset. -/
def offsetText (offset : ℤ) : String :=
  let s := offset.natAbs / 1000000
  (if offset < 0 then "-" else "+") ++ padded 2 (s / 3600) ++ ":" ++ padded 2 (s / 60 % 60) ++
    (if s % 60 = 0 then "" else ":" ++ padded 2 (s % 60))

/-- `isoformat(timespec="seconds")` of a local time of a zone. -/
def Zone.isoformat (zone : Zone) (wall : ℤ) : String :=
  let (y, m, d) := ymd (wall / dayMicros + epochOrdinal).toNat
  let s := (wall % dayMicros).toNat / 1000000
  padded 4 y ++ "-" ++ padded 2 m ++ "-" ++ padded 2 d ++ "T" ++ padded 2 (s / 3600) ++ ":" ++
    padded 2 (s / 60 % 60) ++ ":" ++ padded 2 (s % 60) ++ offsetText (zone.wallOffset wall)

/-- `due_at` for a message received at the local time `received` (lines 175–208). `none` is the
    exception, `some none` is no memo. -/
def SpokenDue.dueAt (due : SpokenDue) (received : ℤ) (hour minute : ℕ) : Option (Option ℤ) := do
  match ← due.targetDay (received / dayMicros) with
  | none => return none
  | some day =>
    let wall := day * dayMicros + ((hour * 60 + minute) * 60000000 : ℕ)
    if due.day = none ∧ wall ≤ received then
      if isDay (wall / dayMicros + 1) then return some (wall + dayMicros) else none
    else return some wall

/-- `content` of the memo (lines 209–210). -/
def memoContent (rest : String) : String :=
  let text := rest.toList.dropWhile fun c => "，,。；;：: \t".toList.contains c
  let text := match ["提醒我", "记得"].find? fun w => w.toList.isPrefixOf text with
    | some w => (text.drop w.length).dropWhile isPySpace
    | none => text
  strip (String.ofList text)

/-- `RENOVATION_MEMO_RE`. -/
def renovationMemo : Pattern String :=
  oneOf ["装修", "施工", "工地", "铝瓦", "地暖", "门窗", "瓷砖", "木工", "油漆", "水电"]

/-- `direct_memo_create_arguments(payload)` (lines 140–220); the exception is an `OverflowError`. -/
def directMemoCreateArguments (env : TextEnv) (input : JobInput) : Except Fault (Option Dict) :=
  if !input.attachments.isEmpty then .ok none
  else match do
      let (_, rest) ← matchFront memoCreatePrefix input.text
      let (due, rest) ← matchFront memoDue (strip rest)
      let time ← due.time
      let (micros, offset) ← fromIsoformat input.receivedAt
      let offset ← offset
      some (due, rest, time, micros - offset) with
  | none => .ok none
  | some (due, rest, (hour, minute), instant) => do
    let received ← orRaise (env.shanghai.localTime instant) Fault.internal
    match ← orRaise (due.dueAt received hour minute) Fault.internal with
    | none => return none
    | some wall =>
      let content := memoContent rest
      if content = "" then return none
      else return some (
        [("content", .str content), ("due_at", .str (env.shanghai.isoformat wall)),
          ("priority", .str "normal")] ++
        if search renovationMemo content then [("category", .str "装修")] else [])

/-! ## Listed memos -/

/-- `(?:请)?(?:verbs)(?:一下)?`. -/
def memoVerb (verbs : List String) : Pattern Unit := do
  let _ ← opt (lit "请")
  let _ ← oneOf verbs
  let _ ← opt (lit "一下")
  return ()

/-- `(?:的)?(?:备忘录|事项|事情)[？?。.]?`. -/
def memoNoun : Pattern Unit := do
  let _ ← opt (lit "的")
  let _ ← oneOf ["备忘录", "事项", "事情"]
  let _ ← opt (oneOf ["？", "?", "。", "."])
  return ()

def showVerbs : List String := ["显示", "查看", "列出", "看看", "告诉我"]
def askVerbs : List String := showVerbs ++ ["有哪些", "有什么"]

/-- `MEMO_LIST_PENDING_RE` and `MEMO_LIST_OVERDUE_RE`. -/
def memoListState (states : List String) : Pattern Unit := do
  memoVerb askVerbs
  let _ ← opt (lit "所有")
  let _ ← oneOf states
  memoNoun

/-- `MEMO_LIST_TODAY_RE`. -/
def memoListToday : Pattern Unit := do
  memoVerb showVerbs
  let _ ← lit "今天"
  memoNoun

/-- `direct_memo_list_arguments(payload)` (lines 237–251). -/
def directMemoListArguments (input : JobInput) : Option Dict :=
  if !input.attachments.isEmpty then none
  else
    let normalized := withoutSpace (strip input.text)
    if (fullmatch (memoListState ["未完成", "待完成", "待办", "待处理"]) normalized).isSome then
      some [("status", .str "pending"), ("limit", .int 20)]
    else if (fullmatch memoListToday normalized).isSome then
      some [("status", .str "pending"), ("date", .str "today"), ("limit", .int 20)]
    else if (fullmatch (memoListState ["逾期", "过期"]) normalized).isSome then
      some [("status", .str "pending"), ("overdue", .bool true), ("limit", .int 20)]
    else none

/-! ## A memo that is done -/

/-- `MEMO_COMPLETE_PREFIX_RE`, with its query. -/
def memoCompletePrefix : Pattern String := do
  let _ ← opt (lit "请")
  let _ ← opt (lit "帮我")
  let _ ← oneOf ["完成", "办完", "标记完成", "设为完成"]
  let _ ← chars (fun c => "：:".toList.contains c || isPySpace c) 0 none
  let query ← lazyChars dot 1 none
  let _ ← opt (oneOf ["。", "."])
  return query

/-- `MEMO_COMPLETE_SUFFIX_RE`, with its query. -/
def memoCompleteSuffix : Pattern String := do
  let _ ← opt (lit "请")
  let _ ← oneOf ["把", "将"]
  let _ ← chars isPySpace 0 none
  let query ← lazyChars dot 1 none
  let _ ← chars isPySpace 0 none
  let _ ← opt (oneOf ["标记为", "设为"])
  let _ ← opt (lit "已")
  let _ ← lit "完成"
  let _ ← opt (oneOf ["。", "."])
  return query

/-- `value.strip(characters)`. -/
def stripOf (characters : String) (value : String) : String :=
  let dropped := fun l : List Char => l.dropWhile fun c => characters.toList.contains c
  String.ofList (dropped (dropped value.toList).reverse).reverse

/-- `direct_memo_complete_query(payload)` (lines 254–267). -/
def directMemoCompleteQuery (input : JobInput) : Option String :=
  let normalized := strip input.text
  if !input.attachments.isEmpty || normalized = "" || normalized.toList.getLast? = some '?' ||
      normalized.toList.getLast? = some '？' then none
  else
    (fullmatch memoCompletePrefix normalized <|> fullmatch memoCompleteSuffix normalized).bind
      fun query => some (stripOf " ，,。.;；:：\t" query) |>.filter (· ≠ "")

end Memo

/-! ## The answers -/

section Answers

variable (env : TextEnv)

/-- `value or default`, as a text. -/
def textOr (v : Json) (default : String) : String :=
  if truthy v then strOf env.toSettings v else default

/-- `document` and `memo` of an answer (lines 224–225). -/
def memoDocument (result : Dict) : Dict := dictOf (result.get "result")

/-- `datetime.fromisoformat(text).astimezone(SHANGHAI)` as a local time: `none` is a `ValueError`,
    `some none` an `OverflowError`. -/
def dueLocal (text : String) : Option (Option ℤ) :=
  (fromIsoformat text).map fun (micros, offset) =>
    env.shanghai.localTime (micros - offset.getD (env.system.wallOffset micros))

/-- The year, the month, the day and `%H:%M` of a local time. -/
def localParts (wall : ℤ) : ℕ × ℕ × ℕ × String :=
  let (y, m, d) := ymd (wall / dayMicros + epochOrdinal).toNat
  let minutes := (wall % dayMicros).toNat / 60000000
  (y, m, d, padded 2 (minutes / 60) ++ ":" ++ padded 2 (minutes % 60))

/-- `memo_create_result_text(result, arguments)` (lines 223–234). -/
def memoCreateResultText (result arguments : Dict) : Except Fault String := do
  let document := memoDocument result
  let memo := dictOf (document.get "memo")
  let content := textOr env (memo.get "content") (strOf env.toSettings (arguments.get "content"))
  let dueAt := textOr env (memo.get "due_at") (strOf env.toSettings (arguments.get "due_at"))
  let wall ← orRaise (dueLocal env dueAt).join Fault.internal
  let (y, m, d, time) := localParts wall
  return s!"已记下：{content}\n提醒时间：{y}年{m}月{d}日 {time}" ++
    if (document.get "idempotent_replay").asBool? = some true then
      "\n这条微信已处理过，没有重复创建。" else ""

/-- `raise ToolProxyError("memo_response_invalid", message)`. -/
def memoResponseInvalid (message : String) : Fault := .tool "memo_response_invalid" message

/-- `_memo_records(result)` (lines 270–277); an unhashable `count` is a `TypeError`. -/
def memoRecords (result : Dict) : Except Fault (List Dict) := do
  let document := result.get "result"
  let records := match document.asDict? with
    | some d => d.get "items"
    | none => document
  let records ← orRaise (records.asList?.bind fun l => l.mapM (·.asDict?))
    (memoResponseInvalid "家庭备忘录查询响应无效")
  match document.asDict? with
  | none => return records
  | some d =>
    let count := d.get "count"
    ensure (count.hashable = true) .internal
    ensure (count.isNull = true ∨ count.eqInt records.length = true)
      (memoResponseInvalid "家庭备忘录查询数量无效")
    return records

/-- `_memo_display_content(record)`. -/
def memoDisplayContent (record : Dict) : String :=
  textOr env (record.get "content") (textOr env (record.get "title") "未命名事项")

/-- `_memo_due_label(record)` (lines 284–292). -/
def memoDueLabel (record : Dict) : Except Fault (Option String) :=
  match ((record.get "due_at").asStr?.filter (· ≠ "")).bind (dueLocal env) with
  | none => .ok none
  | some none => .error .internal
  | some (some wall) =>
    let (_, m, d, time) := localParts wall
    .ok (some s!"{m}月{d}日 {time}")

/-- `memo_list_result_text(result)` (lines 295–304). -/
def memoListResultText (result : Dict) : Except Fault String := do
  let records ← memoRecords result
  if records = [] then return "没有找到符合条件的备忘录。"
  else
    let labels ← records.mapM (memoDueLabel env)
    let lines := (records.zip labels).zipIdx.map fun ((record, due), index) =>
      s!"{index + 1}. " ++ memoDisplayContent env record ++ match due with
        | some due => "（" ++ due ++ "）"
        | none => ""
    return joinWith "\n" (s!"找到 {records.length} 条备忘录：" :: lines)

/-- `_memo_match_key(value)`. -/
def memoMatchKey (v : Json) : String :=
  env.casefold (String.ofList ((textOr env v "").toList.filter fun c =>
    !(isPySpace c || "，,。.;；:：".toList.contains c)))

/-- `needle in text`. -/
def isPartOf (needle text : String) : Bool := text.toList.tails.any needle.toList.isPrefixOf

/-- `matching_pending_memos(records, query)` (lines 311–336). -/
def matchingPendingMemos (records : List Dict) (query : String) : List Dict :=
  let queryKey := memoMatchKey env (.str query)
  let keys := fun record : Dict =>
    [memoMatchKey env (record.get "content"), memoMatchKey env (record.get "title")]
  let exactly := records.filter fun record => queryKey ≠ "" && (keys record).contains queryKey
  if exactly ≠ [] then exactly
  else records.filter fun record => queryKey ≠ "" && (keys record).any fun candidate =>
    candidate ≠ "" && (isPartOf queryKey candidate || isPartOf candidate queryKey)

/-- `memo_complete_result_text(result, fallback)`. -/
def memoCompleteResultText (result fallback : Dict) : String :=
  let memo := dictOf ((memoDocument result).get "memo")
  "已完成：" ++ memoDisplayContent env (if memo.isEmpty then fallback else memo)

end Answers

end HomeAddons.Controller
