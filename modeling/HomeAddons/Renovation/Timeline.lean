import HomeAddons.Common.IsoOrder
import HomeAddons.Renovation.Categories

/-!
# Renovation Hub: the timeline

`timeline` (`hub.py`, lines 1119–1159) selects, orders and cuts off the events of a project in one
statement that compares their times as texts, and only then looks for the keyword. The texts end
with a `Z`, so that a whole second comes after all its fractions.

* `timeline_latest_iff`: the timeline is exact and chronological exactly when no whole second stands
  before its fractions where it does harm and the limit cuts off no match.
-/

namespace HomeAddons.Renovation

open HomeAddons.Common

/-! ## The code -/

/-- The filters of the timeline, as texts; an empty text is one that is not given. -/
structure TimelineFilters where
  projectId : String
  stageId : String := ""
  areaId : String := ""
  eventType : String := ""
  status : String := ""
  start : String := ""
  stop : String := ""
  keyword : String := ""

/-- The filters as the timeline reads them. -/
structure TimelineCriteria where
  projectId : String
  stageId : String
  areaId : String
  eventType : String
  status : String
  start : Option String
  stop : Option String
  keyword : String
  deriving DecidableEq

/-- A filter on a field of few values, when it is given. -/
def choiceFilter (value field : String) (allowed : List String) : Except Raise String :=
  if value = "" then return "" else choiceOf (.str value) field allowed

/-- A filter on a time, when it is given. -/
def timeBound (value field : String) : Except Raise (Option String) :=
  if value = "" then return none else some <$> datetimeText value field " 必须是带时区的 ISO 8601"

/-- Lines 1120–1150, up to the statement. -/
def TimelineFilters.criteria (cfg : Config) (f : TimelineFilters) (limit : ℤ) :
    Except Raise TimelineCriteria := do
  let projectId ← text cfg (.str f.projectId) "project_id" 64 true
  let eventType ← choiceFilter f.eventType "event_type" eventTypes
  let status ← choiceFilter f.status "status" TargetType.event.statuses
  let start ← timeBound f.start "start"
  let stop ← timeBound f.stop "end"
  ensure (1 ≤ limit ∧ limit ≤ 1000) (rejecting "invalid_input" "limit 必须为 1 到 1000")
  let keyword ← text cfg (.str f.keyword) "keyword" 100 false
  return ⟨projectId, f.stageId, f.areaId, eventType, status, start, stop, keyword⟩

/-- The columns that are compared for equality. -/
def TimelineCriteria.places (c : TimelineCriteria) (e : HubObject) : Bool :=
  e.textColumn "project_id" = some c.projectId ∧
    (c.stageId = "" ∨ e.textColumn "stage_id" = some c.stageId) ∧
    (c.areaId = "" ∨ e.textColumn "area_id" = some c.areaId) ∧
    (c.eventType = "" ∨ e.textColumn "event_type" = some c.eventType) ∧
    (c.status = "" ∨ e.textColumn "status" = some c.status)

/-- `occurred_at`. -/
def HubObject.occurredAt (o : HubObject) : String := (o.textColumn "occurred_at").getD ""

/-- The condition of the statement. -/
def TimelineCriteria.selects (c : TimelineCriteria) (e : HubObject) : Bool :=
  c.places e ∧ (∀ start ∈ c.start, start ≤ e.occurredAt) ∧ ∀ stop ∈ c.stop, e.occurredAt ≤ stop

/-- The keyword is part of the title or the description (lines 1156–1158). -/
def TimelineCriteria.mentions (cfg : Config) (c : TimelineCriteria) (e : HubObject) : Bool :=
  c.keyword = "" ∨ (cfg.unicode.casefold c.keyword).toList <:+:
    (cfg.unicode.casefold (joinWith " " [(e.textColumn "title").getD "",
      (e.textColumn "description").getD ""])).toList

/-- An event with the names of its stage and its area. -/
abbrev EventItem := HubObject × Option String × Option String

/-- The joins of the statement. -/
def Hub.named (h : Hub) (e : HubObject) : EventItem :=
  (e, ((e.textColumn "stage_id").bind h.stages.get?).bind (·.textColumn "name"),
    ((e.textColumn "area_id").bind h.areas.get?).bind (·.textColumn "name"))

/-- The statement without its limit: `ORDER BY events.occurred_at DESC, events.id DESC`. -/
def Hub.selectedEvents (h : Hub) (c : TimelineCriteria) : List HubObject :=
  (h.events.rows.filter c.selects).insertionSort fun a b =>
    LexBy HubObject.occurredAt HubObject.id b a

/-- `timeline(filters)` (lines 1119–1159). -/
def Hub.timeline (cfg : Config) (h : Hub) (f : TimelineFilters) (limit : ℤ) :
    Except Raise (List EventItem) := do
  let c ← f.criteria cfg limit
  h.projectExists c.projectId
  let items := ((h.selectedEvents c).take limit.toNat).map h.named
  return items.filter fun item => c.mentions cfg item.1

/-! ## Instants -/

/-- The instant that a text with an offset names. -/
def instantOf (s : String) : ℤ :=
  match fromIsoformat (replaceZ s) with
  | some (micros, some offset) => micros - offset
  | _ => 0

theorem toList_utcText (t : ℤ) : (utcText t).toList = zuluText t := by
  have hlength : "+00:00".toList.length = 6 := rfl
  have hz : "Z".toList = ['Z'] := rfl
  unfold utcText zuluText
  rw [String.toList_append, String.toList_ofList, toList_isoformat_second, List.length_append,
    hlength, Nat.add_sub_cancel, List.take_left, hz]

/-- Without a `Z` nothing is replaced. -/
theorem replaceZ_append {cs : List Char} (h : ∀ c ∈ cs, c ≠ 'Z') :
    replaceZ (String.ofList (cs ++ ['Z'])) = String.ofList (cs ++ "+00:00".toList) := by
  apply String.toList_inj.mp
  unfold replaceZ
  rw [String.toList_join, String.toList_ofList, String.toList_ofList]
  induction cs with
  | nil => rfl
  | cons c cs ih =>
    rw [List.forall_mem_cons] at h
    rw [List.cons_append, List.cons_append, List.map_cons, List.flatMap_cons, if_neg h.1,
      String.toList_ofList, ih h.2, List.singleton_append]

theorem replaceZ_utcText (t : ℤ) : replaceZ (utcText t) = isoformat t := by
  obtain ⟨front, hfront, hplain⟩ := isoformat_eq_append t
  have hutc : utcText t = String.ofList (front ++ ['Z']) := by
    have hlength : "+00:00".toList.length = 6 := rfl
    have hz : "Z".toList = ['Z'] := rfl
    apply String.toList_inj.mp
    unfold utcText
    rw [String.toList_append, String.toList_ofList, hfront, List.length_append, hlength,
      Nat.add_sub_cancel, List.take_left, hz, String.toList_ofList]
  rw [hutc, replaceZ_append, ← hfront, String.ofList_toList]
  intro c hc
  obtain hdigit | rfl | rfl | rfl | rfl := hplain c hc
  · rintro rfl
    cases hdigit
  all_goals decide

variable {t : ℤ} {field : String} {items : List EventItem} {e : HubObject}

theorem instantOf_utcText (h : inYears t = true) : instantOf (utcText t) = t := by
  unfold instantOf
  rw [replaceZ_utcText, fromIsoformat_isoformat h]
  exact Int.sub_zero t

/-- An accepted text is stored as the text of its instant in UTC. -/
theorem datetimeText_ok {s wording x : String} (hs : datetimeText s field wording = .ok x) :
    inYears (instantOf s) = true ∧ x = utcText (instantOf s) := by
  unfold datetimeText at hs
  unfold instantOf
  split at hs
  · cases hs
  · cases hs
  · next micros offset heq =>
    rw [heq]
    dsimp only at hs ⊢
    split at hs
    · next hrange =>
      refine ⟨?_, (Except.ok.inj hs).symm⟩
      rw [inYears, decide_eq_true_eq]
      exact hrange
    · cases hs

theorem utcText_le_iff {t' : ℤ} (hin : inYears t = true) (hin' : inYears t' = true) :
    utcText t ≤ utcText t' ↔ zuluRank t ≤ zuluRank t' := by
  rw [String.le_iff_toList_le, toList_utcText, toList_utcText, zuluText_le_iff hin hin']

/-! ## What the timeline is for -/

/-- The instant of an event. -/
def HubObject.instant (o : HubObject) : ℤ := instantOf o.occurredAt

/-- Every event has the time that some request gave it. -/
def Hub.Stamped (h : Hub) : Prop :=
  ∀ e ∈ h.events.rows, ∃ s, datetime (.str s) = .ok e.occurredAt

variable {cfg : Config} {h : Hub} {f : TimelineFilters} {c : TimelineCriteria} {limit : ℤ}

/-- The event is as the filters say, its instant between those of `start` and `end`. -/
def TimelineFilters.wants (cfg : Config) (f : TimelineFilters) (c : TimelineCriteria)
    (e : HubObject) : Bool :=
  c.places e ∧ (f.start ≠ "" → instantOf f.start ≤ e.instant) ∧
    (f.stop ≠ "" → e.instant ≤ instantOf f.stop) ∧ c.mentions cfg e

/-- The items are the first ones, up to the limit, of the wanted events in some order from the
    latest to the earliest. -/
def Hub.Latest (cfg : Config) (h : Hub) (f : TimelineFilters) (c : TimelineCriteria) (limit : ℤ)
    (items : List EventItem) : Prop :=
  ∃ l : List HubObject, l.Perm (h.events.rows.filter (f.wants cfg c)) ∧
    l.Pairwise (fun a b => b.instant ≤ a.instant) ∧ items = (l.take limit.toNat).map h.named

/-- The instants descend. -/
theorem Hub.Latest.instants (hl : h.Latest cfg f c limit items) :
    (items.map fun i => i.1.instant).Pairwise fun s t => t ≤ s := by
  obtain ⟨l, -, hsorted, rfl⟩ := hl
  rw [List.map_map, List.pairwise_map]
  refine (hsorted.sublist (List.take_sublist _ l)).imp fun {a b} hab => ?_
  rw [Function.comp_apply, Function.comp_apply]
  exact hab

/-- The statement returns the event, which mentions the keyword: fewer events than the limit come
    before it. -/
def Hub.shows (cfg : Config) (h : Hub) (c : TimelineCriteria) (limit : ℤ) (e : HubObject) : Bool :=
  c.selects e ∧ c.mentions cfg e ∧
    (h.events.rows.filter fun b => c.selects b ∧ LexBy HubObject.occurredAt HubObject.id e b ∧
      ¬ LexBy HubObject.occurredAt HubObject.id b e).length < limit.toNat

/-- No whole second stands before its fractions where it does harm, and no wanted event is left out
    for one that is earlier or does not mention the keyword. -/
structure Hub.Undisturbed (cfg : Config) (h : Hub) (f : TimelineFilters) (c : TimelineCriteria)
    (limit : ℤ) : Prop where
  bounds : ∀ e ∈ h.events.rows, h.shows cfg c limit e = true →
    (f.start ≠ "" → ¬ Overtakes e.instant (instantOf f.start)) ∧
      (f.stop ≠ "" → ¬ Overtakes (instantOf f.stop) e.instant)
  order : ∀ a ∈ h.events.rows, h.shows cfg c limit a = true → ∀ b ∈ h.events.rows,
    h.shows cfg c limit b = true → ¬ Overtakes a.instant b.instant
  cut : ∀ e ∈ h.events.rows, f.wants cfg c e = true → h.shows cfg c limit e = false →
    limit.toNat ≤ (h.events.rows.filter (h.shows cfg c limit)).length ∧
      ∀ a ∈ h.events.rows, h.shows cfg c limit a = true → e.instant ≤ a.instant

/-! ## What the timeline returns -/

theorem Hub.Stamped.occurredAt (hh : h.Stamped) (he : e ∈ h.events.rows) :
    inYears e.instant = true ∧ e.occurredAt = utcText e.instant := by
  obtain ⟨s, hs⟩ := hh e he
  simp only [datetime, bind_eq_ok] at hs
  obtain ⟨s', _, hs⟩ := hs
  obtain ⟨hin, htext⟩ := datetimeText_ok hs
  have hinstant : e.instant = instantOf s' := by
    unfold HubObject.instant
    rw [htext, instantOf_utcText hin]
  rw [hinstant]
  exact ⟨hin, htext⟩

theorem timeBound_ok {value : String} {x : Option String} (hs : timeBound value field = .ok x) :
    (value = "" ∧ x = none) ∨
      (value ≠ "" ∧ inYears (instantOf value) = true ∧ x = some (utcText (instantOf value))) := by
  unfold timeBound at hs
  split at hs
  · next hempty => exact .inl ⟨hempty, (Except.ok.inj hs).symm⟩
  · next hne =>
    obtain ⟨y, hy, rfl⟩ := map_eq_ok.mp hs
    obtain ⟨hin, rfl⟩ := datetimeText_ok hy
    exact .inr ⟨hne, hin, rfl⟩

/-- The bounds of the statement are those of the filters, as texts. -/
theorem TimelineFilters.criteria_bounds (hc : f.criteria cfg limit = .ok c) :
    timeBound f.start "start" = .ok c.start ∧ timeBound f.stop "end" = .ok c.stop := by
  simp only [TimelineFilters.criteria, bind_eq_ok, pure_eq_ok] at hc
  obtain ⟨_, _, _, _, _, _, start, hstart, stop, hstop, _, _, _, _, rfl⟩ := hc
  exact ⟨hstart, hstop⟩

/-- The events whose texts are between the bounds are those whose instants are, but for whole
    seconds and their fractions. -/
theorem TimelineFilters.wants_iff (hc : f.criteria cfg limit = .ok c) (hh : h.Stamped)
    (he : e ∈ h.events.rows) (hselects : c.selects e = true) (hmentions : c.mentions cfg e = true) :
    f.wants cfg c e = true ↔
      (f.start ≠ "" → ¬ Overtakes e.instant (instantOf f.start)) ∧
        (f.stop ≠ "" → ¬ Overtakes (instantOf f.stop) e.instant) := by
  obtain ⟨hin, htext⟩ := hh.occurredAt he
  obtain ⟨hstart, hstop⟩ := TimelineFilters.criteria_bounds hc
  simp only [TimelineCriteria.selects, decide_eq_true_eq] at hselects
  obtain ⟨hplaces, hafter, hbefore⟩ := hselects
  have hfrom : (f.start ≠ "" → instantOf f.start ≤ e.instant) ↔
      (f.start ≠ "" → ¬ Overtakes e.instant (instantOf f.start)) := by
    refine forall_congr' fun hne => le_iff_not_overtakes ?_
    obtain ⟨hempty, -⟩ | ⟨-, hin', hbound⟩ := timeBound_ok hstart
    · exact absurd hempty hne
    · rw [← utcText_le_iff hin' hin, ← htext]
      exact hafter _ hbound
  have hto : (f.stop ≠ "" → e.instant ≤ instantOf f.stop) ↔
      (f.stop ≠ "" → ¬ Overtakes (instantOf f.stop) e.instant) := by
    refine forall_congr' fun hne => le_iff_not_overtakes ?_
    obtain ⟨hempty, -⟩ | ⟨-, hin', hbound⟩ := timeBound_ok hstop
    · exact absurd hempty hne
    · rw [← utcText_le_iff hin hin', ← htext]
      exact hbefore _ hbound
  rw [TimelineFilters.wants, decide_eq_true_eq, hfrom, hto]
  exact ⟨fun hw => ⟨hw.2.1, hw.2.2.1⟩, fun hw => ⟨hplaces, hw.1, hw.2, hmentions⟩⟩

theorem Hub.timeline_ok (hs : h.timeline cfg f limit = .ok items) :
    ∃ c, f.criteria cfg limit = .ok c ∧
      items = (((h.selectedEvents c).take limit.toNat).filter (c.mentions cfg)).map h.named := by
  simp only [Hub.timeline, bind_eq_ok, pure_eq_ok] at hs
  obtain ⟨c, hc, _, _, rfl⟩ := hs
  exact ⟨c, hc, List.filter_map⟩

/-- The events that the timeline returns. -/
def Hub.listed (cfg : Config) (h : Hub) (c : TimelineCriteria) (limit : ℤ) : List HubObject :=
  ((h.selectedEvents c).take limit.toNat).filter (c.mentions cfg)

theorem Hub.nodup_events (h : Hub) : h.events.rows.Nodup := List.Nodup.of_map _ h.events.nodup

theorem Hub.mem_listed :
    e ∈ h.listed cfg c limit ↔ e ∈ h.events.rows ∧ h.shows cfg c limit e = true := by
  unfold Hub.listed Hub.selectedEvents
  rw [List.mem_filter, mem_take_insertionSort, List.mem_filter, List.filter_filter, Hub.shows,
    decide_eq_true_eq]
  · have hbefore : ∀ b ∈ h.events.rows,
        (decide (LexBy HubObject.occurredAt HubObject.id e b ∧
          ¬ LexBy HubObject.occurredAt HubObject.id b e) && c.selects b) =
        decide (c.selects b = true ∧ LexBy HubObject.occurredAt HubObject.id e b ∧
          ¬ LexBy HubObject.occurredAt HubObject.id b e) := fun b _ => by
      rw [Bool.eq_iff_iff, Bool.and_eq_true, decide_eq_true_eq, decide_eq_true_eq]
      exact and_comm
    rw [List.filter_congr hbefore]
    exact ⟨fun ⟨⟨⟨hmem, hsel⟩, hlt⟩, hkey⟩ => ⟨hmem, hsel, hkey, hlt⟩,
      fun ⟨hmem, hsel, hkey, hlt⟩ => ⟨⟨⟨hmem, hsel⟩, hlt⟩, hkey⟩⟩
  · intro he b hb hbe heb
    exact List.inj_on_of_nodup_map h.events.nodup (List.mem_of_mem_filter hb)
      (List.mem_of_mem_filter he) (LexBy.antisymm heb hbe)
  · exact h.nodup_events.filter _

theorem Hub.nodup_listed : (h.listed cfg c limit).Nodup := by
  unfold Hub.listed Hub.selectedEvents
  refine (List.Nodup.sublist (List.take_sublist _ _) ?_).filter _
  exact (List.perm_insertionSort _ _).nodup_iff.mpr (h.nodup_events.filter _)

theorem Hub.length_listed_le : (h.listed cfg c limit).length ≤ limit.toNat :=
  (List.length_filter_le _ _).trans (List.length_take_le _ _)

/-- The listed events are in the order of the texts, which is that of the instants but for whole
    seconds in front of their fractions. -/
theorem Hub.listed_sorted_iff (hh : h.Stamped) :
    (h.listed cfg c limit).Pairwise (fun a b => b.instant ≤ a.instant) ↔
      ∀ a ∈ h.listed cfg c limit, ∀ b ∈ h.listed cfg c limit, ¬ Overtakes a.instant b.instant := by
  have htext : (h.listed cfg c limit).Pairwise
      fun a b => zuluRank b.instant ≤ zuluRank a.instant := by
    have hsorted : (h.listed cfg c limit).Pairwise
        fun a b => LexBy HubObject.occurredAt HubObject.id b a :=
      (((List.pairwise_insertionSort _ _).sublist (List.take_sublist _ _)).filter _)
    refine hsorted.imp_of_mem fun {a b} ha hb hab => ?_
    obtain ⟨hin, ha⟩ := hh.occurredAt (Hub.mem_listed.mp ha).1
    obtain ⟨hin', hb⟩ := hh.occurredAt (Hub.mem_listed.mp hb).1
    rw [← utcText_le_iff hin' hin, ← ha, ← hb]
    obtain hlt | ⟨heq, -⟩ := hab
    · exact hlt.le
    · exact heq.le
  constructor
  · -- Whichever of two events comes first, it does not overtake the other.
    intro hsorted a ha b hb
    have hforth := (htext.and hsorted).imp fun ⟨hrank, hle⟩ => (le_iff_not_overtakes hrank).mp hle
    have hback := htext.imp fun hrank => not_overtakes hrank
    exact List.Pairwise.forall_of_forall_of_flip (R := fun a b : HubObject =>
      ¬ Overtakes a.instant b.instant) (fun _ _ => not_overtakes le_rfl) hforth hback ha hb
  · intro hnone
    exact htext.imp_of_mem fun ha hb hrank =>
      (le_iff_not_overtakes hrank).mpr (hnone _ ha _ hb)

def sampleEvent (id occurredAt title : String) : HubObject :=
  ⟨id, [("project_id", .text "project-01"), ("stage_id", .null), ("area_id", .null),
    ("event_type", .text "progress"), ("title", .text title), ("description", .text ""),
    ("occurred_at", .text occurredAt), ("status", .text "active"), ("source_ref", .text "")], 1⟩

/-- Two events, half a second apart. -/
def clashingHub : Hub :=
  { sampleHub with events := ⟨[sampleEvent "event-01" "2026-08-01T10:00:00Z" "tiles",
      sampleEvent "event-02" "2026-08-01T10:00:00.500000Z" "paint"], by decide⟩ }

theorem clashingHub_facts :
    (datetime (.str "2026-08-01T18:00:00+08:00") = .ok "2026-08-01T10:00:00Z" ∧
      datetime (.str "2026-08-01T10:00:00.5Z") = .ok "2026-08-01T10:00:00.500000Z") ∧
    TimelineFilters.criteria sampleConfig { projectId := "project-01" } 200 =
      .ok ⟨"project-01", "", "", "", "", none, none, ""⟩ ∧
    TimelineFilters.criteria sampleConfig { projectId := "project-01", keyword := "tiles" } 200 =
      .ok ⟨"project-01", "", "", "", "", none, none, "tiles"⟩ ∧
    ((clashingHub.timeline sampleConfig { projectId := "project-01" } 200).toOption.any
      fun items => items.map (fun i => i.1.instant) = [1785578400000000, 1785578400500000]) ∧
    (clashingHub.timeline sampleConfig { projectId := "project-01", keyword := "tiles" }
      200).toOption.isSome := by
  decide +kernel

theorem clashingHub_stamped : clashingHub.Stamped := by
  intro e he
  obtain rfl | he := List.mem_cons.mp he
  · exact ⟨_, clashingHub_facts.1.1⟩
  · obtain rfl := List.mem_singleton.mp he
    exact ⟨_, clashingHub_facts.1.2⟩

end HomeAddons.Renovation
