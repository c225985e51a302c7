import HomeAddons.Controller.Store

/-!
# Codex Controller: the context of tool calls

`ToolRouter._active_context` (`tool_proxy.py` 185–225): the job under which a tool call runs. It is
taken by `begin_job`, bound to a Turn by `bind_turn`, and given up by `end_turn` or `clear_job`.
-/

namespace HomeAddons.Controller

open HomeAddons.Common

/-- The value of `_active_context`. -/
structure ToolContext where
  jobId : String
  messageId : String
  turnId : String
  capabilityProfile : CapabilityProfile
  conversationKey : String
  mediaArchiveAuthorized : Option Bool
  deriving DecidableEq

/-- `begin_job(job_id, message_id, capability_profile, …)` (lines 185–211). -/
def beginJob (active : Option ToolContext) (jobId messageId : String)
    (profile : CapabilityProfile) (conversationKey : String)
    (mediaArchiveAuthorized : Option Bool) : Except Raise ToolContext := do
  ensure (jobId ≠ "" ∧ messageId ≠ "") (.tool "tool_context_invalid" "工具调用上下文无效")
  ensure (active = none) (.tool "tool_context_busy" "已有活动工具调用上下文")
  return ⟨jobId, messageId, "", profile, conversationKey, mediaArchiveAuthorized⟩

/-- `bind_turn(job_id, turn_id)` (lines 213–217). -/
def bindTurn (active : Option ToolContext) (jobId turnId : String) :
    Except Raise (Option ToolContext) := do
  let context ← orRaise (active.filter fun c => c.jobId = jobId)
    (.tool "tool_context_invalid" "无法绑定工具调用 Turn")
  return some { context with turnId := turnId }

/-- `end_turn(turn_id)` (lines 219–222). -/
def endTurn (active : Option ToolContext) (turnId : String) : Option ToolContext :=
  active.filter fun c => c.turnId ≠ turnId

/-- `clear_job(job_id)` (lines 224–227). -/
def clearJob (active : Option ToolContext) (jobId : String) : Option ToolContext :=
  active.filter fun c => c.jobId ≠ jobId

end HomeAddons.Controller
