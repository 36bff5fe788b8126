import SuiteBridge.Host.Service

/-!
# What comes of a call can be written

On the way back to a host JSON is written three times: for what a capability gives back, for the
report of a fault, and for the tool result around either. Each time there is an answer for what
cannot be written, and each time it is never needed: an outline on this way has names for its keys,
and nothing in it declines. The reply to a call is therefore always a result (`Work.replyAfter_eq`).
-/

namespace SuiteBridge

/-- A success is always written. -/
theorem Success.encode_eq (success : Success) : success.encode = .ok success.toJson :=
  rfl

/-- What comes of a plan is what is made of the answer, written. -/
theorem Plan.conclude_eq (settings : Settings) (now : Calendar.DateTime) (outcome : Remote.Outcome)
    (plan : Plan) :
    plan.conclude settings now outcome =
      (plan.reading.conclude now (plan.invocation settings) outcome).map Success.toJson := by
  unfold conclude
  cases plan.reading.conclude now (plan.invocation settings) outcome with
  | error fault => rfl
  | ok success => exact success.encode_eq

/-- A report is always written. -/
theorem FaultReport.encode_outline (report : FaultReport) :
    report.outline.encode = .ok report.toJson := by
  obtain ⟨isError, kind, code, details, content⟩ := report
  cases code <;> cases details <;> rfl

namespace ToolAnswer

/-- The document about a failure is its report. -/
theorem toJson_failure (report : FaultReport) : (failure report).toJson = report.toJson := by
  rw [toJson, report.encode_outline]

/-- A tool result is always written. -/
theorem encode_outline (answer : ToolAnswer) : answer.outline.encode = .ok answer.toolResult :=
  rfl

end ToolAnswer

/-- The reply to a request is the tool result, however its capability has ended. -/
theorem Host.Work.replyAfter_eq (id : Json) (name : String) (ending : Ending) :
    replyAfter id name ending =
      .result id (ToolAnswer.ofResult (ending.result name)).toolResult := by
  rw [replyAfter, ToolAnswer.encode_outline]

end SuiteBridge
