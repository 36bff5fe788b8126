import SuiteBridge.Proofs.Call.Writing
import SuiteBridge.Proofs.Json.Reread
import SuiteBridge.Proofs.Session.Availability
import SuiteBridge.Proofs.Session.Ledger

/-!
# What the host gets back

Replies are JSON documents, written one to a line, and the answer of a tool is a JSON document
again, written into a string of its reply. A host that cuts what is written at the line feeds and
reads each line has the documents that were sent, and reading the text of a tool's answer gives what
the tool ended with: the value, or the report of the fault (`Host.recovered`).
-/

namespace SuiteBridge

open Json (Plain greatestDepth)

/-! ## Reports -/

namespace FaultReport

/-- A report is no deeper than two objects. -/
theorem plain_toJson (report : FaultReport) (depth : Nat) : Plain (depth + 2) report.toJson := by
  obtain ⟨isError, kind, code, details, content⟩ := report
  cases code <;> cases details <;> simp [toJson, Members.optional]

/-- A report is decoded from the document that is made of it. -/
theorem ofValue_toJson (report : FaultReport) : decoder.ofValue report.toJson = .ok report := by
  obtain ⟨isError, kind, code, details, content⟩ := report
  cases kind <;> cases code <;> cases details <;> rfl

end FaultReport

namespace Host

/-! ## Lines -/

theorem toList_transcript (documents : List Json) :
    (transcript documents).toList = documents.flatMap fun document => document.text ++ ['\n'] := by
  simp [transcript, String.toList_join, List.flatMap_map, Json.render]

/-- What is written is cut into the texts of the documents, with nothing behind the last line. -/
theorem splitAt_transcript {documents : List Json} {depth : Nat}
    (plain : ∀ document ∈ documents, Plain depth document) :
    Text.splitAt '\n' (transcript documents) = documents.map Json.render ++ [""] := by
  have lines : (documents.flatMap fun document => document.text ++ ['\n']).splitOn '\n' =
      documents.map Json.text ++ [[]] := by
    induction documents with
    | nil => rfl
    | cons document documents ih =>
        have first := Json.newline_notMem_text (plain document List.mem_cons_self)
        have others := ih fun other member => plain other (List.mem_cons_of_mem _ member)
        have alone : document.text.splitOn '\n' = [document.text] :=
          List.splitOn_eq_singleton first
        have parted : (document.text ++ '\n' :: documents.flatMap fun document =>
            document.text ++ ['\n']).splitOn '\n' = document.text.splitOn '\n' ++
              (documents.flatMap fun document => document.text ++ ['\n']).splitOn '\n' :=
          List.splitOnP_append_cons _ _ rfl
        rw [List.flatMap_cons, List.append_assoc, List.singleton_append, parted, alone, others]
        rfl
  rw [Text.splitAt, toList_transcript, lines]
  simp [Json.render]

/-! ## Answers -/

/-- Only a tool that returns a value is not in error. -/
theorem isError_answer_iff (name : String) (ending : Ending) :
    (ToolAnswer.ofResult (ending.result name)).isError = true ↔
      ∀ value, ending ≠ .returned (.ok value) := by
  cases ending with
  | brokeOff message => simp [Ending.result, ToolAnswer.ofResult, ToolAnswer.isError]
  | returned result =>
      cases result <;> simp [Ending.result, ToolAnswer.ofResult, ToolAnswer.isError]

theorem isError_toolResult (answer : ToolAnswer) :
    answer.toolResult.member? "isError" = some (.bool answer.isError) :=
  rfl

/-- The text of a tool's answer reads as the value, or as a report that is decoded. -/
theorem parse_answer (result : Except Fault Json) :
    (∀ value, result = .ok value → Plain greatestDepth value →
      Json.parse (ToolAnswer.ofResult result).toJson.render = .ok value) ∧
    ∀ fault, result = .error fault →
      ∃ document, Json.parse (ToolAnswer.ofResult result).toJson.render = .ok document ∧
        FaultReport.decoder.ofValue document = .ok fault.report := by
  constructor
  · rintro value rfl plain
    exact Json.parse_render plain
  · rintro fault rfl
    have read := Json.parse_render (fault.report.plain_toJson 125)
    refine ⟨_, ?_, fault.report.ofValue_toJson⟩
    rwa [ToolAnswer.ofResult, ToolAnswer.toJson_failure]

/-- **The host recovers what was sent.** What is written is cut at the line feeds into lines that
read as the documents one by one. A call of a tool that ends is answered with one text, marked as an
error exactly if the tool did not return a value; the text reads as that value, or as a document
that is decoded to the report of the fault. With an id that is not too deep, the reply is itself one
of the documents that are recovered. -/
theorem recovered (service : Service) (world : World) :
    (∀ documents : List Json, (∀ document ∈ documents, Plain greatestDepth document) →
      ∃ lines, Text.splitAt '\n' (transcript documents) = lines ++ [""] ∧
        lines.map Json.parse = documents.map .ok) ∧
    ∀ (id params : Json) (name : String) (ending : Ending),
      params.member? "name" = some (.string name) →
      (service.registry.dispatch name (Json.orNull (params.member? "arguments"))).finally? world =
        some ending →
      ∃ answer text,
        (service.work ⟨id, "tools/call", params⟩).reply? world = some (.result id answer) ∧
        answer.member? "content" =
          some (.array [.object [("type", .string "text"), ("text", .string text)]]) ∧
        (answer.member? "isError" = some (.bool true) ↔
          ∀ value, ending ≠ .returned (.ok value)) ∧
        (∀ value, ending = .returned (.ok value) → Plain greatestDepth value →
          Json.parse text = .ok value) ∧
        (∀ fault, ending.result name = .error fault →
          ∃ document, Json.parse text = .ok document ∧
            FaultReport.decoder.ofValue document = .ok fault.report) ∧
        (Plain (greatestDepth - 1) id → Plain greatestDepth (Reply.result id answer).toJson) := by
  constructor
  · intro documents plain
    refine ⟨documents.map Json.render, splitAt_transcript plain, ?_⟩
    rw [List.map_map]
    exact List.map_congr_left fun document member => Json.parse_render (plain document member)
  · intro id params name ending named ended
    obtain ⟨good, bad⟩ := parse_answer (ending.result name)
    refine ⟨(ToolAnswer.ofResult (ending.result name)).toolResult, _, ?_, rfl, ?_, ?_, bad, ?_⟩
    · rw [Service.work_call service id named, Work.reply?, ended]
      rfl
    · rw [isError_toolResult, Option.some.injEq, Json.bool.injEq]
      exact isError_answer_iff name ending
    · rintro value rfl plain
      exact good value rfl plain
    · intro plain
      have inside : Plain 126 id := plain
      simp [Reply.toJson, ToolAnswer.toolResult, inside, greatestDepth]

/-- A capability that gives its arguments back, and breaks off without any. -/
def mirror : Capability where
  descriptor := ⟨"mirror", "", .object [("type", .string "object")], .wiki⟩
  run args :=
    .ends (if args.isEmpty then .brokeOff none else .returned (.ok (.object args.members)))

/-- A service with nothing but a mirror. -/
def mirrorService : Service :=
  .ofRegistry ⟨[mirror]⟩ none

/-- Something with quotes, a backslash, a line feed, a control and a letter beyond ASCII in it. -/
def awkward : Members :=
  [("a \"b\"\\", .string "first\nsecond\x00\u00e9"), ("n", .array [.int (-3), .bool true])]

/-- Awkward texts come back through the mirror, and its breaking off is reported. -/
theorem recovered_mirror :
    (∃ lines, Text.splitAt '\n' (transcript [.object awkward, .null]) = lines ++ [""] ∧
      lines.map Json.parse = [.ok (.object awkward), .ok .null]) ∧
    (∃ answer text,
      (mirrorService.work ⟨.null, "tools/call", .object [("name", .string "mirror"),
        ("arguments", .object awkward)]⟩).reply? deafWorld = some (.result .null answer) ∧
      answer.member? "isError" ≠ some (.bool true) ∧
      answer.member? "content" =
        some (.array [.object [("type", .string "text"), ("text", .string text)]]) ∧
      Json.parse text = .ok (.object awkward)) ∧
    ∃ answer text document report,
      (mirrorService.work ⟨.null, "tools/call", .object [("name", .string "mirror")]⟩).reply?
        deafWorld = some (.result .null answer) ∧
      answer.member? "isError" = some (.bool true) ∧
      answer.member? "content" =
        some (.array [.object [("type", .string "text"), ("text", .string text)]]) ∧
      Json.parse text = .ok document ∧ FaultReport.decoder.ofValue document = .ok report ∧
      report.code = some "HANDLER_PANIC" := by
  have plain : Plain greatestDepth (.object awkward) := by
    have small : ∀ depth, Plain depth (.int (-3)) := fun depth => .integer (by decide) (by decide)
    simp [awkward, greatestDepth, small]
  obtain ⟨lines, answers⟩ := recovered mirrorService deafWorld
  refine ⟨lines [.object awkward, .null] (by simp [plain]), ?_, ?_⟩
  · obtain ⟨answer, text, replied, content, isError, good, -⟩ := answers .null
      (.object [("name", .string "mirror"), ("arguments", .object awkward)]) "mirror" _ rfl rfl
    exact ⟨answer, text, replied, fun marked => isError.mp marked _ rfl, content,
      good _ rfl plain⟩
  · obtain ⟨answer, text, replied, content, isError, -, bad, -⟩ := answers .null
      (.object [("name", .string "mirror")]) "mirror" _ rfl rfl
    obtain ⟨document, read, decoded⟩ := bad _ rfl
    exact ⟨answer, text, document, _, replied, isError.mpr (fun _ => nofun), content, read, decoded,
      rfl⟩

end Host

end SuiteBridge
