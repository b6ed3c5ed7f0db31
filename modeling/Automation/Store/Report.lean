import Automation.Store.Database

/-!
# Rows as JSON

How the rows of the database are shown. Of a workflow it is told whether it was changed after it was
stored, but not when.
-/

namespace Automation.Store

open Json

def WorkflowRow.toJson (w : WorkflowRow) : Value :=
  .record [("id", .string w.id), ("agent_id", .string w.agentId), ("name", .string w.name),
    ("template_id", .text? w.templateId), ("schema_version", .nat w.schemaVersion),
    ("document", .string w.document), ("is_valid", .bool w.isValid),
    ("updated", .bool (w.createdAt < w.updatedAt))]

def TriggerRow.toJson (t : TriggerRow) (config : Value) : Value :=
  .record [("id", .string t.id), ("agent_id", .string t.agentId),
    ("workflow_id", .string t.workflowId), ("trigger_type", .string t.type), ("config", config),
    ("status", .string t.status), ("created_at", .int t.createdAt),
    ("last_triggered", match t.lastTriggered with
      | some n => .int n
      | none => .null)]

def LogRow.toJson (l : LogRow) (result : Value) : Value :=
  .array [.string l.id, .string l.workflowId, .string l.status, result]

def MessageRow.toJson (m : MessageRow) : Value :=
  .array [.nat m.id, .string m.agentId, .string m.sessionId, .string m.role, .string m.content]

end Automation.Store
