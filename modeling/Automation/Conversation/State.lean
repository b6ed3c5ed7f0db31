import Automation.Conversation.History
import Automation.Workflow.Skeleton

/-!
# The state of a conversation

Between messages a conversation keeps its history, a workflow that waits for missing parameters, and
templates that the user may choose from.
-/

namespace Automation

open Json

/-- A workflow that waits for parameters. -/
structure Pending where
  blueprint : Blueprint
  parameters : Entries String
  missing : List String

structure Selection where
  options : List Template
  parameters : Entries String

/-- What a conversation keeps between messages. -/
structure Conversation where
  history : History
  pending : Option Pending := none
  selection : Option Selection := none
  /-- Data supplied when it was created. -/
  initData : Value := .null

namespace Conversation

def reset (c : Conversation) : Conversation := { c with pending := none, selection := none }

end Conversation

end Automation
