import Automation.Driver.Registry

/-!
# The standard drivers

HTTP requests, and the services that the standard templates use.
-/

namespace Automation.Driver

private def operation (name description : String) (required : List String)
    (optional : List String := []) : Operation :=
  { name, description, required, optional }

def httpInfo : DriverInfo where
  name := "http"
  description := "Arbitrary HTTP requests (webhooks, REST APIs)"
  operations := [
    operation "request" "Send an HTTP request with any method" ["method", "url"]
      ["headers", "body", "timeout_seconds"],
    operation "get" "Send a GET request" ["url"] ["headers", "timeout_seconds"],
    operation "post" "Send a POST request" ["url"] ["headers", "body", "timeout_seconds"]]

/-- The services that are answered without contacting anyone. -/
def services : List DriverInfo := [
  { name := "email", description := "Outbound email", operations := [
      operation "send" "Send an email" ["to", "subject", "body"] ["cc", "bcc"]] },
  { name := "tasks", description := "Project board", operations := [
      operation "create_task" "Create a task on a project board" ["name", "project"]
        ["description", "due_date", "assignee"],
      operation "update_task" "Update an existing task" ["task_id"]
        ["status", "assignee", "due_date"]] },
  { name := "documents", description := "Document store", operations := [
      operation "create_document" "Create a document" ["title", "content"] ["folder"]] },
  { name := "content", description := "Text generation", operations := [
      operation "generate" "Draft content on a topic" ["topic"] ["tone", "length"]] },
  { name := "data", description := "Data export and query", operations := [
      operation "export_report" "Export a report file" ["source"] ["format"],
      operation "query" "Run a query against a source" ["source", "query"]] },
  { name := "payments", description := "Payment processor", operations := [
      operation "create_invoice" "Issue an invoice" ["customer", "amount"]
        ["currency", "description"]] },
  { name := "notify", description := "Chat notifications", operations := [
      operation "send" "Post a notification" ["message"] ["channel"]] }]

def standard : List DriverInfo := services ++ [httpInfo]

end Automation.Driver
