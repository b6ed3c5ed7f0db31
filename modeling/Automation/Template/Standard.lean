import Automation.Workflow.Skeleton

/-!
# The standard templates

The templates that are there without a catalog file. A name in double braces is filled in when the
template is compiled, with what stands behind the bar unless the user gives it; outputs of earlier
steps are put in when the workflow runs.
-/

namespace Automation.Template.Standard

def welcomeEmail : Template where
  id := "welcome-email"
  name := "Welcome email"
  description := "Send a welcome message to a new contact"
  category := .email
  keywords := ["welcome", "email", "send", "onboarding"]
  complexity := .simple
  usageCount := 120
  successRate := (0.98 : Float).toBits
  steps := [
    { id := "send_email", driver := "email", operation := "send",
      parameters := [
        ("body", .string ("\x7b\x7bbody|Hi, welcome to the team. " ++
          "Reply to this email if you need anything.\x7d\x7d")),
        ("subject", .string "\x7b\x7bsubject|Welcome aboard!\x7d\x7d"),
        ("to", .string "\x7b\x7brecipient\x7d\x7d")] }]

def sendEmail : Template where
  id := "send-email"
  name := "Send email"
  description := "Send a one-off email"
  category := .email
  keywords := ["send", "email", "message", "mail"]
  complexity := .simple
  requiredUserInput := true
  usageCount := 340
  successRate := (0.97 : Float).toBits
  steps := [
    { id := "send_email", driver := "email", operation := "send",
      parameters := [
        ("body", .string "\x7b\x7bbody|Hello!\x7d\x7d"),
        ("cc", .string "\x7b\x7bcc\x7d\x7d"),
        ("subject", .string "\x7b\x7bsubject|A quick note\x7d\x7d"),
        ("to", .string "\x7b\x7brecipient\x7d\x7d")] }]

def newsletterDigest : Template where
  id := "newsletter-digest"
  name := "Newsletter digest"
  description := "Draft a digest on a topic and email it"
  category := .email
  keywords := ["newsletter", "digest", "summary", "weekly"]
  complexity := .medium
  usageCount := 45
  successRate := (0.91 : Float).toBits
  steps := [
    { id := "draft", driver := "content", operation := "generate",
      parameters := [
        ("tone", .string "\x7b\x7btone|friendly\x7d\x7d"),
        ("topic", .string "\x7b\x7btopic|this week's highlights\x7d\x7d")] },
    { id := "send_digest", driver := "email", operation := "send",
      dependsOn := ["draft"],
      parameters := [
        ("body", .string "\x7b\x7bstep:draft.output\x7d\x7d"),
        ("subject", .string "\x7b\x7bsubject|Your digest\x7d\x7d"),
        ("to", .string "\x7b\x7brecipient\x7d\x7d")] }]

def createTask : Template where
  id := "create-task"
  name := "Create task"
  description := "Add a task to a project board"
  category := .tasks
  keywords := ["task", "create", "project", "board", "todo"]
  complexity := .simple
  requiredUserInput := true
  usageCount := 210
  successRate := (0.95 : Float).toBits
  steps := [
    { id := "create_task", driver := "tasks", operation := "create_task",
      parameters := [
        ("assignee", .string "\x7b\x7bassignee\x7d\x7d"),
        ("description", .string "\x7b\x7bdescription\x7d\x7d"),
        ("due_date", .string "\x7b\x7bdue_date\x7d\x7d"),
        ("name", .string "\x7b\x7bname\x7d\x7d"),
        ("project", .string "\x7b\x7bproject\x7d\x7d")] }]

def blogPost : Template where
  id := "blog-post"
  name := "Blog post draft"
  description := "Generate an article and save it as a document"
  category := .content
  keywords := ["blog", "post", "article", "write", "draft"]
  complexity := .medium
  usageCount := 80
  successRate := (0.9 : Float).toBits
  steps := [
    { id := "generate", driver := "content", operation := "generate",
      parameters := [
        ("length", .string "\x7b\x7blength|medium\x7d\x7d"),
        ("tone", .string "\x7b\x7btone|informative\x7d\x7d"),
        ("topic", .string "\x7b\x7btopic\x7d\x7d")] },
    { id := "save", driver := "documents", operation := "create_document",
      dependsOn := ["generate"],
      parameters := [
        ("content", .string "step:generate.output"),
        ("folder", .string "\x7b\x7bfolder|Drafts\x7d\x7d"),
        ("title", .string "\x7b\x7bname|Untitled draft\x7d\x7d")] }]

def dataReport : Template where
  id := "data-report"
  name := "Report export"
  description := "Export a report and email it"
  category := .data
  keywords := ["report", "export", "csv", "spreadsheet", "send"]
  complexity := .medium
  usageCount := 60
  successRate := (0.93 : Float).toBits
  steps := [
    { id := "export", driver := "data", operation := "export_report",
      parameters := [
        ("format", .string "\x7b\x7bformat|csv\x7d\x7d"),
        ("source", .string "\x7b\x7bsource|sales\x7d\x7d")] },
    { id := "deliver", driver := "email", operation := "send",
      parameters := [
        ("body", .string "Report \x7b\x7bstep:export.output.id\x7d\x7d has been exported."),
        ("subject", .string "\x7b\x7bsubject|Your report is ready\x7d\x7d"),
        ("to", .string "\x7b\x7brecipient\x7d\x7d")] }]

def createInvoice : Template where
  id := "create-invoice"
  name := "Create invoice"
  description := "Issue an invoice to a customer"
  category := .data
  keywords := ["invoice", "bill", "payment", "customer"]
  complexity := .simple
  usageCount := 25
  successRate := (0.96 : Float).toBits
  steps := [
    { id := "invoice", driver := "payments", operation := "create_invoice",
      parameters := [
        ("amount", .string "\x7b\x7bamount\x7d\x7d"),
        ("currency", .string "\x7b\x7bcurrency|USD\x7d\x7d"),
        ("customer", .string "\x7b\x7bcustomer\x7d\x7d")] }]

def scheduledReminder : Template where
  id := "scheduled-reminder"
  name := "Scheduled reminder"
  description := "Post a reminder to a chat channel"
  category := .scheduling
  keywords := ["remind", "reminder", "schedule", "every", "daily"]
  complexity := .simple
  usageCount := 150
  successRate := (0.99 : Float).toBits
  steps := [
    { id := "remind", driver := "notify", operation := "send",
      parameters := [
        ("channel", .string "\x7b\x7bchannel|general\x7d\x7d"),
        ("message", .string "\x7b\x7btopic|Scheduled reminder\x7d\x7d")] }]

def all : List Template := [
  welcomeEmail, sendEmail, newsletterDigest, createTask, blogPost, dataReport, createInvoice,
  scheduledReminder]

end Automation.Template.Standard
