import Automation.Intent.Category
import Automation.Intent.Extractor
import Automation.Intent.Router

/-!
# The lexicon of requests

The words by which a request is recognized without a model, the patterns of the values in it, and
the values that a request of a category needs.
-/

namespace Automation.Lexicon

/-- The words of each category. Words for scheduling come last, so that a word for an action wins
against a word for a cadence. -/
def keywords : List (Category × List String) := [
  (.email, ["email", "e-mail", "mail", "inbox", "newsletter"]),
  (.content, ["write", "draft", "blog", "post", "article", "content", "summarize", "generate"]),
  (.data, ["report", "export", "csv", "spreadsheet", "data", "query", "analytics", "invoice"]),
  (.tasks, ["task", "todo", "to-do", "ticket", "assign", "board", "project"]),
  (.scheduling, ["every", "daily", "weekly", "hourly", "schedule", "remind", "cron"])]

def router : Router :=
  keywords.foldl (fun r (category, words) => r.addKeywords category.text words) {}

/-- The patterns of the values, in the order in which they are tried. -/
def patterns : List (String × String) := [
  ("recipient", r"(?P<value>[A-Za-z0-9._%+-]+@[A-Za-z0-9.-]+\.[A-Za-z]{2,})"),
  ("url", "(?P<value>https?://[^\\s\"'<>]+)"),
  ("name", "\"(?P<value>[^\"]+)\""),
  ("name", r"(?i)\b(?:called|named|titled)\s+(?P<value>[A-Za-z0-9][\w\- ]*?)" ++
    r"(?:\s+(?:in|for|to|on|by|every|at|about)\b|[.,!?]|$)"),
  ("project", r"(?i)\bin\s+(?:the\s+)?(?P<value>[A-Za-z0-9][\w\-]*)\s+project\b"),
  ("project", r"(?i)\bproject\s+(?P<value>[A-Za-z0-9][\w\-]*)"),
  ("schedule", r"(?i)\b(?P<value>every\s+(?:\d+\s+)?" ++
    r"(?:minute|hour|day|week|morning|evening)s?|hourly|daily|weekly)\b"),
  ("at_time", r"(?i)\bat\s+(?P<value>\d{1,2}(?::\d{2})?\s*(?:am|pm)?)(?:\s|$|[.,!?])"),
  ("topic", r"(?i)\babout\s+(?P<value>.+?)" ++
    r"(?:\s+(?:every|daily|weekly|hourly|to|for|then|and then)\b|[.!?\n]|$)"),
  ("amount", r"\$\s?(?P<value>\d+(?:\.\d{1,2})?)")]

def extractors : List Extractor := patterns.filterMap fun (entity, p) => Extractor.ofText? entity p

/-- Words that are taken for the name of a project by mistake. -/
def notProjects : List String := ["called", "named", "titled", "board", "the", "a"]

/-- The values that a request of the category needs. -/
def expected : Category → List String
  | .email => ["recipient"]
  | .tasks => ["name", "project"]
  | .content => ["topic"]
  | _ => []

/-- The value that makes it more certain that a request is of the category. -/
def telling : Category → Option String
  | .email => some "recipient"
  | .tasks => some "name"
  | .content => some "topic"
  | _ => none

def instructions : String := String.intercalate "\n" [
  "You classify user messages for a workflow automation assistant.",
  "",
  "Respond ONLY with a JSON object:",
  "\x7b",
  "  \"is_automation\": true | false,",
  "  \"category\": \"email\" | \"content\" | \"data\" | \"scheduling\" | \"tasks\" | \"other\",",
  "  \"confidence\": 0.0-1.0,",
  "  \"extracted_parameters\": \x7b\"key\": \"value\", ...\x7d,",
  "  \"missing_parameters\": [\"key\", ...],",
  "  \"complexity\": \"simple\" | \"medium\" | \"complex\"",
  "\x7d",
  "",
  "Parameter keys to use when present:",
  "- recipient (email address), subject, url",
  "- name (task or document name), project",
  "- topic (what content should be about)",
  "- schedule (\"every 5 minutes\", \"daily\", ...), at_time",
  "- amount, customer, source",
  "",
  "Set is_automation to false for greetings, questions, and small talk.",
  "Do not include explanations or markdown."]

end Automation.Lexicon
