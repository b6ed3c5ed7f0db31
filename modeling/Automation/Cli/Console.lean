import Automation.Process
import Automation.Text.Basic

/-!
# The console

What the command line asks of its surroundings: to read files, to look for paths, to open a database
and to print. A tree of files in memory answers it as well as a disk does.
-/

namespace Automation.Cli

inductive ConsoleRequest where
  | readFile (path : String)
  | pathExists (path : String)
  /-- Open a database at a path, or make one; the answer tells whether that was possible. -/
  | openDatabase (path : String)
  | print (text : String)

abbrev ConsoleRequest.Answer : ConsoleRequest → Type
  | readFile _ => Option String
  | pathExists _ | openDatabase _ => Bool
  | print _ => Unit

abbrev Console := Process ConsoleRequest ConsoleRequest.Answer

namespace Console

def readFile (path : String) : Console (Option String) := .ask (.readFile path) .done

def pathExists (path : String) : Console Bool := .ask (.pathExists path) .done

def openDatabase (path : String) : Console Bool := .ask (.openDatabase path) .done

def print (text : String) : Console Unit := .ask (.print text) .done

end Console

/-- A path as the list of its parts. -/
abbrev Path := List String

namespace Path

/-- The parts of a text, those that mean the same place apart. -/
def ofText (s : String) : Path :=
  ((Text.splitWhere (· == '/') s.toList).map String.ofList).filter fun p => p != "" && p != "."

end Path

/-- Files below one place, by their paths. -/
structure FileTree where
  files : List (Path × String)

namespace FileTree

def ofList (files : List (String × String)) : FileTree :=
  ⟨files.map fun (path, text) => (Path.ofText path, text)⟩

def isDirectory (t : FileTree) (p : Path) : Bool :=
  p.isEmpty || t.files.any fun (q, _) => q != p && q.take p.length == p

/-- The place that further parts lead to from a place; every place in between must be a
directory. -/
def walk? (t : FileTree) (here : Path) : Path → Option Path
  | [] => some here
  | part :: rest =>
    if !t.isDirectory here then none
    else t.walk? (if part == ".." then here.dropLast else here ++ [part]) rest

/-- The place that a text leads to. A text that ends in a slash means a directory. -/
def place? (t : FileTree) (path : String) : Option Path :=
  if path.isEmpty || path.startsWith "/" then none
  else (t.walk? [] (Path.ofText path)).filter fun p => !path.endsWith "/" || t.isDirectory p

def read? (t : FileTree) (path : String) : Option String := do
  t.files.lookup (← t.place? path)

def has (t : FileTree) (path : String) : Bool :=
  match t.place? path with
  | some p => (t.files.lookup p).isSome || t.isDirectory p
  | none => false

/-- Whether a database can be there: in an empty file, or in a new one with its directories. -/
def takesDatabase (t : FileTree) (path : String) : Bool :=
  let p := Path.ofText path
  let above := (List.range p.length).map p.take
  match t.read? path with
  | some text => text.isEmpty
  | none => !p.isEmpty && !t.isDirectory p && !above.any fun q => (t.files.lookup q).isSome

/-- Answers a request at the console; what is printed is kept, latest first. -/
def answer (t : FileTree) : (r : ConsoleRequest) → List String → r.Answer × List String
  | .readFile path, out => (t.read? path, out)
  | .pathExists path, out => (t.has path, out)
  | .openDatabase path, out => (t.takesDatabase path, out)
  | .print text, out => ((), text :: out)

end FileTree

end Automation.Cli
