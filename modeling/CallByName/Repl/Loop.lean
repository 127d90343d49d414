import CallByName.Repl.Notice
import CallByName.Repl.TypedLine
import CallByName.Session

/-! The interactive loop. Lines are gathered until they can be read as data, then evaluated; a few
commands are obeyed when nothing has been gathered. -/

namespace CallByName

def interactiveDepth : Nat := 2048

structure Repl where
  session : Session
  pending : String

namespace Repl

def start (session : Session) : Repl := ⟨session, ""⟩

/-- Evaluates a text that may hold no form at all. The fuel suffices for the depth. -/
def load (s : Session) (source : String) : Except Error (Option Value) × Session :=
  match Program.ofSource true s.forms source with
  | .error e => (.error e, s)
  | .ok [] => (.ok none, s)
  | .ok forms =>
    (s.run (some interactiveDepth) (interactiveDepth + 1) forms).getD
      (.error (.depthExceeded interactiveDepth), s)

def isIncomplete : Error → Bool
  | .unreadable report => report.kind == .incomplete
  | _ => false

def gather (r : Repl) (line : String) : List Notice × Repl :=
  let source := r.pending ++ line ++ "\n"
  match load r.session source with
  | (.ok (some v), s) => ([.value v], start s)
  | (.ok none, s) => ([], start s)
  | (.error e, s) => if isIncomplete e then ([], ⟨s, source⟩) else ([.failure e], start s)

def read (r : Repl) (line : String) : List Notice × Option Repl :=
  let command := String.ofList (Text.trim line.toList)
  if r.pending.isEmpty && command.isEmpty then ([], some r)
  else if r.pending.isEmpty && command == ":help" then ([.help], some r)
  else if r.pending.isEmpty && command == ":env" then ([.names r.session.env.boundNames], some r)
  else if r.pending.isEmpty && (command == ":quit" || command == ":exit") then ([.farewell], none)
  else
    let (notices, r) := r.gather line
    (notices, some r)

def readLines (r : Repl) : List String → List Notice
  | [] => [.farewell]
  | line :: rest =>
    match r.read line with
    | (notices, some r) => notices ++ r.readLines rest
    | (notices, none) => notices

def opened (file : Option String) : Except Error (List Notice × Repl) :=
  match file with
  | none => .ok ([], start .initial)
  | some source =>
    match load .initial source with
    | (.ok v, s) => .ok (v.toList.map .value, start s)
    | (.error e, _) => .error e

structure Transcript where
  output : String
  errors : String
  exitCode : Nat

def loadFailure (name : String) (e : Error) : String :=
  "Error: " ++ name ++ ": " ++ e.message ++ "\n"

def transcript (name : String) (file : Option String) (input : String) : Transcript :=
  match opened file with
  | .error e => ⟨"", loadFailure name e, 1⟩
  | .ok (notices, r) =>
    ⟨String.join ((notices ++ .banner :: r.readLines (TypedLine.ofInput input)).map Notice.text), "", 0⟩

end Repl

end CallByName
