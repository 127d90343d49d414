import CallByName.Repl.Loop

/-! The command line: an optional start-up file, then the interactive loop on standard input. -/

namespace CallByName

partial def converse (stdin : IO.FS.Stream) (stdout : IO.FS.Stream) (r : Repl) : IO Unit := do
  if ← stdin.isTty then
    stdout.putStr (if r.pending.isEmpty then "normeval> " else "      ... ")
    stdout.flush
  let line ← stdin.getLine
  if line.isEmpty then
    stdout.putStr Notice.farewell.text
  else
    let (notices, next) := r.read (String.join (TypedLine.ofInput line))
    notices.forM fun n => stdout.putStr n.text
    stdout.flush
    match next with
    | some r => converse stdin stdout r
    | none => return ()

def converseFrom (name : String) (file : Option String) : IO UInt32 := do
  match Repl.opened file with
  | .error e =>
    (← IO.getStderr).putStr (Repl.loadFailure name e)
    return 1
  | .ok (notices, r) =>
    let stdout ← IO.getStdout
    (notices ++ [Notice.banner]).forM fun n => stdout.putStr n.text
    converse (← IO.getStdin) stdout r
    return 0

def runWith (args : List String) : IO UInt32 := do
  match args with
  | [] => converseFrom "" none
  | name :: _ =>
    match ← (IO.FS.readFile name).toBaseIO with
    | .ok source => converseFrom name (some source)
    | .error e =>
      (← IO.getStderr).putStr ("Error: could not read " ++ name ++ ": " ++ toString e ++ "\n")
      return 1

end CallByName

def main (args : List String) : IO UInt32 := CallByName.runWith args
