import CallByName.Error
import CallByName.Value.Printer

/-! What the interactive loop says, and the lines it is said in. -/

namespace CallByName

inductive Notice
  | banner
  | value (v : Value)
  | failure (e : Error)
  | names (names : List String)
  | help
  | farewell

namespace Notice

def rows {α : Type} (n : Nat) : List α → List (List α)
  | [] => []
  | x :: xs => (x :: xs.take n) :: rows n (xs.drop n)
termination_by xs => xs.length
decreasing_by simp only [List.length_drop, List.length_cons]; omega

def column (name : String) : String :=
  "  " ++ name ++ String.ofList (List.replicate (15 - name.toList.length) ' ')

def bannerLines : List String :=
  ["normeval: a normal-order (call-by-name) Scheme evaluator",
   "Enter expressions like: ((lambda (x y) x) 1 (/ 1 0))",
   "Type :help for more commands, or Ctrl+C to exit.",
   ""]

def helpLines : List String :=
  ["Normal-order Scheme evaluator:",
   "  :help      - Show this help message",
   "  :env       - Show names defined so far",
   "  :quit      - Exit the interpreter",
   "  :exit      - Exit the interpreter",
   "  Ctrl+C     - Cancel pending input, or exit",
   "",
   "Operands of user procedures are passed unevaluated and evaluated",
   "each time they are referenced. Primitives evaluate their operands.",
   "",
   "Special forms: define, lambda, if, let, letrec, quote ('x)",
   "Primitives:"] ++
  (rows 7 (Prim.all.map Prim.name)).map (fun row => "  " ++ " ".intercalate row) ++
  ["",
   "Examples:",
   "  ((lambda (x y) x) 1 (/ 1 0))",
   "  (define fact (lambda (n) (if (= n 0) 1 (* n (fact (- n 1))))))",
   "  (fact 5)",
   ""]

def nameLines (names : List String) : List String :=
  if names.isEmpty then ["Environment is empty."]
  else
    ("Defined names (" ++ Nat.repr names.length ++ " total):") ::
      (rows 3 names).map fun row => String.join (row.map column)

def lines : Notice → List String
  | .banner => bannerLines
  | .value v => [v.text]
  | .failure e => ["Error: " ++ e.message]
  | .names xs => nameLines xs
  | .help => helpLines
  | .farewell => ["Goodbye!"]

def text (n : Notice) : String := String.join (n.lines.map (· ++ "\n"))

end Notice

end CallByName
