import CallByName.Number
import CallByName.Prim.Basic

/-! Expressions, values and environments. They refer to each other: a closure is a lambda with an
environment, a frame of an environment binds names to expressions, and a quoted value is an
expression. -/

namespace CallByName

/-- The place of a lambda in the forms it was built from, as positions from the innermost outward.
-/
abbrev Site := List Nat

mutual

inductive Expr
  | num (n : Number)
  | bool (b : Bool)
  | str (s : String)
  | prim (op : Prim)
  | var (name : String)
  | cond (test yes no : Expr)
  | lambda (proc : Lambda)
  | app (rator : Expr) (rands : List Expr)
  | letIn (bindings : List (String × Expr)) (body : List Expr)
  | letRec (bindings : List (String × Expr)) (body : List Expr)
  | assign (name : String) (value : Expr)
  | quote (value : Value)
  | define (name : String) (value : Expr)

inductive Lambda
  | mk (site : Site) (params : List String) (body : List Expr)

inductive Value
  | num (n : Number)
  | bool (b : Bool)
  | str (s : String)
  | sym (name : String)
  | nil
  | pair (car cdr : Value)
  | prim (op : Prim)
  | closure (proc : Lambda) (env : Env)

/-- A chain of numbered frames. In a frame made by `bind` every expression waits to be evaluated
in `scope`; a procedure of a frame made by `bindRec` is a lambda over that frame itself. -/
inductive Env
  | empty
  | bind (frame : Nat) (bindings : List (String × Expr)) (scope outer : Env)
  | bindRec (frame : Nat) (procs : List (String × Lambda)) (outer : Env)

end

namespace Lambda

def site : Lambda → Site
  | mk site _ _ => site

def params : Lambda → List String
  | mk _ params _ => params

def body : Lambda → List Expr
  | mk _ _ body => body

end Lambda

instance : Inhabited Expr := ⟨.bool false⟩
instance : Inhabited Lambda := ⟨.mk [] [] []⟩
instance : Inhabited Value := ⟨.nil⟩
instance : Inhabited Env := ⟨.empty⟩

end CallByName
