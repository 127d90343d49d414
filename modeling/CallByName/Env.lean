import CallByName.Expr.Basic

/-! Environments as finite maps from names to deferred expressions. The nearest frame that binds a
name decides, and in a frame the first binding of it. -/

namespace CallByName

structure Deferred where
  expr : Expr
  env : Env

namespace Env

/-- The number of the innermost frame. The empty environment counts as frame 0, so other frames
are numbered from 1. -/
def frame : Env → Nat
  | empty => 0
  | bind id .. => id
  | bindRec id .. => id

def isEmpty : Env → Bool
  | empty => true
  | _ => false

def lookup? (name : String) : Env → Option Deferred
  | empty => none
  | bind _ bindings scope outer =>
    match bindings.lookup name with
    | some expr => some ⟨expr, scope⟩
    | none => outer.lookup? name
  | bindRec id procs outer =>
    match procs.lookup name with
    | some proc => some ⟨.lambda proc, bindRec id procs outer⟩
    | none => outer.lookup? name

def names : Env → List String
  | empty => []
  | bind _ bindings _ outer => bindings.map Prod.fst ++ outer.names
  | bindRec _ procs outer => procs.map Prod.fst ++ outer.names

def boundNames (env : Env) : List String := env.names.eraseDups

@[simp] theorem lookup?_empty (name : String) : lookup? name empty = none := rfl

theorem lookup?_bind_of_mem {name : String} {id : Nat} {bindings : List (String × Expr)}
    {scope outer : Env} {expr : Expr} (h : bindings.lookup name = some expr) :
    lookup? name (bind id bindings scope outer) = some ⟨expr, scope⟩ := by
  simp [lookup?, h]

theorem lookup?_bindRec_of_mem {name : String} {id : Nat} {procs : List (String × Lambda)}
    {outer : Env} {proc : Lambda} (h : procs.lookup name = some proc) :
    lookup? name (bindRec id procs outer) = some ⟨.lambda proc, bindRec id procs outer⟩ := by
  simp [lookup?, h]

end Env

end CallByName
