import CallByName.Program

/-! Sessions keep definitions from one input to the next. An input that fails leaves no trace but
the count of references it followed. -/

namespace CallByName

structure Session where
  env : Env
  forms : Nat
  meter : Meter

namespace Session

def initial : Session := ⟨.empty, 0, ⟨0, 0⟩⟩

def run (limit : Option Nat) (fuel : Nat) (s : Session) (forms : List Expr) :
    Option (Except Error (Option Value) × Session) :=
  ((evalToplevel limit fuel forms s.env).run s.meter).map fun
    | (.ok (v, env), meter) => (.ok v, ⟨env, s.forms + forms.length, meter⟩)
    | (.error e, meter) => (.error e, { s with meter := { s.meter with lookups := meter.lookups } })

def input (comments : Bool) (limit : Option Nat) (fuel : Nat) (s : Session) (source : String) :
    Option (Except Error (Option Value) × Session) :=
  match Program.ofSource comments s.forms source with
  | .error e => some (.error e, s)
  | .ok forms => s.run limit fuel forms

end Session

end CallByName
