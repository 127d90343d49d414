import CallByName.Text.Diagnostic
import CallByName.Value.Basic

/-! Descriptions of procedures and environments for diagnosis. They name what is bound and say no
more, so they do not grow with the environments behind. -/

namespace CallByName

def Arity.description : Arity → String
  | .exactly n => "Exact(" ++ Nat.repr n ++ ")"
  | .atLeast n => "AtLeast(" ++ Nat.repr n ++ ")"
  | .any => "Any"

def Prim.description (op : Prim) : String :=
  "BuiltinOp \x7b id: " ++ Text.Diagnostic.quoted op.name ++ ", arity: " ++ op.arity.description ++
    ", .. \x7d"

def Lambda.description (proc : Lambda) : String :=
  "Closure(params=" ++ Text.Diagnostic.quotedList proc.params ++ ", body_len=" ++
    Nat.repr proc.body.length ++ ")"

def Env.description (env : Env) : String :=
  "Environment \x7b bound: " ++ Text.Diagnostic.quotedList env.boundNames ++ " \x7d"

def Value.description? : Value → Option String
  | .prim op => some op.description
  | .closure proc _ => some proc.description
  | _ => none

end CallByName
