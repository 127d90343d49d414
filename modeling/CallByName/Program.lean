import CallByName.Datum.Read
import CallByName.Eval
import CallByName.Expr.OfDatum

/-! Programs from source text. The top-level forms of a text are numbered from a given number on,
and the lambdas in them are placed by these numbers. -/

namespace CallByName

def Expr.ofSource (comments : Bool) (base : Nat) (source : String) : Except Error Expr :=
  (do ofDatum [base] .sequence (← Datum.readOne (readable comments source))).mapError .unreadable

def Program.ofSource (comments : Bool) (base : Nat) (source : String) : Except Error (List Expr) :=
  (do Expr.ofData [] .sequence base (← Datum.readAll (readable comments source))).mapError
    .unreadable

def evalProgram (limit : Option Nat) (fuel : Nat) (forms : List Expr) : EvalM Value :=
  evalSequence limit fuel forms .empty

def evalSource (fuel : Nat) (base : Nat) (source : String) : EvalM Value := do
  evalProgram none fuel [← Expr.ofSource true base source]

end CallByName
