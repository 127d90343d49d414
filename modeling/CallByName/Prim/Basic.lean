/-! The primitive operators: their names and how many operands each takes. -/

namespace CallByName

inductive Arity
  | exactly (n : Nat)
  | atLeast (n : Nat)
  | any
  deriving DecidableEq, Repr

namespace Arity

def Accepts : Arity → Nat → Prop
  | exactly n, got => got = n
  | atLeast n, got => n ≤ got
  | any, _ => True

instance (a : Arity) (got : Nat) : Decidable (a.Accepts got) := by
  cases a <;> unfold Accepts <;> infer_instance

def bound : Arity → Nat
  | exactly n => n
  | atLeast n => n
  | any => 0

end Arity

inductive Prim
  | add | sub | mul | div
  | numEq | lt | gt | le | ge
  | not | and | or
  | eq | equal | stringEq
  | cons | car | cdr | list
  | isPair | isList | isNumber | isBoolean | isSymbol | isString | isProcedure
  deriving DecidableEq, Repr

namespace Prim

def all : List Prim :=
  [add, sub, mul, div, numEq, lt, gt, le, ge, not, and, or, eq, equal, stringEq, cons, car, cdr,
    list, isPair, isList, isNumber, isBoolean, isSymbol, isString, isProcedure]

def name : Prim → String
  | add => "+"
  | sub => "-"
  | mul => "*"
  | div => "/"
  | numEq => "="
  | lt => "<"
  | gt => ">"
  | le => "<="
  | ge => ">="
  | not => "not"
  | and => "and"
  | or => "or"
  | eq => "eq?"
  | equal => "equal?"
  | stringEq => "string=?"
  | cons => "cons"
  | car => "car"
  | cdr => "cdr"
  | list => "list"
  | isPair => "pair?"
  | isList => "list?"
  | isNumber => "number?"
  | isBoolean => "boolean?"
  | isSymbol => "symbol?"
  | isString => "string?"
  | isProcedure => "procedure?"

def arity : Prim → Arity
  | add | mul | and | or | list => .any
  | sub | div => .atLeast 1
  | numEq | lt | gt | le | ge | stringEq => .atLeast 2
  | eq | equal | cons => .exactly 2
  | not | car | cdr | isPair | isList | isNumber | isBoolean | isSymbol | isString | isProcedure =>
    .exactly 1

def ofName? (s : String) : Option Prim := all.find? (·.name == s)

theorem ofName?_name (op : Prim) : ofName? op.name = some op := by cases op <;> decide

theorem name_of_ofName? {s : String} {op : Prim} (h : ofName? s = some op) : op.name = s := by
  simpa using List.find?_some h

end Prim

end CallByName
