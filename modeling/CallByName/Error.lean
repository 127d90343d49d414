import CallByName.Prim.Basic
import CallByName.SyntaxError

/-! What can go wrong. Causes are kept apart, each with the names and texts its message shows;
`kind` sorts them into the eight headings under which they are reported. -/

namespace CallByName

inductive ErrorKind
  | unreadable
  | unbound
  | emptySequence
  | badProcedure
  | malformed
  | wrongType
  | failed
  | wrongArity
  deriving DecidableEq, Repr

def ErrorKind.heading : ErrorKind → String
  | unreadable => "ParseError: "
  | unbound => "Unbound variable: "
  | emptySequence => "Empty sequence: nothing to evaluate"
  | badProcedure => "Bad procedure: "
  | malformed => "Malformed expression: "
  | wrongType => "Type error: "
  | failed => "EvaluationError: "
  | wrongArity => "ArityError: "

inductive Operation
  | addition
  | negation
  | subtraction
  | multiplication
  | division
  deriving DecidableEq, Repr

def Operation.name : Operation → String
  | addition => "addition"
  | negation => "negation"
  | subtraction => "subtraction"
  | multiplication => "multiplication"
  | division => "division"

inductive Error
  | unreadable (report : SyntaxError)
  | unbound (name : String)
  | emptySequence
  | notProcedure (value type : String)
  | immutable (name : String)
  | strayDefinition (definition : String)
  | notLambda (name value : String)
  | notNumber (type : String)
  | notBoolean (type : String)
  | notString (type : String)
  | notPair (op : Prim) (value : String)
  | overflow (operation : Operation)
  | divisionByZero
  | depthExceeded (limit : Nat)
  | arity (expected got : Nat) (application : Option String)
  deriving DecidableEq, Repr

namespace Error

def kind : Error → ErrorKind
  | unreadable _ => .unreadable
  | unbound _ => .unbound
  | emptySequence => .emptySequence
  | notProcedure .. => .badProcedure
  | immutable _ | strayDefinition _ | notLambda .. => .malformed
  | notNumber _ | notBoolean _ | notString _ => .wrongType
  | notPair .. | overflow _ | divisionByZero | depthExceeded _ => .failed
  | arity .. => .wrongArity

def detail : Error → String
  | unreadable report => report.text
  | unbound name => name
  | emptySequence => ""
  | notProcedure value type => value ++ " (" ++ type ++ ") is not a procedure"
  | immutable name => "cannot assign to '" ++ name ++ "': bindings are immutable"
  | strayDefinition definition => "definition outside of a body or program: " ++ definition
  | notLambda name value => "letrec binding '" ++ name ++ "' must be a lambda, got " ++ value
  | notNumber type => "expected number, got " ++ type
  | notBoolean type => "expected boolean, got " ++ type
  | notString type => "string=? expects strings, got " ++ type
  | notPair op value => op.name ++ ": " ++ value ++ " is not a pair"
  | overflow operation => "Integer overflow in " ++ operation.name
  | divisionByZero => "Division by zero"
  | depthExceeded limit => "Evaluation depth limit exceeded (max: " ++ Nat.repr limit ++ ")"
  | arity expected got (some application) =>
    "expression " ++ application ++ ": expected " ++ Nat.repr expected ++ " arguments, got " ++
      Nat.repr got
  | arity expected got none =>
    "function expected " ++ Nat.repr expected ++ " arguments but got " ++ Nat.repr got

def message (e : Error) : String := e.kind.heading ++ e.detail

end Error

end CallByName
