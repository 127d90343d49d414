import CallByName.Datum.Basic
import CallByName.Expr.Basic
import CallByName.Keyword
import CallByName.SyntaxError

/-! Expressions built from data. Special forms are recognised by their reserved words, names are
checked where they are bound, and definitions are admitted only where forms stand in sequence. -/

namespace CallByName

inductive Position
  | sequence
  | operand
  deriving DecidableEq, Repr

inductive Malformation
  | notIdentifier (datum : String)
  | reservedBound (name : String)
  | primitiveBound (name : String)
  | duplicate (name : String)
  | emptyBody
  | noBindings
  | badBinding (datum : String)
  | shape (keyword : Keyword)
  | misplacedDefinition
  | reservedVariable (name : String)
  | emptyApplication

namespace Malformation

def expectedShape : Keyword → String
  | .quote => "(quote <datum>)"
  | .cond => "(if <test> <then> <alt>)"
  | .lambda => "(lambda (<params>...) <body>...)"
  | .letIn => "(let ((<name> <exp>)...) <body>...)"
  | .letRec => "(letrec ((<name> <exp>)...) <body>...)"
  | .assign => "(set! <name> <exp>)"
  | .define => "(define <name> <exp>)"

def message : Malformation → String
  | notIdentifier datum => "Expected an identifier, got " ++ datum
  | reservedBound name => "Reserved word '" ++ name ++ "' cannot be bound"
  | primitiveBound name => "Primitive operator '" ++ name ++ "' cannot be rebound"
  | duplicate name => "Duplicate binding of '" ++ name ++ "'"
  | emptyBody => "Body must not be empty"
  | noBindings => "Expected a list of (name expression) bindings"
  | badBinding datum => "Binding must have the form (name expression), got " ++ datum
  | shape keyword => "Expected " ++ expectedShape keyword
  | misplacedDefinition => "define is only allowed at the top level of a program or body"
  | reservedVariable name => "Reserved word '" ++ name ++ "' cannot be used as a variable"
  | emptyApplication => "Empty application"

def report (m : Malformation) (form : Datum) : SyntaxError :=
  ⟨.malformed, m.message, none, some form.text⟩

end Malformation

namespace Expr

def malformed {α : Type} (form : Datum) (m : Malformation) : Except SyntaxError α :=
  .error (m.report form)

def binder (form : Datum) : Datum → Except SyntaxError String
  | .sym x =>
    if (Keyword.ofName? x).isSome then malformed form (.reservedBound x)
    else if (Prim.ofName? x).isSome then malformed form (.primitiveBound x)
    else .ok x
  | d => malformed form (.notIdentifier d.text)

def binders (form : Datum) : (seen : List String) → List Datum → Except SyntaxError (List String)
  | _, [] => .ok []
  | seen, d :: ds => do
    let x ← binder form d
    if seen.contains x then malformed form (.duplicate x)
    else return x :: (← binders form (x :: seen) ds)

def ofSymbol (x : String) : Except SyntaxError Expr :=
  if (Keyword.ofName? x).isSome then malformed (.sym x) (.reservedVariable x)
  else match Prim.ofName? x with
    | some op => .ok (.prim op)
    | none => .ok (.var x)

def keyword? : Datum → Option Keyword
  | .sym x => Keyword.ofName? x
  | _ => none

mutual

def ofDatum (site : Site) (position : Position) : Datum → Except SyntaxError Expr
  | .num n => .ok (.num n)
  | .bool b => .ok (.bool b)
  | .str s => .ok (.str s)
  | .sym x => ofSymbol x
  | .list [] => malformed (.list []) .emptyApplication
  | .list (d :: ds) =>
    match keyword? d with
    | some k => ofSpecial site position (.list (d :: ds)) k ds
    | none => do
      let rator ← ofDatum (0 :: site) .operand d
      return .app rator (← ofData site .operand 1 ds)

def ofSpecial (site : Site) (position : Position) (form : Datum) :
    Keyword → List Datum → Except SyntaxError Expr
  | .quote, [d] => .ok (.quote d.toValue)
  | .cond, [test, yes, no] => do
    let test ← ofDatum (0 :: site) .operand test
    let yes ← ofDatum (1 :: site) .operand yes
    return .cond test yes (← ofDatum (2 :: site) .operand no)
  | .lambda, .list params :: body => do
    let params ← binders form [] params
    return .lambda (.mk site params (← ofBody site form body))
  | .letIn, .list pairs :: body => do
    let bindings ← ofBindings (0 :: site) form 0 pairs
    let names ← binders form [] (bindings.map Prod.fst)
    return .letIn (names.zip (bindings.map Prod.snd)) (← ofBody site form body)
  | .letRec, .list pairs :: body => do
    let bindings ← ofBindings (0 :: site) form 0 pairs
    let names ← binders form [] (bindings.map Prod.fst)
    return .letRec (names.zip (bindings.map Prod.snd)) (← ofBody site form body)
  | .letIn, _ :: _ => malformed form .noBindings
  | .letRec, _ :: _ => malformed form .noBindings
  | .assign, [name, value] => do
    let x ← binder form name
    return .assign x (← ofDatum (0 :: site) .operand value)
  | .define, args =>
    if position = .operand then malformed form .misplacedDefinition
    else match args with
      | [.sym x, value] => do
        let x ← binder form (.sym x)
        return .define x (← ofDatum (0 :: site) .operand value)
      | .list (name :: params) :: body => do
        let x ← binder form name
        let params ← binders form [] params
        return .define x (.lambda (.mk site params (← ofBody site form body)))
      | _ => malformed form (.shape .define)
  | k, _ => malformed form (.shape k)

def ofBody (site : Site) (form : Datum) : List Datum → Except SyntaxError (List Expr)
  | [] => malformed form .emptyBody
  | d :: ds => do
    let e ← ofDatum (1 :: site) .sequence d
    return e :: (← ofData site .sequence 2 ds)

def ofData (site : Site) (position : Position) (i : Nat) :
    List Datum → Except SyntaxError (List Expr)
  | [] => .ok []
  | d :: ds => do
    let e ← ofDatum (i :: site) position d
    return e :: (← ofData site position (i + 1) ds)

def ofBindings (site : Site) (form : Datum) (i : Nat) :
    List Datum → Except SyntaxError (List (Datum × Expr))
  | [] => .ok []
  | .list [name, value] :: pairs => do
    let e ← ofDatum (i :: site) .operand value
    return (name, e) :: (← ofBindings site form (i + 1) pairs)
  | d :: _ => malformed form (.badBinding d.text)

end

end Expr

end CallByName
