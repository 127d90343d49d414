import CallByName.Error
import CallByName.Value.Printer

/-! Primitive operators on evaluated operands. The types of all operands are checked before
anything is computed, and the leftmost operand of a wrong type is reported. -/

namespace CallByName

def Arity.check (a : Arity) (got : Nat) : Except Error Unit :=
  if a.Accepts got then .ok () else .error (.arity a.bound got none)

namespace Value

def asNumber : Value → Except Error Number
  | num n => .ok n
  | v => .error (.notNumber v.typeName)

def asBoolean : Value → Except Error Bool
  | bool b => .ok b
  | v => .error (.notBoolean v.typeName)

def asString : Value → Except Error String
  | str s => .ok s
  | v => .error (.notString v.typeName)

def isList (v : Value) : Bool := v.toList?.isSome

def isNumber : Value → Bool
  | num _ => true
  | _ => false

def isBoolean : Value → Bool
  | bool _ => true
  | _ => false

def isSymbol : Value → Bool
  | sym _ => true
  | _ => false

def isString : Value → Bool
  | str _ => true
  | _ => false

/-- An operand of the type that is asked for is taken for what it holds, and one of another type is
refused with an error about its type. -/
structure Asks {α : Type} (wrap : α → Value) (fits : Value → Bool) (refusal : String → Error)
    (ask : Value → Except Error α) : Prop where
  taken (a : α) : ask (wrap a) = .ok a
  wrapped {v : Value} : fits v = true → ∃ a, v = wrap a
  refused {v : Value} : fits v = false → ask v = .error (refusal v.typeName)

theorem asks_number : Asks num isNumber .notNumber asNumber where
  taken _ := rfl
  wrapped {v} h := by
    cases v with
    | num n => exact ⟨n, rfl⟩
    | _ => cases h
  refused {v} h := by
    cases v with
    | num n => cases h
    | _ => rfl

theorem asks_string : Asks str isString .notString asString where
  taken _ := rfl
  wrapped {v} h := by
    cases v with
    | str s => exact ⟨s, rfl⟩
    | _ => cases h
  refused {v} h := by
    cases v with
    | str s => cases h
    | _ => rfl

namespace Asks

variable {α : Type} {wrap : α → Value} {fits : Value → Bool} {refusal : String → Error}
  {ask : Value → Except Error α} (hask : Asks wrap fits refusal ask)

include hask

theorem mapM_map (as : List α) : (as.map wrap).mapM ask = .ok as := by
  induction as with
  | nil => rfl
  | cons a as ih =>
    rw [List.map_cons, List.mapM_cons, hask.taken, ih]
    rfl

theorem mapM_of_find? {args : List Value} {v : Value}
    (h : args.find? (fun v => !fits v) = some v) :
    args.mapM ask = .error (refusal v.typeName) := by
  induction args with
  | nil => cases h
  | cons w args ih =>
    rw [List.find?_cons] at h
    rw [List.mapM_cons]
    cases hw : fits w with
    | true =>
      obtain ⟨a, rfl⟩ := hask.wrapped hw
      rw [hw] at h
      rw [hask.taken, ih h]
      rfl
    | false =>
      rw [hw] at h
      cases h
      rw [hask.refused hw]
      rfl

end Asks

end Value

namespace Prim

def chained {α : Type} (related : α → α → Bool) : List α → Bool
  | a :: b :: rest => related a b && chained related (b :: rest)
  | _ => true

def addStep (a b : Number) : Except Error Number :=
  (a.add? b).elim (.error (.overflow .addition)) .ok

def subStep (a b : Number) : Except Error Number :=
  (a.sub? b).elim (.error (.overflow .subtraction)) .ok

def mulStep (a b : Number) : Except Error Number :=
  (a.mul? b).elim (.error (.overflow .multiplication)) .ok

def divStep (a b : Number) : Except Error Number :=
  if b = 0 then .error .divisionByZero else (a.quot? b).elim (.error (.overflow .division)) .ok

def difference : List Number → Except Error Number
  | [] => .error (.arity 1 0 none)
  | [n] => (n.neg?).elim (.error (.overflow .negation)) .ok
  | n :: ns => ns.foldlM subStep n

def quotient : List Number → Except Error Number
  | [] => .error (.arity 1 0 none)
  | [n] => divStep 1 n
  | n :: ns => ns.foldlM divStep n

def compare (related : Number → Number → Bool) (args : List Value) : Except Error Value := do
  return .bool (chained related (← args.mapM Value.asNumber))

def unary (f : Value → Except Error Value) : List Value → Except Error Value
  | [v] => f v
  | args => .error (.arity 1 args.length none)

def binary (f : Value → Value → Except Error Value) : List Value → Except Error Value
  | [v, w] => f v w
  | args => .error (.arity 2 args.length none)

def test (p : Value → Bool) : List Value → Except Error Value := unary fun v => .ok (.bool (p v))

/-- The operator itself, with no more demand on the number of operands than it needs to work. -/
def run : Prim → List Value → Except Error Value
  | add, args => do return .num (← (← args.mapM Value.asNumber).foldlM addStep 0)
  | sub, args => do return .num (← difference (← args.mapM Value.asNumber))
  | mul, args => do return .num (← (← args.mapM Value.asNumber).foldlM mulStep 1)
  | div, args => do return .num (← quotient (← args.mapM Value.asNumber))
  | numEq, args => compare (fun a b => a == b) args
  | lt, args => compare (fun a b => a < b) args
  | gt, args => compare (fun a b => b < a) args
  | le, args => compare (fun a b => a ≤ b) args
  | ge, args => compare (fun a b => b ≤ a) args
  | not, args => unary (fun v => do return .bool !(← v.asBoolean)) args
  | and, args => do return .bool ((← args.mapM Value.asBoolean).all id)
  | or, args => do return .bool ((← args.mapM Value.asBoolean).any id)
  | eq, args => binary (fun v w => .ok (.bool (v.isSameAtom w))) args
  | equal, args => binary (fun v w => .ok (.bool (v == w))) args
  | stringEq, args => do return .bool (chained (fun s t => s == t) (← args.mapM Value.asString))
  | cons, args => binary (fun v w => .ok (.pair v w)) args
  | car, args => unary (fun
      | .pair v _ => .ok v
      | v => .error (.notPair car v.text)) args
  | cdr, args => unary (fun
      | .pair _ w => .ok w
      | v => .error (.notPair cdr v.text)) args
  | list, args => .ok (.ofList args)
  | isPair, args => test Value.isPair args
  | isList, args => test Value.isList args
  | isNumber, args => test Value.isNumber args
  | isBoolean, args => test Value.isBoolean args
  | isSymbol, args => test Value.isSymbol args
  | isString, args => test Value.isString args
  | isProcedure, args => test Value.isProcedure args

def apply (op : Prim) (args : List Value) : Except Error Value := do
  op.arity.check args.length
  op.run args

theorem apply_of_accepts {op : Prim} {args : List Value} (h : op.arity.Accepts args.length) :
    op.apply args = op.run args := by
  rw [apply, Arity.check, if_pos h]
  rfl

theorem apply_of_not_accepts {op : Prim} {args : List Value}
    (h : ¬ op.arity.Accepts args.length) :
    op.apply args = .error (.arity op.arity.bound args.length none) := by
  rw [apply, Arity.check, if_neg h]
  rfl

end Prim

end CallByName
