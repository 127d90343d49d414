import CallByName.Env

/-! Values: lists as chains of pairs, the names of the types, and equality. Two closures are equal
when they come from the same lambda, with the same parameters, over the same frame. -/

namespace CallByName.Value

def chain (items : List Value) (last : Value) : Value := items.foldr pair last

def ofList (items : List Value) : Value := chain items nil

def toList? : Value → Option (List Value)
  | nil => some []
  | pair car cdr => cdr.toList?.map (car :: ·)
  | _ => none

def isTrue : Value → Bool
  | bool b => b
  | _ => true

def isPair : Value → Bool
  | pair .. => true
  | _ => false

def isProcedure : Value → Bool
  | prim _ | closure .. => true
  | _ => false

def typeName : Value → String
  | num _ => "number"
  | bool _ => "boolean"
  | str _ => "string"
  | sym _ => "symbol"
  | nil => "empty list"
  | pair .. => "pair"
  | prim _ => "primitive"
  | closure .. => "closure"

protected def beq : Value → Value → Bool
  | num m, num n => m == n
  | bool a, bool b => a == b
  | str s, str t => s == t
  | sym x, sym y => x == y
  | nil, nil => true
  | pair a d, pair a' d' => a.beq a' && d.beq d'
  | prim op, prim op' => op == op'
  | closure p env, closure q env' =>
    p.site == q.site && p.params == q.params && env.frame == env'.frame
  | _, _ => false

instance : BEq Value := ⟨Value.beq⟩

def isSameAtom : Value → Value → Bool
  | num m, num n => m == n
  | bool a, bool b => a == b
  | str s, str t => s == t
  | sym x, sym y => x == y
  | nil, nil => true
  | prim op, prim op' => op == op'
  | _, _ => false

@[simp] theorem chain_nil (last : Value) : chain [] last = last := rfl

@[simp] theorem chain_cons (v : Value) (vs : List Value) (last : Value) :
    chain (v :: vs) last = pair v (chain vs last) := rfl

@[simp] theorem toList?_ofList (vs : List Value) : (ofList vs).toList? = some vs := by
  induction vs with
  | nil => rfl
  | cons v vs ih => simpa [ofList, toList?] using ih

end CallByName.Value
