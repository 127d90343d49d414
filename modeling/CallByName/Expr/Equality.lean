import CallByName.Value.Basic

/-! Equality of expressions looks at what they are and not at where their lambdas stand. -/

namespace CallByName

mutual

protected def Expr.beq : Expr → Expr → Bool
  | .num m, .num n => m == n
  | .bool a, .bool b => a == b
  | .str s, .str t => s == t
  | .prim op, .prim op' => op == op'
  | .var x, .var y => x == y
  | .cond t y n, .cond t' y' n' => t.beq t' && y.beq y' && n.beq n'
  | .lambda p, .lambda q => p.beq q
  | .app f es, .app f' es' => f.beq f' && Expr.beqAll es es'
  | .letIn bs body, .letIn bs' body' => Expr.beqBindings bs bs' && Expr.beqAll body body'
  | .letRec bs body, .letRec bs' body' => Expr.beqBindings bs bs' && Expr.beqAll body body'
  | .assign x e, .assign y e' => x == y && e.beq e'
  | .quote v, .quote w => v == w
  | .define x e, .define y e' => x == y && e.beq e'
  | _, _ => false

protected def Lambda.beq : Lambda → Lambda → Bool
  | .mk _ params body, .mk _ params' body' => params == params' && Expr.beqAll body body'

def Expr.beqAll : List Expr → List Expr → Bool
  | [], [] => true
  | e :: es, e' :: es' => e.beq e' && Expr.beqAll es es'
  | _, _ => false

def Expr.beqBindings : List (String × Expr) → List (String × Expr) → Bool
  | [], [] => true
  | (x, e) :: bs, (y, e') :: bs' => x == y && e.beq e' && Expr.beqBindings bs bs'
  | _, _ => false

end

instance : BEq Expr := ⟨Expr.beq⟩
instance : BEq Lambda := ⟨Lambda.beq⟩

end CallByName
