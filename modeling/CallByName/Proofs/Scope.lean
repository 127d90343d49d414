import CallByName.Program

/-! The free names of expressions, by the scopes of the language, and the constants in them. Names
count where they are referred to: the name that an assignment names is none of them, since an
assignment is refused before anything is looked up. -/

namespace CallByName

def Expr.defined : Expr → List String
  | .define x _ => [x]
  | _ => []

/-- The name by which a value sees itself when it is defined under `x`: only a lambda does. -/
def Expr.sees (x : String) : Expr → List String
  | .lambda _ => [x]
  | _ => []

mutual

/-- The names of a `let` reach over its body, those of a `letrec` over its values too. -/
def Expr.free : Expr → List String
  | .var x => [x]
  | .cond test yes no => test.free ++ yes.free ++ no.free
  | .lambda proc => proc.free
  | .app rator rands => rator.free ++ Expr.freeAll rands
  | .letIn bindings body =>
    Expr.freeValues bindings ++ (Expr.freeForms body).filter (· ∉ bindings.map Prod.fst)
  | .letRec bindings body =>
    (Expr.freeValues bindings ++ Expr.freeForms body).filter (· ∉ bindings.map Prod.fst)
  | .assign _ value => value.free
  | .define x value => value.free.filter (· ∉ value.sees x)
  | .num _ | .bool _ | .str _ | .prim _ | .quote _ => []

def Lambda.free : Lambda → List String
  | .mk _ params body => (Expr.freeForms body).filter (· ∉ params)

def Expr.freeAll : List Expr → List String
  | [] => []
  | e :: es => e.free ++ Expr.freeAll es

def Expr.freeValues : List (String × Expr) → List String
  | [] => []
  | (_, e) :: bindings => e.free ++ Expr.freeValues bindings

def Expr.freeForms : List Expr → List String
  | [] => []
  | form :: forms => form.free ++ (Expr.freeForms forms).filter (· ∉ form.defined)

end

mutual

def Expr.constants : Expr → List Value
  | .prim op => [.prim op]
  | .quote v => [v]
  | .cond test yes no => test.constants ++ yes.constants ++ no.constants
  | .lambda proc => proc.constants
  | .app rator rands => rator.constants ++ Expr.constantsAll rands
  | .letIn bindings body => Expr.constantsValues bindings ++ Expr.constantsAll body
  | .letRec bindings body => Expr.constantsValues bindings ++ Expr.constantsAll body
  | .assign _ value => value.constants
  | .define _ value => value.constants
  | .num _ | .bool _ | .str _ | .var _ => []

def Lambda.constants : Lambda → List Value
  | .mk _ _ body => Expr.constantsAll body

def Expr.constantsAll : List Expr → List Value
  | [] => []
  | e :: es => e.constants ++ Expr.constantsAll es

def Expr.constantsValues : List (String × Expr) → List Value
  | [] => []
  | (_, e) :: bindings => e.constants ++ Expr.constantsValues bindings

end

theorem Expr.freeAll_eq_flatMap (es : List Expr) : Expr.freeAll es = es.flatMap Expr.free := by
  induction es with
  | nil => rfl
  | cons e es ih => simp [Expr.freeAll, ih]

theorem Expr.freeValues_eq_flatMap (bindings : List (String × Expr)) :
    Expr.freeValues bindings = bindings.flatMap fun b => b.2.free := by
  induction bindings with
  | nil => rfl
  | cons b bindings ih => simp [Expr.freeValues, ih]

theorem Expr.constantsAll_eq_flatMap (es : List Expr) :
    Expr.constantsAll es = es.flatMap Expr.constants := by
  induction es with
  | nil => rfl
  | cons e es ih => simp [Expr.constantsAll, ih]

theorem Expr.constantsValues_eq_flatMap (bindings : List (String × Expr)) :
    Expr.constantsValues bindings = bindings.flatMap fun b => b.2.constants := by
  induction bindings with
  | nil => rfl
  | cons b bindings ih => simp [Expr.constantsValues, ih]

theorem Lambda.mem_free {p : Lambda} {x : String} :
    x ∈ p.free ↔ x ∈ Expr.freeForms p.body ∧ x ∉ p.params := by
  cases p
  simp [Lambda.free, Lambda.body, Lambda.params]

theorem Lambda.constants_eq (p : Lambda) : p.constants = Expr.constantsAll p.body := by
  cases p
  rfl

end CallByName
