import CallByName.Proofs.Scope

/-! Expressions put for free names. Inner bindings of a name shadow it, and what is put for a name
is meant to have no free names itself, so nothing is captured. -/

namespace CallByName

abbrev Substitution := List (String × Expr)

def Substitution.without (σ : Substitution) (names : List String) : Substitution :=
  σ.filter (·.1 ∉ names)

mutual

def Expr.subst (σ : Substitution) : Expr → Expr
  | .var x => (σ.lookup x).getD (.var x)
  | .cond test yes no => .cond (test.subst σ) (yes.subst σ) (no.subst σ)
  | .lambda proc => .lambda (proc.subst σ)
  | .app rator rands => .app (rator.subst σ) (Expr.substAll σ rands)
  | .letIn bindings body =>
    .letIn (Expr.substValues σ bindings)
      (Expr.substForms (σ.without (bindings.map Prod.fst)) body)
  | .letRec bindings body =>
    .letRec (Expr.substValues (σ.without (bindings.map Prod.fst)) bindings)
      (Expr.substForms (σ.without (bindings.map Prod.fst)) body)
  | .assign x value => .assign x (value.subst σ)
  | .define x value => .define x (value.subst (σ.without (value.sees x)))
  | .num n => .num n
  | .bool b => .bool b
  | .str s => .str s
  | .prim op => .prim op
  | .quote v => .quote v
termination_by structural e => e

def Lambda.subst (σ : Substitution) : Lambda → Lambda
  | .mk site params body => .mk site params (Expr.substForms (σ.without params) body)
termination_by structural p => p

def Expr.substAll (σ : Substitution) : List Expr → List Expr
  | [] => []
  | e :: es => e.subst σ :: Expr.substAll σ es
termination_by structural es => es

def Expr.substValues (σ : Substitution) : List (String × Expr) → List (String × Expr)
  | [] => []
  | (x, e) :: bindings => (x, e.subst σ) :: Expr.substValues σ bindings
termination_by structural bindings => bindings

def Expr.substForms (σ : Substitution) : List Expr → List Expr
  | [] => []
  | form :: forms => form.subst σ :: Expr.substForms (σ.without form.defined) forms
termination_by structural es => es

end

@[simp] theorem Substitution.without_nil (names : List String) :
    Substitution.without [] names = [] := rfl

mutual

@[simp] theorem Expr.subst_nil : (e : Expr) → e.subst [] = e
  | .num _ | .bool _ | .str _ | .prim _ | .quote _ => by simp only [Expr.subst]
  | .var _ => by simp [Expr.subst]
  | .cond test yes no => by
    rw [Expr.subst, Expr.subst_nil test, Expr.subst_nil yes, Expr.subst_nil no]
  | .lambda proc => by rw [Expr.subst, Lambda.subst_nil proc]
  | .app rator rands => by rw [Expr.subst, Expr.subst_nil rator, Expr.substAll_nil rands]
  | .letIn bindings body => by
    rw [Expr.subst, Substitution.without_nil, Expr.substValues_nil bindings,
      Expr.substForms_nil body]
  | .letRec bindings body => by
    rw [Expr.subst, Substitution.without_nil, Expr.substValues_nil bindings,
      Expr.substForms_nil body]
  | .assign _ value => by rw [Expr.subst, Expr.subst_nil value]
  | .define _ value => by rw [Expr.subst, Substitution.without_nil, Expr.subst_nil value]

@[simp] theorem Lambda.subst_nil : (p : Lambda) → p.subst [] = p
  | .mk site params body => by
    rw [Lambda.subst, Substitution.without_nil, Expr.substForms_nil body]

@[simp] theorem Expr.substAll_nil : (es : List Expr) → Expr.substAll [] es = es
  | [] => by simp only [Expr.substAll]
  | e :: es => by rw [Expr.substAll, Expr.subst_nil e, Expr.substAll_nil es]

@[simp] theorem Expr.substValues_nil :
    (bindings : List (String × Expr)) → Expr.substValues [] bindings = bindings
  | [] => by simp only [Expr.substValues]
  | (x, e) :: bindings => by rw [Expr.substValues, Expr.subst_nil e, Expr.substValues_nil bindings]

@[simp] theorem Expr.substForms_nil : (forms : List Expr) → Expr.substForms [] forms = forms
  | [] => by simp only [Expr.substForms]
  | form :: forms => by
    rw [Expr.substForms, Substitution.without_nil, Expr.subst_nil form, Expr.substForms_nil forms]

end

theorem Substitution.lookup_without (σ : Substitution) (names : List String) (x : String) :
    (σ.without names).lookup x = if x ∈ names then none else σ.lookup x := by
  induction σ with
  | nil => simp
  | cons b σ ih =>
    unfold without at ih ⊢
    by_cases hb : b.1 ∈ names
    · rw [List.filter_cons_of_neg (by simpa using hb), ih]
      by_cases hx : x ∈ names
      · rw [if_pos hx, if_pos hx]
      · have hne : x ≠ b.1 := fun h => hx (h ▸ hb)
        rw [List.lookup_cons, beq_false_of_ne hne]
    · rw [List.filter_cons_of_pos (by simpa using hb), List.lookup_cons, List.lookup_cons, ih]
      by_cases hx : x = b.1
      · simp [hx, hb]
      · rw [beq_false_of_ne hx]

theorem Substitution.mem_of_mem_without {σ : Substitution} {names : List String}
    {b : String × Expr} (h : b ∈ σ.without names) : b ∈ σ :=
  (List.mem_filter.1 h).1

namespace Expr

theorem substAll_eq_map (σ : Substitution) (es : List Expr) :
    substAll σ es = es.map (subst σ) := by
  induction es with
  | nil => rfl
  | cons e es ih => simp [substAll, ih]

theorem substValues_eq_map (σ : Substitution) (bindings : List (String × Expr)) :
    substValues σ bindings = bindings.map fun b => (b.1, b.2.subst σ) := by
  induction bindings with
  | nil => rfl
  | cons b bindings ih => simp [substValues, ih]

end Expr

end CallByName
