import CallByName.Expr.Printer
import CallByName.Prim.Apply

/-! Call-by-name evaluation. A procedure's operands are bound as they stand, with the environment
of the call, and are evaluated anew at every reference; primitive operators evaluate theirs first.
Evaluation counts the references it follows and the frames it makes, and may be cut off at a
depth. -/

namespace CallByName

structure Meter where
  lookups : Nat
  frames : Nat
  deriving DecidableEq, Repr

/-- An evaluation that runs out of fuel is `none`; the meter is kept after an error. -/
abbrev EvalM := ExceptT Error (StateT Meter Option)

namespace EvalM

def run {α : Type} (x : EvalM α) (m : Meter) : Option (Except Error α × Meter) :=
  StateT.run (ExceptT.run x) m

def outOfFuel {α : Type} : EvalM α := ExceptT.mk fun _ => none

def newFrame : EvalM Nat :=
  modifyGet fun m => (m.frames + 1, { m with frames := m.frames + 1 })

def countLookup : EvalM Unit := modify fun m => { m with lookups := m.lookups + 1 }

variable {α β : Type} (m : Meter)

@[simp] theorem run_pure (a : α) : (pure a : EvalM α).run m = some (.ok a, m) := rfl

@[simp] theorem run_throw (e : Error) : (throw e : EvalM α).run m = some (.error e, m) := rfl

@[simp] theorem run_outOfFuel : (outOfFuel : EvalM α).run m = none := rfl

@[simp] theorem run_newFrame :
    newFrame.run m = some (.ok (m.frames + 1), ⟨m.lookups, m.frames + 1⟩) := rfl

@[simp] theorem run_countLookup :
    countLookup.run m = some (.ok (), ⟨m.lookups + 1, m.frames⟩) := rfl

theorem run_bind (x : EvalM α) (f : α → EvalM β) :
    (x >>= f).run m =
      match x.run m with
      | none => none
      | some (.error e, m') => some (.error e, m')
      | some (.ok a, m') => (f a).run m' := by
  simp only [EvalM.run, ExceptT.run_bind, StateT.run_bind]
  cases h : StateT.run (ExceptT.run x) m with
  | none => rfl
  | some r =>
    obtain ⟨r, m'⟩ := r
    cases r <;> rfl

theorem run_bind_eq_ok_iff {x : EvalM α} {f : α → EvalM β} {b : β} {m m' : Meter} :
    (x >>= f).run m = some (.ok b, m') ↔
      ∃ a m₁, x.run m = some (.ok a, m₁) ∧ (f a).run m₁ = some (.ok b, m') := by
  rw [run_bind]
  cases x.run m with
  | none => simp
  | some r =>
    obtain ⟨e | a, m₁⟩ := r
    · simp
    · constructor
      · intro h
        exact ⟨a, m₁, rfl, h⟩
      · rintro ⟨a', m₁', h, hf⟩
        cases h
        exact hf

end EvalM

open EvalM

namespace Env

def extend (env : Env) (bindings : List (String × Expr)) (scope : Env) : EvalM Env := do
  return .bind (← newFrame) bindings scope env

def extendRec (env : Env) (procs : List (String × Lambda)) : EvalM Env := do
  return .bindRec (← newFrame) procs env

/-- The environment after a definition. A procedure sees its own name; any other expression is
evaluated in the environment before the definition. -/
def define (env : Env) (name : String) : Expr → EvalM Env
  | .lambda proc => env.extendRec [(name, proc)]
  | e => env.extend [(name, e)] env

end Env

def lambdas : List (String × Expr) → Except Error (List (String × Lambda))
  | [] => .ok []
  | (x, .lambda proc) :: bindings => (lambdas bindings).map ((x, proc) :: ·)
  | (x, e) :: _ => .error (.notLambda x e.text)

def runForm (ev : Expr → Env → EvalM Value) (env : Env) : Expr → EvalM (Option Value × Env)
  | .define x e => do return (none, ← env.define x e)
  | e => do return (some (← ev e env), env)

def runForms (ev : Expr → Env → EvalM Value) (forms : List Expr) (env : Env) :
    EvalM (Option Value × Env) :=
  forms.foldlM (fun s form => runForm ev s.2 form) (none, env)

theorem runForms_append (ev : Expr → Env → EvalM Value) (forms : List Expr) {more : List Expr}
    (h : more ≠ []) (env : Env) :
    runForms ev (forms ++ more) env = runForms ev forms env >>= fun s => runForms ev more s.2 := by
  cases more with
  | nil => exact absurd rfl h
  | cons form more => simp [runForms]

def runBody (ev : Expr → Env → EvalM Value) (forms : List Expr) (env : Env) : EvalM Value := do
  match (← runForms ev forms env).1 with
  | some v => return v
  | none => throw .emptySequence

def checkDepth (limit : Option Nat) (depth : Nat) : Except Error Unit :=
  match limit with
  | some n => if n ≤ depth then .error (.depthExceeded n) else .ok ()
  | none => .ok ()

def applyValue (ev : Nat → Expr → Env → EvalM Value) (depth : Nat) (rator : Expr)
    (rands : List Expr) (env : Env) : Value → EvalM Value
  | .prim op => do op.apply (← rands.mapM fun e => ev (depth + 1) e env)
  | .closure proc scope =>
    if proc.params.length = rands.length then do
      runBody (ev (depth + 2)) proc.body (← scope.extend (proc.params.zip rands) env)
    else
      throw (.arity proc.params.length rands.length (some (Expr.app rator rands).text))
  | v => throw (.notProcedure v.text v.typeName)

/-- One expression, given an evaluator for what lies deeper. -/
def step (limit : Option Nat) (ev : Nat → Expr → Env → EvalM Value) (depth : Nat) (e : Expr)
    (env : Env) : EvalM Value := do
  checkDepth limit depth
  match e with
  | .num n => return .num n
  | .bool b => return .bool b
  | .str s => return .str s
  | .prim op => return .prim op
  | .quote v => return v
  | .lambda proc => return .closure proc env
  | .var x =>
    match env.lookup? x with
    | none => throw (.unbound x)
    | some d => do
      countLookup
      ev (depth + 1) d.expr d.env
  | .cond test yes no => do
    let v ← ev (depth + 1) test env
    ev (depth + 1) (if v.isTrue then yes else no) env
  | .app rator rands => do
    let v ← ev (depth + 1) rator env
    applyValue ev depth rator rands env v
  | .letIn bindings body => do runBody (ev (depth + 2)) body (← env.extend bindings env)
  | .letRec bindings body => do runBody (ev (depth + 2)) body (← env.extendRec (← lambdas bindings))
  | .assign x _ => throw (.immutable x)
  | .define x value => throw (.strayDefinition (Expr.define x value).text)

/-- Evaluation with at most `fuel` evaluations nested in one another. -/
def eval (limit : Option Nat) : (fuel : Nat) → (depth : Nat) → Expr → Env → EvalM Value
  | 0, _, _, _ => outOfFuel
  | fuel + 1, depth, e, env => step limit (eval limit fuel) depth e env

def evalSequence (limit : Option Nat) (fuel : Nat) (forms : List Expr) (env : Env) : EvalM Value :=
  runBody (eval limit fuel 1) forms env

def evalToplevel (limit : Option Nat) (fuel : Nat) (forms : List Expr) (env : Env) :
    EvalM (Option Value × Env) :=
  match forms with
  | [] => throw .emptySequence
  | forms => runForms (eval limit fuel 1) forms env

theorem evalToplevel_eq_runForms {forms : List Expr} (h : forms ≠ []) (limit : Option Nat)
    (fuel : Nat) (env : Env) :
    evalToplevel limit fuel forms env = runForms (eval limit fuel 1) forms env := by
  cases forms with
  | nil => exact absurd rfl h
  | cons form forms => rfl

end CallByName
