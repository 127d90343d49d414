import CallByName.Proofs.Lockstep
import CallByName.Proofs.Outcome

/-! Bindings that are never looked up. Two frames that differ only in such bindings agree at every
free name of the body, so the two runs go in lockstep whatever stands in these places. -/

namespace CallByName

open Correspondence

namespace Unused

abbrev simulation : Simulation := (same (fun _ => True) fun _ => True).simulation

theorem printAlike_of_follows {x y : EvalM Value} (h : simulation.Follows simulation.Like x y)
    (h' : simulation.Follows simulation.Like y x) : PrintAlike x y := by
  intro m
  cases hx : x.run m with
  | none =>
    cases hy : y.run m with
    | none => exact .none
    | some r =>
      rcases h' rfl hy with ⟨e, -, hcut⟩ | ⟨r', m', hx', -⟩
      · exact hcut.elim
      · rw [hx] at hx'
        cases hx'
  | some r =>
    rcases h rfl hx with ⟨e, -, hcut⟩ | ⟨r', m', hy, hr, hm⟩
    · exact hcut.elim
    · rw [hy]
      refine .some ⟨hr.imp (fun _ _ he => he.1) fun v w hvw => ?_, hm⟩
      exact (hvw.texts_eq fun _ _ _ _ => simulation.params).1

theorem like_refl (v : Value) : simulation.Like v v := by
  apply Value.Like.refl_of
  · intro c _
    exact related_same (fun _ _ => trivial) rfl fun x _ => agree_refl x c.2
  · intro op _
    trivial

theorem follows_eval (limit : Option Nat) (fuel depth : Nat) {a a' : Expr} {ε ε' : Env}
    (h : simulation.deferred a ε a' ε') :
    simulation.Follows simulation.Like (eval limit fuel depth a ε) (eval limit fuel depth a' ε') :=
  Correspondence.follows_eval (fun v _ => like_refl v) (fun _ _ h => h) limit fuel depth h

theorem follows_eval_of_head (limit : Option Nat) (fuel depth : Nat) {e e' : Expr} {ε ε' : Env}
    (h : simulation.Head e ε e' ε') : simulation.Follows simulation.Like
      (eval limit fuel depth e ε) (eval limit fuel depth e' ε') := by
  cases fuel with
  | zero => exact .outOfFuel
  | succ fuel =>
    apply Simulation.follows_step (Simulation.follows_checkDepth limit depth)
    · intro k _ _ a ε b ε' hab
      exact follows_eval limit fuel (depth + k) hab
    · exact h

variable {bs₁ bs₂ : List (String × Expr)} {names₁ names₂ : List String} {es₁ es₂ : List Expr}
  {body : List Expr} {env : Env}

theorem body_of_lookup_eq (h : ∀ x ∈ Expr.freeForms body, bs₁.lookup x = bs₂.lookup x) {i j : Nat}
    (hij : i = j) : simulation.Body body (.bind i bs₁ env env) body (.bind j bs₂ env env) := by
  refine body_of_agree (fun _ _ => trivial) hij fun x hx => ?_
  have hlookup : Env.lookup? x (.bind j bs₂ env env) = Env.lookup? x (.bind i bs₁ env env) := by
    simp only [Env.lookup?, h x hx]
  exact .congr rfl hlookup (agree_refl x _)

theorem follows_let (limit : Option Nat) (fuel depth : Nat)
    (h : ∀ x ∈ Expr.freeForms body, bs₁.lookup x = bs₂.lookup x) :
    simulation.Follows simulation.Like (eval limit fuel depth (.letIn bs₁ body) env)
      (eval limit fuel depth (.letIn bs₂ body) env) :=
  follows_eval_of_head limit fuel depth (.letIn fun _ _ hij => body_of_lookup_eq h hij)

theorem follows_app {site₁ : Site} (site₂ : Site) (limit : Option Nat) (fuel depth : Nat)
    (h₁ : es₁.length = names₁.length) (h₂ : es₂.length = names₂.length)
    (h : ∀ x ∈ Expr.freeForms body, (names₁.zip es₁).lookup x = (names₂.zip es₂).lookup x) :
    simulation.Follows simulation.Like
      (eval limit fuel depth (.app (.lambda (.mk site₁ names₁ body)) es₁) env)
      (eval limit fuel depth (.app (.lambda (.mk site₂ names₂ body)) es₂) env) := by
  cases fuel with
  | zero => exact .outOfFuel
  | succ fuel =>
    apply Simulation.follows_app_lambda
    · intro k
      exact Simulation.follows_checkDepth limit (depth + k)
    · exact Nat.le_refl fuel
    · intro a ε b ε' hab
      exact follows_eval limit fuel (depth + 2) hab
    · exact h₁.symm
    · exact h₂.symm
    · intro i j hij
      exact body_of_lookup_eq h hij

end Unused

open Unused

/-- What is bound to a name that a body does not use, or that an earlier binding of it hides, makes
no difference to a `let` or to the application of a lambda. -/
theorem unused_bindings_irrelevant {names : List String} {es₁ es₂ body : List Expr}
    (h₁ : es₁.length = names.length) (h₂ : es₂.length = names.length)
    (h : ∀ i x, names[i]? = some x → es₁[i]? ≠ es₂[i]? →
      x ∉ Expr.freeForms body ∨ x ∈ names.take i)
    (env : Env) (limit : Option Nat) (fuel depth : Nat) :
    PrintAlike (eval limit fuel depth (.letIn (names.zip es₁) body) env)
        (eval limit fuel depth (.letIn (names.zip es₂) body) env) ∧
      ∀ site, PrintAlike (eval limit fuel depth (.app (.lambda (.mk site names body)) es₁) env)
        (eval limit fuel depth (.app (.lambda (.mk site names body)) es₂) env) := by
  have heq : ∀ x ∈ Expr.freeForms body,
      (names.zip es₁).lookup x = (names.zip es₂).lookup x := by
    intro x hx
    apply lookup_zip_congr h₁ h₂
    intro i hi hne
    exact (h i x hi hne).resolve_left (not_not_intro hx)
  have heq' := fun x hx => (heq x hx).symm
  refine ⟨?_, fun site => ?_⟩
  · exact printAlike_of_follows (follows_let limit fuel depth heq)
      (follows_let limit fuel depth heq')
  · exact printAlike_of_follows (follows_app site limit fuel depth h₁ h₂ heq)
      (follows_app site limit fuel depth h₂ h₁ heq')

theorem let_with_unbound_and_hidden_operands :
    PrintAlike
        (eval (some 10) 5 1 (.letIn (["x", "y", "x"].zip
          [.bool true, .var "nowhere", .app (.num 1) []]) [.var "x"]) .empty)
        (eval (some 10) 5 1 (.letIn (["x", "y", "x"].zip
          [.bool true, .assign "x" (.bool true), .str ""]) [.var "x"]) .empty) ∧
      (eval (some 10) 5 1 (.letIn (["x", "y", "x"].zip
        [.bool true, .var "nowhere", .app (.num 1) []]) [.var "x"]) .empty).run ⟨0, 0⟩ =
          some (.ok (.bool true), ⟨1, 1⟩) := by
  have h : ∀ i x, ["x", "y", "x"][i]? = some x →
      [Expr.bool true, .var "nowhere", .app (.num 1) []][i]? ≠
        [Expr.bool true, .assign "x" (.bool true), .str ""][i]? →
      x ∉ Expr.freeForms [.var "x"] ∨ x ∈ ["x", "y", "x"].take i := by
    intro i x hi hne
    match i with
    | 0 => exact absurd rfl hne
    | 1 =>
      cases hi
      exact .inl (by decide)
    | 2 =>
      cases hi
      exact .inr (by decide)
  exact ⟨(unused_bindings_irrelevant rfl rfl h .empty (some 10) 5 1).1, rfl⟩

end CallByName
