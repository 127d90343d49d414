import CallByName.Proofs.Nesting

/-! The binding forms beside each other. A `let` is the application of a lambda, and a definition is
a `let` or a `letrec` around the forms after it. Without a depth limit they have the same outcomes,
so a sequence of definitions comes to the same as the forms that bind them nested in one another. -/

namespace CallByName

open EvalM

def Expr.bindIn (x : String) (rest : List Expr) : Expr → Expr
  | .lambda p => .letRec [(x, .lambda p)] rest
  | v => .letIn [(x, v)] rest

def Expr.nested : List Expr → List Expr
  | [] => []
  | .define x v :: rest => [bindIn x (nested rest) v]
  | e :: rest => e :: nested rest

namespace Expr

theorem defined_bindIn (x : String) (rest : List Expr) (v : Expr) :
    (bindIn x rest v).defined = [] := by
  cases v <;> rfl

theorem nested_eq_nil_iff {forms : List Expr} : nested forms = [] ↔ forms = [] := by
  fun_cases nested forms <;> simp

theorem defined_of_mem_nested {forms : List Expr} : ∀ e ∈ nested forms, e.defined = [] := by
  fun_induction nested forms with
  | case1 => exact List.forall_mem_nil _
  | case2 x v rest => exact List.forall_mem_singleton.2 (defined_bindIn x (nested rest) v)
  | case3 e rest hdefine ih =>
    refine List.forall_mem_cons.2 ⟨?_, ih⟩
    cases e with
    | define x v => exact absurd rfl (hdefine x v)
    | _ => rfl

end Expr

def EndSame (x y : Nat → EvalM Value) : Prop :=
  ∀ m r, Ends x m r ↔ Ends y m r

theorem ends_add_iff {α : Type} {x : Nat → EvalM α} {m : Meter} {r : Except Error α × Meter}
    (k : Nat) : Ends (fun fuel => x (fuel + k)) m r ↔ Ends x m r := by
  constructor
  · rintro ⟨n, h⟩
    refine ⟨n + k, fun fuel hfuel => ?_⟩
    obtain ⟨fuel, rfl⟩ := Nat.exists_eq_add_of_le' (Nat.le_of_add_left_le hfuel)
    exact h fuel (Nat.le_of_add_le_add_right hfuel)
  · rintro ⟨n, h⟩
    exact ⟨n, fun fuel hfuel => h _ (Nat.le_add_right_of_le hfuel)⟩

namespace EndSame

variable {x y z : Nat → EvalM Value}

theorem refl (x : Nat → EvalM Value) : EndSame x x := fun _ _ => Iff.rfl

theorem trans (h : EndSame x y) (h' : EndSame y z) : EndSame x z :=
  fun m r => (h m r).trans (h' m r)

theorem of_eq (k l : Nat) (h : ∀ fuel, x (fuel + k) = y (fuel + l)) : EndSame x y := by
  intro m r
  rw [← ends_add_iff k, ← ends_add_iff (x := y) l]
  simp only [h]

end EndSame

section

variable (fuel depth : Nat) (env : Env)

theorem eval_letIn (site : Site) (bindings : List (String × Expr)) (body : List Expr) :
    eval none (fuel + 2) depth (.letIn bindings body) env = eval none (fuel + 2) depth
      (.app (.lambda (.mk site (bindings.map Prod.fst) body)) (bindings.map Prod.snd)) env := by
  have hlambda (p : Lambda) : eval none (fuel + 1) (depth + 1) (.lambda p) env =
      pure (.closure p env) := rfl
  have hlength : (bindings.map Prod.fst).length = (bindings.map Prod.snd).length := by
    rw [List.length_map, List.length_map]
  rw [eval, eval, step, step]
  simp only [hlambda, pure_bind, applyValue, Lambda.params, Lambda.body, if_pos hlength,
    ← List.zip_of_prod rfl rfl]

theorem eval_bindIn (x : String) (rest : List Expr) (v : Expr) :
    eval none (fuel + 1) depth (.bindIn x rest v) env =
      evalSequence none fuel (.define x v :: rest) env := by
  have hdefine : evalSequence none fuel (.define x v :: rest) env = newFrame >>= fun i =>
      runBody (eval none fuel 1) rest (env.withDefinition i x v) := by
    rw [evalSequence, runBody, runForms, List.foldlM_cons, runForm_define]
    simp only [bind_assoc, pure_bind]
    rfl
  rw [hdefine, eval_none_eq fuel 1 (depth + 2)]
  cases v <;> rfl

theorem evalSequence_bindIn (x : String) (rest : List Expr) (v : Expr) :
    evalSequence none (fuel + 1) [.bindIn x rest v] env =
      evalSequence none fuel (.define x v :: rest) env := by
  rw [evalSequence, runBody_singleton _ (Expr.defined_bindIn x rest v), eval_bindIn]

end

theorem EndSame.append {more more' : List Expr} (hnil : more = [] ↔ more' = [])
    (h : ∀ env, EndSame (fun fuel => evalSequence none fuel more env)
      fun fuel => evalSequence none fuel more' env) (forms : List Expr) (env : Env) :
    EndSame (fun fuel => evalSequence none fuel (forms ++ more) env)
      fun fuel => evalSequence none fuel (forms ++ more') env := by
  by_cases hmore : more = []
  -- With nothing after it the last form gives the value, so this case is apart.
  · rw [hmore, hnil.1 hmore]
    exact .refl _
  have hforms : Stable fun fuel => runForms (eval none fuel 1) forms env :=
    (Sequential.runForms 1 forms env).stable none
  have hrest (more : List Expr) (s : Option Value × Env) :
      Stable fun fuel => evalSequence none fuel more s.2 :=
    (Sequential.runBody 1 more s.2).stable none
  have happend {more : List Expr} (hmore : more ≠ []) (fuel : Nat) :
      evalSequence none fuel (forms ++ more) env =
        runForms (eval none fuel 1) forms env >>= fun s => evalSequence none fuel more s.2 := by
    simp only [evalSequence, runBody, runForms_append _ _ hmore, bind_assoc]
  intro m r
  simp only [happend hmore, happend (mt hnil.2 hmore)]
  rw [ends_bind_iff hforms (hrest more), ends_bind_iff hforms (hrest more')]
  simp only [h _ _ _]

theorem endSame_bindIn (forms : List Expr) (x : String) (rest : List Expr) (v : Expr) (env : Env) :
    EndSame (fun fuel => evalSequence none fuel (forms ++ .define x v :: rest) env)
      fun fuel => evalSequence none fuel (forms ++ [.bindIn x rest v]) env := by
  have hnil : Expr.define x v :: rest = [] ↔ [Expr.bindIn x rest v] = [] :=
    iff_of_false (List.cons_ne_nil _ _) (List.cons_ne_nil _ _)
  refine .append hnil (fun δ => ?_) forms env
  exact .of_eq 0 1 fun fuel => (evalSequence_bindIn fuel δ x rest v).symm

theorem endSame_nested (forms : List Expr) (env : Env) :
    EndSame (fun fuel => evalSequence none fuel forms env)
      fun fuel => evalSequence none fuel (Expr.nested forms) env := by
  fun_induction Expr.nested forms generalizing env with
  | case1 => exact .refl _
  | case2 x v rest ih =>
    have hrest := EndSame.append Expr.nested_eq_nil_iff.symm ih [.define x v] env
    exact hrest.trans (endSame_bindIn [] x (Expr.nested rest) v env)
  | case3 e rest _ ih => exact .append Expr.nested_eq_nil_iff.symm ih [e] env

/-- The binding forms agree with each other. A `let` has the outcome of applying a lambda with its
body to its operands, and a definition that of the form around the rest of the sequence. So a
sequence has the outcome of the one with all its definitions nested, and if it begins with a
definition, that is one expression. Outcomes agree to the last reference and frame. -/
theorem binding_forms_agree (env : Env) :
    (∀ site bindings body depth,
      EndSame (fun fuel => eval none fuel depth (.letIn bindings body) env)
        fun fuel => eval none fuel depth
          (.app (.lambda (.mk site (bindings.map Prod.fst) body)) (bindings.map Prod.snd)) env) ∧
      (∀ forms x p rest,
        EndSame (fun fuel => evalSequence none fuel (forms ++ .define x (.lambda p) :: rest) env)
          fun fuel => evalSequence none fuel (forms ++ [.letRec [(x, .lambda p)] rest]) env) ∧
      (∀ forms x v rest, (∀ p, v ≠ .lambda p) →
        EndSame (fun fuel => evalSequence none fuel (forms ++ .define x v :: rest) env)
          fun fuel => evalSequence none fuel (forms ++ [.letIn [(x, v)] rest]) env) ∧
      (∀ forms, (∀ e ∈ Expr.nested forms, e.defined = []) ∧
        EndSame (fun fuel => evalSequence none fuel forms env)
          fun fuel => evalSequence none fuel (Expr.nested forms) env) ∧
      ∀ x v rest depth,
        EndSame (fun fuel => evalSequence none fuel (.define x v :: rest) env)
          fun fuel => eval none fuel depth (.bindIn x (Expr.nested rest) v) env := by
  refine ⟨fun site bindings body depth => ?_, fun forms x p rest => ?_,
    fun forms x v rest hv => ?_, fun forms => ⟨?_, endSame_nested forms env⟩,
    fun x v rest depth => ?_⟩
  · exact .of_eq 2 2 fun fuel => eval_letIn fuel depth env site bindings body
  · exact endSame_bindIn forms x rest (.lambda p) env
  · have hlet : Expr.bindIn x rest v = .letIn [(x, v)] rest := by
      cases v with
      | lambda p => exact absurd rfl (hv p)
      | _ => rfl
    exact hlet ▸ endSame_bindIn forms x rest v env
  · exact Expr.defined_of_mem_nested
  · have hrest := EndSame.append Expr.nested_eq_nil_iff.symm (endSame_nested rest) [.define x v] env
    exact hrest.trans (.of_eq 0 1 fun fuel => (eval_bindIn fuel depth env x _ v).symm)

theorem binding_forms_agree_of_definitions :
    let plus : Expr := .lambda (.mk [0] ["x"] [.app (.prim .add) [.var "x", .var "y"]])
    Ends (fun fuel => evalSequence none fuel
        [.define "y" (.num 2), .var "y", .define "f" plus, .app (.var "f") [.num 1]] .empty)
      ⟨0, 0⟩ (.ok (.num 3), ⟨4, 3⟩) ∧
    Ends (fun fuel => eval none fuel 0 (.letIn [("y", .num 2)]
        [.var "y", .letRec [("f", plus)] [.app (.var "f") [.num 1]]]) .empty)
      ⟨0, 0⟩ (.ok (.num 3), ⟨4, 3⟩) ∧
    (∀ p, Expr.num 2 ≠ .lambda p) ∧
    Ends (fun fuel => evalSequence none fuel [.num 1, .letIn [("y", .num 2)] []] .empty)
      ⟨0, 0⟩ (.error .emptySequence, ⟨0, 1⟩) := by
  intro plus
  obtain ⟨-, -, hlet, -, hnested⟩ := binding_forms_agree .empty
  have hends (forms : List Expr) (m : Meter) (r : Except Error Value × Meter)
      (h : (evalSequence none 6 forms .empty).run m = some r) :
      Ends (fun fuel => evalSequence none fuel forms .empty) m r :=
    ((Sequential.runBody 1 forms .empty).stable none).ends_iff.2 ⟨6, h⟩
  have hsum := hends [.define "y" (.num 2), .var "y", .define "f" plus, .app (.var "f") [.num 1]]
    ⟨0, 0⟩ (.ok (.num 3), ⟨4, 3⟩) rfl
  have hlast := hends [.num 1, .define "y" (.num 2)] ⟨0, 0⟩ (.error .emptySequence, ⟨0, 1⟩) rfl
  exact ⟨hsum, (hnested "y" (.num 2) _ 0 _ _).1 hsum, nofun,
    (hlet [.num 1] "y" (.num 2) [] nofun _ _).1 hlast⟩

end CallByName
