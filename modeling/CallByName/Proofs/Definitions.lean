import CallByName.Proofs.Shadowing
import CallByName.Proofs.Simulation

/-! What top-level forms make of an environment. A definition is an extension by one name and an
expression changes nothing, so the names, and what is found for them, depend on the definitions
among the forms alone, whatever is evaluated on the way. -/

namespace CallByName

abbrev Expr.definedAll (forms : List Expr) : List String := forms.flatMap Expr.defined

theorem Expr.mem_defined_iff {form : Expr} {x : String} :
    x ∈ form.defined ↔ ∃ e, form = .define x e := by
  cases form <;> simp [defined, eq_comm]

theorem Expr.definedAll_cons (form : Expr) (forms : List Expr) :
    Expr.definedAll (form :: forms) = form.defined ++ Expr.definedAll forms := List.flatMap_cons

theorem Expr.reverse_defined (form : Expr) : form.defined.reverse = form.defined := by
  cases form <;> rfl

theorem Expr.exists_last_definition {forms : List Expr} {x : String}
    (h : x ∈ Expr.definedAll forms) :
    ∃ before e after, forms = before ++ .define x e :: after ∧ x ∉ Expr.definedAll after := by
  induction forms with
  | nil => cases h
  | cons form forms ih =>
    by_cases hlater : x ∈ Expr.definedAll forms
    · obtain ⟨before, e, after, rfl, hafter⟩ := ih hlater
      exact ⟨form :: before, e, after, rfl, hafter⟩
    · rw [Expr.definedAll_cons, List.mem_append, or_iff_left hlater, Expr.mem_defined_iff] at h
      obtain ⟨e, rfl⟩ := h
      exact ⟨[], e, forms, rfl, hlater⟩

theorem eraseDups_append_eraseDups (xs ys : List String) :
    (xs ++ ys.eraseDups).eraseDups = (xs ++ ys).eraseDups := by
  induction ys using List.reverseRecOn with
  | nil => rfl
  | append_singleton ys z ih =>
    rw [← List.append_assoc, eraseDups_concat, eraseDups_concat, ← ih]
    by_cases hz : z ∈ ys
    · rw [if_pos hz, if_pos (List.mem_append_right xs hz)]
    · rw [if_neg hz, ← List.append_assoc, eraseDups_concat]
      simp only [List.mem_append, List.mem_eraseDups]

namespace Extension

def definition (x : String) (env : Env) : Expr → Extension
  | .lambda proc => .recursive [x] [proc]
  | e => .deferred [x] [e] env

variable {x y : String} {e : Expr} {env : Env} {i : Nat}

theorem matching_definition : (definition x env e).Matching := by cases e <;> rfl

theorem names_definition : (definition x env e).names = [x] := by cases e <;> rfl

theorem frame_definition : (definition x env e).frame i env = env.withDefinition i x e := by
  cases e <;> rfl

end Extension

namespace Env

variable {x y : String} {e : Expr} {env : Env} {i : Nat}

theorem names_withDefinition : (env.withDefinition i x e).names = x :: env.names := by
  rw [← Extension.frame_definition, Extension.names_frame Extension.matching_definition,
    Extension.names_definition]
  rfl

theorem lookup?_withDefinition_of_ne (h : y ≠ x) :
    (env.withDefinition i x e).lookup? y = env.lookup? y := by
  rw [← Extension.frame_definition]
  refine Extension.lookup?_frame_of_notMem ?_ i env
  rwa [Extension.names_definition, List.mem_singleton]

theorem lookup?_withDefinition_self : (env.withDefinition i x e).lookup? x =
    (Extension.definition x env e).item? (env.withDefinition i x e) 0 := by
  have hx : (Extension.definition x env e).names.idxOf? x = some 0 := by
    rw [Extension.names_definition, List.idxOf?_cons, beq_self_eq_true, if_pos rfl]
  rw [← Extension.frame_definition]
  exact Extension.lookup?_frame_of_idxOf? Extension.matching_definition hx i env

end Env

section

variable {ev : Expr → Env → EvalM Value} {forms more : List Expr} {form : Expr} {env env' : Env}
  {v : Option Value} {m m' : Meter} {x : String}

theorem runForms_singleton (ev : Expr → Env → EvalM Value) (form : Expr) (env : Env) :
    runForms ev [form] env = runForm ev env form := by
  simp [runForms]

theorem run_runForms_append
    (h : (runForms ev (forms ++ more) env).run m = some (.ok (v, env'), m')) :
    ∃ v₁ env₁ m₁ v₂, (runForms ev forms env).run m = some (.ok (v₁, env₁), m₁) ∧
      (runForms ev more env₁).run m₁ = some (.ok (v₂, env'), m') := by
  by_cases hmore : more = []
  · subst hmore
    rw [List.append_nil] at h
    exact ⟨v, env', m', none, h, rfl⟩
  · rw [runForms_append ev forms hmore, EvalM.run_bind_eq_ok_iff] at h
    obtain ⟨⟨v₁, env₁⟩, m₁, hforms, hmore⟩ := h
    exact ⟨v₁, env₁, m₁, v, hforms, hmore⟩

theorem run_runForms_cons
    (h : (runForms ev (form :: forms) env).run m = some (.ok (v, env'), m')) :
    ∃ v₁ env₁ m₁ v₂, (runForm ev env form).run m = some (.ok (v₁, env₁), m₁) ∧
      (runForms ev forms env₁).run m₁ = some (.ok (v₂, env'), m') := by
  rw [← runForms_singleton]
  exact run_runForms_append h

theorem names_of_runForm (h : (runForm ev env form).run m = some (.ok (v, env'), m')) :
    env'.names = form.defined ++ env.names := by
  obtain ⟨x, e, rfl, -, rfl, -⟩ | ⟨hform, rfl, -⟩ := runForm_cases h
  · exact Env.names_withDefinition
  · rw [hform, List.nil_append]

theorem lookup?_of_runForm (h : (runForm ev env form).run m = some (.ok (v, env'), m'))
    (hx : x ∉ form.defined) : env'.lookup? x = env.lookup? x := by
  obtain ⟨y, e, rfl, -, rfl, -⟩ | ⟨-, rfl, -⟩ := runForm_cases h
  · exact Env.lookup?_withDefinition_of_ne fun hxy => hx (hxy ▸ List.mem_singleton_self y)
  · rfl

theorem names_of_runForms (h : (runForms ev forms env).run m = some (.ok (v, env'), m')) :
    env'.names = (Expr.definedAll forms).reverse ++ env.names := by
  induction forms generalizing env m v with
  | nil =>
    cases h
    rfl
  | cons form forms ih =>
    obtain ⟨v₁, env₁, m₁, v₂, hform, hforms⟩ := run_runForms_cons h
    rw [ih hforms, names_of_runForm hform, Expr.definedAll_cons, List.reverse_append,
      Expr.reverse_defined, List.append_assoc]

theorem lookup?_of_runForms (h : (runForms ev forms env).run m = some (.ok (v, env'), m'))
    (hx : x ∉ Expr.definedAll forms) : env'.lookup? x = env.lookup? x := by
  induction forms generalizing env m v with
  | nil =>
    cases h
    rfl
  | cons form forms ih =>
    obtain ⟨v₁, env₁, m₁, v₂, hform, hforms⟩ := run_runForms_cons h
    rw [Expr.definedAll_cons, List.mem_append, not_or] at hx
    rw [ih hforms hx.2, lookup?_of_runForm hform hx.1]

theorem lookup?_of_last_definition {before after : List Expr} {e : Expr}
    (h : (runForms ev (before ++ .define x e :: after) env).run m = some (.ok (v, env'), m'))
    (hx : x ∉ Expr.definedAll after) :
    ∃ v₁ env₁ m₁, (runForms ev before env).run m = some (.ok (v₁, env₁), m₁) ∧
      env'.lookup? x = (env₁.withDefinition (m₁.frames + 1) x e).lookup? x := by
  obtain ⟨v₁, env₁, m₁, v₂, hbefore, hrest⟩ := run_runForms_append h
  obtain ⟨v₃, env₂, m₂, v₄, hdefine, hafter⟩ := run_runForms_cons hrest
  refine ⟨v₁, env₁, m₁, hbefore, ?_⟩
  rw [runForm_define] at hdefine
  cases hdefine
  exact lookup?_of_runForms hafter hx

theorem value_of_runForms (hforms : forms ≠ [])
    (h : (runForms ev forms env).run m = some (.ok (v, env'), m')) :
    v = none ↔ ∃ y e, forms.getLast? = some (.define y e) := by
  obtain rfl | ⟨before, last, rfl⟩ := List.eq_nil_or_concat forms
  · exact absurd rfl hforms
  rw [List.concat_eq_append] at h ⊢
  rw [runForms_append ev before (List.cons_ne_nil last []), EvalM.run_bind_eq_ok_iff] at h
  obtain ⟨s, m₁, -, hlast⟩ := h
  rw [runForms_singleton] at hlast
  rw [List.getLast?_concat]
  obtain ⟨y, e, rfl, rfl, -, -⟩ | ⟨hdefined, -, w, rfl, -⟩ := runForm_cases hlast
  · exact iff_of_true rfl ⟨y, e, rfl⟩
  · refine iff_of_false nofun ?_
    rintro ⟨y, e, ⟨⟩⟩
    cases hdefined

end

/-- Top-level forms that are evaluated leave an environment in which just the names that they define
come before the others, the last one first. Any other name means there what it meant before. A name
that they define has a last definition, which is what it means, in the environment in force just
before that definition or, if it is a lambda, in the frame that the definition makes. There is no
value just if the last form is a definition. -/
theorem toplevel_changes_by_definitions {limit : Option Nat} {fuel : Nat} {forms : List Expr}
    {env env' : Env} {v : Option Value} {m m' : Meter}
    (h : (evalToplevel limit fuel forms env).run m = some (.ok (v, env'), m')) :
    env'.boundNames = ((Expr.definedAll forms).reverse ++ env.boundNames).eraseDups ∧
      (v = none ↔ ∃ y e, forms.getLast? = some (.define y e)) ∧
      (∀ x, x ∉ Expr.definedAll forms → env'.lookup? x = env.lookup? x) ∧
      (∀ x, x ∈ Expr.definedAll forms → ∃ before e after,
        forms = before ++ .define x e :: after ∧ x ∉ Expr.definedAll after) ∧
      ∀ before x e after, forms = before ++ .define x e :: after → x ∉ Expr.definedAll after →
        ∃ v₁ env₁ m₁, (runForms (eval limit fuel 1) before env).run m = some (.ok (v₁, env₁), m₁) ∧
          ((∀ proc, e ≠ .lambda proc) → env'.lookup? x = some ⟨e, env₁⟩) ∧
          ∀ proc, e = .lambda proc → env'.lookup? x =
            some ⟨.lambda proc, .bindRec (m₁.frames + 1) [(x, proc)] env₁⟩ := by
  have hforms : forms ≠ [] := by
    rintro rfl
    cases h
  rw [evalToplevel_eq_runForms hforms] at h
  refine ⟨?_, value_of_runForms hforms h, fun x hx => lookup?_of_runForms h hx,
    fun x hx => Expr.exists_last_definition hx, ?_⟩
  · rw [Env.boundNames, names_of_runForms h, Env.boundNames, eraseDups_append_eraseDups]
  · rintro before x e after rfl hafter
    obtain ⟨v₁, env₁, m₁, hbefore, hlookup⟩ := lookup?_of_last_definition h hafter
    rw [Env.lookup?_withDefinition_self] at hlookup
    refine ⟨v₁, env₁, m₁, hbefore, fun hne => ?_, ?_⟩
    · rw [hlookup]
      cases e with
      | lambda proc => exact absurd rfl (hne proc)
      | _ => rfl
    · rintro proc rfl
      exact hlookup

theorem toplevel_changes_by_definitions_redefinition :
    let env : Env := .bind 1 [("x", .bool true), ("z", .num 7)] .empty .empty
    let sum : Expr := .app (.prim .add) [.var "x", .num 1]
    let f : Lambda := .mk [3] [] [.define "y" (.var "x"), .var "y"]
    let first : List Expr := [.define "x" (.num 1),
      .letIn [("u", .num 5)] [.define "w" (.var "u"), .var "w"]]
    let last : List Expr := [.define "f" (.lambda f), .app (.var "f") []]
    ∃ env' m', (evalToplevel none 9 (first ++ .define "x" sum :: last) env).run ⟨0, 1⟩ =
        some (.ok (some (.num 2), env'), m') ∧
      env'.boundNames = ["f", "x", "z"] ∧ env'.lookup? "z" = some ⟨.num 7, .empty⟩ ∧
      env'.lookup? "w" = none ∧
      env'.lookup? "x" = some ⟨sum, .bind 2 [("x", .num 1)] env env⟩ := by
  intro env sum f first last
  have hrun : ∃ env' m', (evalToplevel none 9 (first ++ .define "x" sum :: last) env).run ⟨0, 1⟩ =
      some (.ok (some (.num 2), env'), m') := ⟨_, _, rfl⟩
  obtain ⟨env', m', hrun⟩ := hrun
  obtain ⟨hnames, -, hother, -, hdefined⟩ := toplevel_changes_by_definitions hrun
  refine ⟨env', m', hrun, hnames, hother "z" (by decide), hother "w" (by decide), ?_⟩
  obtain ⟨v₁, env₁, m₁, hfirst, hlookup, -⟩ := hdefined first "x" sum last rfl (by decide)
  rw [hlookup nofun]
  cases hfirst
  rfl

end CallByName
