import CallByName.Proofs.Renumbering

/-! The frames that occur in expressions, values and environments. Other numbers for frames are
seen nowhere else, so what has none of the frames that change their numbers stays as it is. -/

namespace CallByName

mutual

def Expr.frames : Expr → List Nat
  | .num _ | .bool _ | .str _ | .prim _ | .var _ => []
  | .cond test yes no => test.frames ++ yes.frames ++ no.frames
  | .lambda proc => proc.frames
  | .app rator rands => rator.frames ++ Expr.framesAll rands
  | .letIn bindings body | .letRec bindings body =>
    Expr.framesValues bindings ++ Expr.framesAll body
  | .quote v => v.frames
  | .assign _ value | .define _ value => value.frames
termination_by structural e => e

def Lambda.frames : Lambda → List Nat
  | .mk _ _ body => Expr.framesAll body
termination_by structural p => p

def Value.frames : Value → List Nat
  | .num _ | .bool _ | .str _ | .sym _ | .nil | .prim _ => []
  | .pair car cdr => car.frames ++ cdr.frames
  | .closure proc env => proc.frames ++ env.frames
termination_by structural v => v

def Env.frames : Env → List Nat
  | .empty => []
  | .bind i bindings scope outer =>
    i :: (Expr.framesValues bindings ++ scope.frames ++ outer.frames)
  | .bindRec i procs outer => i :: (Lambda.framesProcs procs ++ outer.frames)
termination_by structural env => env

def Expr.framesAll : List Expr → List Nat
  | [] => []
  | e :: es => e.frames ++ Expr.framesAll es
termination_by structural es => es

def Expr.framesValues : List (String × Expr) → List Nat
  | [] => []
  | (_, e) :: bindings => e.frames ++ Expr.framesValues bindings
termination_by structural bindings => bindings

def Lambda.framesProcs : List (String × Lambda) → List Nat
  | [] => []
  | (_, proc) :: procs => proc.frames ++ Lambda.framesProcs procs
termination_by structural procs => procs

end

namespace Renumbering

def KeepsForms (ν : Renumbering) : Prop := ∀ n, ν.form n = n

theorem KeepsForms.site {ν : Renumbering} (h : ν.KeepsForms) (s : Site) : ν.site s = s := by
  induction s with
  | nil => rfl
  | cons i s ih =>
    by_cases hs : s = []
    · subst hs
      rw [site_singleton, h i]
    · rw [site_cons _ i hs, ih]

end Renumbering

mutual

theorem Expr.renumber_eq_self_iff {ν : Renumbering} (hν : ν.KeepsForms) :
    (e : Expr) → (e.renumber ν = e ↔ ∀ i ∈ e.frames, ν.frame i = i)
  | .num _ | .bool _ | .str _ | .prim _ | .var _ => by simp [Expr.renumber, Expr.frames]
  | .cond test yes no => by
    simp [Expr.renumber, Expr.frames, or_imp, forall_and, Expr.renumber_eq_self_iff hν test,
      Expr.renumber_eq_self_iff hν yes, Expr.renumber_eq_self_iff hν no]
  | .lambda proc => by simp [Expr.renumber, Expr.frames, Lambda.renumber_eq_self_iff hν proc]
  | .app rator rands => by
    simp [Expr.renumber, Expr.frames, or_imp, forall_and, Expr.renumber_eq_self_iff hν rator,
      Expr.renumberAll_eq_self_iff hν rands]
  | .letIn bindings body | .letRec bindings body => by
    simp [Expr.renumber, Expr.frames, or_imp, forall_and,
      Expr.renumberValues_eq_self_iff hν bindings, Expr.renumberAll_eq_self_iff hν body]
  | .quote v => by simp [Expr.renumber, Expr.frames, Value.renumber_eq_self_iff hν v]
  | .assign _ value | .define _ value => by
    simp [Expr.renumber, Expr.frames, Expr.renumber_eq_self_iff hν value]

theorem Lambda.renumber_eq_self_iff {ν : Renumbering} (hν : ν.KeepsForms) :
    (p : Lambda) → (p.renumber ν = p ↔ ∀ i ∈ p.frames, ν.frame i = i)
  | .mk site _ body => by
    simp [Lambda.renumber, Lambda.frames, hν.site site, Expr.renumberAll_eq_self_iff hν body]

theorem Value.renumber_eq_self_iff {ν : Renumbering} (hν : ν.KeepsForms) :
    (v : Value) → (v.renumber ν = v ↔ ∀ i ∈ v.frames, ν.frame i = i)
  | .num _ | .bool _ | .str _ | .sym _ | .nil | .prim _ => by simp [Value.renumber, Value.frames]
  | .pair car cdr => by
    simp [Value.renumber, Value.frames, or_imp, forall_and, Value.renumber_eq_self_iff hν car,
      Value.renumber_eq_self_iff hν cdr]
  | .closure proc env => by
    simp [Value.renumber, Value.frames, or_imp, forall_and, Lambda.renumber_eq_self_iff hν proc,
      Env.renumber_eq_self_iff hν env]

theorem Env.renumber_eq_self_iff {ν : Renumbering} (hν : ν.KeepsForms) :
    (env : Env) → (env.renumber ν = env ↔ ∀ i ∈ env.frames, ν.frame i = i)
  | .empty => by simp [Env.renumber, Env.frames]
  | .bind i bindings scope outer => by
    simp [Env.renumber, Env.frames, or_imp, forall_and,
      Expr.renumberValues_eq_self_iff hν bindings, Env.renumber_eq_self_iff hν scope,
      Env.renumber_eq_self_iff hν outer]
  | .bindRec i procs outer => by
    simp [Env.renumber, Env.frames, or_imp, forall_and,
      Lambda.renumberProcs_eq_self_iff hν procs, Env.renumber_eq_self_iff hν outer]

theorem Expr.renumberAll_eq_self_iff {ν : Renumbering} (hν : ν.KeepsForms) : (es : List Expr) →
    (Expr.renumberAll ν es = es ↔ ∀ i ∈ Expr.framesAll es, ν.frame i = i)
  | [] => by simp [Expr.renumberAll, Expr.framesAll]
  | e :: es => by
    simp [Expr.renumberAll, Expr.framesAll, or_imp, forall_and, Expr.renumber_eq_self_iff hν e,
      Expr.renumberAll_eq_self_iff hν es]

theorem Expr.renumberValues_eq_self_iff {ν : Renumbering} (hν : ν.KeepsForms) :
    (bindings : List (String × Expr)) →
    (Expr.renumberValues ν bindings = bindings ↔ ∀ i ∈ Expr.framesValues bindings, ν.frame i = i)
  | [] => by simp [Expr.renumberValues, Expr.framesValues]
  | (_, e) :: bindings => by
    simp [Expr.renumberValues, Expr.framesValues, or_imp, forall_and,
      Expr.renumber_eq_self_iff hν e, Expr.renumberValues_eq_self_iff hν bindings]

theorem Lambda.renumberProcs_eq_self_iff {ν : Renumbering} (hν : ν.KeepsForms) :
    (procs : List (String × Lambda)) →
    (Lambda.renumberProcs ν procs = procs ↔ ∀ i ∈ Lambda.framesProcs procs, ν.frame i = i)
  | [] => by simp [Lambda.renumberProcs, Lambda.framesProcs]
  | (_, proc) :: procs => by
    simp [Lambda.renumberProcs, Lambda.framesProcs, or_imp, forall_and,
      Lambda.renumber_eq_self_iff hν proc, Lambda.renumberProcs_eq_self_iff hν procs]

end

theorem Expr.framesAll_eq_flatMap (es : List Expr) : framesAll es = es.flatMap frames := by
  induction es with
  | nil => rfl
  | cons e es ih => rw [framesAll, ih, List.flatMap_cons]

theorem Renumbering.keepsForms_refl : KeepsForms .refl := fun _ => rfl

@[simp] theorem Value.renumber_refl (v : Value) : v.renumber .refl = v :=
  (v.renumber_eq_self_iff Renumbering.keepsForms_refl).2 fun _ _ => rfl

@[simp] theorem Env.renumber_refl (env : Env) : env.renumber .refl = env :=
  (env.renumber_eq_self_iff Renumbering.keepsForms_refl).2 fun _ _ => rfl

@[simp] theorem Expr.renumberAll_refl (es : List Expr) : renumberAll .refl es = es :=
  (renumberAll_eq_self_iff Renumbering.keepsForms_refl es).2 fun _ _ => rfl

end CallByName
