import CallByName.Proofs.Literals
import CallByName.Proofs.Lockstep
import CallByName.Proofs.Outcome

/-! Operands in place of names. Applying a lambda to a closed operand has the outcome of its body
with the operand put for the parameter. The two runs are not in lockstep: where the first follows a
reference to the parameter, the second has the operand at hand, so it needs less fuel and counts
fewer lookups. -/

namespace CallByName

open List (Forall₂)

/-- A closed operand that can stand for a name wherever it is referred to. A lambda cannot: a name
that is defined as one would see itself. -/
structure Expr.Portable (e : Expr) : Prop where
  closed : e.free = []
  defined : e.defined = []
  ne_lambda : ∀ p, e ≠ .lambda p
  plain : Plain e.constants
  equal : ∀ v ∈ e.constants, .equal ∉ v.operators

namespace Correspondence

def beta (x : String) {e : Expr} (he : e.Portable) : Correspondence where
  frame _ _ := True
  meter _ _ := True
  error := Error.Alike
  constant v := v.closures = [] ∧ .equal ∉ v.operators
  replaced y a := y = x ∧ a = e
  newFrame _ := ⟨trivial, trivial⟩
  countLookup _ := trivial
  alike _ h _ := h
  unique h := absurd (List.mem_singleton_self Prim.equal) h.2
  closed h := h.2 ▸ he.closed
  operand h := h.2 ▸ ⟨he.defined, he.ne_lambda⟩
  constants h v hv := ⟨he.plain v (h.2 ▸ hv), he.equal v (h.2 ▸ hv)⟩
  anyFrame _ _ _ := trivial
  skipLookup _ _ _ _ := trivial

variable {C : Correspondence}

theorem relatedBy_replaced {x : String} {a : Expr} {δ ε' : Env} (h : C.replaced x a) :
    C.RelatedBy C.Agree [] a δ a ε' where
  replaced := List.forall_mem_nil _
  eq := (Expr.subst_nil a).symm
  constants := C.constants h
  frame := C.anyFrame h _ _
  names := by
    rw [C.closed h]
    exact List.forall_mem_nil _

theorem replaced_or_head (hconst : ∀ v, C.constant v → C.simulation.Like v v) {a a' : Expr}
    {ε ε' : Env} (h : C.Related C.Agree a ε a' ε') :
    (∃ x δ, a = .var x ∧ ε.lookup? x = some ⟨a', δ⟩ ∧ C.replaced x a') ∨
      C.simulation.Head a ε a' ε' := by
  obtain ⟨σ, h⟩ := h
  by_cases hvar : ∀ x, a = .var x → σ.lookup x = none
  · exact .inr (head_of_relatedBy hconst h hvar)
  -- Only what is put for a name can have another head than what it is put for.
  · obtain ⟨x, himp⟩ := not_forall.1 hvar
    obtain ⟨rfl, hx⟩ := Classical.not_imp.1 himp
    obtain ⟨b, hb⟩ := Option.ne_none_iff_exists'.1 hx
    have hname := h.names x (List.mem_singleton_self x)
    have heq : a' = b := by rw [h.eq, Expr.subst, hb, Option.getD_some]
    subst heq
    simp only [Named, hb] at hname
    obtain ⟨δ, hδ⟩ := hname
    exact .inl ⟨x, δ, rfl, hδ, h.replaced _ (mem_of_lookup hb)⟩

theorem follows_checkDepth_none (S : Simulation) (d d' : Nat) :
    S.Follows (fun _ _ => True) (liftM (checkDepth none d) : EvalM Unit)
      (liftM (checkDepth none d') : EvalM Unit) := .pure trivial

theorem eval_var {fuel d : Nat} {x : String} {ε : Env} {a : Expr} {δ : Env}
    (h : ε.lookup? x = some ⟨a, δ⟩) : eval none (fuel + 1) d (.var x) ε =
      EvalM.countLookup >>= fun _ => eval none fuel (d + 1) a δ := by
  simp only [eval, step, h]
  rfl

theorem follows_eval_replaced (hconst : ∀ v, C.constant v → C.simulation.Like v v)
    {fuel fuel' : Nat} (hfuel : fuel ≤ fuel') (d d' : Nat) {a a' : Expr} {ε ε' : Env}
    (h : C.Related C.Agree a ε a' ε') : C.simulation.Follows C.simulation.Like
      (eval none fuel d a ε) (eval none fuel' d' a' ε') := by
  induction fuel generalizing fuel' d d' a a' ε ε' with
  | zero => exact .outOfFuel
  | succ fuel ih =>
    rcases replaced_or_head hconst h with ⟨x, δ, rfl, hx, hrep⟩ | hhead
    -- The reference is followed on one side only; the other side stays where it is.
    · rw [eval_var hx]
      intro m m' hm r m₁ hr
      have hskip := C.skipLookup hrep hm
      exact ih (Nat.le_of_succ_le hfuel) (d + 1) d' ⟨[], relatedBy_replaced hrep⟩ hskip hr
    · obtain ⟨fuel', rfl⟩ := Nat.exists_eq_add_of_lt hfuel
      refine Simulation.follows_step (follows_checkDepth_none _ d d') ?_ hhead
      intro k _ _ b δ b' δ' hb
      exact ih (Nat.le_add_right _ _) (d + k) (d' + k) hb

/-- A reference takes one evaluation more, so the run with references may need twice the fuel. -/
theorem follows_eval_flip_replaced (hconst : ∀ v, C.constant v → C.simulation.Like v v)
    {fuel fuel' : Nat} (hfuel : 2 * fuel ≤ fuel') (d d' : Nat) {a a' : Expr} {ε ε' : Env}
    (h : C.Related C.Agree a ε a' ε') : C.simulation.flip.Follows C.simulation.flip.Like
      (eval none fuel d' a' ε') (eval none fuel' d a ε) := by
  induction fuel generalizing fuel' d d' a a' ε ε' with
  | zero => exact .outOfFuel
  | succ fuel ih =>
    obtain ⟨k, rfl⟩ : ∃ k, fuel' = k + 2 := ⟨fuel' - 2, by omega⟩
    rcases replaced_or_head hconst h with ⟨x, δ, rfl, hx, hrep⟩ | hhead
    -- Staying there would not use the fuel up, so the step after the reference is taken as well.
    · have hhead : C.simulation.Head a' δ a' ε' :=
        head_of_relatedBy hconst (relatedBy_replaced hrep) fun _ _ => rfl
      have hstep : C.simulation.flip.Follows C.simulation.flip.Like
          (eval none (fuel + 1) d' a' ε') (eval none (k + 1) (d + 1) a' δ) := by
        refine Simulation.follows_step (follows_checkDepth_none _ d' (d + 1)) ?_ hhead.flip
        intro i _ _ b ρ b' ρ' hb
        exact ih (by omega) (d + 1 + i) (d' + i) hb
      rw [eval_var hx]
      intro m' m hm r m₁ hr
      exact hstep (C.skipLookup hrep hm) hr
    · refine Simulation.follows_step (follows_checkDepth_none _ d' d) ?_ hhead.flip
      intro i _ _ b ρ b' ρ' hb
      exact ih (by omega) (d + i) (d' + i) hb

end Correspondence

/-- Computations with the same outcome from any two meters: one ends if and only if the other does,
in values that print the same or in errors that differ only in the expressions they show. -/
def EndAlike (x y : Nat → EvalM Value) : Prop :=
  ∀ m m',
    (∀ r, Ends x m r → ∃ r', Ends y m' r' ∧
      ResultLike Error.Alike (fun v w => v.text = w.text) r.1 r'.1) ∧
    ∀ r', Ends y m' r' → ∃ r, Ends x m r ∧
      ResultLike Error.Alike (fun v w => v.text = w.text) r.1 r'.1

open Correspondence

namespace Beta

variable {x : String} {e : Expr} (he : e.Portable) {body : List Expr}

theorem like_refl {v : Value} (h : v.closures = [] ∧ .equal ∉ v.operators) :
    (beta x he).simulation.Like v v := by
  apply like_of_closures_eq_nil h.1
  intro op hop
  have hne : Prim.equal ≠ op := fun heq => h.2 (heq ▸ hop)
  exact ⟨rfl, fun hmem => hne (List.mem_singleton.1 hmem)⟩

theorem body_beta (hplain : Plain (Expr.constantsAll body))
    (hequal : ∀ v ∈ Expr.constantsAll body, .equal ∉ v.operators) (i j : Nat) :
    (beta x he).simulation.Body body (.bind i [(x, e)] .empty .empty)
      (Expr.substForms [(x, e)] body) (.bind j [] .empty .empty) := by
  refine body_of_named body ?_ (fun v hv => ⟨hplain v hv, hequal v hv⟩) trivial ?_
  · exact List.forall_mem_singleton.2 ⟨rfl, rfl⟩
  · intro y _
    by_cases hy : y = x
    · subst hy
      simp [Named, Env.lookup?]
    · have hnone : [(x, e)].lookup y = none := by
        rw [List.lookup_cons, beq_false_of_ne hy, List.lookup_nil]
      simp only [Named, hnone]
      apply Agree.of_matched
      simp only [Matched, Env.lookup?, hnone, List.lookup_nil]
      exact .refl _

theorem follows_app (hplain : Plain (Expr.constantsAll body))
    (hequal : ∀ v ∈ Expr.constantsAll body, .equal ∉ v.operators) (site site' : Site)
    (fuel d d' : Nat) :
    (beta x he).simulation.Follows (beta x he).simulation.Like
      (eval none (fuel + 1) d (.app (.lambda (.mk site [x] body)) [e]) .empty)
      (eval none (fuel + 1) d'
        (.app (.lambda (.mk site' [] (Expr.substForms [(x, e)] body))) []) .empty) := by
  apply Simulation.follows_app_lambda
  · intro k
    exact follows_checkDepth_none _ _ _
  · exact Nat.le_refl fuel
  · intro a ε b ε' hab
    exact follows_eval_replaced (fun v hv => like_refl he hv) (Nat.le_refl fuel) _ _ hab
  · rfl
  · rfl
  · intro i j _
    exact body_beta he hplain hequal i j

theorem follows_app_flip (hplain : Plain (Expr.constantsAll body))
    (hequal : ∀ v ∈ Expr.constantsAll body, .equal ∉ v.operators) (site site' : Site)
    (fuel d d' : Nat) :
    (beta x he).simulation.flip.Follows (beta x he).simulation.flip.Like
      (eval none (fuel + 1) d'
        (.app (.lambda (.mk site' [] (Expr.substForms [(x, e)] body))) []) .empty)
      (eval none (2 * fuel + 1) d (.app (.lambda (.mk site [x] body)) [e]) .empty) := by
  apply Simulation.follows_app_lambda
  · intro k
    exact follows_checkDepth_none _ _ _
  · omega
  · intro a ε b ε' hab
    exact follows_eval_flip_replaced (fun v hv => like_refl he hv) (Nat.le_refl _) _ _ hab
  · rfl
  · rfl
  · intro i j _
    exact (body_beta he hplain hequal j i).flip

theorem endAlike_app (he : e.Portable) (hplain : Plain (Expr.constantsAll body))
    (hequal : ∀ v ∈ Expr.constantsAll body, .equal ∉ v.operators) (site site' : Site)
    (depth : Nat) :
    EndAlike (fun fuel => eval none fuel depth (.app (.lambda (.mk site [x] body)) [e]) .empty)
      fun fuel => eval none fuel depth
        (.app (.lambda (.mk site' [] (Expr.substForms [(x, e)] body))) []) .empty := by
  intro m m'
  have hforth (fuel : Nat) := follows_app (x := x) he hplain hequal site site' fuel depth depth
  have hback (fuel : Nat) := follows_app_flip (x := x) he hplain hequal site site' fuel depth depth
  constructor
  · intro r hr
    exact Simulation.ends_of_follows (fun _ h => h) (fun fuel => ⟨_, hforth fuel⟩) trivial hr
  · intro r' hr'
    obtain ⟨r, hr, hlike⟩ : ∃ r, Ends _ m r ∧ ResultLike _ _ r'.1 r.1 :=
      Simulation.ends_of_follows (fun _ h => h) (fun fuel => ⟨_, hback fuel⟩) trivial hr'
    exact ⟨r, hr, hlike.flip.imp (fun _ _ he => he) fun _ _ htext => htext.symm⟩

end Beta

open Beta

/-- Applying a lambda of one parameter to a closed operand has the outcome of its body with the
operand put for the parameter. The operand may not be a lambda, and no identity of procedures may be
asked for. -/
theorem app_lambda_endAlike_subst {x : String} {e : Expr} {body : List Expr} {operand form : Datum}
    {forms : List Datum} {s t : Site} (he : Expr.ofDatum s .operand operand = .ok e)
    (hbody : Expr.ofBody t form forms = .ok body) (hclosed : e.free = [])
    (hlambda : ∀ p, e ≠ .lambda p)
    (hequal : ∀ v ∈ e.constants ++ Expr.constantsAll body, .equal ∉ v.operators)
    (site site' : Site) (depth : Nat) :
    EndAlike (fun fuel => eval none fuel depth (.app (.lambda (.mk site [x] body)) [e]) .empty)
      fun fuel => eval none fuel depth
        (.app (.lambda (.mk site' [] (Expr.substForms [(x, e)] body))) []) .empty := by
  obtain ⟨hequal, hequal'⟩ := List.forall_mem_append.1 hequal
  have hportable : e.Portable :=
    ⟨hclosed, (ofDatum_eq_ok_iff.1 he).defined_operand, hlambda,
      (ofDatum_eq_ok_iff.1 he).plain, hequal⟩
  have hplain : Plain (Expr.constantsAll body) :=
    (ofData_eq_ok_iff.1 (ofBody_eq_ok_iff.1 hbody).2).plain
  exact endAlike_app hportable hplain hequal' site site' depth

theorem app_lambda_endAlike_subst_sum :
    Expr.ofDatum [] .operand (.list [.sym "+", .num 1, .num 2]) =
        .ok (.app (.prim .add) [.num 1, .num 2]) ∧
      Expr.ofBody [] (.list []) [.list [.sym "define", .list [.sym "f", .sym "x"], .sym "x"],
        .list [.sym "let", .list [.list [.sym "x", .list [.sym "f", .sym "x"]]], .sym "x"]] =
          .ok [.define "f" (.lambda (.mk [1] ["x"] [.var "x"])),
            .letIn [("x", .app (.var "f") [.var "x"])] [.var "x"]] ∧
      EndAlike
        (fun fuel => eval none fuel 1 (.app (.lambda (.mk [0] ["x"]
          [.define "f" (.lambda (.mk [1] ["x"] [.var "x"])),
            .letIn [("x", .app (.var "f") [.var "x"])] [.var "x"]]))
          [.app (.prim .add) [.num 1, .num 2]]) .empty)
        fun fuel => eval none fuel 1 (.app (.lambda (.mk [0] []
          [.define "f" (.lambda (.mk [1] ["x"] [.var "x"])),
            .letIn [("x", .app (.var "f") [.app (.prim .add) [.num 1, .num 2]])] [.var "x"]]))
          []) .empty := by
  have he : Expr.ofDatum [] .operand (.list [.sym "+", .num 1, .num 2]) =
      .ok (.app (.prim .add) [.num 1, .num 2]) := by rfl
  have hbody : Expr.ofBody [] (.list [])
      [.list [.sym "define", .list [.sym "f", .sym "x"], .sym "x"],
        .list [.sym "let", .list [.list [.sym "x", .list [.sym "f", .sym "x"]]], .sym "x"]] =
      .ok [.define "f" (.lambda (.mk [1] ["x"] [.var "x"])),
        .letIn [("x", .app (.var "f") [.var "x"])] [.var "x"]] := by rfl
  refine ⟨he, hbody, app_lambda_endAlike_subst he hbody rfl ?_ ?_ [0] [0] 1⟩
  · intro p hp
    cases hp
  · decide

end CallByName
