import CallByName.Proofs.Outcome
import Mathlib.Data.List.Chain

/-! Evaluations nested in one another. An evaluation starts another one if the failure of that one
would be its own. What an evaluation starts is deeper, and nothing is started at the limit, so under
a limit only so many evaluations are nested. Fuel counts them: an evaluation that runs out of fuel
has as many nested in one another. -/

namespace CallByName

abbrev Evaluator := Nat → Expr → Env → EvalM Value

structure Call where
  depth : Nat
  expr : Expr
  env : Env
  meter : Meter

namespace Call

def run (ev : Evaluator) (c : Call) : Option (Except Error Value × Meter) :=
  (ev c.depth c.expr c.env).run c.meter

/-- However the evaluator is changed for this call alone, if the call then fails, the computation
fails with it. -/
def StartedBy {α : Type} (c : Call) (F : Evaluator → EvalM α) (ev : Evaluator) (m : Meter) : Prop :=
  ∀ ev' : Evaluator, (∀ c', c' ≠ c → c'.run ev' = c'.run ev) → ∀ e m₁,
    c.run ev' = some (.error e, m₁) → (F ev').run m = some (.error e, m₁)

def Starts (limit : Option Nat) (c c' : Call) : Prop :=
  ∃ fuel, c'.StartedBy (fun ev => step limit ev c.depth c.expr c.env) (eval limit fuel) c.meter

open Classical in
noncomputable def failing (c : Call) (e : Error) (ev : Evaluator) : Evaluator := fun d a ε =>
  ExceptT.mk fun m => if Call.mk d a ε m = c then some (.error e, m) else (ev d a ε).run m

theorem run_failing_self (c : Call) (e : Error) (ev : Evaluator) :
    c.run (c.failing e ev) = some (.error e, c.meter) :=
  if_pos rfl

theorem run_failing_of_ne {c c' : Call} (h : c' ≠ c) (e : Error) (ev : Evaluator) :
    c'.run (c.failing e ev) = c'.run ev :=
  if_neg h

end Call

section

variable {limit limit' : Option Nat} {ev ev' : Evaluator} {d d' : Nat}

theorem applyValue_congr (h : ∀ k, 0 < k → ev (d + k) = ev' (d' + k)) :
    applyValue ev d = applyValue ev' d' := by
  have h₁ := h 1 (by decide)
  have h₂ := h 2 (by decide)
  funext rator rands env v
  cases v <;> simp only [applyValue, h₁, h₂]

theorem step_congr (hcheck : checkDepth limit d = checkDepth limit' d')
    (h : ∀ k, 0 < k → ev (d + k) = ev' (d' + k)) : step limit ev d = step limit' ev' d' := by
  have h₁ := h 1 (by decide)
  have h₂ := h 2 (by decide)
  funext e env
  cases e <;> simp only [step, hcheck, h₁, h₂, applyValue_congr h]

theorem eval_none_eq (fuel d d' : Nat) : eval none fuel d = eval none fuel d' := by
  induction fuel generalizing d d' with
  | zero => rfl
  | succ fuel ih => exact step_congr rfl fun k _ => ih (d + k) (d' + k)

theorem step_of_le {n : Nat} (h : n ≤ d) (e : Expr) (env : Env) :
    step (some n) ev d e env = throw (.depthExceeded n) := by
  simp only [step, checkDepth, if_pos h]
  rfl

end

namespace Call

variable {limit : Option Nat} {c c' : Call}

theorem StartedBy.run_failing {α : Type} {F : Evaluator → EvalM α} {ev : Evaluator} {m : Meter}
    (h : c.StartedBy F ev m) (e : Error) :
    (F (c.failing e ev)).run m = some (.error e, c.meter) :=
  h _ (fun _ hne => run_failing_of_ne hne e ev) e c.meter (run_failing_self c e ev)

theorem failing_apply_of_ne {d : Nat} (h : d ≠ c.depth) (e : Error) (ev : Evaluator) :
    c.failing e ev d = ev d := by
  funext a ε m
  have hne : Call.mk d a ε m ≠ c := fun hc => h (congrArg depth hc)
  exact run_failing_of_ne hne e ev

theorem Starts.depth_lt (h : c.Starts limit c') : c.depth < c'.depth := by
  obtain ⟨fuel, h⟩ := h
  by_contra hle
  -- A call that is not deeper could fail in one way or another, and the step would not notice.
  have hstep (e : Error) : step limit (c'.failing e (eval limit fuel)) c.depth =
      step limit (eval limit fuel) c.depth :=
    step_congr rfl fun k hk => failing_apply_of_ne (by omega) e _
  have h₁ := h.run_failing .emptySequence
  have h₂ := h.run_failing .divisionByZero
  simp only [hstep] at h₁ h₂
  cases h₁.symm.trans h₂

theorem Starts.depth_lt_limit {n : Nat} (h : c.Starts (some n) c') : c.depth < n := by
  obtain ⟨fuel, h⟩ := h
  by_contra hle
  have hrun := h.run_failing .emptySequence
  simp only [step_of_le (Nat.not_lt.1 hle)] at hrun
  cases hrun

abbrev Nested (limit : Option Nat) (calls : List Call) : Prop :=
  calls.IsChain (Starts limit)

theorem Nested.depths_increase {calls : List Call} (h : Nested limit calls) :
    (calls.map depth).Pairwise (· < ·) :=
  ((List.isChain_map depth).2 (h.imp fun _ _ => Starts.depth_lt)).pairwise

theorem Nested.length_le {n : Nat} {calls : List Call} (h : Nested (some n) (c :: calls)) :
    calls.length ≤ n - c.depth := by
  induction calls generalizing c with
  | nil => exact Nat.zero_le _
  | cons c' calls ih =>
    obtain ⟨hstarts, hcalls⟩ := List.isChain_cons_cons.1 h
    have hdeeper := hstarts.depth_lt
    have hlimit := hstarts.depth_lt_limit
    have hrest := ih hcalls
    rw [List.length_cons]
    omega

end Call

namespace EvalM

def Settles {α : Type} (x : EvalM α) : Prop := ∀ m, ∃ r, x.run m = some r

namespace Settles

variable {α : Type}

theorem pure (a : α) : Settles (pure a : EvalM α) := fun _ => ⟨_, rfl⟩

theorem throw (e : Error) : Settles (throw e : EvalM α) := fun _ => ⟨_, rfl⟩

theorem lift (x : Except Error α) : Settles (liftM x : EvalM α) := by
  cases x with
  | error e => exact throw e
  | ok a => exact pure a

theorem newFrame : Settles EvalM.newFrame := fun _ => ⟨_, rfl⟩

theorem countLookup : Settles EvalM.countLookup := fun _ => ⟨_, rfl⟩

end Settles

end EvalM

open EvalM

/-- A computation that starts calls one after another: it ends the same if the calls that end do,
and if it runs out of fuel, then because a call that it has started does. -/
structure Sequential {α : Type} (F : Evaluator → EvalM α) : Prop where
  mono {ev ev' : Evaluator} (h : ∀ c r, Call.run ev c = some r → c.run ev' = some r) {m : Meter}
    {r : Except Error α × Meter} : (F ev).run m = some r → (F ev').run m = some r
  starts {ev : Evaluator} {m : Meter} : (F ev).run m = none →
    ∃ c : Call, c.run ev = none ∧ c.StartedBy F ev m

namespace Sequential

variable {α β : Type}

theorem of_settles {x : EvalM α} (h : Settles x) : Sequential fun _ => x where
  mono _ _ _ hx := hx
  starts {ev m} hx := by
    obtain ⟨r, hr⟩ := h m
    cases hx.symm.trans hr

theorem call (d : Nat) (e : Expr) (ε : Env) : Sequential fun ev => ev d e ε where
  mono h m r hr := h ⟨d, e, ε, m⟩ r hr
  starts {_ m} hnone := ⟨⟨d, e, ε, m⟩, hnone, fun _ _ _ _ he => he⟩

theorem bind {F : Evaluator → EvalM α} {G : α → Evaluator → EvalM β} (hF : Sequential F)
    (hG : ∀ a, Sequential (G a)) : Sequential fun ev => F ev >>= fun a => G a ev where
  mono {ev ev'} h {m r} hr := by
    rw [run_bind] at hr ⊢
    cases hx : (F ev).run m with
    | none =>
      rw [hx] at hr
      cases hr
    | some s =>
      rw [hx] at hr
      rw [hF.mono h hx]
      obtain ⟨e | a, m₁⟩ := s
      · exact hr
      · exact (hG a).mono h hr
  starts {ev m} hnone := by
    rw [run_bind] at hnone
    cases hx : (F ev).run m with
    | none =>
      obtain ⟨c, hc, hstarted⟩ := hF.starts hx
      refine ⟨c, hc, fun ev' hev' e m₁ he => ?_⟩
      rw [run_bind, hstarted ev' hev' e m₁ he]
    | some s =>
      rw [hx] at hnone
      obtain ⟨e | a, m₁⟩ := s
      · cases hnone
      · obtain ⟨c, hc, hstarted⟩ := (hG a).starts hnone
        refine ⟨c, hc, fun ev' hev' e m₂ he => ?_⟩
        -- The first part does not start this call, which does not end, so it goes as before.
        have hsame : ∀ c' r, Call.run ev c' = some r → c'.run ev' = some r := by
          intro c' r hr
          by_cases hne : c' = c
          · subst hne
            cases hc.symm.trans hr
          · exact (hev' c' hne).trans hr
        rw [run_bind, hF.mono hsame hx]
        exact hstarted ev' hev' e m₂ he

theorem mapM {γ : Type} {F : γ → Evaluator → EvalM α} (hF : ∀ a, Sequential (F a)) (as : List γ) :
    Sequential fun ev => as.mapM fun a => F a ev := by
  induction as with
  | nil => exact of_settles (.pure [])
  | cons a as ih =>
    simp only [List.mapM_cons]
    exact (hF a).bind fun b => ih.bind fun bs => of_settles (.pure (b :: bs))

theorem foldlM {γ : Type} {F : α → γ → Evaluator → EvalM α} (hF : ∀ b a, Sequential (F b a))
    (as : List γ) (b : α) : Sequential fun ev => as.foldlM (fun b a => F b a ev) b := by
  induction as generalizing b with
  | nil => exact of_settles (.pure b)
  | cons a as ih =>
    simp only [List.foldlM_cons]
    exact (hF b a).bind ih

theorem settles {F : Evaluator → EvalM α} (hF : Sequential F) {ev : Evaluator}
    (hev : ∀ d e ε, Settles (ev d e ε)) : Settles (F ev) := by
  intro m
  cases hx : (F ev).run m with
  | some r => exact ⟨r, rfl⟩
  | none =>
    obtain ⟨c, hc, -⟩ := hF.starts hx
    obtain ⟨r, hr⟩ := hev c.depth c.expr c.env c.meter
    cases hc.symm.trans hr

theorem pure (a : α) : Sequential fun _ => (Pure.pure a : EvalM α) :=
  of_settles (.pure a)

theorem throw (e : Error) : Sequential fun _ => (MonadExcept.throw e : EvalM α) :=
  of_settles (.throw e)

theorem runForms (d : Nat) (forms : List Expr) (ε : Env) :
    Sequential fun ev => CallByName.runForms (ev d) forms ε := by
  refine foldlM (F := fun s form ev => runForm (ev d) s.2 form) (fun s form => ?_) forms (none, ε)
  cases form with
  | define x v =>
    simp only [runForm_define]
    exact (of_settles .newFrame).bind fun i => pure _
  | _ => exact (call d _ s.2).bind fun v => pure _

theorem runBody (d : Nat) (forms : List Expr) (ε : Env) :
    Sequential fun ev => CallByName.runBody (ev d) forms ε := by
  refine (runForms d forms ε).bind fun s => ?_
  split
  · exact pure _
  · exact throw _

theorem runBody_newFrame (d : Nat) (forms : List Expr) (F : Nat → Env) :
    Sequential fun ev =>
      EvalM.newFrame >>= (fun i => Pure.pure (F i)) >>= CallByName.runBody (ev d) forms :=
  ((of_settles .newFrame).bind fun i => pure (F i)).bind (runBody d forms)

theorem applyValue (d : Nat) (rator : Expr) (rands : List Expr) (env : Env) (v : Value) :
    Sequential fun ev => CallByName.applyValue ev d rator rands env v := by
  cases v with
  | prim op => exact (mapM (fun a => call (d + 1) a env) rands).bind fun vs => of_settles (.lift _)
  | closure p δ =>
    simp only [CallByName.applyValue]
    split
    · exact runBody_newFrame _ _ _
    · exact throw _
  | _ => exact throw _

theorem step (limit : Option Nat) (d : Nat) (e : Expr) (ε : Env) :
    Sequential fun ev => CallByName.step limit ev d e ε := by
  refine (of_settles (.lift _)).bind fun _ => ?_
  cases e with
  | var x =>
    dsimp only
    split
    · exact throw _
    · exact (of_settles .countLookup).bind fun _ => call _ _ _
  | cond t y n => exact (call _ t ε).bind fun v => call _ _ ε
  | app f as => exact (call _ f ε).bind fun v => applyValue d f as ε v
  | letIn bs body => exact runBody_newFrame _ body _
  | letRec bs body => exact (of_settles (.lift _)).bind fun ps => runBody_newFrame _ body _
  | assign => exact throw _
  | define => exact throw _
  | _ => exact pure _

end Sequential

section

variable {ev : Expr → Env → EvalM Value}

theorem settles_runForms (hev : ∀ e ε, Settles (ev e ε)) (forms : List Expr) (ε : Env) :
    Settles (runForms ev forms ε) :=
  (Sequential.runForms 0 forms ε).settles fun _ => hev

theorem settles_runBody (hev : ∀ e ε, Settles (ev e ε)) (forms : List Expr) (ε : Env) :
    Settles (runBody ev forms ε) :=
  (Sequential.runBody 0 forms ε).settles fun _ => hev

end

theorem exists_nested_of_outOfFuel {limit : Option Nat} {fuel : Nat} {c : Call}
    (h : c.run (eval limit fuel) = none) :
    ∃ calls, Call.Nested limit (c :: calls) ∧ calls.length = fuel := by
  induction fuel generalizing c with
  | zero => exact ⟨[], .singleton c, rfl⟩
  | succ fuel ih =>
    obtain ⟨c', hnone, hstarted⟩ := (Sequential.step limit c.depth c.expr c.env).starts h
    obtain ⟨calls, hcalls, hlength⟩ := ih hnone
    exact ⟨c' :: calls, .cons_cons ⟨fuel, hstarted⟩ hcalls, congrArg Nat.succ hlength⟩

theorem settles_eval {n fuel d : Nat} (hfuel : 0 < fuel) (h : n < d + fuel) (e : Expr) (ε : Env) :
    Settles (eval (some n) fuel d e ε) := by
  intro m
  cases hrun : (eval (some n) fuel d e ε).run m with
  | some r => exact ⟨r, rfl⟩
  | none =>
    obtain ⟨calls, hcalls, hlength⟩ := exists_nested_of_outOfFuel (c := ⟨d, e, ε, m⟩) hrun
    have hle := hcalls.length_le
    dsimp only at hle
    omega

namespace Sequential

variable {α : Type} {F : Evaluator → EvalM α}

theorem stable (hF : Sequential F) (limit : Option Nat) :
    Stable fun fuel => F (eval limit fuel) := by
  intro fuel fuel' m r hfuel
  refine hF.mono fun c r hr => ?_
  exact run_of_follows_exact (Simulation.follows_eq (follows_eval_of_le limit hfuel _ _ _)) hr

theorem exists_run (hF : Sequential F) (n : Nat) (m : Meter) :
    ∃ r, ∀ fuel, n < fuel → (F (eval (some n) fuel)).run m = some r := by
  obtain ⟨r, hr⟩ := hF.settles (fun d e ε => settles_eval (n := n) n.succ_pos (by omega) e ε) m
  exact ⟨r, fun fuel hfuel => hF.stable (some n) hfuel hr⟩

end Sequential

/-- Evaluations nested in one another are at greater and greater depths, so a limit of `n` leaves
room for `n + 1` of them, whatever is evaluated. As fuel runs out only where that many are nested,
more fuel than `n` is enough for all expressions and forms under that limit, and how much more makes
no difference. -/
theorem limit_bounds_nesting (n : Nat) :
    (∀ limit calls, Call.Nested limit calls → (calls.map Call.depth).Pairwise (· < ·)) ∧
      (∀ calls, Call.Nested (some n) calls → calls.length ≤ n + 1) ∧
      (∀ limit fuel (c : Call), c.run (eval limit fuel) = none →
        ∃ calls, Call.Nested limit (c :: calls) ∧ calls.length = fuel) ∧
      ∀ env m,
        (∀ depth e, ∃ r, ∀ fuel, n < fuel → (eval (some n) fuel depth e env).run m = some r) ∧
        (∀ forms, ∃ r, ∀ fuel, n < fuel → (evalSequence (some n) fuel forms env).run m = some r) ∧
        ∀ forms, ∃ r, ∀ fuel, n < fuel → (evalToplevel (some n) fuel forms env).run m = some r := by
  refine ⟨fun limit calls h => h.depths_increase, fun calls h => ?_,
    fun limit fuel c h => exists_nested_of_outOfFuel h,
    fun env m => ⟨fun depth e => ?_, fun forms => ?_, fun forms => ?_⟩⟩
  · cases calls with
    | nil => exact Nat.zero_le _
    | cons c calls => exact Nat.succ_le_succ (h.length_le.trans (Nat.sub_le n c.depth))
  · exact (Sequential.call depth e env).exists_run n m
  · exact (Sequential.runBody 1 forms env).exists_run n m
  · cases forms with
    | nil => exact (Sequential.throw .emptySequence).exists_run n m
    | cons form forms => exact (Sequential.runForms 1 (form :: forms) env).exists_run n m

theorem limit_bounds_nesting_of_loop :
    (∃ calls, Call.Nested (some 2) calls ∧ calls.length = 2 + 1 ∧
        (calls.map Call.depth).Pairwise (· < ·)) ∧
      ∀ fuel, 10 < fuel → (evalSequence (some 10) fuel
        [.define "spin" (.lambda (.mk [0] ["n"] [.app (.var "spin") [.var "n"]])),
          .app (.var "spin") [.num 1]] .empty).run ⟨0, 0⟩ =
        some (.error (.depthExceeded 10), ⟨4, 5⟩) := by
  constructor
  · obtain ⟨hincrease, hlength, hfuel, -⟩ := limit_bounds_nesting 2
    let test : Expr := .cond (.bool true) (.bool true) (.bool false)
    obtain ⟨calls, hcalls, hcount⟩ :=
      hfuel (some 2) 2 ⟨0, .cond test (.num 1) (.num 2), .empty, ⟨0, 0⟩⟩ rfl
    refine ⟨_, hcalls, ?_, hincrease _ _ hcalls⟩
    exact Nat.le_antisymm (hlength _ hcalls) (Nat.le_of_eq (congrArg Nat.succ hcount).symm)
  · intro fuel hfuel
    obtain ⟨-, -, -, hends⟩ := limit_bounds_nesting 10
    obtain ⟨r, hr⟩ := (hends .empty ⟨0, 0⟩).2.1
      [.define "spin" (.lambda (.mk [0] ["n"] [.app (.var "spin") [.var "n"]])),
        .app (.var "spin") [.num 1]]
    rw [hr fuel hfuel, ← hr 11 (by decide)]
    rfl

end CallByName
