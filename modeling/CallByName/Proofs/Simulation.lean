import CallByName.Proofs.Operators
import CallByName.Proofs.Scope

/-! Two runs side by side. A simulation says which frames, meters, errors, closures and deferred
expressions correspond. When deferred expressions correspond head by head, one evaluation follows
the other; all that a simulation has to show about the evaluator is in its laws and in `Head`. With
the same run on both sides it says what a single run keeps. -/

namespace CallByName

open List (Forall₂)

def Env.withDefinition (frame : Nat) (x : String) (env : Env) : Expr → Env
  | .lambda proc => .bindRec frame [(x, proc)] env
  | e => .bind frame [(x, e)] env env

theorem Env.define_eq (env : Env) (x : String) (e : Expr) :
    env.define x e = EvalM.newFrame >>= fun i => pure (env.withDefinition i x e) := by
  cases e <;> rfl

theorem runForm_of_defined_eq_nil {ev : Expr → Env → EvalM Value} {e : Expr} (he : e.defined = [])
    (ε : Env) : runForm ev ε e = (fun v => (some v, ε)) <$> ev e ε := by
  cases e with
  | define x v => cases he
  | _ => rfl

theorem runBody_singleton (ev : Expr → Env → EvalM Value) {e : Expr} (he : e.defined = [])
    (ε : Env) : runBody ev [e] ε = ev e ε := by
  rw [runBody, runForms, List.foldlM_cons, runForm_of_defined_eq_nil he, map_eq_pure_bind]
  simp only [List.foldlM_nil, bind_assoc, pure_bind, bind_pure]

theorem runForm_define {ev : Expr → Env → EvalM Value} (ε : Env) (x : String) (v : Expr) :
    runForm ev ε (.define x v) =
      EvalM.newFrame >>= fun i => pure (none, ε.withDefinition i x v) := by
  rw [runForm, Env.define_eq, bind_assoc]
  simp only [pure_bind]

theorem runForm_cases {ev : Expr → Env → EvalM Value} {form : Expr} {ε ε' : Env} {v : Option Value}
    {m m' : Meter} (h : (runForm ev ε form).run m = some (.ok (v, ε'), m')) :
    (∃ x e, form = .define x e ∧ v = none ∧ ε' = ε.withDefinition (m.frames + 1) x e ∧
        m' = ⟨m.lookups, m.frames + 1⟩) ∨
      form.defined = [] ∧ ε' = ε ∧ ∃ w, v = some w ∧ (ev form ε).run m = some (.ok w, m') := by
  by_cases hform : form.defined = []
  · rw [runForm_of_defined_eq_nil hform, map_eq_pure_bind, EvalM.run_bind_eq_ok_iff] at h
    obtain ⟨w, m₁, heval, hpure⟩ := h
    cases hpure
    exact .inr ⟨hform, rfl, w, rfl, heval⟩
  · cases form with
    | define x e =>
      rw [runForm_define] at h
      cases h
      exact .inl ⟨x, e, rfl, rfl, rfl, rfl⟩
    | _ => exact absurd rfl hform

/-- Corresponding forms in sequence. The flag says whether the form before was an expression, and
`stop` is what has to hold at the end. -/
inductive Forms (frame : Nat → Nat → Prop) (deferred : Expr → Env → Expr → Env → Prop)
    (stop : Bool → Env → Env → Prop) : Bool → List Expr → Env → List Expr → Env → Prop
  | nil {b : Bool} {ε ε' : Env} (h : stop b ε ε') : Forms frame deferred stop b [] ε [] ε'
  | expression {b : Bool} {e e' : Expr} {es es' : List Expr} {ε ε' : Env} (he : e.defined = [])
    (he' : e'.defined = []) (h : deferred e ε e' ε')
    (rest : Forms frame deferred stop true es ε es' ε') :
    Forms frame deferred stop b (e :: es) ε (e' :: es') ε'
  | definition {b : Bool} {x y : String} {v v' : Expr} {es es' : List Expr} {ε ε' : Env}
    (rest : ∀ i j, frame i j → Forms frame deferred stop false es (ε.withDefinition i x v) es'
      (ε'.withDefinition j y v')) :
    Forms frame deferred stop b (.define x v :: es) ε (.define y v' :: es') ε'

theorem Meter.newFrame_congr {m m' : Meter} (h : m = m') : m.frames + 1 = m'.frames + 1 ∧
    Meter.mk m.lookups (m.frames + 1) = ⟨m'.lookups, m'.frames + 1⟩ := by
  subst h
  exact ⟨rfl, rfl⟩

theorem Meter.countLookup_congr {m m' : Meter} (h : m = m') :
    Meter.mk (m.lookups + 1) m.frames = ⟨m'.lookups + 1, m'.frames⟩ := by
  subst h
  rfl

structure Simulation where
  frame : Nat → Nat → Prop
  meter : Meter → Meter → Prop
  error : Error → Error → Prop
  /-- Errors of the first run after which nothing is asked of the second. -/
  cut : Error → Prop
  operator : Prim → Prop
  closure : Lambda → Env → Lambda → Env → Prop
  deferred : Expr → Env → Expr → Env → Prop
  newFrame {m m' : Meter} : meter m m' → frame (m.frames + 1) (m'.frames + 1) ∧
    meter ⟨m.lookups, m.frames + 1⟩ ⟨m'.lookups, m'.frames + 1⟩
  countLookup {m m' : Meter} : meter m m' →
    meter ⟨m.lookups + 1, m.frames⟩ ⟨m'.lookups + 1, m'.frames⟩
  operational {e : Error} : e.IsOperational ∨ e.kind = .badProcedure → error e e
  params {p q : Lambda} {ε δ : Env} : closure p ε q δ → p.params = q.params
  equal {p q p' q' : Lambda} {ε δ ε' δ' : Env} : operator .equal → closure p ε q δ →
    closure p' ε' q' δ' →
    (Value.closure p ε).beq (.closure p' ε') = (Value.closure q δ).beq (.closure q' δ')
  enter {p q : Lambda} {ε δ ρ ρ' : Env} {f f' : Expr} {as bs : List Expr} {i j : Nat} :
    closure p ε q δ → deferred f ρ f' ρ' → Forall₂ (fun a b => deferred a ρ b ρ') as bs →
    p.params.length = as.length → frame i j →
    Forms frame deferred (fun b _ _ => b = true ∨ error .emptySequence .emptySequence) false
      p.body (.bind i (p.params.zip as) ρ ε) q.body (.bind j (q.params.zip bs) ρ' δ)

namespace Simulation

variable (S : Simulation)

abbrev Like : Value → Value → Prop := Value.Like S.closure S.operator

abbrev Body (forms : List Expr) (ε : Env) (forms' : List Expr) (ε' : Env) : Prop :=
  Forms S.frame S.deferred (fun b _ _ => b = true ∨ S.error .emptySequence .emptySequence) false
    forms ε forms' ε'

/-- What corresponding expressions have in common before anything inside them is evaluated. -/
inductive Head : Expr → Env → Expr → Env → Prop
  | num {n : Number} {ε ε' : Env} : Head (.num n) ε (.num n) ε'
  | bool {b : Bool} {ε ε' : Env} : Head (.bool b) ε (.bool b) ε'
  | str {s : String} {ε ε' : Env} : Head (.str s) ε (.str s) ε'
  | prim {op : Prim} {ε ε' : Env} (h : S.operator op) : Head (.prim op) ε (.prim op) ε'
  | quote {v w : Value} {ε ε' : Env} (h : S.Like v w) : Head (.quote v) ε (.quote w) ε'
  | lambda {p q : Lambda} {ε ε' : Env} (h : S.closure p ε q ε') : Head (.lambda p) ε (.lambda q) ε'
  | unbound {x y : String} {ε ε' : Env} (h : ε.lookup? x = none) (h' : ε'.lookup? y = none)
    (he : S.error (.unbound x) (.unbound y)) : Head (.var x) ε (.var y) ε'
  | var {x y : String} {ε ε' : Env} {d d' : Deferred} (h : ε.lookup? x = some d)
    (h' : ε'.lookup? y = some d') (hd : S.deferred d.expr d.env d'.expr d'.env) :
    Head (.var x) ε (.var y) ε'
  | cond {t y n t' y' n' : Expr} {ε ε' : Env} (test : S.deferred t ε t' ε')
    (yes : S.deferred y ε y' ε') (no : S.deferred n ε n' ε') :
    Head (.cond t y n) ε (.cond t' y' n') ε'
  | app {f f' : Expr} {as bs : List Expr} {ε ε' : Env} (rator : S.deferred f ε f' ε')
    (rands : Forall₂ (fun a b => S.deferred a ε b ε') as bs)
    (arity : ∀ n, S.error (.arity n as.length (some (Expr.app f as).text))
      (.arity n bs.length (some (Expr.app f' bs).text))) :
    Head (.app f as) ε (.app f' bs) ε'
  | letIn {bs bs' : List (String × Expr)} {body body' : List Expr} {ε ε' : Env}
    (h : ∀ i j, S.frame i j → S.Body body (.bind i bs ε ε) body' (.bind j bs' ε' ε')) :
    Head (.letIn bs body) ε (.letIn bs' body') ε'
  | letRec {bs bs' : List (String × Expr)} {body body' : List Expr} {ε ε' : Env}
    (h : ResultLike S.error
      (fun ps qs => ∀ i j, S.frame i j → S.Body body (.bindRec i ps ε) body' (.bindRec j qs ε'))
      (lambdas bs) (lambdas bs')) :
    Head (.letRec bs body) ε (.letRec bs' body') ε'
  | assign {x y : String} {v v' : Expr} {ε ε' : Env} (h : S.error (.immutable x) (.immutable y)) :
    Head (.assign x v) ε (.assign y v') ε'
  | define {x y : String} {v v' : Expr} {ε ε' : Env}
    (h : S.error (.strayDefinition (Expr.define x v).text)
      (.strayDefinition (Expr.define y v').text)) :
    Head (.define x v) ε (.define y v') ε'

/-- From corresponding meters the second computation ends with a result that corresponds whenever
the first one ends, unless that is cut off. -/
def Follows {α β : Type} (R : α → β → Prop) (x : EvalM α) (y : EvalM β) : Prop :=
  ∀ ⦃m m' : Meter⦄, S.meter m m' → ∀ ⦃r : Except Error α⦄ ⦃m₁ : Meter⦄, x.run m = some (r, m₁) →
    (∃ e, r = .error e ∧ S.cut e) ∨
      ∃ r' m₁', y.run m' = some (r', m₁') ∧ ResultLike S.error R r r' ∧ S.meter m₁ m₁'

namespace Follows

variable {S} {α β γ δ : Type} {R : α → β → Prop} {Q : γ → δ → Prop}

theorem imp {R' : α → β → Prop} {x : EvalM α} {y : EvalM β} (h : S.Follows R x y)
    (hR : ∀ a b, R a b → R' a b) : S.Follows R' x y := by
  intro m m' hm r m₁ hx
  rcases h hm hx with hcut | ⟨r', m₁', hy, hr, hm₁⟩
  · exact .inl hcut
  · exact .inr ⟨r', m₁', hy, hr.imp (fun _ _ he => he) hR, hm₁⟩

theorem pure {a : α} {b : β} (h : R a b) : S.Follows R (pure a) (pure b) := by
  intro m m' hm r m₁ hx
  cases hx
  exact .inr ⟨_, _, rfl, .ok h, hm⟩

theorem throw_of_cut {e : Error} {y : EvalM β} (h : S.cut e) :
    S.Follows R (throw e : EvalM α) y := by
  intro m m' hm r m₁ hx
  cases hx
  exact .inl ⟨e, rfl, h⟩

theorem throw {e e' : Error} (h : S.error e e') :
    S.Follows R (throw e : EvalM α) (throw e' : EvalM β) := by
  intro m m' hm r m₁ hx
  cases hx
  exact .inr ⟨_, _, rfl, .error h, hm⟩

theorem outOfFuel {y : EvalM β} : S.Follows R (EvalM.outOfFuel : EvalM α) y := by
  intro m m' hm r m₁ hx
  cases hx

theorem bind {x : EvalM α} {y : EvalM β} {f : α → EvalM γ} {g : β → EvalM δ}
    (hx : S.Follows R x y) (hf : ∀ a b, R a b → S.Follows Q (f a) (g b)) :
    S.Follows Q (x >>= f) (y >>= g) := by
  intro m m' hm r m₁ h
  rw [EvalM.run_bind] at h
  cases hxm : x.run m with
  | none => simp [hxm] at h
  | some s =>
    obtain ⟨s, m₂⟩ := s
    rw [hxm] at h
    rcases hx hm hxm with ⟨e, rfl, he⟩ | ⟨s', m₂', hy, hs, hm₂⟩
    · cases h
      exact .inl ⟨e, rfl, he⟩
    · rw [EvalM.run_bind, hy]
      cases hs with
      | error he =>
        cases h
        exact .inr ⟨_, _, rfl, .error he, hm₂⟩
      | ok hab => exact hf _ _ hab hm₂ h

theorem lift {x : Except Error α} {y : Except Error β} (h : ResultLike S.error R x y) :
    S.Follows R (liftM x : EvalM α) (liftM y : EvalM β) := by
  cases h with
  | error h => exact throw h
  | ok h => exact pure h

theorem newFrame : S.Follows S.frame EvalM.newFrame EvalM.newFrame := by
  intro m m' hm r m₁ hx
  cases hx
  obtain ⟨hframe, hmeter⟩ := S.newFrame hm
  exact .inr ⟨_, _, rfl, .ok hframe, hmeter⟩

theorem countLookup : S.Follows (fun _ _ => True) EvalM.countLookup EvalM.countLookup := by
  intro m m' hm r m₁ hx
  cases hx
  exact .inr ⟨_, _, rfl, .ok trivial, S.countLookup hm⟩

theorem mapM {f : α → EvalM γ} {g : β → EvalM δ} (hf : ∀ a b, R a b → S.Follows Q (f a) (g b))
    {as : List α} {bs : List β} (h : Forall₂ R as bs) :
    S.Follows (Forall₂ Q) (as.mapM f) (bs.mapM g) := by
  induction h with
  | nil => exact pure .nil
  | cons h _ ih =>
    rw [List.mapM_cons, List.mapM_cons]
    exact (hf _ _ h).bind fun _ _ hc => ih.bind fun _ _ hcs => pure (.cons hc hcs)

end Follows

variable {S}
variable {ev ev' : Expr → Env → EvalM Value}

theorem follows_foldlM {stop : Bool → Env → Env → Prop}
    (hev : ∀ a ε b ε', S.deferred a ε b ε' → S.Follows S.Like (ev a ε) (ev' b ε'))
    {b : Bool} {forms forms' : List Expr} {ε ε' : Env}
    (h : Forms S.frame S.deferred stop b forms ε forms' ε') {v w : Option Value}
    (hb : v.isSome = b) (hv : Option.Rel S.Like v w) :
    S.Follows (fun s t => Option.Rel S.Like s.1 t.1 ∧ stop s.1.isSome s.2 t.2)
      (forms.foldlM (fun s form => runForm ev s.2 form) (v, ε))
      (forms'.foldlM (fun s form => runForm ev' s.2 form) (w, ε')) := by
  -- Along the forms; the flag keeps track of whether there is a value so far.
  induction h generalizing v w with
  | nil h =>
    subst hb
    exact .pure ⟨hv, h⟩
  | expression he he' h _ ih =>
    rw [List.foldlM_cons, List.foldlM_cons, runForm_of_defined_eq_nil he,
      runForm_of_defined_eq_nil he']
    simp only [map_eq_pure_bind, bind_assoc, pure_bind]
    exact (hev _ _ _ _ h).bind fun v w hvw => ih rfl (.some hvw)
  | definition _ ih =>
    rw [List.foldlM_cons, List.foldlM_cons, runForm_define, runForm_define]
    simp only [bind_assoc, pure_bind]
    exact Follows.newFrame.bind fun i j hij => ih i j hij rfl .none

theorem follows_runBody
    (hev : ∀ a ε b ε', S.deferred a ε b ε' → S.Follows S.Like (ev a ε) (ev' b ε'))
    {forms forms' : List Expr} {ε ε' : Env} (h : S.Body forms ε forms' ε') :
    S.Follows S.Like (runBody ev forms ε) (runBody ev' forms' ε') := by
  refine (follows_foldlM hev h rfl .none).bind ?_
  rintro ⟨v, δ⟩ ⟨w, δ'⟩ ⟨hvw, hstop⟩
  cases hvw with
  | none => exact .throw (hstop.resolve_left Bool.false_ne_true)
  | some hvw => exact .pure hvw

theorem follows_runBody_newFrame
    (hev : ∀ a ε b ε', S.deferred a ε b ε' → S.Follows S.Like (ev a ε) (ev' b ε'))
    {forms forms' : List Expr} {F F' : Nat → Env}
    (h : ∀ i j, S.frame i j → S.Body forms (F i) forms' (F' j)) :
    S.Follows S.Like (EvalM.newFrame >>= (fun i => pure (F i)) >>= runBody ev forms)
      (EvalM.newFrame >>= (fun j => pure (F' j)) >>= runBody ev' forms') := by
  simp only [bind_assoc, pure_bind]
  exact Follows.newFrame.bind fun i j hij => follows_runBody hev (h i j hij)

theorem result_apply {op : Prim} (hop : S.operator op) {vs ws : List Value}
    (h : Forall₂ S.Like vs ws) : ResultLike S.error S.Like (op.apply vs) (op.apply ws) := by
  have hequal : op = .equal → ∀ v w v' w', S.Like v w → S.Like v' w' → v.beq v' = w.beq w' := by
    rintro rfl v w v' w' hvw hvw'
    exact hvw.beq_eq (fun _ _ _ _ _ _ _ _ => S.equal hop) hvw'
  have hfails := Prim.failsOnly_apply op vs
  have hagree := Prim.agree_apply (fun _ _ _ _ => S.params) hequal h
  revert hfails hagree
  generalize op.apply vs = x, op.apply ws = y
  rintro hfails (⟨rfl⟩ | ⟨hvw⟩)
  · exact .error (S.operational (.inl (hfails _ rfl)))
  · exact .ok hvw

theorem follows_applyValue {ev ev' : Nat → Expr → Env → EvalM Value} {d d' : Nat}
    (hev : ∀ k, 0 < k → k ≤ 2 → ∀ a ε b ε', S.deferred a ε b ε' →
      S.Follows S.Like (ev (d + k) a ε) (ev' (d' + k) b ε'))
    {f f' : Expr} {as bs : List Expr} {ε ε' : Env} (rator : S.deferred f ε f' ε')
    (rands : Forall₂ (fun a b => S.deferred a ε b ε') as bs)
    (arity : ∀ n, S.error (.arity n as.length (some (Expr.app f as).text))
      (.arity n bs.length (some (Expr.app f' bs).text))) {v w : Value} (hvw : S.Like v w) :
    S.Follows S.Like (applyValue ev d f as ε v) (applyValue ev' d' f' bs ε' w) := by
  -- An operator evaluates its operands first, a procedure binds them as they stand.
  have htext := (hvw.texts_eq fun _ _ _ _ => S.params).1
  cases hvw with
  | prim hop =>
    refine (Follows.mapM (fun a b hab => hev 1 (by decide) (by decide) a ε b ε' hab) rands).bind ?_
    exact fun vs ws hvs => .lift (result_apply hop hvs)
  | @closure p q δ δ' h =>
    have hparams : q.params = p.params := (S.params h).symm
    have hlen : bs.length = as.length := rands.length_eq.symm
    by_cases hp : p.params.length = as.length
    · simp only [applyValue, hparams, hlen, hp, if_true]
      refine follows_runBody_newFrame (hev 2 (by decide) (by decide)) fun i j hij => ?_
      exact hparams ▸ S.enter h rator rands hp hij
    · simp only [applyValue, hparams, hlen, hp, if_false]
      exact .throw (by simpa only [hlen] using arity p.params.length)
  | _ =>
    simp only [applyValue, htext]
    exact .throw (S.operational (.inr rfl))

theorem follows_step {limit limit' : Option Nat} {ev ev' : Nat → Expr → Env → EvalM Value}
    {d d' : Nat} (hcheck : S.Follows (fun _ _ => True) (liftM (checkDepth limit d) : EvalM Unit)
      (liftM (checkDepth limit' d') : EvalM Unit))
    (hev : ∀ k, 0 < k → k ≤ 2 → ∀ a ε b ε', S.deferred a ε b ε' →
      S.Follows S.Like (ev (d + k) a ε) (ev' (d' + k) b ε'))
    {e e' : Expr} {ε ε' : Env} (h : S.Head e ε e' ε') :
    S.Follows S.Like (step limit ev d e ε) (step limit' ev' d' e' ε') := by
  have hev₁ := hev 1 (by decide) (by decide)
  have hev₂ := hev 2 (by decide) (by decide)
  refine hcheck.bind fun _ _ _ => ?_
  -- Operands, references and branches are evaluated one level deeper, bodies two.
  cases h with
  | num => exact .pure (.num _)
  | bool => exact .pure (.bool _)
  | str => exact .pure (.str _)
  | prim h => exact .pure (.prim h)
  | quote h => exact .pure h
  | lambda h => exact .pure (.closure h)
  | unbound h h' he =>
    simp only [h, h']
    exact .throw he
  | var h h' hd =>
    simp only [h, h']
    exact Follows.countLookup.bind fun _ _ _ => hev₁ _ _ _ _ hd
  | cond test yes no =>
    refine (hev₁ _ _ _ _ test).bind fun v w hvw => ?_
    rw [hvw.isTrue_eq]
    split
    · exact hev₁ _ _ _ _ yes
    · exact hev₁ _ _ _ _ no
  | app rator rands arity =>
    exact (hev₁ _ _ _ _ rator).bind fun v w hvw => follows_applyValue hev rator rands arity hvw
  | letIn h => exact follows_runBody_newFrame hev₂ h
  | letRec h =>
    exact (Follows.lift h).bind fun ps qs hps => follows_runBody_newFrame hev₂ hps
  | assign h => exact .throw h
  | define h => exact .throw h

theorem follows_checkDepth (limit : Option Nat) (d : Nat) :
    S.Follows (fun _ _ => True) (liftM (checkDepth limit d) : EvalM Unit)
      (liftM (checkDepth limit d) : EvalM Unit) := by
  refine .lift ?_
  unfold checkDepth
  split
  · split
    · exact .error (S.operational (.inl (.inr (.inl rfl))))
    · exact .ok trivial
  · exact .ok trivial

theorem follows_eval (hhead : ∀ e ε e' ε', S.deferred e ε e' ε' → S.Head e ε e' ε')
    (limit : Option Nat) (fuel d : Nat) {e e' : Expr} {ε ε' : Env} (h : S.deferred e ε e' ε') :
    S.Follows S.Like (eval limit fuel d e ε) (eval limit fuel d e' ε') := by
  induction fuel generalizing d e ε e' ε' with
  | zero => exact .outOfFuel
  | succ fuel ih =>
    exact follows_step (follows_checkDepth limit d) (fun k _ _ a ε b ε' => ih (d + k))
      (hhead _ _ _ _ h)

theorem follows_app_lambda {limit limit' : Option Nat} {fuel fuel' d d' : Nat}
    (hcheck : ∀ k, S.Follows (fun _ _ => True) (liftM (checkDepth limit (d + k)) : EvalM Unit)
      (liftM (checkDepth limit' (d' + k)) : EvalM Unit)) (hfuel : fuel ≤ fuel')
    (hev : ∀ a ε b ε', S.deferred a ε b ε' →
      S.Follows S.Like (eval limit fuel (d + 2) a ε) (eval limit' fuel' (d' + 2) b ε'))
    {p q : Lambda} {as bs : List Expr} {ε ε' : Env} (hp : p.params.length = as.length)
    (hq : q.params.length = bs.length)
    (hbody : ∀ i j, S.frame i j → S.Body p.body (.bind i (p.params.zip as) ε ε)
      q.body (.bind j (q.params.zip bs) ε' ε')) :
    S.Follows S.Like (eval limit (fuel + 1) d (.app (.lambda p) as) ε)
      (eval limit' (fuel' + 1) d' (.app (.lambda q) bs) ε') := by
  -- The two lambdas need not correspond, so what they evaluate to is said exactly.
  have hrator : S.Follows (fun v w => v = .closure p ε ∧ w = .closure q ε')
      (eval limit fuel (d + 1) (.lambda p) ε) (eval limit' fuel' (d' + 1) (.lambda q) ε') := by
    match fuel, fuel', hfuel with
    | 0, _, _ => exact .outOfFuel
    | fuel + 1, fuel' + 1, _ => exact (hcheck 1).bind fun _ _ _ => .pure ⟨rfl, rfl⟩
  refine (hcheck 0).bind fun _ _ _ => hrator.bind ?_
  rintro _ _ ⟨rfl, rfl⟩
  simp only [applyValue, hp, hq, if_true]
  exact follows_runBody_newFrame hev hbody

end Simulation

theorem Forms.flip {frame : Nat → Nat → Prop} {deferred : Expr → Env → Expr → Env → Prop}
    {stop : Bool → Env → Env → Prop} {b : Bool} {es es' : List Expr} {ε ε' : Env}
    (h : Forms frame deferred stop b es ε es' ε') :
    Forms (fun i j => frame j i) (fun e ε e' ε' => deferred e' ε' e ε)
      (fun b ε ε' => stop b ε' ε) b es' ε' es ε := by
  induction h with
  | nil h => exact .nil h
  | expression he he' h _ ih => exact .expression he' he h ih
  | definition _ ih => exact .definition fun i j hij => ih j i hij

namespace Simulation

def flip (S : Simulation) : Simulation where
  frame i j := S.frame j i
  meter m m' := S.meter m' m
  error e e' := S.error e' e
  cut _ := False
  operator := S.operator
  closure p ε q δ := S.closure q δ p ε
  deferred e ε e' ε' := S.deferred e' ε' e ε
  newFrame := S.newFrame
  countLookup := S.countLookup
  operational := S.operational
  params h := (S.params h).symm
  equal hop h h' := (S.equal hop h h').symm
  enter h hrator hrands hp hij := by
    have hlen := (congrArg List.length (S.params h)).trans (hp.trans hrands.length_eq)
    exact (S.enter h hrator hrands.flip hlen hij).flip

theorem Head.flip {S : Simulation} {e e' : Expr} {ε ε' : Env} (h : S.Head e ε e' ε') :
    S.flip.Head e' ε' e ε := by
  cases h with
  | num => exact .num
  | bool => exact .bool
  | str => exact .str
  | prim h => exact .prim h
  | quote h => exact .quote h.flip
  | lambda h => exact .lambda h
  | unbound h h' he => exact .unbound h' h he
  | var h h' hd => exact .var h' h hd
  | cond test yes no => exact .cond test yes no
  | app rator rands arity => exact .app rator rands.flip arity
  | letIn h => exact .letIn fun i j hij => (h j i hij).flip
  | letRec h => exact .letRec (h.flip.imp (fun _ _ he => he) fun _ _ h i j hij => (h j i hij).flip)
  | assign h => exact .assign h
  | define h => exact .define h

end Simulation

end CallByName
