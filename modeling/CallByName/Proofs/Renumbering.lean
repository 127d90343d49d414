import CallByName.Proofs.Bindings
import CallByName.Proofs.Outcome
import Mathlib.Logic.Function.Basic

/-! Other numbers for forms and frames. A lambda is placed by the number of the form that it stands
in, and a frame has a number of its own; neither is ever printed, and `equal?` only asks whether two
are the same. So evaluation with other numbers, as long as different ones stay different, ends in
the same error or in the same value with the other numbers in it. -/

namespace CallByName

open List (Forall₂)

/-- Other numbers for forms and frames, none of them used twice. The empty environment keeps 0. -/
structure Renumbering where
  form : Nat → Nat
  frame : Nat → Nat
  form_injective : Function.Injective form
  frame_injective : Function.Injective frame
  frame_zero : frame 0 = 0

def Parallel (f : Nat → Nat) (n n' : Nat) : Prop := ∀ k, f (n + k) = n' + k

theorem Parallel.add {f : Nat → Nat} {n n' : Nat} (h : Parallel f n n') (k : Nat) :
    Parallel f (n + k) (n' + k) := fun j => by rw [Nat.add_assoc, h, Nat.add_assoc]

namespace Renumbering

def refl : Renumbering := ⟨id, id, Function.injective_id, Function.injective_id, rfl⟩

def site (ν : Renumbering) : Site → Site
  | [] => []
  | [n] => [ν.form n]
  | i :: j :: rest => i :: ν.site (j :: rest)

theorem site_singleton (ν : Renumbering) (n : Nat) : ν.site [n] = [ν.form n] := rfl

theorem site_cons (ν : Renumbering) (i : Nat) {rest : Site} (h : rest ≠ []) :
    ν.site (i :: rest) = i :: ν.site rest := by
  cases rest with
  | nil => exact absurd rfl h
  | cons j rest => rfl

theorem site_ne_nil (ν : Renumbering) {rest : Site} (h : rest ≠ []) : ν.site rest ≠ [] := by
  cases rest with
  | nil => exact absurd rfl h
  | cons j rest => cases rest <;> exact List.cons_ne_nil _ _

theorem site_injective (ν : Renumbering) : Function.Injective ν.site := by
  intro s t h
  induction s generalizing t with
  | nil =>
    cases t with
    | nil => rfl
    | cons i t => exact absurd h.symm (ν.site_ne_nil (List.cons_ne_nil i t))
  | cons i s ih =>
    cases t with
    | nil => exact absurd h (ν.site_ne_nil (List.cons_ne_nil i s))
    | cons j t =>
      by_cases hs : s = [] <;> by_cases ht : t = []
      · subst hs ht
        rw [ν.form_injective (List.cons.inj h).1]
      · subst hs
        rw [ν.site_cons j ht] at h
        exact absurd (List.cons.inj h).2.symm (ν.site_ne_nil ht)
      · subst ht
        rw [ν.site_cons i hs] at h
        exact absurd (List.cons.inj h).2 (ν.site_ne_nil hs)
      · rw [ν.site_cons i hs, ν.site_cons j ht] at h
        obtain ⟨rfl, htail⟩ := List.cons.inj h
        rw [ih htail]

end Renumbering

mutual

def Expr.renumber (ν : Renumbering) : Expr → Expr
  | .num n => .num n
  | .bool b => .bool b
  | .str s => .str s
  | .prim op => .prim op
  | .var x => .var x
  | .cond test yes no => .cond (test.renumber ν) (yes.renumber ν) (no.renumber ν)
  | .lambda proc => .lambda (proc.renumber ν)
  | .app rator rands => .app (rator.renumber ν) (Expr.renumberAll ν rands)
  | .letIn bindings body => .letIn (Expr.renumberValues ν bindings) (Expr.renumberAll ν body)
  | .letRec bindings body => .letRec (Expr.renumberValues ν bindings) (Expr.renumberAll ν body)
  | .assign x value => .assign x (value.renumber ν)
  | .quote v => .quote (v.renumber ν)
  | .define x value => .define x (value.renumber ν)
termination_by structural e => e

def Lambda.renumber (ν : Renumbering) : Lambda → Lambda
  | .mk site params body => .mk (ν.site site) params (Expr.renumberAll ν body)
termination_by structural p => p

def Value.renumber (ν : Renumbering) : Value → Value
  | .num n => .num n
  | .bool b => .bool b
  | .str s => .str s
  | .sym x => .sym x
  | .nil => .nil
  | .pair car cdr => .pair (car.renumber ν) (cdr.renumber ν)
  | .prim op => .prim op
  | .closure proc env => .closure (proc.renumber ν) (env.renumber ν)
termination_by structural v => v

def Env.renumber (ν : Renumbering) : Env → Env
  | .empty => .empty
  | .bind i bindings scope outer =>
    .bind (ν.frame i) (Expr.renumberValues ν bindings) (scope.renumber ν) (outer.renumber ν)
  | .bindRec i procs outer => .bindRec (ν.frame i) (Lambda.renumberProcs ν procs) (outer.renumber ν)
termination_by structural env => env

def Expr.renumberAll (ν : Renumbering) : List Expr → List Expr
  | [] => []
  | e :: es => e.renumber ν :: Expr.renumberAll ν es
termination_by structural es => es

def Expr.renumberValues (ν : Renumbering) : List (String × Expr) → List (String × Expr)
  | [] => []
  | (x, e) :: bindings => (x, e.renumber ν) :: Expr.renumberValues ν bindings
termination_by structural bindings => bindings

def Lambda.renumberProcs (ν : Renumbering) : List (String × Lambda) → List (String × Lambda)
  | [] => []
  | (x, proc) :: procs => (x, proc.renumber ν) :: Lambda.renumberProcs ν procs
termination_by structural procs => procs

end

section

variable (ν : Renumbering)

theorem Expr.renumberAll_eq_map (es : List Expr) : renumberAll ν es = es.map (renumber ν) := by
  induction es with
  | nil => rfl
  | cons e es ih => rw [renumberAll, ih, List.map_cons]

theorem Expr.renumberValues_eq_map (bindings : List (String × Expr)) :
    renumberValues ν bindings = bindings.map fun b => (b.1, b.2.renumber ν) := by
  induction bindings with
  | nil => rfl
  | cons b bindings ih => rw [renumberValues, ih, List.map_cons]

theorem Lambda.renumberProcs_eq_map (procs : List (String × Lambda)) :
    renumberProcs ν procs = procs.map fun b => (b.1, b.2.renumber ν) := by
  induction procs with
  | nil => rfl
  | cons b procs ih => rw [renumberProcs, ih, List.map_cons]

@[simp] theorem Lambda.params_renumber (p : Lambda) : (p.renumber ν).params = p.params := by
  cases p
  rfl

@[simp] theorem Lambda.site_renumber (p : Lambda) : (p.renumber ν).site = ν.site p.site := by
  cases p
  rfl

@[simp] theorem Lambda.body_renumber (p : Lambda) :
    (p.renumber ν).body = Expr.renumberAll ν p.body := by
  cases p
  rfl

theorem Env.frame_renumber (env : Env) : (env.renumber ν).frame = ν.frame env.frame := by
  cases env with
  | empty => exact ν.frame_zero.symm
  | _ => rfl

theorem Env.names_renumber : (env : Env) → (env.renumber ν).names = env.names
  | .empty => rfl
  | .bind i bindings scope outer => by
    rw [renumber, names, names, names_renumber outer, Expr.renumberValues_eq_map, List.map_map]
    rfl
  | .bindRec i procs outer => by
    rw [renumber, names, names, names_renumber outer, Lambda.renumberProcs_eq_map, List.map_map]
    rfl

theorem Env.boundNames_renumber (env : Env) : (env.renumber ν).boundNames = env.boundNames := by
  rw [boundNames, boundNames, names_renumber]

theorem Env.lookup?_renumber (x : String) : (env : Env) → (env.renumber ν).lookup? x =
    (env.lookup? x).map fun d => ⟨d.expr.renumber ν, d.env.renumber ν⟩
  | .empty => rfl
  | .bind i bindings scope outer => by
    rw [renumber, lookup?, lookup?, Expr.renumberValues_eq_map, lookup_map_snd,
      lookup?_renumber x outer]
    cases bindings.lookup x <;> rfl
  | .bindRec i procs outer => by
    rw [renumber, lookup?, lookup?, Lambda.renumberProcs_eq_map, lookup_map_snd,
      lookup?_renumber x outer]
    cases procs.lookup x with
    | none => rfl
    | some proc =>
      rw [← Lambda.renumberProcs_eq_map]
      rfl

theorem Env.renumber_withDefinition (env : Env) (i : Nat) (x : String) (e : Expr) :
    (env.withDefinition i x e).renumber ν =
      (env.renumber ν).withDefinition (ν.frame i) x (e.renumber ν) := by
  cases e <;> rfl

theorem Expr.renumberValues_zip (names : List String) (rands : List Expr) :
    renumberValues ν (names.zip rands) = names.zip (renumberAll ν rands) := by
  rw [renumberValues_eq_map, renumberAll_eq_map, List.zip_map_right]
  rfl

end

namespace Renumbering

variable (ν : Renumbering)

abbrev Closure (p : Lambda) (ε : Env) (q : Lambda) (δ : Env) : Prop :=
  q = p.renumber ν ∧ δ = ε.renumber ν

theorem like_renumber (v : Value) : Value.Like ν.Closure (fun _ => True) v (v.renumber ν) := by
  cases v with
  | num n => exact .num n
  | bool b => exact .bool b
  | str s => exact .str s
  | sym x => exact .sym x
  | nil => exact .nil
  | pair car cdr => exact .pair (like_renumber car) (like_renumber cdr)
  | prim op => exact .prim trivial
  | closure proc env => exact .closure ⟨rfl, rfl⟩

theorem eq_renumber_of_like {v w : Value} (h : Value.Like ν.Closure (fun _ => True) v w) :
    w = v.renumber ν := by
  induction h with
  | pair _ _ iha ihd => rw [iha, ihd, Value.renumber]
  | closure h =>
    obtain ⟨rfl, rfl⟩ := h
    rfl
  | _ => rfl

theorem text_renumber (v : Value) : (v.renumber ν).text = v.text := by
  refine ((ν.like_renumber v).texts_eq ?_).1.symm
  rintro p ε _ _ ⟨rfl, rfl⟩
  rw [Lambda.params_renumber]

theorem quotedText_renumber (v : Value) : (v.renumber ν).quotedText = v.quotedText := by
  have htext := ν.text_renumber v
  cases v with
  | pair car cdr => rw [Value.renumber, Value.quotedText, Value.quotedText, ← htext, Value.renumber]
  | closure proc env => exact htext
  | _ => rfl

end Renumbering

mutual

theorem Expr.text_renumber (ν : Renumbering) : (e : Expr) → (e.renumber ν).text = e.text
  | .num _ | .bool _ | .str _ | .prim _ | .var _ => rfl
  | .cond test yes no => by
    rw [Expr.renumber, Expr.text, Expr.text_renumber ν test, Expr.text_renumber ν yes,
      Expr.text_renumber ν no, Expr.text]
  | .lambda proc => by rw [Expr.renumber, Expr.text, Lambda.text_renumber ν proc, Expr.text]
  | .app rator rands => by
    rw [Expr.renumber, Expr.text, Expr.text_renumber ν rator, Expr.texts_renumberAll ν rands,
      Expr.text]
  | .letIn bindings body => by
    rw [Expr.renumber, Expr.text, Expr.bindingTexts_renumberValues ν bindings,
      Expr.texts_renumberAll ν body, Expr.text]
  | .letRec bindings body => by
    rw [Expr.renumber, Expr.text, Expr.bindingTexts_renumberValues ν bindings,
      Expr.texts_renumberAll ν body, Expr.text]
  | .assign x value => by rw [Expr.renumber, Expr.text, Expr.text_renumber ν value, Expr.text]
  | .quote v => ν.quotedText_renumber v
  | .define x value => by rw [Expr.renumber, Expr.text, Expr.text_renumber ν value, Expr.text]

theorem Lambda.text_renumber (ν : Renumbering) : (p : Lambda) → (p.renumber ν).text = p.text
  | .mk site params body => by
    rw [Lambda.renumber, Lambda.text, Expr.texts_renumberAll ν body, Lambda.text]

theorem Expr.texts_renumberAll (ν : Renumbering) :
    (es : List Expr) → Expr.texts (Expr.renumberAll ν es) = Expr.texts es
  | [] => rfl
  | e :: es => by
    rw [Expr.renumberAll, Expr.texts, Expr.text_renumber ν e, Expr.texts_renumberAll ν es,
      Expr.texts]

theorem Expr.bindingTexts_renumberValues (ν : Renumbering) : (bindings : List (String × Expr)) →
    Expr.bindingTexts (Expr.renumberValues ν bindings) = Expr.bindingTexts bindings
  | [] => rfl
  | (x, e) :: bindings => by
    rw [Expr.renumberValues, Expr.bindingTexts, Expr.text_renumber ν e,
      Expr.bindingTexts_renumberValues ν bindings, Expr.bindingTexts]

end

theorem lambdas_renumber (ν : Renumbering) (bindings : List (String × Expr)) :
    lambdas (Expr.renumberValues ν bindings) =
      (lambdas bindings).map (Lambda.renumberProcs ν) := by
  induction bindings with
  | nil => rfl
  | cons b bindings ih =>
    obtain ⟨x, e⟩ := b
    have hother (e : Expr) : (Except.error (.notLambda x (e.renumber ν).text) :
        Except Error (List (String × Lambda))) = .error (.notLambda x e.text) := by
      rw [Expr.text_renumber]
    cases e with
    | lambda proc =>
      rw [Expr.renumberValues, Expr.renumber, lambdas, lambdas, ih]
      cases lambdas bindings <;> rfl
    | _ => exact hother _

theorem Simulation.rel_run {S : Simulation} (hcut : ∀ e, ¬ S.cut e) {α β : Type} {R : α → β → Prop}
    {x : EvalM α} {y : EvalM β} (h : S.Follows R x y)
    (hflip : S.flip.Follows (fun b a => R a b) y x) {m m' : Meter} (hm : S.meter m m') :
    Option.Rel (fun r s => ResultLike S.error R r.1 s.1 ∧ S.meter r.2 s.2) (x.run m)
      (y.run m') := by
  cases hx : x.run m with
  | some r =>
    rcases h hm hx with ⟨e, -, he⟩ | ⟨r', m₁, hy, hr, hm₁⟩
    · exact absurd he (hcut e)
    · rw [hy]
      exact .some ⟨hr, hm₁⟩
  | none =>
    cases hy : y.run m' with
    | none => exact .none
    | some r' =>
      rcases hflip hm hy with ⟨_, -, he⟩ | ⟨r, m₁, hr, -⟩
      · exact he.elim
      · rw [hx] at hr
        cases hr

theorem eq_map_of_forall₂ {α β : Type} {f : α → β} {as : List α} {bs : List β}
    (h : Forall₂ (fun a b => b = f a) as bs) : bs = as.map f := by
  induction h with
  | nil => rfl
  | cons h _ ih => rw [h, ih, List.map_cons]

namespace Renumbering

theorem forms_renumber (ν : Renumbering) (stop : Bool → Env → Env → Prop)
    (hstop : ∀ b ε, stop b ε (ε.renumber ν)) (b : Bool) (forms : List Expr) (ε : Env) :
    Forms (fun i j => j = ν.frame i) (fun e ε e' ε' => e' = e.renumber ν ∧ ε' = ε.renumber ν) stop b
      forms ε (Expr.renumberAll ν forms) (ε.renumber ν) := by
  induction forms generalizing b ε with
  | nil => exact .nil (hstop b ε)
  | cons e forms ih =>
    cases e with
    | define x value =>
      refine .definition ?_
      rintro i j rfl
      rw [← Env.renumber_withDefinition]
      exact ih false _
    | _ => exact .expression rfl rfl ⟨rfl, rfl⟩ (ih true ε)

/-- A run with some numbers and a run with the others, since the given meters: they have followed
the same number of references, and have made as many frames. -/
def simulation (ν : Renumbering) (start start' : Meter) : Simulation where
  frame i j := j = ν.frame i
  meter m m' := m.lookups + start'.lookups = m'.lookups + start.lookups ∧
    start.frames ≤ m.frames ∧ Parallel ν.frame (m.frames + 1) (m'.frames + 1)
  error e e' := e = e'
  cut _ := False
  operator _ := True
  closure := ν.Closure
  deferred e ε e' ε' := e' = e.renumber ν ∧ ε' = ε.renumber ν
  newFrame := by
    rintro m m' ⟨hlookups, hstart, hframes⟩
    exact ⟨(hframes 0).symm, hlookups, Nat.le_succ_of_le hstart, hframes.add 1⟩
  countLookup := by
    rintro m m' ⟨hlookups, hframes⟩
    refine ⟨?_, hframes⟩
    rw [Nat.add_right_comm, hlookups, Nat.add_right_comm]
  operational _ := rfl
  params := by
    rintro p q ε δ ⟨rfl, rfl⟩
    exact (Lambda.params_renumber ν p).symm
  equal := by
    rintro p _ p' _ ε _ ε' _ - ⟨rfl, rfl⟩ ⟨rfl, rfl⟩
    rw [Value.beq, Value.beq, Lambda.params_renumber, Lambda.params_renumber, Lambda.site_renumber,
      Lambda.site_renumber, Env.frame_renumber, Env.frame_renumber, ν.site_injective.beq_eq,
      ν.frame_injective.beq_eq]
  enter := by
    rintro p _ ε _ ρ _ f _ as bs i _ ⟨rfl, rfl⟩ ⟨rfl, rfl⟩ hrands - rfl
    obtain rfl : bs = Expr.renumberAll ν as := by
      rw [Expr.renumberAll_eq_map]
      exact eq_map_of_forall₂ (hrands.imp fun _ _ h => h.1)
    have hbody := ν.forms_renumber (fun b _ _ => b = true ∨ Error.emptySequence = .emptySequence)
      (fun _ _ => .inr rfl) false p.body (.bind i (p.params.zip as) ρ ε)
    rw [Env.renumber, Expr.renumberValues_zip, ← Lambda.body_renumber] at hbody
    rwa [Lambda.params_renumber]

section

variable (ν : Renumbering) (start start' : Meter)

theorem body_renumber (forms : List Expr) (ε : Env) : (ν.simulation start start').Body forms ε
    (Expr.renumberAll ν forms) (ε.renumber ν) :=
  ν.forms_renumber _ (fun _ _ => .inr rfl) false forms ε

theorem head_renumber (e : Expr) (ε : Env) :
    (ν.simulation start start').Head e ε (e.renumber ν) (ε.renumber ν) := by
  cases e with
  | num n => exact .num
  | bool b => exact .bool
  | str s => exact .str
  | prim op => exact .prim trivial
  | quote v => exact .quote (ν.like_renumber v)
  | lambda proc => exact .lambda ⟨rfl, rfl⟩
  | var x =>
    have hrenumbered := ε.lookup?_renumber ν x
    cases h : ε.lookup? x with
    | none =>
      rw [h] at hrenumbered
      exact .unbound h hrenumbered rfl
    | some d =>
      rw [h] at hrenumbered
      exact .var h hrenumbered ⟨rfl, rfl⟩
  | cond test yes no => exact .cond ⟨rfl, rfl⟩ ⟨rfl, rfl⟩ ⟨rfl, rfl⟩
  | app rator rands =>
    refine .app ⟨rfl, rfl⟩ ?_ ?_
    · rw [Expr.renumberAll_eq_map, List.forall₂_map_right_iff]
      exact List.forall₂_same.2 fun _ _ => ⟨rfl, rfl⟩
    · intro n
      have htext := (Expr.app rator rands).text_renumber ν
      rw [Expr.renumber] at htext
      have hlength : (Expr.renumberAll ν rands).length = rands.length := by
        rw [Expr.renumberAll_eq_map, List.length_map]
      rw [htext, hlength]
      rfl
  | letIn bindings body =>
    refine .letIn ?_
    rintro i _ rfl
    exact ν.body_renumber start start' body (.bind i bindings ε ε)
  | letRec bindings body =>
    refine .letRec ?_
    rw [lambdas_renumber]
    cases lambdas bindings with
    | error e => exact .error rfl
    | ok procs =>
      refine .ok ?_
      rintro i _ rfl
      exact ν.body_renumber start start' body (.bindRec i procs ε)
  | assign x value => exact .assign rfl
  | define x value =>
    refine .define ?_
    have htext := (Expr.define x value).text_renumber ν
    rw [Expr.renumber] at htext
    rw [htext]
    rfl

theorem follows_eval (limit : Option Nat) (fuel d : Nat) (e : Expr) (ε : Env) :
    (ν.simulation start start').Follows (ν.simulation start start').Like (eval limit fuel d e ε)
      (eval limit fuel d (e.renumber ν) (ε.renumber ν)) := by
  refine Simulation.follows_eval ?_ limit fuel d ⟨rfl, rfl⟩
  rintro e ε _ _ ⟨rfl, rfl⟩
  exact ν.head_renumber start start' e ε

theorem flip_follows_eval (limit : Option Nat) (fuel d : Nat) (e : Expr) (ε : Env) :
    (ν.simulation start start').flip.Follows (ν.simulation start start').flip.Like
      (eval limit fuel d (e.renumber ν) (ε.renumber ν)) (eval limit fuel d e ε) := by
  refine Simulation.follows_eval ?_ limit fuel d ⟨rfl, rfl⟩
  rintro _ _ e ε ⟨rfl, rfl⟩
  exact (ν.head_renumber start start' e ε).flip

theorem rel_runForms {m m' : Meter} (hm : (ν.simulation start start').meter m m')
    (limit : Option Nat) (fuel d : Nat) (forms : List Expr) (ε : Env) :
    Option.Rel
      (fun r s => ResultLike (· = ·)
        (fun a b => b = (a.1.map (Value.renumber ν), a.2.renumber ν)) r.1 s.1 ∧
        (ν.simulation start start').meter r.2 s.2)
      ((runForms (eval limit fuel d) forms ε).run m)
      ((runForms (eval limit fuel d) (Expr.renumberAll ν forms) (ε.renumber ν)).run m') := by
  have hforms := ν.forms_renumber (fun _ ε ε' => ε' = ε.renumber ν) (fun _ _ => rfl) false forms ε
  refine Simulation.rel_run (fun _ => id) ?_ ?_ hm
  · refine (Simulation.follows_foldlM (S := ν.simulation start start') ?_ hforms rfl .none).imp ?_
    · rintro e ε _ _ ⟨rfl, rfl⟩
      exact ν.follows_eval start start' limit fuel d e ε
    · rintro ⟨v, δ⟩ ⟨w, _⟩ ⟨hvw, rfl⟩
      cases hvw with
      | none => rfl
      | some hvw =>
        rw [ν.eq_renumber_of_like hvw]
        rfl
  · refine (Simulation.follows_foldlM (S := (ν.simulation start start').flip) ?_ hforms.flip rfl
      .none).imp ?_
    · rintro _ _ e ε ⟨rfl, rfl⟩
      exact ν.flip_follows_eval start start' limit fuel d e ε
    · rintro ⟨w, _⟩ ⟨v, δ⟩ ⟨hvw, rfl⟩
      cases hvw with
      | none => rfl
      | some hvw =>
        rw [ν.eq_renumber_of_like hvw.flip]
        rfl

end

end Renumbering

end CallByName
