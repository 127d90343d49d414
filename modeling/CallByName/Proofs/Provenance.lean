import CallByName.Proofs.Bindings
import CallByName.Proofs.Outcome
import CallByName.Proofs.WellFormed

/-! Where errors come from. Whatever is evaluated is part of a form that has been entered, and so is
whatever is bound for later. Thus an error for a form that cannot be evaluated, or for a body that
has no value, is traced to such a form, and no name is bound that a form cannot bind. -/

namespace CallByName

open List (Forall₂)

def EndsInDefinition (forms : List Expr) : Prop :=
  ∃ x value, forms.getLast? = some (.define x value)

theorem EndsInDefinition.cons {forms : List Expr} (h : EndsInDefinition forms) (e : Expr) :
    EndsInDefinition (e :: forms) := by
  obtain ⟨x, value, h⟩ := h
  cases forms with
  | nil => cases h
  | cons f forms => exact ⟨x, value, by rwa [List.getLast?_cons_cons]⟩

namespace Expr

def IsMalformed : Expr → Prop
  | assign _ _ => True
  | letRec bindings _ => ∃ b ∈ bindings, ∀ proc, b.2 ≠ lambda proc
  | num _ | bool _ | str _ | prim _ | var _ | cond .. | lambda _ | app .. | letIn .. | quote _
  | define .. => False

def HasNoResult : Expr → Prop
  | lambda proc => EndsInDefinition proc.body
  | letIn _ body => EndsInDefinition body
  | letRec _ body => EndsInDefinition body
  | num _ | bool _ | str _ | prim _ | var _ | cond .. | app .. | assign .. | quote _
  | define .. => False

end Expr

/-- The error is none about a misplaced definition, and one about a malformed expression or an empty
sequence has its reason among the given forms. -/
structure Error.Traced (parts : List (Position × Expr)) (e : Error) : Prop where
  noStray : ∀ definition, e ≠ .strayDefinition definition
  malformed : e.kind = .malformed → ∃ part ∈ parts, part.2.IsMalformed
  empty : e.kind = .emptySequence → ∃ part ∈ parts, part.2.HasNoResult

abbrev Within (parts : List (Position × Expr)) (position : Position) (e : Expr) : Prop :=
  (position, e) ∈ parts

def Expr.From (parts : List (Position × Expr)) (e : Expr) : Prop :=
  e.defined = [] ∧ ∃ position, Everywhere (Within parts) (e.parts position)

def Env.From (parts : List (Position × Expr)) : Env → Prop
  | .empty => True
  | .bind _ bindings scope outer =>
    (∀ b ∈ bindings, Bindable b.1 ∧ b.2.From parts) ∧ scope.From parts ∧ outer.From parts
  | .bindRec _ procs outer =>
    (∀ b ∈ procs, Bindable b.1 ∧ (Expr.lambda b.2).From parts) ∧ outer.From parts

variable {parts : List (Position × Expr)}

theorem Error.traced_of_kind {e : Error} (hmalformed : e.kind ≠ .malformed)
    (hempty : e.kind ≠ .emptySequence) : e.Traced parts where
  noStray definition h := hmalformed (by rw [h]; rfl)
  malformed h := absurd h hmalformed
  empty h := absurd h hempty

theorem Error.traced_of_operational {e : Error} (h : e.IsOperational ∨ e.kind = .badProcedure) :
    e.Traced parts := by
  apply traced_of_kind
  · rintro hkind
    rw [IsOperational, hkind] at h
    exact absurd h (by decide)
  · rintro hkind
    rw [IsOperational, hkind] at h
    exact absurd h (by decide)

theorem Expr.From.mono {parts' : List (Position × Expr)} (hparts : parts ⊆ parts') {e : Expr}
    (h : e.From parts) : e.From parts' := by
  obtain ⟨hdefined, position, hwithin⟩ := h
  exact ⟨hdefined, position, fun part hpart => hparts (hwithin part hpart)⟩

theorem Env.From.mono {parts' : List (Position × Expr)} (hparts : parts ⊆ parts') {env : Env}
    (h : env.From parts) : env.From parts' := by
  match env, h with
  | .empty, _ => trivial
  | .bind _ _ scope outer, ⟨hbindings, hscope, houter⟩ =>
    exact ⟨fun b hb => ⟨(hbindings b hb).1, (hbindings b hb).2.mono hparts⟩, hscope.mono hparts,
      houter.mono hparts⟩
  | .bindRec _ _ outer, ⟨hprocs, houter⟩ =>
    exact ⟨fun b hb => ⟨(hprocs b hb).1, (hprocs b hb).2.mono hparts⟩, houter.mono hparts⟩

theorem Env.From.lookup {x : String} {d : Deferred} : (env : Env) → env.From parts →
    env.lookup? x = some d → d.expr.From parts ∧ d.env.From parts
  | .empty, _, h => by cases h
  | .bind i bindings scope outer, ⟨hbindings, hscope, houter⟩, h => by
    rw [lookup?] at h
    split at h
    · rename_i e he
      cases h
      exact ⟨(hbindings (x, e) (mem_of_lookup he)).2, hscope⟩
    · exact lookup outer houter h
  | .bindRec i procs outer, ⟨hprocs, houter⟩, h => by
    rw [lookup?] at h
    split at h
    · rename_i proc hproc
      cases h
      exact ⟨(hprocs (x, proc) (mem_of_lookup hproc)).2, hprocs, houter⟩
    · exact lookup outer houter h

theorem Env.From.bindable_names : (env : Env) → env.From parts → ∀ x ∈ env.names, Bindable x
  | .empty, _ => List.forall_mem_nil _
  | .bind _ bindings _ outer, ⟨hbindings, _, houter⟩ => by
    refine List.forall_mem_append.2 ⟨?_, bindable_names outer houter⟩
    exact List.forall_mem_map.2 fun b hb => (hbindings b hb).1
  | .bindRec _ procs outer, ⟨hprocs, houter⟩ => by
    refine List.forall_mem_append.2 ⟨?_, bindable_names outer houter⟩
    exact List.forall_mem_map.2 fun b hb => (hprocs b hb).1

theorem Value.IsData.closures_eq_nil : (v : Value) → v.IsData → v.closures = []
  | .num _, _ | .bool _, _ | .str _, _ | .sym _, _ | .nil, _ => rfl
  | .pair car cdr, ⟨hcar, hcdr, _⟩ => by
    rw [closures, closures_eq_nil car hcar, closures_eq_nil cdr hcdr, List.append_nil]

theorem lambdas_eq_ok {bindings : List (String × Expr)} {procs : List (String × Lambda)}
    (h : lambdas bindings = .ok procs) : ∀ b ∈ procs, (b.1, Expr.lambda b.2) ∈ bindings := by
  induction bindings generalizing procs with
  | nil =>
    cases h
    exact List.forall_mem_nil _
  | cons b bindings ih =>
    obtain ⟨x, e⟩ := b
    cases e with
    | lambda proc =>
      rw [lambdas] at h
      cases hprocs : lambdas bindings with
      | error e =>
        rw [hprocs] at h
        cases h
      | ok procs =>
        rw [hprocs] at h
        cases h
        exact List.forall_mem_cons.2 ⟨List.mem_cons_self,
          fun b hb => List.mem_cons_of_mem _ (ih hprocs b hb)⟩
    | _ => cases h

theorem lambdas_eq_error {bindings : List (String × Expr)} {e : Error}
    (h : lambdas bindings = .error e) : ∃ x value, (x, value) ∈ bindings ∧
      (∀ proc, value ≠ .lambda proc) ∧ e = .notLambda x value.text := by
  induction bindings with
  | nil => cases h
  | cons b bindings ih =>
    obtain ⟨x, value⟩ := b
    cases value with
    | lambda proc =>
      rw [lambdas] at h
      cases hprocs : lambdas bindings with
      | error e' =>
        rw [hprocs] at h
        cases h
        obtain ⟨y, value, hmem, hvalue, rfl⟩ := ih hprocs
        exact ⟨y, value, List.mem_cons_of_mem _ hmem, hvalue, rfl⟩
      | ok procs =>
        rw [hprocs] at h
        cases h
    | _ =>
      cases h
      exact ⟨x, _, List.mem_cons_self, nofun, rfl⟩

namespace Provenance

abbrev Entered (parts : List (Position × Expr)) : Prop := Everywhere Expr.Regular parts

section

variable {position : Position} {e : Expr} {env : Env}

theorem defined_eq_nil_of_regular (h : e.Regular .operand) : e.defined = [] := by
  cases e with
  | define x value => cases h.2
  | _ => rfl

theorem from_of_operand (hparts : Entered parts)
    (h : Everywhere (Within parts) (e.parts .operand)) : e.From parts := by
  have hmem : (Position.operand, e) ∈ parts := h _ List.mem_cons_self
  exact ⟨defined_eq_nil_of_regular (hparts _ hmem), .operand, h⟩

theorem from_values (hparts : Entered parts) {bindings : List (String × Expr)}
    (hnames : AreNames (bindings.map Prod.fst))
    (h : Everywhere (Within parts) (Expr.partsValues bindings)) :
    ∀ b ∈ bindings, Bindable b.1 ∧ b.2.From parts := by
  intro b hb
  exact ⟨(hnames.areNames b.1 (List.mem_map_of_mem hb)).bindable,
    from_of_operand hparts (Expr.everywhere_values_iff.1 h b hb)⟩

theorem from_zip {names : List String} {rands : List Expr} (hnames : AreNames names)
    (h : ∀ e ∈ rands, e.From parts) :
    ∀ b ∈ names.zip rands, Bindable b.1 ∧ b.2.From parts := by
  rintro ⟨x, e⟩ hb
  obtain ⟨hx, he⟩ := List.of_mem_zip hb
  exact ⟨(hnames.areNames x hx).bindable, h e he⟩

theorem from_withDefinition {x : String} (hx : Bindable x) (he : e.From parts)
    (henv : env.From parts) (i : Nat) : (env.withDefinition i x e).From parts := by
  cases e with
  | lambda proc => exact ⟨List.forall_mem_singleton.2 ⟨hx, he⟩, henv⟩
  | _ => exact ⟨List.forall_mem_singleton.2 ⟨hx, he⟩, henv, henv⟩

theorem forms_from (hparts : Entered parts) {stop : Bool → Env → Env → Prop} {b : Bool}
    {forms : List Expr} (hforms : Everywhere (Within parts) (Expr.partsAll .sequence forms))
    (henv : env.From parts)
    (hstop : ∀ b' δ, δ.From parts → b' = true ∨ forms = [] ∧ b' = b ∨ EndsInDefinition forms →
      stop b' δ δ) :
    Forms (· = ·) (fun e ε e' ε' => e = e' ∧ ε = ε' ∧ e.From parts ∧ ε.From parts) stop b
      forms env forms env := by
  induction forms generalizing b env with
  | nil => exact .nil (hstop b env henv (.inr (.inl ⟨rfl, rfl⟩)))
  | cons e forms ih =>
    obtain ⟨he, htail⟩ := Expr.everywhere_cons_iff.1 hforms
    have hmem : (Position.sequence, e) ∈ parts := he _ List.mem_cons_self
    by_cases hdefine : ∃ x value, e = .define x value
    · obtain ⟨x, value, rfl⟩ := hdefine
      obtain ⟨-, hvalue⟩ := Expr.everywhere_define_iff.1 he
      have hx : IsName x := (hparts _ hmem).1
      refine .definition ?_
      intro i j hij
      subst hij
      refine ih htail (from_withDefinition hx.bindable (from_of_operand hparts hvalue) henv i) ?_
      rintro b' δ hδ (hb' | ⟨rfl, rfl⟩ | hend)
      · exact hstop b' δ hδ (.inl hb')
      · exact hstop _ δ hδ (.inr (.inr ⟨x, value, rfl⟩))
      · exact hstop b' δ hδ (.inr (.inr (hend.cons _)))
    · have hdefined : e.defined = [] := by
        cases e with
        | define x value => exact absurd ⟨x, value, rfl⟩ hdefine
        | _ => rfl
      refine .expression hdefined hdefined ⟨rfl, rfl, ⟨hdefined, .sequence, he⟩, henv⟩ ?_
      refine ih htail henv ?_
      rintro b' δ hδ (hb' | ⟨rfl, rfl⟩ | hend)
      · exact hstop b' δ hδ (.inl hb')
      · exact hstop _ δ hδ (.inl rfl)
      · exact hstop b' δ hδ (.inr (.inr (hend.cons _)))

theorem traced_empty (hmem : (position, e) ∈ parts) (h : e.HasNoResult) :
    Error.emptySequence.Traced parts where
  noStray := nofun
  malformed := nofun
  empty _ := ⟨_, hmem, h⟩

theorem traced_malformed {err : Error} (hmem : (position, e) ∈ parts) (h : e.IsMalformed)
    (hkind : err.kind = .malformed) (hstray : ∀ definition, err ≠ .strayDefinition definition) :
    err.Traced parts where
  noStray := hstray
  malformed _ := ⟨_, hmem, h⟩
  empty hempty := by
    rw [hkind] at hempty
    cases hempty

theorem body_from (hparts : Entered parts) (hmem : (position, e) ∈ parts) {body : List Expr}
    (hne : body ≠ []) (hend : EndsInDefinition body → e.HasNoResult)
    (hbody : Everywhere (Within parts) (Expr.partsAll .sequence body)) (henv : env.From parts) :
    Forms (· = ·) (fun e ε e' ε' => e = e' ∧ ε = ε' ∧ e.From parts ∧ ε.From parts)
      (fun b _ _ => b = true ∨ Error.emptySequence = .emptySequence ∧
        Error.emptySequence.Traced parts) false body env body env := by
  refine forms_from hparts hbody henv ?_
  rintro b δ - (hb | ⟨hnil, -⟩ | hlast)
  · exact .inl hb
  · exact absurd hnil hne
  · exact .inr ⟨rfl, traced_empty hmem (hend hlast)⟩

end

/-- A run beside itself, in which everything comes from the given forms and every error is traced to
them. -/
def simulation (hparts : Entered parts) : Simulation where
  frame i j := i = j
  meter m m' := m = m'
  error e e' := e = e' ∧ e.Traced parts
  cut _ := False
  operator _ := True
  closure p ε q δ := p = q ∧ ε = δ ∧ (Expr.lambda p).From parts ∧ ε.From parts
  deferred e ε e' ε' := e = e' ∧ ε = ε' ∧ e.From parts ∧ ε.From parts
  newFrame := Meter.newFrame_congr
  countLookup := Meter.countLookup_congr
  operational h := ⟨rfl, Error.traced_of_operational h⟩
  params h := by rw [h.1]
  equal := by
    rintro p q p' q' ε δ ε' δ' - ⟨rfl, rfl, -⟩ ⟨rfl, rfl, -⟩
    rfl
  enter := by
    rintro ⟨site, params, body⟩ q ε δ ρ ρ' f f' as bs i j ⟨rfl, rfl, hproc, hε⟩ ⟨rfl, rfl, -, hρ⟩
      hrands - rfl
    obtain rfl : as = bs := by
      have heq := hrands.imp fun _ _ h => h.1
      rwa [List.forall₂_eq_eq_eq] at heq
    obtain ⟨-, position, hwithin⟩ := hproc
    obtain ⟨hmem, hbody⟩ := Expr.everywhere_lambda_iff.1 hwithin
    obtain ⟨hparams, hne⟩ := hparts _ hmem
    refine body_from hparts hmem hne id hbody ⟨?_, hρ, hε⟩
    exact from_zip hparams fun e he => (List.forall₂_same.1 hrands e he).2.2.1

section

variable (hparts : Entered parts) {e : Expr} {env : Env}

theorem head_from (he : e.From parts) (henv : env.From parts) :
    (simulation hparts).Head e env e env := by
  obtain ⟨hdefined, position, hwithin⟩ := he
  have hmem : (position, e) ∈ parts := hwithin (position, e) List.mem_cons_self
  have hregular := hparts _ hmem
  have hdeferred {e : Expr} (h : Everywhere (Within parts) (e.parts .operand)) :
      (simulation hparts).deferred e env e env := ⟨rfl, rfl, from_of_operand hparts h, henv⟩
  cases e with
  | num n => exact .num
  | bool b => exact .bool
  | str s => exact .str
  | prim op => exact .prim trivial
  | quote v =>
    refine .quote (.refl_of v ?_ fun _ _ => trivial)
    rw [Value.IsData.closures_eq_nil v hregular]
    exact List.forall_mem_nil _
  | lambda proc => exact .lambda ⟨rfl, rfl, ⟨hdefined, position, hwithin⟩, henv⟩
  | var x =>
    cases hlookup : env.lookup? x with
    | none => exact .unbound hlookup hlookup ⟨rfl, Error.traced_of_kind nofun nofun⟩
    | some d =>
      obtain ⟨hexpr, hscope⟩ := henv.lookup env hlookup
      exact .var hlookup hlookup ⟨rfl, rfl, hexpr, hscope⟩
  | cond test yes no =>
    obtain ⟨-, htest, hyes, hno⟩ := Expr.everywhere_cond_iff.1 hwithin
    exact .cond (hdeferred htest) (hdeferred hyes) (hdeferred hno)
  | app rator rands =>
    obtain ⟨-, hrator, hrands⟩ := Expr.everywhere_app_iff.1 hwithin
    refine .app (hdeferred hrator) ?_ fun _ => ⟨rfl, Error.traced_of_kind nofun nofun⟩
    exact List.forall₂_same.2 fun e he => hdeferred (Expr.everywhere_all_iff.1 hrands e he)
  | letIn bindings body =>
    obtain ⟨-, hvalues, hbody⟩ := Expr.everywhere_letIn_iff.1 hwithin
    obtain ⟨hnames, hne⟩ := hregular
    refine .letIn ?_
    intro i j hij
    obtain rfl : i = j := hij
    exact body_from hparts hmem hne id hbody ⟨from_values hparts hnames hvalues, henv, henv⟩
  | letRec bindings body =>
    obtain ⟨-, hvalues, hbody⟩ := Expr.everywhere_letRec_iff.1 hwithin
    obtain ⟨hnames, hne⟩ := hregular
    have hbindings := from_values hparts hnames hvalues
    refine .letRec ?_
    cases hprocs : lambdas bindings with
    | error err =>
      obtain ⟨x, value, hvalue, hlambda, rfl⟩ := lambdas_eq_error hprocs
      have hmalformed : (Expr.letRec bindings body).IsMalformed := ⟨(x, value), hvalue, hlambda⟩
      exact .error ⟨rfl, traced_malformed hmem hmalformed rfl nofun⟩
    | ok procs =>
      refine .ok ?_
      intro i j hij
      obtain rfl : i = j := hij
      refine body_from hparts hmem hne id hbody ⟨?_, henv⟩
      exact fun b hb => hbindings _ (lambdas_eq_ok hprocs b hb)
  | assign x value => exact .assign ⟨rfl, traced_malformed hmem trivial rfl nofun⟩
  | define x value => cases hdefined

theorem follows_runForms {forms : List Expr}
    (hforms : Everywhere (Within parts) (Expr.partsAll .sequence forms)) (henv : env.From parts)
    (limit : Option Nat) (fuel : Nat) :
    (simulation hparts).Follows (fun s t => s.2 = t.2 ∧ s.2.From parts)
      (runForms (eval limit fuel 1) forms env) (runForms (eval limit fuel 1) forms env) := by
  have hsame : Forms (· = ·) (fun e ε e' ε' => e = e' ∧ ε = ε' ∧ e.From parts ∧ ε.From parts)
      (fun _ ε ε' => ε = ε' ∧ ε.From parts) false forms env forms env :=
    forms_from hparts hforms henv fun _ _ hδ _ => ⟨rfl, hδ⟩
  refine (Simulation.follows_foldlM (S := simulation hparts) ?_ hsame rfl .none).imp ?_
  · intro a ε a' ε' h
    refine Simulation.follows_eval ?_ limit fuel 1 h
    rintro e ε _ _ ⟨rfl, rfl, he, hε⟩
    exact head_from hparts he hε
  · rintro s t ⟨-, h⟩
    exact h

end

theorem run_from (hparts : Entered parts) {s s' : Session} {limit : Option Nat} {fuel : Nat}
    {forms : List Expr} {r : Except Error (Option Value)}
    (hforms : Everywhere (Within parts) (Expr.partsAll .sequence forms))
    (henv : s.env.From parts) (hrun : s.run limit fuel forms = some (r, s')) :
    s'.env.From parts ∧ ∀ e, r = .error e → forms = [] ∧ e = .emptySequence ∨ e.Traced parts := by
  cases forms with
  | nil =>
    cases hrun
    refine ⟨henv, ?_⟩
    rintro e ⟨⟩
    exact .inl ⟨rfl, rfl⟩
  | cons e forms =>
    obtain ⟨⟨r₁, m₁⟩, htoplevel, hresult⟩ := Option.map_eq_some_iff.1 hrun
    rcases follows_runForms hparts hforms henv limit fuel rfl htoplevel with
      ⟨e, -, hcut⟩ | ⟨r₂, m₂, -, hlike, -⟩
    · exact hcut.elim
    cases hlike with
    | error herror =>
      cases hresult
      refine ⟨henv, ?_⟩
      rintro e ⟨⟩
      exact .inr herror.2
    | ok hok =>
      cases hresult
      exact ⟨hok.2, nofun⟩

end Provenance

/-- The sessions that are reached when texts that can be parsed are evaluated in order, with the
forms of every step so far. -/
inductive Session.Reached : List (List Expr) → Session → Prop
  | initial : Reached [] .initial
  | step {steps : List (List Expr)} {s s' : Session} {comments : Bool} {source : String}
    {forms : List Expr} {limit : Option Nat} {fuel : Nat} {r : Except Error (Option Value)}
    (h : Reached steps s) (hparsed : Program.ofSource comments s.forms source = .ok forms)
    (hrun : s.run limit fuel forms = some (r, s')) : Reached (steps ++ [forms]) s'

def stepParts (steps : List (List Expr)) : List (Position × Expr) :=
  steps.flatMap (Expr.partsAll .sequence)

open Provenance

theorem stepParts_concat (steps : List (List Expr)) (forms : List Expr) :
    stepParts (steps ++ [forms]) = stepParts steps ++ Expr.partsAll .sequence forms := by
  rw [stepParts, List.flatMap_append, List.flatMap_singleton, stepParts]

section

variable {steps : List (List Expr)} {s s' : Session}

theorem Session.run_traced (hparts : Entered (stepParts steps))
    (henv : s.env.From (stepParts steps))
    {comments : Bool} {source : String} {forms : List Expr} {limit : Option Nat} {fuel : Nat}
    {r : Except Error (Option Value)}
    (hparsed : Program.ofSource comments s.forms source = .ok forms)
    (hrun : s.run limit fuel forms = some (r, s')) :
    Entered (stepParts (steps ++ [forms])) ∧ s'.env.From (stepParts (steps ++ [forms])) ∧
      ∀ e, r = .error e → forms = [] ∧ e = .emptySequence ∨
        e.Traced (stepParts (steps ++ [forms])) := by
  have hentered : Entered (stepParts (steps ++ [forms])) := by
    rw [stepParts_concat]
    exact List.forall_mem_append.2 ⟨hparts, Program.wellFormed_of_ofSource hparsed⟩
  refine ⟨hentered, run_from hentered ?_ (henv.mono ?_) hrun⟩
  · rw [stepParts_concat]
    exact fun part hpart => List.mem_append_right _ hpart
  · rw [stepParts_concat]
    exact List.subset_append_left _ _

theorem Session.Reached.entered_from (h : Reached steps s) :
    Entered (stepParts steps) ∧ s.env.From (stepParts steps) := by
  induction h with
  | initial => exact ⟨List.forall_mem_nil _, trivial⟩
  | step _ hparsed hrun ih =>
    obtain ⟨hentered, henv, -⟩ := run_traced ih.1 ih.2 hparsed hrun
    exact ⟨hentered, henv⟩

end

/-- Wherever a session of parsed texts has got to, no step ends in an error about a misplaced
definition; one about a malformed expression comes only if some step so far has an assignment or a
`letrec` that binds something else than a lambda, and one about an empty sequence only if there is
no form in the step, or a lambda, `let` or `letrec` of some step so far ends in a definition.
Neither a reserved word nor an operator is ever bound. -/
theorem parsed_sessions_go_right {steps : List (List Expr)} {s : Session}
    (h : Session.Reached steps s) :
    (∀ x ∈ s.env.boundNames, Keyword.ofName? x = none ∧ Prim.ofName? x = none) ∧
    ∀ comments source forms limit fuel e s',
      Program.ofSource comments s.forms source = .ok forms →
      s.run limit fuel forms = some (.error e, s') →
      (∀ definition, e ≠ .strayDefinition definition) ∧
      (e.kind = .malformed → ∃ part ∈ stepParts (steps ++ [forms]), part.2.IsMalformed) ∧
      (e.kind = .emptySequence →
        forms = [] ∨ ∃ part ∈ stepParts (steps ++ [forms]), part.2.HasNoResult) := by
  obtain ⟨hentered, henv⟩ := h.entered_from
  refine ⟨?_, ?_⟩
  · intro x hx
    exact henv.bindable_names s.env x (List.mem_eraseDups.1 hx)
  · intro comments source forms limit fuel e s' hparsed hrun
    obtain ⟨-, -, herror⟩ := Session.run_traced hentered henv hparsed hrun
    obtain ⟨rfl, rfl⟩ | htraced := herror e rfl
    · exact ⟨nofun, nofun, fun _ => .inl rfl⟩
    · exact ⟨htraced.noStray, htraced.malformed, fun hkind => .inr (htraced.empty hkind)⟩

theorem parsed_sessions_go_right_no_value :
    ∃ steps s s', Session.Reached steps s ∧ s.env.boundNames = ["f"] ∧
      Program.ofSource true s.forms "(f)" = .ok [.app (.var "f") []] ∧
      s.run (some 10) 10 [.app (.var "f") []] = some (.error .emptySequence, s') ∧
      ∃ part ∈ stepParts (steps ++ [[.app (.var "f") []]]), part.2.HasNoResult := by
  have hdefine : Program.ofSource true 0 "(define (f) (define g 1))" =
      .ok [.define "f" (.lambda (.mk [0] [] [.define "g" (.num 1)]))] :=
    Program.ofSource_eq_ok_iff.2
      ⟨[.list [.sym "define", .list [.sym "f"], .list [.sym "define", .sym "g", .num 1]]], rfl, rfl⟩
  have happly : Program.ofSource true 1 "(f)" = .ok [.app (.var "f") []] :=
    Program.ofSource_eq_ok_iff.2 ⟨[.list [.sym "f"]], rfl, rfl⟩
  have hfirst : Session.initial.run (some 10) 10
      [.define "f" (.lambda (.mk [0] [] [.define "g" (.num 1)]))] =
    some (.ok none,
      ⟨.bindRec 1 [("f", .mk [0] [] [.define "g" (.num 1)])] .empty, 1, ⟨0, 1⟩⟩) := rfl
  have hsecond : Session.run (some 10) 10
      ⟨.bindRec 1 [("f", .mk [0] [] [.define "g" (.num 1)])] .empty, 1, ⟨0, 1⟩⟩
      [.app (.var "f") []] = some (.error .emptySequence,
        ⟨.bindRec 1 [("f", .mk [0] [] [.define "g" (.num 1)])] .empty, 1, ⟨1, 1⟩⟩) := rfl
  have hreached := Session.Reached.step .initial hdefine hfirst
  have hright := (parsed_sessions_go_right hreached).2 _ _ _ _ _ _ _ happly hsecond
  exact ⟨_, _, _, hreached, rfl, happly, hsecond, (hright.2.2 rfl).resolve_left nofun⟩

end CallByName
