import CallByName.Proofs.Correspondence

/-! Corresponding runs as a simulation. Expressions that correspond have the same head, apart from
a name that another expression is put for, and what their heads expose corresponds again. -/

namespace CallByName

open List (Forall₂)

@[simp] theorem Substitution.without_no_names (σ : Substitution) : σ.without [] = σ := by
  simp [without]

theorem Expr.sees_of_ne_lambda {v : Expr} (hv : ∀ p, v ≠ .lambda p) (x : String) :
    v.sees x = [] := by
  cases v with
  | lambda p => exact absurd rfl (hv p)
  | _ => rfl

theorem Env.withDefinition_of_ne_lambda {v : Expr} (hv : ∀ p, v ≠ .lambda p) (i : Nat) (x : String)
    (ε : Env) : ε.withDefinition i x v = .bind i [(x, v)] ε ε := by
  cases v with
  | lambda p => exact absurd rfl (hv p)
  | _ => rfl

@[simp] theorem Env.frame_withDefinition (i : Nat) (x : String) (ε : Env) (v : Expr) :
    (ε.withDefinition i x v).frame = i := by
  cases v <;> rfl

namespace Correspondence

variable {C : Correspondence} {σ : Substitution} {ε ε' : Env}

theorem defined_subst (hσ : ∀ b ∈ σ, C.replaced b.1 b.2) (a : Expr) :
    (a.subst σ).defined = a.defined := by
  cases a with
  | var x =>
    simp only [Expr.subst]
    cases h : σ.lookup x with
    | none => rfl
    | some a => exact (C.operand (hσ _ (mem_of_lookup h))).1
  | _ => simp only [Expr.subst, Expr.defined]

theorem subst_ne_lambda (hσ : ∀ b ∈ σ, C.replaced b.1 b.2) {a : Expr} (ha : ∀ p, a ≠ .lambda p)
    (p : Lambda) : a.subst σ ≠ .lambda p := by
  cases a with
  | var x =>
    simp only [Expr.subst]
    cases h : σ.lookup x with
    | none => exact ha p
    | some a => exact (C.operand (hσ _ (mem_of_lookup h))).2 p
  | lambda q => exact absurd rfl (ha q)
  | _ => simp [Expr.subst]

theorem related_of {a : Expr} (hσ : ∀ b ∈ σ, C.replaced b.1 b.2)
    (hconst : ∀ v ∈ a.constants, C.constant v) (hframe : C.frame ε.frame ε'.frame)
    (hnames : ∀ x ∈ a.free, Named C.Agree σ x ε ε') : C.Related C.Agree a ε (a.subst σ) ε' :=
  ⟨σ, hσ, rfl, hconst, hframe, hnames⟩

theorem named_withDefinition {y : String} {v : Expr} {i j : Nat}
    (hσ : ∀ b ∈ σ, C.replaced b.1 b.2) (hconst : ∀ w ∈ v.constants, C.constant w)
    (hframe : C.frame ε.frame ε'.frame) (hij : C.frame i j)
    (hv : ∀ x ∈ v.free, x ∉ v.sees y → Named C.Agree σ x ε ε') {x : String}
    (hout : x ∉ [y] → Named C.Agree σ x ε ε') :
    Named C.Agree (σ.without [y]) x (ε.withDefinition i y v)
      (ε'.withDefinition j y (v.subst (σ.without (v.sees y)))) := by
  -- A procedure sees its own name, so its frame is a recursive one, with itself alone.
  by_cases hlambda : ∃ p, v = .lambda p
  · obtain ⟨p, rfl⟩ := hlambda
    rw [Expr.subst]
    exact named_frame [(y, p)] hσ hij (List.forall_mem_singleton.2 hconst)
      (List.forall_mem_singleton.2 hv) hout
  · have hne : ∀ p, v ≠ .lambda p := fun p hp => hlambda ⟨p, hp⟩
    rw [Expr.sees_of_ne_lambda hne] at hv ⊢
    rw [Substitution.without_no_names, Env.withDefinition_of_ne_lambda hne,
      Env.withDefinition_of_ne_lambda (subst_ne_lambda hσ hne)]
    have hrel := related_of hσ hconst hframe fun x hx => hv x hx List.not_mem_nil
    have hbs : Option.Rel (fun a a' => C.Related C.Agree a ε a' ε') (List.lookup x [(y, v)])
        (List.lookup x [(y, v.subst σ)]) := by
      refine lookup_rel ?_ x
      exact .cons ⟨rfl, hrel⟩ .nil
    exact named_bind hbs hout

theorem forms_of_named {stop : Bool → Env → Env → Prop} (hstop : ∀ b ε ε', stop b ε ε')
    (forms : List Expr) (b : Bool) (σ : Substitution) (hσ : ∀ b ∈ σ, C.replaced b.1 b.2)
    (ε ε' : Env) (hconst : ∀ v ∈ Expr.constantsAll forms, C.constant v)
    (hframe : C.frame ε.frame ε'.frame)
    (hnames : ∀ x ∈ Expr.freeForms forms, Named C.Agree σ x ε ε') :
    Forms C.frame (C.Related C.Agree) stop b forms ε (Expr.substForms σ forms) ε' := by
  induction forms generalizing b σ ε ε' with
  | nil => exact .nil (hstop b ε ε')
  | cons e es ih =>
    have hconst₁ : ∀ v ∈ e.constants, C.constant v := fun v hv =>
      hconst v (List.mem_append_left _ hv)
    have hconst₂ : ∀ v ∈ Expr.constantsAll es, C.constant v := fun v hv =>
      hconst v (List.mem_append_right _ hv)
    have hnames₁ : ∀ x ∈ e.free, Named C.Agree σ x ε ε' := fun x hx =>
      hnames x (List.mem_append_left _ hx)
    have hnames₂ : ∀ x ∈ Expr.freeForms es, x ∉ e.defined → Named C.Agree σ x ε ε' := by
      intro x hx hxe
      have hmem : x ∈ (Expr.freeForms es).filter (· ∉ e.defined) :=
        List.mem_filter.2 ⟨hx, by simpa using hxe⟩
      exact hnames x (List.mem_append_right _ hmem)
    have hwithout (names : List String) : ∀ b ∈ σ.without names, C.replaced b.1 b.2 := fun b hb =>
      hσ b (Substitution.mem_of_mem_without hb)
    -- An expression leaves the environments as they are; a definition puts a frame on both.
    by_cases he : e.defined = []
    · rw [Expr.substForms, he, Substitution.without_no_names]
      refine .expression he ((defined_subst hσ e).trans he) ?_ ?_
      · exact related_of hσ hconst₁ hframe hnames₁
      · exact ih true σ hσ ε ε' hconst₂ hframe fun x hx => hnames₂ x hx (by simp [he])
    · cases e with
      | define y v =>
        rw [Expr.substForms, Expr.subst]
        refine .definition fun i j hij => ?_
        have hv : ∀ z ∈ v.free, z ∉ v.sees y → Named C.Agree σ z ε ε' := by
          intro z hz hzy
          exact hnames₁ z (List.mem_filter.2 ⟨hz, by simpa using hzy⟩)
        refine ih false _ (hwithout [y]) _ _ hconst₂ ?_ fun x hx => ?_
        · simpa only [Env.frame_withDefinition] using hij
        · exact named_withDefinition (v := v) hσ hconst₁ hframe hij hv (hnames₂ x hx)
      | _ => exact absurd rfl he

theorem error_text (hσ : ∀ b ∈ σ, C.replaced b.1 b.2) {f : String → Error}
    (hkind : ∀ s, (f s).kind ≠ .unbound) (hf : ∀ s t, (f s).Alike (f t)) (a : Expr) :
    C.error (f a.text) (f (a.subst σ).text) := by
  refine C.alike (hkind _) (hf _ _) fun hnone => ?_
  have hnil : σ = [] := List.eq_nil_iff_forall_not_mem.2 fun b hb => hnone _ _ (hσ b hb)
  rw [hnil, Expr.subst_nil]

theorem result_lambdas (hσ : ∀ b ∈ σ, C.replaced b.1 b.2) (bs : List (String × Expr)) :
    ResultLike C.error (fun ps qs => ps.map (fun p => (p.1, Expr.lambda p.2)) = bs ∧
      qs = ps.map fun p => (p.1, p.2.subst σ)) (lambdas bs) (lambdas (Expr.substValues σ bs)) := by
  induction bs with
  | nil => exact .ok ⟨rfl, rfl⟩
  | cons b bs ih =>
    obtain ⟨x, v⟩ := b
    -- What is put for a name is not a lambda, so both sides stop at the same binding.
    by_cases hv : ∃ p, v = .lambda p
    · obtain ⟨p, rfl⟩ := hv
      rw [Expr.substValues, Expr.subst, lambdas, lambdas]
      revert ih
      generalize lambdas bs = y, lambdas (Expr.substValues σ bs) = z
      rintro (he | ⟨rfl, rfl⟩)
      · exact .error he
      · exact .ok ⟨rfl, rfl⟩
    · have hne : ∀ p, v ≠ .lambda p := fun p hp => hv ⟨p, hp⟩
      have h (v : Expr) (hv : ∀ p, v ≠ .lambda p) (bs : List (String × Expr)) :
          lambdas ((x, v) :: bs) = .error (.notLambda x v.text) := by
        cases v with
        | lambda p => exact absurd rfl (hv p)
        | _ => rfl
      rw [Expr.substValues, h v hne, h _ (subst_ne_lambda hσ hne)]
      exact .error (error_text hσ (f := .notLambda x) (fun _ => by simp [Error.kind])
        (fun _ _ => ⟨rfl, rfl, rfl⟩) v)

theorem params_subst (p : Lambda) : (p.subst σ).params = p.params := by
  cases p
  rw [Lambda.subst]
  rfl

theorem site_subst (p : Lambda) : (p.subst σ).site = p.site := by
  cases p
  rw [Lambda.subst]
  rfl

theorem body_subst (p : Lambda) :
    (p.subst σ).body = Expr.substForms (σ.without p.params) p.body := by
  cases p
  rw [Lambda.subst]
  rfl

theorem forms_enter {stop : Bool → Env → Env → Prop} (hstop : ∀ b ε ε', stop b ε ε') {p q : Lambda}
    {ε δ ρ ρ' : Env} {as bs : List Expr} {i j : Nat}
    (h : C.Related C.Agree (.lambda p) ε (.lambda q) δ)
    (hrands : Forall₂ (fun a b => C.Related C.Agree a ρ b ρ') as bs)
    (hp : p.params.length = as.length) (hij : C.frame i j) :
    Forms C.frame (C.Related C.Agree) stop false p.body (.bind i (p.params.zip as) ρ ε) q.body
      (.bind j (q.params.zip bs) ρ' δ) := by
  obtain ⟨σ, h⟩ := h
  obtain rfl : q = p.subst σ := by simpa [Expr.subst] using h.eq
  have hfst : (p.params.zip as).map Prod.fst = p.params := List.map_fst_zip (Nat.le_of_eq hp)
  have hwithout : ∀ b ∈ σ.without p.params, C.replaced b.1 b.2 := fun b hb =>
    h.replaced b (Substitution.mem_of_mem_without hb)
  have hconst : ∀ v ∈ Expr.constantsAll p.body, C.constant v := by
    intro v hv
    exact h.constants v (by rwa [Expr.constants, Lambda.constants_eq])
  rw [params_subst, body_subst]
  refine forms_of_named hstop _ _ _ hwithout _ _ hconst hij fun x hx => ?_
  have hrel := lookup_rel (R := fun a b => C.Related C.Agree a ρ b ρ')
    (forall₂_zip_left p.params hrands) x
  have hout : x ∉ (p.params.zip as).map Prod.fst → Named C.Agree σ x ε δ := by
    intro hxp
    apply h.names
    rw [Expr.free, Lambda.mem_free]
    exact ⟨hx, hfst ▸ hxp⟩
  have hbind := named_bind (σ := σ) (i := i) (j := j) hrel hout
  rwa [hfst] at hbind

variable (C)

def simulation : Simulation where
  frame := C.frame
  meter := C.meter
  error := C.error
  cut _ := False
  operator op := C.constant (.prim op)
  closure p ε q δ := C.Related C.Agree (.lambda p) ε (.lambda q) δ
  deferred := C.Related C.Agree
  newFrame := C.newFrame
  countLookup := C.countLookup
  operational := by
    intro e he
    have hkind : e.kind ≠ .unbound := by
      rcases he with (he | he | he) | he <;> simp [he]
    exact C.alike hkind (.refl e) fun _ => rfl
  params := by
    intro p q ε δ hrel
    rcases hrel with ⟨σ, h⟩
    obtain rfl : q = p.subst σ := by simpa [Expr.subst] using h.eq
    exact (params_subst p).symm
  equal := by
    intro p q p' q' ε δ ε' δ' hequal hrel hrel'
    rcases hrel with ⟨σ, h⟩
    rcases hrel' with ⟨σ', h'⟩
    obtain rfl : q = p.subst σ := by simpa [Expr.subst] using h.eq
    obtain rfl : q' = p'.subst σ' := by simpa [Expr.subst] using h'.eq
    have hframe : (ε.frame == ε'.frame) = (δ.frame == δ'.frame) := by
      rw [Bool.eq_iff_iff, beq_iff_eq, beq_iff_eq]
      exact C.unique hequal h.frame h'.frame
    simp only [Value.beq, params_subst, site_subst, hframe]
  enter h _ hrands hp hij := forms_enter
    (fun _ _ _ => .inr (C.alike (by simp [Error.kind]) (.refl _) fun _ => rfl)) h hrands hp hij

variable {C}

theorem body_of_named (forms : List Expr) (hσ : ∀ b ∈ σ, C.replaced b.1 b.2)
    (hconst : ∀ v ∈ Expr.constantsAll forms, C.constant v) (hframe : C.frame ε.frame ε'.frame)
    (hnames : ∀ x ∈ Expr.freeForms forms, Named C.Agree σ x ε ε') :
    C.simulation.Body forms ε (Expr.substForms σ forms) ε' :=
  forms_of_named (fun _ _ _ => .inr (C.alike (by simp [Error.kind]) (.refl _) fun _ => rfl)) forms
    false σ hσ ε ε' hconst hframe hnames

namespace RelatedBy

variable {a a' : Expr} {bs : List (String × Expr)} {body : List Expr}

theorem replaced_without (h : C.RelatedBy C.Agree σ a ε a' ε') (names : List String) :
    ∀ b ∈ σ.without names, C.replaced b.1 b.2 :=
  fun b hb => h.replaced b (Substitution.mem_of_mem_without hb)

theorem part (h : C.RelatedBy C.Agree σ a ε a' ε') {b : Expr}
    (hconst : ∀ v ∈ b.constants, v ∈ a.constants) (hfree : ∀ x ∈ b.free, x ∈ a.free) :
    C.Related C.Agree b ε (b.subst σ) ε' :=
  related_of h.replaced (fun v hv => h.constants v (hconst v hv)) h.frame
    fun x hx => h.names x (hfree x hx)

theorem operands {f : Expr} {as : List Expr} (h : C.RelatedBy C.Agree σ (.app f as) ε a' ε') :
    Forall₂ (fun a b => C.Related C.Agree a ε b ε') as (Expr.substAll σ as) := by
  rw [Expr.substAll_eq_map, List.forall₂_map_right_iff, List.forall₂_same]
  intro a ha
  apply h.part
  · intro v hv
    rw [Expr.constants, Expr.constantsAll_eq_flatMap]
    exact List.mem_append_right _ (List.mem_flatMap.2 ⟨a, ha, hv⟩)
  · intro x hx
    rw [Expr.free, Expr.freeAll_eq_flatMap]
    exact List.mem_append_right _ (List.mem_flatMap.2 ⟨a, ha, hx⟩)

theorem bindings (h : C.RelatedBy C.Agree σ (.letIn bs body) ε a' ε') :
    Forall₂ (fun b c => b.1 = c.1 ∧ C.Related C.Agree b.2 ε c.2 ε') bs
      (Expr.substValues σ bs) := by
  rw [Expr.substValues_eq_map, List.forall₂_map_right_iff, List.forall₂_same]
  intro b hb
  refine ⟨rfl, h.part ?_ ?_⟩
  · intro v hv
    rw [Expr.constants, Expr.constantsValues_eq_flatMap]
    exact List.mem_append_left _ (List.mem_flatMap.2 ⟨b, hb, hv⟩)
  · intro x hx
    rw [Expr.free, Expr.freeValues_eq_flatMap]
    exact List.mem_append_left _ (List.mem_flatMap.2 ⟨b, hb, hx⟩)

theorem body_letIn (h : C.RelatedBy C.Agree σ (.letIn bs body) ε a' ε') {i j : Nat}
    (hij : C.frame i j) :
    C.simulation.Body body (.bind i bs ε ε) (Expr.substForms (σ.without (bs.map Prod.fst)) body)
      (.bind j (Expr.substValues σ bs) ε' ε') := by
  refine body_of_named body (h.replaced_without _) ?_ hij ?_
  · intro v hv
    exact h.constants v (List.mem_append_right _ hv)
  · intro x hx
    refine named_bind (lookup_rel h.bindings x) fun hxb => h.names x ?_
    exact List.mem_append_right _ (List.mem_filter.2 ⟨hx, by simpa using hxb⟩)

theorem body_letRec {ps : List (String × Lambda)}
    (h : C.RelatedBy C.Agree σ (.letRec (ps.map fun p => (p.1, .lambda p.2)) body) ε a' ε')
    {i j : Nat} (hij : C.frame i j) :
    C.simulation.Body body (.bindRec i ps ε) (Expr.substForms (σ.without (ps.map Prod.fst)) body)
      (.bindRec j (substProcs ps σ) ε') := by
  have hmem {p : String × Lambda} (hp : p ∈ ps) :
      (p.1, Expr.lambda p.2) ∈ ps.map fun p => (p.1, Expr.lambda p.2) :=
    List.mem_map_of_mem (f := fun p : String × Lambda => (p.1, Expr.lambda p.2)) hp
  -- The names of the frame are not free in the `letrec`; all others in it are.
  have hout {y : String} (hy : y ∈ Expr.freeValues (ps.map fun p => (p.1, .lambda p.2)) ++
      Expr.freeForms body) (hyn : y ∉ ps.map Prod.fst) : Named C.Agree σ y ε ε' := by
    refine h.names y (List.mem_filter.2 ⟨hy, ?_⟩)
    simpa [List.map_map, Function.comp_def] using hyn
  have hconst : ∀ p ∈ ps, ∀ v ∈ p.2.constants, C.constant v := by
    intro p hp v hv
    apply h.constants
    rw [Expr.constants, Expr.constantsValues_eq_flatMap]
    exact List.mem_append_left _ (List.mem_flatMap.2 ⟨_, hmem hp, hv⟩)
  have hfree : ∀ p ∈ ps, ∀ y ∈ p.2.free, y ∉ ps.map Prod.fst → Named C.Agree σ y ε ε' := by
    intro p hp y hy
    apply hout
    rw [Expr.freeValues_eq_flatMap]
    exact List.mem_append_left _ (List.mem_flatMap.2 ⟨_, hmem hp, hy⟩)
  refine body_of_named body (h.replaced_without _) ?_ hij ?_
  · intro v hv
    exact h.constants v (List.mem_append_right _ hv)
  · intro x hx
    exact named_frame ps h.replaced hij hconst hfree (hout (List.mem_append_right _ hx))

end RelatedBy

theorem head_of_relatedBy (hconst : ∀ v, C.constant v → C.simulation.Like v v) {a a' : Expr}
    (h : C.RelatedBy C.Agree σ a ε a' ε') (hvar : ∀ x, a = .var x → σ.lookup x = none) :
    C.simulation.Head a ε a' ε' := by
  obtain rfl := h.eq
  cases a with
  | num n => simpa only [Expr.subst] using .num
  | bool b => simpa only [Expr.subst] using .bool
  | str s => simpa only [Expr.subst] using .str
  | prim op =>
    rw [Expr.subst]
    exact .prim (h.constants _ (List.mem_singleton_self _))
  | quote v =>
    rw [Expr.subst]
    exact .quote (hconst v (h.constants v (List.mem_singleton_self v)))
  | var x =>
    have hx : C.Agree x ε ε' := by
      simpa only [Named, hvar x rfl] using h.names x (List.mem_singleton_self x)
    have hmatched := hx.matched
    rw [Expr.subst, hvar x rfl, Option.getD_none]
    unfold Matched at hmatched
    split at hmatched
    · exact .unbound (by assumption) (by assumption) hmatched
    · exact .var (by assumption) (by assumption) hmatched
    · exact hmatched.elim
  | cond t y n =>
    rw [Expr.subst]
    apply Simulation.Head.cond
    · exact h.part (by simp +contextual [Expr.constants]) (by simp +contextual [Expr.free])
    · exact h.part (by simp +contextual [Expr.constants]) (by simp +contextual [Expr.free])
    · exact h.part (by simp +contextual [Expr.constants]) (by simp +contextual [Expr.free])
  | lambda p =>
    have hrel := h.part (b := .lambda p) (fun _ hv => hv) fun _ hx => hx
    rw [Expr.subst] at hrel ⊢
    exact .lambda hrel
  | app f as =>
    have hrator : C.Related C.Agree f ε (f.subst σ) ε' :=
      h.part (by simp +contextual [Expr.constants]) (by simp +contextual [Expr.free])
    have harity (n : Nat) := error_text h.replaced (f := fun s => .arity n as.length (some s))
      (fun _ => by simp [Error.kind]) (fun _ _ => ⟨rfl, rfl, rfl⟩) (.app f as)
    rw [Expr.subst] at harity ⊢
    refine .app hrator h.operands fun n => ?_
    rw [← h.operands.length_eq]
    exact harity n
  | letIn bs body =>
    rw [Expr.subst]
    exact .letIn fun i j hij => h.body_letIn hij
  | letRec bs body =>
    rw [Expr.subst]
    refine .letRec ((result_lambdas (h.replaced_without _) bs).imp (fun _ _ he => he) ?_)
    intro ps qs hps i j hij
    rcases hps with ⟨rfl, rfl⟩
    have hbody := h.body_letRec hij
    simpa [List.map_map, Function.comp_def, substProcs] using hbody
  | assign x v =>
    rw [Expr.subst]
    exact .assign (C.alike (by simp [Error.kind]) (.refl _) fun _ => rfl)
  | define x v =>
    have htext := error_text h.replaced (f := .strayDefinition) (fun _ => by simp [Error.kind])
      (fun _ _ => ⟨rfl, rfl, rfl⟩) (.define x v)
    rw [Expr.subst] at htext ⊢
    exact .define htext

theorem body_of_agree {forms : List Expr}
    (hconst : ∀ v ∈ Expr.constantsAll forms, C.constant v) (hframe : C.frame ε.frame ε'.frame)
    (hagree : ∀ x ∈ Expr.freeForms forms, C.Agree x ε ε') : C.simulation.Body forms ε forms ε' := by
  have h := body_of_named (σ := []) forms (List.forall_mem_nil _) hconst hframe hagree
  rwa [Expr.substForms_nil] at h

theorem like_of_closures_eq_nil {v : Value} (hclosures : v.closures = [])
    (hops : ∀ op ∈ v.operators, C.constant (.prim op)) : C.simulation.Like v v := by
  apply Value.Like.refl_of
  · intro c hc
    rw [hclosures] at hc
    cases hc
  · exact hops

theorem follows_eval (hconst : ∀ v, C.constant v → C.simulation.Like v v)
    (hnone : ∀ x a, ¬ C.replaced x a) (limit : Option Nat) (fuel d : Nat) {a a' : Expr}
    (h : C.Related C.Agree a ε a' ε') : C.simulation.Follows C.simulation.Like
      (eval limit fuel d a ε) (eval limit fuel d a' ε') := by
  refine Simulation.follows_eval ?_ limit fuel d h
  intro a ε a' ε' hrel
  rcases hrel with ⟨σ, h⟩
  have hnil : σ = [] := List.eq_nil_iff_forall_not_mem.2 fun b hb => hnone _ _ (h.replaced b hb)
  refine head_of_relatedBy hconst h fun x _ => ?_
  rw [hnil]
  rfl

def same (constant : Value → Prop) (missing : String → Prop) : Correspondence where
  frame i j := i = j
  meter m m' := m = m'
  error e e' := e = e' ∧ ∀ x, e = .unbound x → missing x
  constant := constant
  replaced _ _ := False
  newFrame := Meter.newFrame_congr
  countLookup := Meter.countLookup_congr
  alike hkind _ heq := by
    refine ⟨heq fun _ _ h => h, ?_⟩
    intro x hx
    subst hx
    exact absurd rfl hkind
  unique _ := by
    intro i j i' j' hij hij'
    subst hij hij'
    rfl
  closed := False.elim
  operand := False.elim
  constants := False.elim
  anyFrame := False.elim
  skipLookup := False.elim

variable {constant : Value → Prop} {missing : String → Prop}

theorem related_same {R : String → Env → Env → Prop} {a : Expr}
    (hconst : ∀ v ∈ a.constants, constant v) (hframe : ε.frame = ε'.frame)
    (hR : ∀ x ∈ a.free, R x ε ε') : (same constant missing).Related R a ε a ε' :=
  ⟨[], List.forall_mem_nil _, (Expr.subst_nil a).symm, hconst, hframe, hR⟩

theorem agree_refl (x : String) (ε : Env) :
    (same (fun _ => True) fun _ => True).Agree x ε ε := by
  apply Agree.coinduct (R := fun _ δ δ' => δ = δ') _ rfl
  intro y δ δ' hδ
  subst hδ
  unfold Matched
  cases δ.lookup? y with
  | none => exact ⟨rfl, fun _ _ => trivial⟩
  | some d => exact related_same (fun _ _ => trivial) rfl fun _ _ => .inl rfl

end Correspondence

end CallByName
