import CallByName.Proofs.Simulation

/-! What evaluations end in. More fuel changes no result, so an evaluation that ends has one
outcome. -/

namespace CallByName

open List (Forall₂)

def Ends {α : Type} (x : Nat → EvalM α) (m : Meter) (r : Except Error α × Meter) : Prop :=
  ∃ n, ∀ fuel, n ≤ fuel → (x fuel).run m = some r

theorem Ends.unique {α : Type} {x : Nat → EvalM α} {m : Meter} {r r' : Except Error α × Meter}
    (h : Ends x m r) (h' : Ends x m r') : r = r' := by
  obtain ⟨n, h⟩ := h
  obtain ⟨n', h'⟩ := h'
  have hmax := h _ (Nat.le_max_left n n')
  rw [h' _ (Nat.le_max_right n n')] at hmax
  exact (Option.some.inj hmax).symm

def Stable {α : Type} (x : Nat → EvalM α) : Prop :=
  ∀ ⦃fuel fuel' m r⦄, fuel ≤ fuel' → (x fuel).run m = some r → (x fuel').run m = some r

theorem Stable.ends_iff {α : Type} {x : Nat → EvalM α} (hx : Stable x) {m : Meter}
    {r : Except Error α × Meter} : Ends x m r ↔ ∃ fuel, (x fuel).run m = some r := by
  constructor
  · rintro ⟨fuel, h⟩
    exact ⟨fuel, h fuel (Nat.le_refl fuel)⟩
  · rintro ⟨fuel, h⟩
    exact ⟨fuel, fun fuel' hfuel => hx hfuel h⟩

theorem ends_bind_iff {α β : Type} {x : Nat → EvalM α} {f : Nat → α → EvalM β}
    (hx : Stable x) (hf : ∀ a, Stable fun fuel => f fuel a) {m : Meter}
    {r : Except Error β × Meter} :
    Ends (fun fuel => x fuel >>= f fuel) m r ↔
      (∃ e m₁, Ends x m (.error e, m₁) ∧ r = (.error e, m₁)) ∨
        ∃ a m₁, Ends x m (.ok a, m₁) ∧ Ends (fun fuel => f fuel a) m₁ r := by
  constructor
  · rintro ⟨fuel, h⟩
    have hrun := h fuel (Nat.le_refl fuel)
    rw [EvalM.run_bind] at hrun
    cases hfirst : (x fuel).run m with
    | none =>
      rw [hfirst] at hrun
      cases hrun
    | some first =>
      rw [hfirst] at hrun
      obtain ⟨e | a, m₁⟩ := first
      · cases hrun
        exact .inl ⟨e, m₁, hx.ends_iff.2 ⟨fuel, hfirst⟩, rfl⟩
      · exact .inr ⟨a, m₁, hx.ends_iff.2 ⟨fuel, hfirst⟩, (hf a).ends_iff.2 ⟨fuel, hrun⟩⟩
  · rintro (⟨e, m₁, ⟨n, hfirst⟩, rfl⟩ | ⟨a, m₁, ⟨n, hfirst⟩, n', hrest⟩)
    · refine ⟨n, fun fuel hfuel => ?_⟩
      rw [EvalM.run_bind, hfirst fuel hfuel]
    · refine ⟨max n n', fun fuel hfuel => ?_⟩
      rw [EvalM.run_bind, hfirst fuel (Nat.le_trans (Nat.le_max_left n n') hfuel)]
      exact hrest fuel (Nat.le_trans (Nat.le_max_right n n') hfuel)

/-- Computations that cannot be told apart: from every meter both run out of fuel, or both end with
the same meter, in the same error or in values that print the same. -/
def PrintAlike (x y : EvalM Value) : Prop :=
  ∀ m, Option.Rel (fun r s => ResultLike (· = ·) (fun v w => v.text = w.text) r.1 s.1 ∧ r.2 = s.2)
    (x.run m) (y.run m)

theorem forms_refl {stop : Bool → Env → Env → Prop} (hstop : ∀ b ε, stop b ε ε) (b : Bool)
    (forms : List Expr) (ε : Env) :
    Forms (· = ·) (fun e ε e' ε' => e = e' ∧ ε = ε') stop b forms ε forms ε := by
  induction forms generalizing b ε with
  | nil => exact .nil (hstop b ε)
  | cons e es ih =>
    cases e with
    | define x v =>
      refine .definition ?_
      intro i j hij
      subst hij
      exact ih false _
    | _ => exact .expression rfl rfl ⟨rfl, rfl⟩ (ih true ε)

theorem forall₂_eq_and {α : Type} {P : Prop} {as bs : List α}
    (h : Forall₂ (fun a b => a = b ∧ P) as bs) : as = bs := by
  induction h with
  | nil => rfl
  | cons h _ ih => rw [h.1, ih]

namespace Simulation

def exact (cut : Error → Prop) : Simulation where
  frame i j := i = j
  meter m m' := m = m'
  error e e' := e = e'
  cut := cut
  operator _ := True
  closure p ε q δ := p = q ∧ ε = δ
  deferred e ε e' ε' := e = e' ∧ ε = ε'
  newFrame := Meter.newFrame_congr
  countLookup := Meter.countLookup_congr
  operational _ := rfl
  params h := by rw [h.1]
  equal := by
    intro p q p' q' ε δ ε' δ' _ h h'
    rcases h with ⟨rfl, rfl⟩
    rcases h' with ⟨rfl, rfl⟩
    rfl
  enter := by
    intro p q ε δ ρ ρ' f f' as bs i j h hrator hrands _ hij
    rcases h with ⟨rfl, rfl⟩
    rcases hrator with ⟨rfl, rfl⟩
    subst hij
    obtain rfl := forall₂_eq_and hrands
    exact forms_refl (fun _ _ => .inr rfl) _ _ _

variable {cut : Error → Prop} {α : Type}

@[simp] theorem exact_error (e : Error) : (exact cut).error e e := rfl

theorem head_exact (e : Expr) (ε : Env) : (exact cut).Head e ε e ε := by
  have hbody (forms : List Expr) (δ : Env) : (exact cut).Body forms δ forms δ :=
    forms_refl (fun _ _ => .inr rfl) _ _ _
  have hlike (v : Value) : (exact cut).Like v v :=
    .refl_of v (fun _ _ => ⟨rfl, rfl⟩) fun _ _ => trivial
  cases e with
  | num => exact .num
  | bool => exact .bool
  | str => exact .str
  | prim => exact .prim trivial
  | var x =>
    cases h : ε.lookup? x with
    | none => exact .unbound h h rfl
    | some d => exact .var h h ⟨rfl, rfl⟩
  | cond => exact .cond ⟨rfl, rfl⟩ ⟨rfl, rfl⟩ ⟨rfl, rfl⟩
  | lambda => exact .lambda ⟨rfl, rfl⟩
  | app f as => exact .app ⟨rfl, rfl⟩ (List.forall₂_same.2 fun _ _ => ⟨rfl, rfl⟩) fun _ => rfl
  | letIn bs body =>
    refine .letIn ?_
    intro i j hij
    subst hij
    exact hbody _ _
  | letRec bs body =>
    refine .letRec ?_
    cases lambdas bs with
    | error e => exact .error rfl
    | ok ps =>
      refine .ok ?_
      intro i j hij
      subst hij
      exact hbody _ _
  | assign => exact .assign rfl
  | quote v => exact .quote (hlike v)
  | define => exact .define rfl

theorem run_of_follows {x y : EvalM α} (h : (exact cut).Follows (· = ·) x y) {m m₁ : Meter}
    {r : Except Error α} (hx : x.run m = some (r, m₁)) :
    (∃ e, r = .error e ∧ cut e) ∨ y.run m = some (r, m₁) := by
  obtain hcut | ⟨r', m₁', hy, hr, rfl⟩ := h rfl hx
  · exact .inl hcut
  · cases hr with
    | error h =>
      obtain rfl := h
      exact .inr hy
    | ok h =>
      obtain rfl := h
      exact .inr hy

theorem follows_eq {x y : EvalM Value} (h : (exact cut).Follows (exact cut).Like x y) :
    (exact cut).Follows (· = ·) x y :=
  h.imp fun _ _ hvw => hvw.eq_of fun _ _ _ _ h => h

/-- `I` bounds the fuel and the depths at which an evaluation stands for itself. -/
theorem follows_eval_exact {limit limit' : Option Nat} {I : Nat → Nat → Nat → Prop}
    (hI : ∀ fuel d d', I (fuel + 1) d d' →
      (exact cut).Follows (fun _ _ => True) (liftM (checkDepth limit d) : EvalM Unit)
        (liftM (checkDepth limit' d') : EvalM Unit) ∧
      ∀ k, k ≤ 2 → 0 < k → I fuel (d + k) (d' + k))
    {fuel fuel' : Nat} (hfuel : fuel ≤ fuel') {d d' : Nat} (h : I fuel d d') (e : Expr) (ε : Env) :
    (exact cut).Follows (exact cut).Like (eval limit fuel d e ε) (eval limit' fuel' d' e ε) := by
  -- On the fuel of the first run; the second may have more, and `I` goes down with the depths.
  induction fuel generalizing fuel' d d' e ε with
  | zero => exact .outOfFuel
  | succ fuel ih =>
    obtain ⟨fuel', rfl⟩ := Nat.exists_eq_add_of_lt hfuel
    obtain ⟨hcheck, hdeeper⟩ := hI _ _ _ h
    refine follows_step hcheck ?_ (head_exact e ε)
    intro k hk hk' a δ a' δ' hrel
    rcases hrel with ⟨rfl, rfl⟩
    exact ih (Nat.le_add_right _ _) (hdeeper k hk' hk) a δ

variable {ev ev' : Expr → Env → EvalM Value}

theorem follows_runForms_exact
    (hev : ∀ e ε, (exact cut).Follows (exact cut).Like (ev e ε) (ev' e ε)) (forms : List Expr)
    (ε : Env) : (exact cut).Follows (· = ·) (runForms ev forms ε) (runForms ev' forms ε) := by
  have hforms : Forms (· = ·) (fun e ε e' ε' => e = e' ∧ ε = ε') (fun _ ε ε' => ε = ε') false
      forms ε forms ε := forms_refl (fun _ _ => rfl) false forms ε
  refine (follows_foldlM (S := exact cut) ?_ hforms rfl .none).imp ?_
  · intro a δ a' δ' hrel
    rcases hrel with ⟨rfl, rfl⟩
    exact hev a δ
  · rintro ⟨v, δ⟩ ⟨w, _⟩ ⟨hvw, rfl⟩
    cases hvw with
    | none => rfl
    | some hvw => rw [hvw.eq_of fun _ _ _ _ h => h]

theorem follows_runBody_exact
    (hev : ∀ e ε, (exact cut).Follows (exact cut).Like (ev e ε) (ev' e ε)) (forms : List Expr)
    (ε : Env) : (exact cut).Follows (· = ·) (runBody ev forms ε) (runBody ev' forms ε) := by
  refine (follows_runForms_exact hev forms ε).bind ?_
  rintro ⟨v, δ⟩ _ rfl
  cases v with
  | none => exact .throw rfl
  | some v => exact .pure rfl

end Simulation

open Simulation

theorem follows_eval_of_le (limit : Option Nat) {fuel fuel' : Nat} (hfuel : fuel ≤ fuel') (d : Nat)
    (e : Expr) (ε : Env) : (exact fun _ => False).Follows (exact fun _ => False).Like
      (eval limit fuel d e ε) (eval limit fuel' d e ε) := by
  refine follows_eval_exact (I := fun _ d d' => d = d') ?_ hfuel rfl e ε
  intro fuel d d' hd
  subst hd
  exact ⟨follows_checkDepth limit d, fun _ _ _ => rfl⟩

theorem run_of_follows_exact {α : Type} {x y : EvalM α}
    (h : (exact fun _ => False).Follows (· = ·) x y) {m : Meter} {r : Except Error α × Meter}
    (hx : x.run m = some r) : y.run m = some r :=
  (run_of_follows h hx).resolve_left fun ⟨_, _, hcut⟩ => hcut

theorem stable_of_follows {α : Type} {x : Nat → EvalM α}
    (h : ∀ {fuel fuel'}, fuel ≤ fuel' →
      (exact fun _ => False).Follows (· = ·) (x fuel) (x fuel')) : Stable x :=
  fun _ _ _ _ hfuel hx => run_of_follows_exact (h hfuel) hx

theorem ends_eval {limit : Option Nat} {fuel d : Nat} {e : Expr} {ε : Env} {m : Meter}
    {r : Except Error Value × Meter} (h : (eval limit fuel d e ε).run m = some r) :
    Ends (fun fuel => eval limit fuel d e ε) m r := by
  have hstable : Stable fun fuel => eval limit fuel d e ε :=
    stable_of_follows fun hfuel => follows_eq (follows_eval_of_le limit hfuel d e ε)
  exact hstable.ends_iff.2 ⟨fuel, h⟩

theorem Simulation.run_of_follows_like {S : Simulation} (hcut : ∀ e, ¬ S.cut e) {x y : EvalM Value}
    (h : S.Follows S.Like x y) {m m' m₁ : Meter} (hm : S.meter m m') {r : Except Error Value}
    (hx : x.run m = some (r, m₁)) :
    ∃ r' m₁', y.run m' = some (r', m₁') ∧
      ResultLike S.error (fun v w => v.text = w.text) r r' ∧ S.meter m₁ m₁' := by
  rcases h hm hx with ⟨e, -, he⟩ | ⟨r', m₁', hy, hlike, hm₁⟩
  · exact absurd he (hcut e)
  · refine ⟨r', m₁', hy, hlike.imp (fun _ _ he => he) fun v w hvw => ?_, hm₁⟩
    exact (hvw.texts_eq fun _ _ _ _ => S.params).1

theorem Simulation.ends_of_follows {S : Simulation} (hcut : ∀ e, ¬ S.cut e) {d d' : Nat}
    {a a' : Expr} {ε ε' : Env} (hfollows : ∀ fuel, ∃ fuel', S.Follows S.Like
      (eval none (fuel + 1) d a ε) (eval none fuel' d' a' ε')) {m m' : Meter} (hm : S.meter m m')
    {r : Except Error Value × Meter} (h : Ends (fun fuel => eval none fuel d a ε) m r) :
    ∃ r', Ends (fun fuel => eval none fuel d' a' ε') m' r' ∧
      ResultLike S.error (fun v w => v.text = w.text) r.1 r'.1 := by
  obtain ⟨fuel, h⟩ := h
  obtain ⟨fuel', hfollows⟩ := hfollows fuel
  obtain ⟨r', m₁, hr', hlike, -⟩ :=
    S.run_of_follows_like hcut hfollows hm (h _ (Nat.le_succ fuel))
  exact ⟨(r', m₁), ends_eval hr', hlike⟩

end CallByName
