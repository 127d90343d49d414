import CallByName.Proofs.Bindings
import CallByName.Proofs.Simulation
import CallByName.Proofs.Substitution

/-! Runs of one program in environments that answer alike, with closed expressions put for some of
its names in the second run. Environments agree at a name if both have nothing for it, or
expressions that correspond in environments that agree at every free name, and so on along all
chains of references. New frames keep the agreement, so corresponding runs stay so. -/

namespace CallByName

open List (Forall₂)

namespace Error

def unboundName? : Error → Option String
  | unbound x => some x
  | _ => none

def counts? : Error → Option (Nat × Nat)
  | arity expected got _ => some (expected, got)
  | _ => none

/-- Errors of one kind that name the same variable and give the same counts. The texts of
expressions in them may differ. -/
def Alike (e e' : Error) : Prop :=
  e.kind = e'.kind ∧ e.unboundName? = e'.unboundName? ∧ e.counts? = e'.counts?

theorem Alike.refl (e : Error) : e.Alike e := ⟨rfl, rfl, rfl⟩

end Error

/-- What corresponds in two runs: which frames, meters and errors, which constants may occur, and
which expressions may be put for which names. -/
structure Correspondence where
  frame : Nat → Nat → Prop
  meter : Meter → Meter → Prop
  error : Error → Error → Prop
  constant : Value → Prop
  replaced : String → Expr → Prop
  newFrame {m m' : Meter} : meter m m' → frame (m.frames + 1) (m'.frames + 1) ∧
    meter ⟨m.lookups, m.frames + 1⟩ ⟨m'.lookups, m'.frames + 1⟩
  countLookup {m m' : Meter} : meter m m' →
    meter ⟨m.lookups + 1, m.frames⟩ ⟨m'.lookups + 1, m'.frames⟩
  alike {e e' : Error} : e.kind ≠ .unbound → e.Alike e' → ((∀ x a, ¬ replaced x a) → e = e') →
    error e e'
  unique : constant (.prim .equal) → ∀ {i j i' j' : Nat}, frame i j → frame i' j' →
    (i = i' ↔ j = j')
  closed {x : String} {a : Expr} : replaced x a → a.free = []
  operand {x : String} {a : Expr} : replaced x a → a.defined = [] ∧ ∀ p, a ≠ .lambda p
  constants {x : String} {a : Expr} : replaced x a → ∀ v ∈ a.constants, constant v
  anyFrame {x : String} {a : Expr} : replaced x a → ∀ i j, frame i j
  skipLookup {x : String} {a : Expr} : replaced x a → ∀ {m m' : Meter}, meter m m' →
    meter ⟨m.lookups + 1, m.frames⟩ m'

def Named (R : String → Env → Env → Prop) (σ : Substitution) (x : String) (ε ε' : Env) : Prop :=
  match σ.lookup x with
  | some a => ∃ δ, ε.lookup? x = some ⟨a, δ⟩
  | none => R x ε ε'

theorem Named.mono {R R' : String → Env → Env → Prop} (h : ∀ x ε ε', R x ε ε' → R' x ε ε')
    {σ : Substitution} {x : String} {ε ε' : Env} (hx : Named R σ x ε ε') :
    Named R' σ x ε ε' := by
  unfold Named at hx ⊢
  split at hx
  · exact hx
  · exact h _ _ _ hx

namespace Correspondence

variable (C : Correspondence)

/-- An expression and what a substitution makes of it, in environments that `R` relates at its free
names. -/
structure RelatedBy (R : String → Env → Env → Prop) (σ : Substitution) (a : Expr) (ε : Env)
    (a' : Expr) (ε' : Env) : Prop where
  replaced : ∀ b ∈ σ, C.replaced b.1 b.2
  eq : a' = a.subst σ
  constants : ∀ v ∈ a.constants, C.constant v
  frame : C.frame ε.frame ε'.frame
  names : ∀ x ∈ a.free, Named R σ x ε ε'

def Related (R : String → Env → Env → Prop) (a : Expr) (ε : Env) (a' : Expr) (ε' : Env) : Prop :=
  ∃ σ, C.RelatedBy R σ a ε a' ε'

def Matched (R : String → Env → Env → Prop) (x : String) (ε ε' : Env) : Prop :=
  match ε.lookup? x, ε'.lookup? x with
  | none, none => C.error (.unbound x) (.unbound x)
  | some d, some d' => C.Related R d.expr d.env d'.expr d'.env
  | _, _ => False

/-- The weakest relation that holds only of environments matched by it. -/
def Agree (x : String) (ε ε' : Env) : Prop :=
  ∃ R : String → Env → Env → Prop, (∀ y δ δ', R y δ δ' → C.Matched R y δ δ') ∧ R x ε ε'

variable {C}

theorem Related.mono {R R' : String → Env → Env → Prop} (hR : ∀ x ε ε', R x ε ε' → R' x ε ε')
    {a a' : Expr} {ε ε' : Env} (h : C.Related R a ε a' ε') : C.Related R' a ε a' ε' := by
  obtain ⟨σ, h⟩ := h
  exact ⟨σ, { h with names := fun x hx => (h.names x hx).mono hR }⟩

theorem Matched.mono {R R' : String → Env → Env → Prop} (hR : ∀ x ε ε', R x ε ε' → R' x ε ε')
    {x : String} {ε ε' : Env} (h : C.Matched R x ε ε') : C.Matched R' x ε ε' := by
  unfold Matched at h ⊢
  split at h
  · exact h
  · exact Related.mono hR h
  · exact h

namespace Agree

theorem matched {x : String} {ε ε' : Env} (h : C.Agree x ε ε') : C.Matched C.Agree x ε ε' := by
  obtain ⟨R, hR, hx⟩ := h
  exact (hR _ _ _ hx).mono fun y δ δ' hy => ⟨R, hR, hy⟩

/-- A relation whose environments are matched by it, or already known to agree, is one of
agreement. -/
theorem coinduct {R : String → Env → Env → Prop}
    (hR : ∀ y δ δ', R y δ δ' → C.Matched (fun y δ δ' => R y δ δ' ∨ C.Agree y δ δ') y δ δ')
    {x : String} {ε ε' : Env} (hx : R x ε ε') : C.Agree x ε ε' := by
  refine ⟨fun y δ δ' => R y δ δ' ∨ C.Agree y δ δ', ?_, .inl hx⟩
  intro y δ δ' hy
  rcases hy with hy | hy
  · exact hR y δ δ' hy
  · exact hy.matched.mono fun _ _ _ h => .inr h

theorem of_matched {x : String} {ε ε' : Env} (h : C.Matched C.Agree x ε ε') : C.Agree x ε ε' := by
  refine coinduct (R := fun y δ δ' => y = x ∧ δ = ε ∧ δ' = ε') ?_ ⟨rfl, rfl, rfl⟩
  intro y δ δ' hy
  rcases hy with ⟨rfl, rfl, rfl⟩
  exact h.mono fun _ _ _ h => .inr h

theorem of_related {x : String} {ε ε' δ δ' : Env} {a a' : Expr} (h : ε.lookup? x = some ⟨a, δ⟩)
    (h' : ε'.lookup? x = some ⟨a', δ'⟩) (hr : C.Related C.Agree a δ a' δ') : C.Agree x ε ε' := by
  refine of_matched ?_
  simpa only [Matched, h, h'] using hr

theorem congr {x : String} {ε ε' δ δ' : Env} (h : ε.lookup? x = δ.lookup? x)
    (h' : ε'.lookup? x = δ'.lookup? x) (hx : C.Agree x δ δ') : C.Agree x ε ε' := by
  refine of_matched ?_
  have := hx.matched
  simpa only [Matched, h, h'] using this

end Agree

variable {σ : Substitution} {ε ε' outer outer' scope scope' : Env} {i j : Nat} {x : String}

theorem named_congr (h : ε.lookup? x = outer.lookup? x) (h' : ε'.lookup? x = outer'.lookup? x)
    (hx : Named C.Agree σ x outer outer') : Named C.Agree σ x ε ε' := by
  unfold Named at hx ⊢
  split at hx
  · rwa [h]
  · exact hx.congr h h'

theorem named_bind {bs bs' : List (String × Expr)}
    (hbs : Option.Rel (fun a a' => C.Related C.Agree a scope a' scope') (bs.lookup x)
      (bs'.lookup x))
    (hout : x ∉ bs.map Prod.fst → Named C.Agree σ x outer outer') :
    Named C.Agree (σ.without (bs.map Prod.fst)) x (.bind i bs scope outer)
      (.bind j bs' scope' outer') := by
  -- The name is bound in both frames or in neither.
  generalize hb : bs.lookup x = b, hb' : bs'.lookup x = b' at hbs
  cases hbs with
  | none =>
    have hx : x ∉ bs.map Prod.fst := lookup_eq_none_iff_notMem.1 hb
    have h : Env.lookup? x (.bind i bs scope outer) = outer.lookup? x := by simp [Env.lookup?, hb]
    have h' : Env.lookup? x (.bind j bs' scope' outer') = outer'.lookup? x := by
      simp [Env.lookup?, hb']
    have := named_congr h h' (hout hx)
    simpa only [Named, Substitution.lookup_without, if_neg hx] using this
  | some h =>
    have hx : x ∈ bs.map Prod.fst := by
      by_contra hx
      rw [lookup_eq_none_iff_notMem.2 hx] at hb
      cases hb
    simpa only [Named, Substitution.lookup_without, if_pos hx] using
      Agree.of_related (Env.lookup?_bind_of_mem hb) (Env.lookup?_bind_of_mem hb') h

variable (ps : List (String × Lambda))

def substProcs (σ : Substitution) : List (String × Lambda) :=
  ps.map fun p => (p.1, p.2.subst (σ.without (ps.map Prod.fst)))

theorem lookup_substProcs (σ : Substitution) (x : String) : (substProcs ps σ).lookup x =
    (ps.lookup x).map (Lambda.subst (σ.without (ps.map Prod.fst))) :=
  lookup_map_snd _ ps x

theorem named_bindRec (hx : x ∉ ps.map Prod.fst) (hout : Named C.Agree σ x outer outer') :
    Named C.Agree (σ.without (ps.map Prod.fst)) x (.bindRec i ps outer)
      (.bindRec j (substProcs ps σ) outer') := by
  have hnone : ps.lookup x = none := lookup_eq_none_iff_notMem.2 hx
  have h : Env.lookup? x (.bindRec i ps outer) = outer.lookup? x := by
    simp [Env.lookup?, hnone]
  have h' : Env.lookup? x (.bindRec j (substProcs ps σ) outer') = outer'.lookup? x := by
    simp [Env.lookup?, lookup_substProcs, hnone]
  have := named_congr h h' hout
  simpa only [Named, Substitution.lookup_without, if_neg hx] using this

theorem agree_bindRec (hσ : ∀ b ∈ σ, C.replaced b.1 b.2) (hij : C.frame i j)
    (hconst : ∀ p ∈ ps, ∀ v ∈ p.2.constants, C.constant v)
    (hfree : ∀ p ∈ ps, ∀ y ∈ p.2.free, y ∉ ps.map Prod.fst → Named C.Agree σ y outer outer')
    (hx : x ∈ ps.map Prod.fst) :
    C.Agree x (.bindRec i ps outer) (.bindRec j (substProcs ps σ) outer') := by
  -- The frame contains itself by its procedures, so agreement is shown of all its names at once.
  refine Agree.coinduct (R := fun y δ δ' => y ∈ ps.map Prod.fst ∧ δ = .bindRec i ps outer ∧
    δ' = .bindRec j (substProcs ps σ) outer') ?_ ⟨hx, rfl, rfl⟩
  intro y δ δ' hrel
  rcases hrel with ⟨hy, rfl, rfl⟩
  cases hb : ps.lookup y with
  | none => exact absurd hy (lookup_eq_none_iff_notMem.1 hb)
  | some p =>
    have hb' : (substProcs ps σ).lookup y = some (p.subst (σ.without (ps.map Prod.fst))) := by
      rw [lookup_substProcs, hb, Option.map_some]
    have hmem : (y, p) ∈ ps := mem_of_lookup hb
    simp only [Matched, Env.lookup?_bindRec_of_mem hb, Env.lookup?_bindRec_of_mem hb']
    refine ⟨σ.without (ps.map Prod.fst), fun b hb => hσ b (Substitution.mem_of_mem_without hb),
      by rw [Expr.subst], fun v hv => hconst _ hmem v hv, hij, fun z hz => ?_⟩
    by_cases hzn : z ∈ ps.map Prod.fst
    · simp only [Named, Substitution.lookup_without, if_pos hzn]
      exact .inl ⟨hzn, trivial, trivial⟩
    · exact (named_bindRec ps hzn (hfree _ hmem z hz hzn)).mono fun _ _ _ => .inr

theorem named_frame (hσ : ∀ b ∈ σ, C.replaced b.1 b.2) (hij : C.frame i j)
    (hconst : ∀ p ∈ ps, ∀ v ∈ p.2.constants, C.constant v)
    (hfree : ∀ p ∈ ps, ∀ y ∈ p.2.free, y ∉ ps.map Prod.fst → Named C.Agree σ y outer outer')
    (hout : x ∉ ps.map Prod.fst → Named C.Agree σ x outer outer') :
    Named C.Agree (σ.without (ps.map Prod.fst)) x (.bindRec i ps outer)
      (.bindRec j (substProcs ps σ) outer') := by
  by_cases hx : x ∈ ps.map Prod.fst
  · simpa only [Named, Substitution.lookup_without, if_pos hx] using
      agree_bindRec ps hσ hij hconst hfree hx
  · exact named_bindRec ps hx (hout hx)

end Correspondence

end CallByName
