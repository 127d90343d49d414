import CallByName.Proofs.Likeness

/-! Equality of values is likeness of values whose closures come from the same lambda, with the same
parameters, over the same frame. So equal values cannot be told apart by how they are printed, by
their types or by their items, and `eq?` is `equal?` for what is neither a pair nor a closure. -/

namespace CallByName

open List (Forall₂)

namespace Value

namespace Like

variable {C : Lambda → Env → Lambda → Env → Prop} {ops : Prim → Prop} {u v w : Value}

theorem imp {C' : Lambda → Env → Lambda → Env → Prop}
    (hC : ∀ p ε q δ, C p ε q δ → C' p ε q δ) (h : Like C ops v w) : Like C' ops v w := by
  induction h with
  | num n => exact .num n
  | bool b => exact .bool b
  | str s => exact .str s
  | sym x => exact .sym x
  | nil => exact .nil
  | pair _ _ iha ihd => exact .pair iha ihd
  | prim h => exact .prim h
  | closure h => exact .closure (hC _ _ _ _ h)

theorem trans (hC : ∀ p ε q δ r ρ, C p ε q δ → C q δ r ρ → C p ε r ρ) (h : Like C ops u v)
    (h' : Like C ops v w) : Like C ops u w := by
  induction h generalizing w with
  | pair _ _ iha ihd =>
    cases h' with
    | pair ha hd => exact .pair (iha ha) (ihd hd)
  | closure h =>
    cases h' with
    | closure h' => exact .closure (hC _ _ _ _ _ _ h h')
  | _ => exact h'

theorem typeName_eq (h : Like C ops v w) : v.typeName = w.typeName := by cases h <;> rfl

theorem toList? (h : Like C ops v w) : Option.Rel (Forall₂ (Like C ops)) v.toList? w.toList? := by
  induction h with
  | nil => exact .some .nil
  | @pair a d a' d' ha _ _ ih =>
    simp only [Value.toList?]
    generalize d.toList? = items, d'.toList? = items' at ih
    cases ih with
    | none => exact .none
    | some h => exact .some (.cons ha h)
  | _ => exact .none

end Like

def SameProcedure (p : Lambda) (ε : Env) (q : Lambda) (δ : Env) : Prop :=
  p.site = q.site ∧ p.params = q.params ∧ ε.frame = δ.frame

theorem beq_iff_like {v w : Value} : v == w ↔ Like SameProcedure (fun _ => True) v w := by
  constructor
  · intro h
    change v.beq w = true at h
    fun_induction Value.beq v w with
    | case1 m n => exact eq_of_beq h ▸ .num m
    | case2 a b => exact eq_of_beq h ▸ .bool a
    | case3 s t => exact eq_of_beq h ▸ .str s
    | case4 x y => exact eq_of_beq h ▸ .sym x
    | case5 => exact .nil
    | case6 a d a' d' iha ihd =>
      obtain ⟨ha, hd⟩ := Bool.and_eq_true_iff.1 h
      exact .pair (iha ha) (ihd hd)
    | case7 op op' => exact eq_of_beq h ▸ .prim trivial
    | case8 p ε q δ =>
      simp only [Bool.and_eq_true_iff, beq_iff_eq, and_assoc] at h
      exact .closure h
    | case9 => cases h
  · intro h
    induction h with
    | num n => exact beq_self_eq_true n
    | bool b => exact beq_self_eq_true b
    | str s => exact beq_self_eq_true s
    | sym x => exact beq_self_eq_true x
    | nil => rfl
    | pair _ _ iha ihd => exact Bool.and_eq_true_iff.2 ⟨iha, ihd⟩
    | @prim op _ => exact beq_self_eq_true op
    | @closure p q ε δ h =>
      change (p.site == q.site && p.params == q.params && ε.frame == δ.frame) = true
      simp only [Bool.and_eq_true_iff, beq_iff_eq, and_assoc]
      exact h

theorem beq_self (v : Value) : v.beq v = true :=
  beq_iff_like.2 (.refl_of v (fun _ _ => ⟨rfl, rfl, rfl⟩) fun _ _ => trivial)

instance : EquivBEq Value where
  rfl := beq_self _
  symm h := by
    refine beq_iff_like.2 ((beq_iff_like.1 h).flip.imp ?_)
    rintro p ε q δ ⟨hsite, hparams, hframe⟩
    exact ⟨hsite.symm, hparams.symm, hframe.symm⟩
  trans h h' := by
    refine beq_iff_like.2 ((beq_iff_like.1 h).trans ?_ (beq_iff_like.1 h'))
    rintro p ε q δ r ρ ⟨hsite, hparams, hframe⟩ ⟨hsite', hparams', hframe'⟩
    exact ⟨hsite.trans hsite', hparams.trans hparams', hframe.trans hframe'⟩

section

variable {v w : Value}

theorem text_eq_of_beq (h : v == w) : v.text = w.text :=
  ((beq_iff_like.1 h).texts_eq fun _ _ _ _ hC => hC.2.1).1

theorem typeName_eq_of_beq (h : v == w) : v.typeName = w.typeName := (beq_iff_like.1 h).typeName_eq

theorem toList?_of_beq (h : v == w) :
    Option.Rel (Forall₂ fun a b => a == b) v.toList? w.toList? := by
  simpa only [beq_iff_like] using (beq_iff_like.1 h).toList?

theorem isSameAtom_pair (a d w : Value) : (pair a d).isSameAtom w = false := by cases w <;> rfl

theorem isSameAtom_closure (p : Lambda) (ε : Env) (w : Value) :
    (closure p ε).isSameAtom w = false := by
  cases w <;> rfl

theorem isSameAtom_eq_beq (hpair : ∀ a d, v ≠ .pair a d) (hclosure : ∀ p ε, v ≠ .closure p ε) :
    v.isSameAtom w = (v == w) := by
  cases v with
  | pair a d => exact absurd rfl (hpair a d)
  | closure p ε => exact absurd rfl (hclosure p ε)
  | _ => cases w <;> rfl

theorem isSameAtom_iff : v.isSameAtom w ↔
    v == w ∧ (∀ a d, v ≠ .pair a d) ∧ ∀ p ε, v ≠ .closure p ε := by
  constructor
  · intro h
    have hpair : ∀ a d, v ≠ .pair a d := by
      rintro a d rfl
      rw [isSameAtom_pair] at h
      cases h
    have hclosure : ∀ p ε, v ≠ .closure p ε := by
      rintro p ε rfl
      rw [isSameAtom_closure] at h
      cases h
    exact ⟨isSameAtom_eq_beq hpair hclosure ▸ h, hpair, hclosure⟩
  · rintro ⟨h, hpair, hclosure⟩
    rwa [isSameAtom_eq_beq hpair hclosure]

end

end Value

open Value

theorem apply_equal (v w : Value) : Prim.equal.apply [v, w] = .ok (.bool (v == w)) := rfl

theorem apply_eq (v w : Value) : Prim.eq.apply [v, w] = .ok (.bool (v.isSameAtom w)) := rfl

theorem apply_eq_eq_true_iff {v w : Value} : Prim.eq.apply [v, w] = .ok (.bool true) ↔
    v == w ∧ (∀ a d, v ≠ .pair a d) ∧ ∀ p ε, v ≠ .closure p ε := by
  rw [apply_eq, Except.ok.injEq, Value.bool.injEq]
  exact isSameAtom_iff

theorem pair_or_closure_of_apply_ne {v w : Value}
    (h : Prim.eq.apply [v, w] ≠ Prim.equal.apply [v, w]) : v == w ∧
      ((∃ a d a' d', v = .pair a d ∧ w = .pair a' d') ∨
        ∃ p ε q δ, v = .closure p ε ∧ w = .closure q δ) := by
  rw [apply_eq, apply_equal, Ne, Except.ok.injEq, Value.bool.injEq] at h
  have hequal : v == w := by
    by_contra hne
    have hdifferent : v.isSameAtom w = false :=
      Bool.eq_false_iff.2 fun hsame => hne (isSameAtom_iff.1 hsame).1
    exact h (hdifferent.trans (Bool.eq_false_iff.2 hne).symm)
  refine ⟨hequal, ?_⟩
  cases beq_iff_like.1 hequal with
  | @pair a d a' d' _ _ => exact .inl ⟨a, d, a', d', rfl, rfl⟩
  | @closure p q ε δ _ => exact .inr ⟨p, ε, q, δ, rfl, rfl⟩
  | _ => exact absurd rfl h

/-- Equality of values is an equivalence that implies equality of all that is seen of them: their
texts, their types and their items. `equal?` asks for it, and `eq?` does so for what is neither a
pair nor a closure, and says no to these. -/
theorem equality_sound :
    ((∀ v : Value, v == v) ∧ (∀ v w : Value, v == w → w == v) ∧
        ∀ u v w : Value, u == v → v == w → u == w) ∧
      (∀ v w : Value, v == w → v.text = w.text ∧ v.typeName = w.typeName ∧
        Option.Rel (Forall₂ fun a b => a == b) v.toList? w.toList?) ∧
      ∀ v w : Value, Prim.equal.apply [v, w] = .ok (.bool (v == w)) ∧
        (Prim.eq.apply [v, w] = .ok (.bool true) ↔
          v == w ∧ (∀ a d, v ≠ .pair a d) ∧ ∀ p ε, v ≠ .closure p ε) ∧
        (Prim.eq.apply [v, w] = .ok (.bool true) → Prim.equal.apply [v, w] = .ok (.bool true)) ∧
        (Prim.eq.apply [v, w] ≠ Prim.equal.apply [v, w] →
          (∃ a d a' d', v = .pair a d ∧ w = .pair a' d') ∨
            ∃ p ε q δ, v = .closure p ε ∧ w = .closure q δ) := by
  refine ⟨⟨fun _ => BEq.rfl, fun _ _ => BEq.symm, fun _ _ _ => BEq.trans⟩, fun v w h => ?_,
    fun v w => ?_⟩
  · exact ⟨text_eq_of_beq h, typeName_eq_of_beq h, toList?_of_beq h⟩
  · refine ⟨apply_equal v w, apply_eq_eq_true_iff, fun h => ?_, fun h => ?_⟩
    · rw [apply_equal, (apply_eq_eq_true_iff.1 h).1]
    · exact (pair_or_closure_of_apply_ne h).2

theorem equality_sound_of_lists :
    let proc (body : List Expr) : Lambda := .mk [2, 0] ["x", "y"] body
    let env (scope : Env) : Env := .bind 3 [("z", .num 1)] scope .empty
    let v : Value := .ofList [.closure (proc [.var "z"]) (env .empty), .prim .equal]
    let w : Value := .ofList [.closure (proc [.var "x"]) (env (env .empty)), .prim .equal]
    v == w ∧ v.text = "(#<closure (x y)> #<primitive:equal?>)" ∧ v.text = w.text ∧
      Prim.eq.apply [v, w] = .ok (.bool false) ∧ Prim.equal.apply [w, v] = .ok (.bool true) := by
  intro proc env v w
  obtain ⟨⟨-, hsymm, -⟩, hseen, hoperators⟩ := equality_sound
  have h : v == w := rfl
  refine ⟨h, by decide, (hseen v w h).1, ?_, ?_⟩
  · rfl
  · rw [(hoperators w v).1, hsymm v w h]

end CallByName
