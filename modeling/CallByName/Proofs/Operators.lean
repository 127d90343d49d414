import CallByName.Proofs.Likeness

/-! Operators on alike operands. The result is alike or the error the same, and an error is one of
type or of evaluation, or of arity where the operator does not take as many operands. -/

namespace CallByName

open List (Forall₂)

def FailsOnly {ε α : Type} (P : ε → Prop) (x : Except ε α) : Prop := ∀ e, x = .error e → P e

namespace FailsOnly

variable {ε α β : Type} {P Q : ε → Prop}

theorem imp {x : Except ε α} (h : ∀ e, P e → Q e) (hx : FailsOnly P x) : FailsOnly Q x :=
  fun e he => h e (hx e he)

theorem ok (a : α) : FailsOnly P (.ok a) := fun _ h => by cases h

theorem error {e : ε} (h : P e) : FailsOnly P (.error e : Except ε α) := by
  intro _ heq
  cases heq
  exact h

theorem bind {x : Except ε α} {f : α → Except ε β} (hx : FailsOnly P x)
    (hf : ∀ a, FailsOnly P (f a)) : FailsOnly P (x >>= f) := by
  cases x with
  | error e => exact .error (hx e rfl)
  | ok a => exact hf a

theorem mapError {δ : Type} {x : Except ε α} (hx : FailsOnly P x) (f : ε → δ) :
    FailsOnly (fun d => ∃ e, P e ∧ f e = d) (x.mapError f) := by
  cases x with
  | error e => exact .error ⟨e, hx e rfl, rfl⟩
  | ok a => exact .ok a

theorem mapM {f : α → Except ε β} (hf : ∀ a, FailsOnly P (f a)) (as : List α) :
    FailsOnly P (as.mapM f) := by
  induction as with
  | nil => exact ok []
  | cons a as ih =>
    rw [List.mapM_cons]
    exact (hf a).bind fun b => ih.bind fun bs => ok (b :: bs)

theorem foldlM {f : β → α → Except ε β} (hf : ∀ b a, FailsOnly P (f b a)) (as : List α)
    (b : β) : FailsOnly P (as.foldlM f b) := by
  induction as generalizing b with
  | nil => exact ok b
  | cons a as ih =>
    rw [List.foldlM_cons]
    exact (hf b a).bind ih

end FailsOnly

def Error.IsOfOperands (e : Error) : Prop := e.kind = .wrongType ∨ e.kind = .failed

def Error.IsOperational (e : Error) : Prop :=
  e.kind = .wrongType ∨ e.kind = .failed ∨ e.kind = .wrongArity

namespace Prim

theorem failsOnly_asNumber (v : Value) : FailsOnly Error.IsOfOperands v.asNumber := by
  cases v with
  | num n => exact .ok n
  | _ => exact .error (.inl rfl)

theorem failsOnly_asBoolean (v : Value) : FailsOnly Error.IsOfOperands v.asBoolean := by
  cases v with
  | bool b => exact .ok b
  | _ => exact .error (.inl rfl)

theorem failsOnly_asString (v : Value) : FailsOnly Error.IsOfOperands v.asString := by
  cases v with
  | str s => exact .ok s
  | _ => exact .error (.inl rfl)

theorem failsOnly_elim {e : Error} (he : e.kind = .failed) (n : Option Number) :
    FailsOnly Error.IsOfOperands (n.elim (.error e) .ok) := by
  cases n with
  | none => exact .error (.inr he)
  | some n => exact .ok n

theorem failsOnly_divStep (a b : Number) : FailsOnly Error.IsOfOperands (divStep a b) := by
  unfold divStep
  split
  · exact .error (.inr rfl)
  · exact failsOnly_elim rfl _

theorem failsOnly_difference (n : Number) (ns : List Number) :
    FailsOnly Error.IsOfOperands (difference (n :: ns)) := by
  cases ns with
  | nil => exact failsOnly_elim rfl _
  | cons m ns => exact .foldlM (fun a b => failsOnly_elim rfl _) _ _

theorem failsOnly_quotient (n : Number) (ns : List Number) :
    FailsOnly Error.IsOfOperands (quotient (n :: ns)) := by
  cases ns with
  | nil => exact failsOnly_divStep _ _
  | cons m ns => exact .foldlM failsOnly_divStep _ _

theorem failsOnly_unary {f : Value → Except Error Value}
    (hf : ∀ v, FailsOnly Error.IsOfOperands (f v)) {vs : List Value} (h : vs.length = 1) :
    FailsOnly Error.IsOfOperands (unary f vs) := by
  obtain ⟨v, rfl⟩ := List.length_eq_one_iff.1 h
  exact hf v

theorem failsOnly_binary {f : Value → Value → Except Error Value}
    (hf : ∀ v w, FailsOnly Error.IsOfOperands (f v w)) {vs : List Value} (h : vs.length = 2) :
    FailsOnly Error.IsOfOperands (binary f vs) := by
  obtain ⟨v, w, rfl⟩ := List.length_eq_two.1 h
  exact hf v w

theorem failsOnly_run {op : Prim} {vs : List Value} (h : op.arity.Accepts vs.length) :
    FailsOnly Error.IsOfOperands (op.run vs) := by
  have hnum (vs : List Value) := FailsOnly.mapM failsOnly_asNumber vs
  have hcompare (related) : FailsOnly Error.IsOfOperands (compare related vs) :=
    (hnum vs).bind fun ns => .ok _
  cases op with
  | add | mul =>
    exact (hnum vs).bind fun ns =>
      (FailsOnly.foldlM (fun a b => failsOnly_elim rfl _) ns _).bind fun n => .ok _
  | sub =>
    obtain ⟨v, vs, rfl⟩ := List.exists_cons_of_length_pos h
    simp only [run, List.mapM_cons, bind_assoc, pure_bind]
    exact (failsOnly_asNumber v).bind fun n => (hnum vs).bind fun ns =>
      (failsOnly_difference n ns).bind fun r => .ok _
  | div =>
    obtain ⟨v, vs, rfl⟩ := List.exists_cons_of_length_pos h
    simp only [run, List.mapM_cons, bind_assoc, pure_bind]
    exact (failsOnly_asNumber v).bind fun n => (hnum vs).bind fun ns =>
      (failsOnly_quotient n ns).bind fun r => .ok _
  | numEq | lt | gt | le | ge => exact hcompare _
  | not => exact failsOnly_unary (fun v => (failsOnly_asBoolean v).bind fun b => .ok _) h
  | and | or => exact (FailsOnly.mapM failsOnly_asBoolean vs).bind fun bs => .ok _
  | stringEq => exact (FailsOnly.mapM failsOnly_asString vs).bind fun ss => .ok _
  | eq | equal | cons => exact failsOnly_binary (fun v w => .ok _) h
  | car | cdr =>
    refine failsOnly_unary (fun v => ?_) h
    cases v with
    | pair a d => exact .ok _
    | _ => exact .error (.inr rfl)
  | list => exact .ok _
  | _ => exact failsOnly_unary (fun v => .ok _) h

theorem failsOnly_apply (op : Prim) (vs : List Value) :
    FailsOnly Error.IsOperational (op.apply vs) := by
  by_cases h : op.arity.Accepts vs.length
  · rw [apply_of_accepts h]
    exact (failsOnly_run h).imp fun e => Or.imp_right .inl
  · rw [apply_of_not_accepts h]
    exact .error (.inr (.inr rfl))

variable {C : Lambda → Env → Lambda → Env → Prop} {ops : Prim → Prop} {vs ws : List Value}

abbrev Agree (C : Lambda → Env → Lambda → Env → Prop) (ops : Prim → Prop) :
    Except Error Value → Except Error Value → Prop :=
  ResultLike (· = ·) (Value.Like C ops)

theorem mapM_eq {α : Type} {f : Value → Except Error α}
    (hf : ∀ v w, Value.Like C ops v w → f v = f w) (h : Forall₂ (Value.Like C ops) vs ws) :
    vs.mapM f = ws.mapM f := by
  induction h with
  | nil => rfl
  | cons h _ ih => simp only [List.mapM_cons, hf _ _ h, ih]

theorem agree_bind {α : Type} (x : Except Error α) {f : α → Except Error Value}
    (hf : ∀ a, Agree C ops (f a) (f a)) : Agree C ops (x >>= f) (x >>= f) := by
  cases x with
  | error e => exact .error rfl
  | ok a => exact hf a

theorem agree_unary {f : Value → Except Error Value}
    (hf : ∀ v w, Value.Like C ops v w → Agree C ops (f v) (f w))
    (h : Forall₂ (Value.Like C ops) vs ws) : Agree C ops (unary f vs) (unary f ws) := by
  cases h with
  | nil => exact .error rfl
  | cons h t =>
    cases t with
    | nil => exact hf _ _ h
    | cons _ t => exact .error (by simp [t.length_eq])

theorem agree_binary {f : Value → Value → Except Error Value}
    (hf : ∀ v w v' w', Value.Like C ops v w → Value.Like C ops v' w' →
      Agree C ops (f v v') (f w w'))
    (h : Forall₂ (Value.Like C ops) vs ws) : Agree C ops (binary f vs) (binary f ws) := by
  cases h with
  | nil => exact .error rfl
  | cons h t =>
    cases t with
    | nil => exact .error rfl
    | cons h' t =>
      cases t with
      | nil => exact hf _ _ _ _ h h'
      | cons _ t => exact .error (by simp [t.length_eq])

theorem agree_test {p : Value → Bool} (hp : ∀ v w, Value.Like C ops v w → p v = p w)
    (h : Forall₂ (Value.Like C ops) vs ws) : Agree C ops (test p vs) (test p ws) := by
  refine agree_unary (fun v w hv => ?_) h
  rw [hp v w hv]
  exact .ok (.bool _)

theorem agree_run {op : Prim} (hparams : ∀ p ε q δ, C p ε q δ → p.params = q.params)
    (hequal : op = .equal → ∀ v w v' w', Value.Like C ops v w → Value.Like C ops v' w' →
      v.beq v' = w.beq w')
    (h : Forall₂ (Value.Like C ops) vs ws) : Agree C ops (op.run vs) (op.run ws) := by
  have hnum := mapM_eq (fun _ _ => Value.Like.asNumber_eq) h
  have hbool := mapM_eq (fun _ _ => Value.Like.asBoolean_eq) h
  have hstr := mapM_eq (fun _ _ => Value.Like.asString_eq) h
  have hcompare (related) : Agree C ops (compare related vs) (compare related ws) := by
    unfold compare
    rw [hnum]
    exact agree_bind _ fun ns => .ok (.bool _)
  cases op with
  | add | mul | sub | div =>
    simp only [run]
    rw [hnum]
    exact agree_bind _ fun ns => agree_bind _ fun n => .ok (.num n)
  | numEq | lt | gt | le | ge => exact hcompare _
  | not =>
    refine agree_unary (fun v w hv => ?_) h
    rw [hv.asBoolean_eq]
    exact agree_bind _ fun b => .ok (.bool _)
  | and | or =>
    simp only [run]
    rw [hbool]
    exact agree_bind _ fun bs => .ok (.bool _)
  | stringEq =>
    simp only [run]
    rw [hstr]
    exact agree_bind _ fun ss => .ok (.bool _)
  | eq =>
    refine agree_binary (fun v w v' w' hv hv' => ?_) h
    rw [hv.isSameAtom_eq hv']
    exact .ok (.bool _)
  | equal =>
    refine agree_binary (fun v w v' w' hv hv' => ?_) h
    have hbeq : (v == v') = (w == w') := hequal rfl v w v' w' hv hv'
    rw [hbeq]
    exact .ok (.bool _)
  | cons => exact agree_binary (fun _ _ _ _ hv hv' => .ok (.pair hv hv')) h
  | car | cdr =>
    refine agree_unary (fun v w hv => ?_) h
    have htext := (hv.texts_eq hparams).1
    cases hv with
    | pair ha hd => exact .ok (by assumption)
    | _ => exact .error (by rw [htext])
  | list => exact .ok (.ofList h)
  | isList => exact agree_test (fun _ _ => Value.Like.isList_eq) h
  | _ => exact agree_test (fun _ _ hv => by cases hv <;> rfl) h

theorem agree_apply {op : Prim} (hparams : ∀ p ε q δ, C p ε q δ → p.params = q.params)
    (hequal : op = .equal → ∀ v w v' w', Value.Like C ops v w → Value.Like C ops v' w' →
      v.beq v' = w.beq w')
    (h : Forall₂ (Value.Like C ops) vs ws) : Agree C ops (op.apply vs) (op.apply ws) := by
  unfold apply
  rw [h.length_eq]
  cases op.arity.check ws.length with
  | error e => exact .error rfl
  | ok u => exact agree_run hparams hequal h

end Prim

end CallByName
