import CallByName.Proofs.Operators

/-! The number of operands is checked twice, against the table of arities and by each operator on
its own. The two checks agree, but for the chained comparisons: these compare neighbours, and on
their own they find nothing to object to in fewer than two operands. -/

namespace CallByName

namespace Prim

theorem unary_of_length_ne {f : Value → Except Error Value} {vs : List Value}
    (h : vs.length ≠ 1) : unary f vs = .error (.arity 1 vs.length none) := by
  unfold unary
  split
  · exact absurd rfl h
  · rfl

theorem binary_of_length_ne {f : Value → Value → Except Error Value} {vs : List Value}
    (h : vs.length ≠ 2) : binary f vs = .error (.arity 2 vs.length none) := by
  unfold binary
  split
  · exact absurd rfl h
  · rfl

theorem apply_wrongArity_iff (op : Prim) (vs : List Value) :
    (∃ e, op.apply vs = .error e ∧ e.kind = .wrongArity) ↔ ¬ op.arity.Accepts vs.length := by
  constructor
  · rintro ⟨e, he, hkind⟩ h
    rw [apply_of_accepts h] at he
    rcases failsOnly_run h e he with htype | hfailed
    · cases htype.symm.trans hkind
    · cases hfailed.symm.trans hkind
  · exact fun h => ⟨_, apply_of_not_accepts h, rfl⟩

structure Comparand where
  fits : Value → Bool
  refusal : String → Error

def comparand? : Prim → Option Comparand
  | numEq | lt | gt | le | ge => some ⟨Value.isNumber, .notNumber⟩
  | stringEq => some ⟨Value.isString, .notString⟩
  | _ => none

theorem run_of_not_accepts {op : Prim} (hop : op.comparand? = none) {vs : List Value}
    (h : ¬ op.arity.Accepts vs.length) :
    op.run vs = .error (.arity op.arity.bound vs.length none) := by
  cases op with
  | numEq | lt | gt | le | ge | stringEq => cases hop
  | add | mul | and | or | list => exact absurd trivial h
  | sub | div =>
    obtain rfl : vs = [] := List.eq_nil_of_length_eq_zero (Nat.lt_one_iff.1 (Nat.not_le.1 h))
    rfl
  | eq | equal | cons => exact binary_of_length_ne h
  | _ => exact unary_of_length_ne h

section Comparand

variable {op : Prim} {c : Comparand} (hc : op.comparand? = some c)

include hc

theorem arity_of_comparand? : op.arity = .atLeast 2 := by
  cases op with
  | numEq | lt | gt | le | ge | stringEq => rfl
  | _ => cases hc

theorem kind_refusal (type : String) : (c.refusal type).kind = .wrongType := by
  cases op with
  | numEq | lt | gt | le | ge | stringEq =>
    cases hc
    rfl
  | _ => cases hc

theorem run_nil : op.run [] = .ok (.bool true) := by
  cases op with
  | numEq | lt | gt | le | ge | stringEq => rfl
  | _ => cases hc

theorem run_singleton (v : Value) :
    op.run [v] = if c.fits v then .ok (.bool true) else .error (c.refusal v.typeName) := by
  cases op with
  | numEq | lt | gt | le | ge | stringEq =>
    cases hc
    cases v <;> rfl
  | _ => cases hc

end Comparand

theorem run_eq_apply {op : Prim} {vs : List Value} (h : op.comparand? = none ∨ 2 ≤ vs.length) :
    op.run vs = op.apply vs := by
  by_cases harity : op.arity.Accepts vs.length
  · exact (apply_of_accepts harity).symm
  · cases hc : op.comparand? with
    | none => rw [run_of_not_accepts hc harity, apply_of_not_accepts harity]
    | some c =>
      have hlen : 2 ≤ vs.length := h.resolve_left (by simp [hc])
      exact absurd (by rwa [arity_of_comparand? hc]) harity

/-- The table of arities and the checks that the operators make on their own: what either has to
say about the number of operands. -/
theorem operand_counts_agree (op : Prim) (args : List Value) :
    ((∃ e, op.apply args = .error e ∧ e.kind = .wrongArity) ↔ ¬ op.arity.Accepts args.length) ∧
    (¬ op.arity.Accepts args.length →
      op.apply args = .error (.arity op.arity.bound args.length none)) ∧
    (op.comparand? = none ∨ 2 ≤ args.length → op.run args = op.apply args) ∧
    ∀ c, op.comparand? = some c → args.length < 2 →
      ((∀ v ∈ args, c.fits v) → op.run args = .ok (.bool true)) ∧
      ∀ v ∈ args, ¬ c.fits v → op.run args = .error (c.refusal v.typeName) ∧
        (c.refusal v.typeName).kind = .wrongType := by
  refine ⟨apply_wrongArity_iff op args, apply_of_not_accepts, run_eq_apply, fun c hc hlen => ?_⟩
  match args, hlen with
  | [], _ => exact ⟨fun _ => run_nil hc, nofun⟩
  | [v], _ =>
    simp only [List.mem_singleton, forall_eq, run_singleton hc]
    exact ⟨fun h => if_pos h, fun h => ⟨if_neg h, kind_refusal hc _⟩⟩

theorem operand_counts_agree_of_few_operands :
    car.apply [] = .error (.arity 1 0 none) ∧ car.run [] = car.apply [] ∧
    lt.apply [.num 1] = .error (.arity 2 1 none) ∧ lt.run [.num 1] = .ok (.bool true) ∧
    stringEq.run [.num 1] = .error (.notString "number") := by
  obtain ⟨-, hcar, hsame, -⟩ := operand_counts_agree car []
  obtain ⟨-, hlt, -, hnumber⟩ := operand_counts_agree lt [.num 1]
  obtain ⟨-, -, -, hstring⟩ := operand_counts_agree stringEq [.num 1]
  refine ⟨hcar (by decide), hsame (.inl rfl), hlt (by decide), ?_, ?_⟩
  · exact (hnumber _ rfl (by decide)).1 (by simp [Value.isNumber])
  · exact ((hstring _ rfl (by decide)).2 _ (.head _) (by simp [Value.isString])).1

end Prim

end CallByName
