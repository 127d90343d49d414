import CallByName.Proofs.Conversion
import CallByName.Proofs.Scope

/-! What the parser builds. The values that it quotes are made of data, so no closure is among
them, and what it builds as an operand is not a definition. -/

namespace CallByName

abbrev Plain (vs : List Value) : Prop := ∀ v ∈ vs, v.closures = []

theorem Value.closures_ofList {vs : List Value} (h : Plain vs) :
    (Value.ofList vs).closures = [] := by
  induction vs with
  | nil => rfl
  | cons v vs ih =>
    obtain ⟨hv, hvs⟩ := List.forall_mem_cons.1 h
    have happend : (ofList (v :: vs)).closures = v.closures ++ (ofList vs).closures := rfl
    rw [happend, hv, ih hvs, List.append_nil]

mutual

theorem Datum.closures_toValue : (d : Datum) → d.toValue.closures = []
  | .num _ | .bool _ | .str _ | .sym _ => rfl
  | .list ds => by
    rw [toValue]
    exact Value.closures_ofList (plain_toValues ds)

theorem Datum.plain_toValues : (ds : List Datum) → Plain (toValues ds)
  | [] => List.forall_mem_nil _
  | d :: ds => List.forall_mem_cons.2 ⟨closures_toValue d, plain_toValues ds⟩

end

mutual

theorem Builds.plain : {site : Site} → {position : Position} → {d : Datum} → {e : Expr} →
    Builds site position d e → Plain e.constants
  | _, _, _, _, .num | _, _, _, _, .bool | _, _, _, _, .str | _, _, _, _, .var _ =>
    List.forall_mem_nil _
  | _, _, _, _, .prim => List.forall_mem_singleton.2 rfl
  | _, _, _, _, .quote (d := d) => List.forall_mem_singleton.2 d.closures_toValue
  | _, _, _, _, .cond test yes no =>
    List.forall_mem_append.2 ⟨List.forall_mem_append.2 ⟨test.plain, yes.plain⟩, no.plain⟩
  | _, _, _, _, .letIn hbindings _ _ h | _, _, _, _, .letRec hbindings _ _ h =>
    List.forall_mem_append.2 ⟨hbindings.plain, h.plain⟩
  | _, _, _, _, .lambda _ _ h | _, _, _, _, .procedure _ _ _ h => h.plain
  | _, _, _, _, .assign _ h | _, _, _, _, .define _ h => h.plain
  | _, _, _, _, .app _ hrator hrands => List.forall_mem_append.2 ⟨hrator.plain, hrands.plain⟩

theorem BuildsAll.plain : {site : Site} → {position : Position} → {i : Nat} →
    {ds : List Datum} → {es : List Expr} → BuildsAll site position i ds es →
    Plain (Expr.constantsAll es)
  | _, _, _, _, _, .nil => List.forall_mem_nil _
  | _, _, _, _, _, .cons head tail => List.forall_mem_append.2 ⟨head.plain, tail.plain⟩

theorem BuildsBindings.plain : {site : Site} → {i : Nat} → {pairs : List Datum} →
    {bindings : List (String × Expr)} → BuildsBindings site i pairs bindings →
    Plain (Expr.constantsValues bindings)
  | _, _, _, _, .nil => List.forall_mem_nil _
  | _, _, _, _, .cons head tail => List.forall_mem_append.2 ⟨head.plain, tail.plain⟩

end

theorem Builds.defined_operand {site : Site} {d : Datum} {e : Expr}
    (h : Builds site .operand d e) : e.defined = [] := by
  cases h <;> rfl

theorem Program.plain_of_ofSource {comments : Bool} {base : Nat} {source : String}
    {forms : List Expr} (h : ofSource comments base source = .ok forms) :
    Plain (Expr.constantsAll forms) := by
  obtain ⟨ds, -, hforms⟩ := ofSource_eq_ok_iff.1 h
  exact (ofData_eq_ok_iff.1 hforms).plain

end CallByName
