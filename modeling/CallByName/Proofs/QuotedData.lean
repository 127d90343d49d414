import CallByName.Program
import CallByName.Proofs.RoundTrip

/-! Quoted data. The text of a value made of data, behind a quote mark, is an expression for that
value. -/

namespace CallByName

variable {v : Value}

theorem Expr.ofSource_quote (hv : v.IsData) (hfits : v.datum.FitsAt 1) (comments : Bool)
    (base : Nat) : ofSource comments base ("'" ++ v.text) = .ok (.quote v) := by
  have hspells : Grammar.Spells 0 ("'" ++ v.text) (.list [Keyword.quote.datum, v.datum]) :=
    Grammar.spells_quote (v.spells_text hv hfits) (Nat.zero_le 63)
  have hbuilds : Builds [base] .sequence (.list [Keyword.quote.datum, v.datum])
      (.quote v.datum.toValue) := .quote
  rw [v.toValue_datum hv] at hbuilds
  exact ofSource_eq_ok_iff.2 ⟨_, readOne_eq_ok_iff.2 (readAll_of_spells hspells comments), hbuilds⟩

theorem run_evalProgram_quote (v : Value) {fuel : Nat} (hfuel : 0 < fuel) (m : Meter) :
    (evalProgram none fuel [.quote v]).run m = some (.ok v, m) := by
  cases fuel with
  | zero => exact absurd hfuel (Nat.lt_irrefl 0)
  | succ fuel => rfl

/-- A value made of numbers, booleans, strings, symbols and proper lists survives being written
behind a quote mark and evaluated, unless something in it then lies too deep: what comes back is the
value itself, which equals itself, and no reference is followed for it. -/
theorem quoted_data_evaluates_back (hv : v.IsData) (hfits : v.datum.FitsAt 1) (base : Nat)
    {fuel : Nat} (hfuel : 0 < fuel) (m : Meter) :
    ∃ w, (evalSource fuel base ("'" ++ v.text)).run m = some (.ok w, m) ∧ w = v ∧
      (w == v) = true ∧ w.text = v.text := by
  refine ⟨v, ?_, rfl, v.beq_self, rfl⟩
  rw [evalSource, Expr.ofSource_quote hv hfits]
  exact run_evalProgram_quote v hfuel m

theorem quoted_data_evaluates_back_list :
    ∃ w, (evalSource 1 0 ("'" ++ (Value.ofList [.sym ".", .str "; \"",
        .ofList [.sym "quote", .sym "x"]]).text)).run ⟨0, 0⟩ = some (.ok w, ⟨0, 0⟩) ∧
      (w == Value.ofList [.sym ".", .str "; \"", .ofList [.sym "quote", .sym "x"]]) = true := by
  have hdot : (Value.sym ".").IsData := (by decide : isSymbol ".".toList = true)
  have hquoted : (Value.ofList [.sym "quote", .sym "x"]).IsData :=
    ⟨(by decide : isSymbol "quote".toList = true),
      ⟨(by decide : isSymbol "x".toList = true), trivial, rfl⟩, rfl⟩
  have hv : (Value.ofList [.sym ".", .str "; \"", .ofList [.sym "quote", .sym "x"]]).IsData :=
    ⟨hdot, ⟨trivial, ⟨hquoted, trivial, rfl⟩, rfl⟩, rfl⟩
  have hfits : (Value.ofList [.sym ".", .str "; \"",
      .ofList [.sym "quote", .sym "x"]]).datum.FitsAt 1 := by
    simp [Value.datum, Value.items, Value.ofList, Datum.FitsAt, Datum.AllFitAt]
  obtain ⟨w, hrun, -, hsame, -⟩ := quoted_data_evaluates_back hv hfits 0 Nat.one_pos ⟨0, 0⟩
  exact ⟨w, hrun, hsame⟩

end CallByName
