import CallByName.Text.Alphanumeric

/-! Symbols: runs of letters, numerals and sixteen marks that cannot be taken for the start of a
decimal numeral. -/

namespace CallByName

def symbolMarks : List Char :=
  ['+', '-', '*', '/', '<', '>', '=', '!', '?', '_', '$', '%', '&', '^', '~', '.']

def isSymbolChar (c : Char) : Bool := Text.isAlphanumeric c || symbolMarks.contains c

def startsNumeral : List Char → Bool
  | '-' :: c :: _ => c.isDigit
  | c :: _ => c.isDigit
  | [] => false

def isSymbol (cs : List Char) : Bool :=
  !cs.isEmpty && !startsNumeral cs && cs.all isSymbolChar

theorem isSymbol_eq_true_iff {cs : List Char} :
    isSymbol cs = true ↔ cs ≠ [] ∧ startsNumeral cs = false ∧ ∀ c ∈ cs, isSymbolChar c = true := by
  simp [isSymbol, and_assoc]

end CallByName
