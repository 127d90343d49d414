import CallByName.Value.Printer

/-! The text of an expression, in the language's own notation. Symbols, pairs and the empty list
are written behind a quote mark. -/

namespace CallByName

def Value.quotedText : Value → String
  | .sym x => "'" ++ x
  | .nil => "'()"
  | .pair car cdr => "'" ++ (Value.pair car cdr).text
  | v => v.text

mutual

def Expr.text : Expr → String
  | .num n => Number.text n
  | .bool b => boolText b
  | .str s => Text.Quoted.text s
  | .prim op => op.name
  | .var x => x
  | .cond test yes no => "(if " ++ test.text ++ " " ++ yes.text ++ " " ++ no.text ++ ")"
  | .lambda proc => proc.text
  | .app rator rands => "(" ++ " ".intercalate (rator.text :: Expr.texts rands) ++ ")"
  | .letIn bindings body =>
    "(let (" ++ " ".intercalate (Expr.bindingTexts bindings) ++ ") " ++
      " ".intercalate (Expr.texts body) ++ ")"
  | .letRec bindings body =>
    "(letrec (" ++ " ".intercalate (Expr.bindingTexts bindings) ++ ") " ++
      " ".intercalate (Expr.texts body) ++ ")"
  | .assign x value => "(set! " ++ x ++ " " ++ value.text ++ ")"
  | .quote v => v.quotedText
  | .define x value => "(define " ++ x ++ " " ++ value.text ++ ")"

def Lambda.text : Lambda → String
  | .mk _ params body =>
    "(lambda (" ++ " ".intercalate params ++ ") " ++ " ".intercalate (Expr.texts body) ++ ")"

def Expr.texts : List Expr → List String
  | [] => []
  | e :: es => e.text :: Expr.texts es

def Expr.bindingTexts : List (String × Expr) → List String
  | [] => []
  | (x, e) :: bindings => ("(" ++ x ++ " " ++ e.text ++ ")") :: Expr.bindingTexts bindings

end

theorem Expr.texts_eq_map (es : List Expr) : Expr.texts es = es.map Expr.text := by
  induction es with
  | nil => rfl
  | cons e es ih => simp [Expr.texts, ih]

end CallByName
