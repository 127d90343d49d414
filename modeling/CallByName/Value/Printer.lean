import CallByName.Text.Quoted
import CallByName.Value.Basic

/-! The text of a value. A chain of pairs is written as one list, with a dot before a last item
that is not the empty list. -/

namespace CallByName

def boolText (b : Bool) : String := if b then "#t" else "#f"

namespace Value

def atomText : Value → String
  | num n => Number.text n
  | bool b => boolText b
  | str s => Text.Quoted.text s
  | sym x => x
  | nil => "()"
  | pair .. => ""
  | prim op => "#<primitive:" ++ op.name ++ ">"
  | closure proc _ => "#<closure (" ++ " ".intercalate proc.params ++ ")>"

mutual

def text : Value → String
  | pair car cdr => "(" ++ car.text ++ cdr.tailText ++ ")"
  | v => v.atomText

def tailText : Value → String
  | nil => ""
  | pair car cdr => " " ++ car.text ++ cdr.tailText
  | v => " . " ++ v.atomText

end

end Value

end CallByName
