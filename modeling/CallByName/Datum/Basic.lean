import CallByName.Value.Printer

/-! Data as they are read, before any form is recognised, and the values they denote. -/

namespace CallByName

inductive Datum
  | num (n : Number)
  | bool (b : Bool)
  | str (s : String)
  | sym (name : String)
  | list (items : List Datum)

namespace Datum

instance : Inhabited Datum := ⟨.list []⟩

mutual

def text : Datum → String
  | num n => Number.text n
  | bool b => boolText b
  | str s => Text.Quoted.text s
  | sym x => x
  | list items => "(" ++ " ".intercalate (texts items) ++ ")"

def texts : List Datum → List String
  | [] => []
  | d :: ds => d.text :: texts ds

end

mutual

def toValue : Datum → Value
  | num n => .num n
  | bool b => .bool b
  | str s => .str s
  | sym x => .sym x
  | list items => .ofList (toValues items)

def toValues : List Datum → List Value
  | [] => []
  | d :: ds => d.toValue :: toValues ds

end

theorem texts_eq_map (ds : List Datum) : texts ds = ds.map text := by
  induction ds with
  | nil => rfl
  | cons d ds ih => simp [texts, ih]

end Datum

end CallByName
