/-! The seven reserved words. Each introduces a special form, and none is ever a variable. -/

namespace CallByName

inductive Keyword
  | define
  | lambda
  | cond
  | letIn
  | letRec
  | assign
  | quote
  deriving DecidableEq, Repr

namespace Keyword

def all : List Keyword := [define, lambda, cond, letIn, letRec, assign, quote]

def name : Keyword → String
  | define => "define"
  | lambda => "lambda"
  | cond => "if"
  | letIn => "let"
  | letRec => "letrec"
  | assign => "set!"
  | quote => "quote"

def ofName? (s : String) : Option Keyword := all.find? (·.name == s)

theorem ofName?_name (k : Keyword) : ofName? k.name = some k := by cases k <;> decide

theorem name_of_ofName? {s : String} {k : Keyword} (h : ofName? s = some k) : k.name = s := by
  simpa using List.find?_some h

end Keyword

end CallByName
