/-! String literals: the characters between two quotation marks, with a backslash before the five
that are not written as they are. -/

namespace CallByName.Text.Quoted

def escape (c : Char) : List Char :=
  match c with
  | '"' => ['\\', '"']
  | '\\' => ['\\', '\\']
  | '\n' => ['\\', 'n']
  | '\t' => ['\\', 't']
  | '\r' => ['\\', 'r']
  | c => [c]

def unescape? (c : Char) : Option Char :=
  match c with
  | 'n' => some '\n'
  | 't' => some '\t'
  | 'r' => some '\r'
  | '\\' => some '\\'
  | '"' => some '"'
  | _ => none

def encode (cs : List Char) : List Char := '"' :: cs.flatMap escape ++ ['"']

def text (s : String) : String := String.ofList (encode s.toList)

theorem escape_cases (c : Char) :
    (escape c = [c] ∧ c ≠ '"' ∧ c ≠ '\\') ∨ ∃ e, escape c = ['\\', e] ∧ unescape? e = some c := by
  unfold escape
  split
  · exact .inr ⟨'"', rfl, rfl⟩
  · exact .inr ⟨'\\', rfl, rfl⟩
  · exact .inr ⟨'n', rfl, rfl⟩
  · exact .inr ⟨'t', rfl, rfl⟩
  · exact .inr ⟨'r', rfl, rfl⟩
  · exact .inl ⟨rfl, by assumption, by assumption⟩

end CallByName.Text.Quoted
