import CallByName.Text.Excerpt

/-! Reports on text that is no program: what is wrong, what was found there, and the text around
it. -/

namespace CallByName

inductive SyntaxErrorKind
  | invalid
  | incomplete
  | tooDeep
  | trailing
  | malformed
  deriving DecidableEq, Repr

structure SyntaxError where
  kind : SyntaxErrorKind
  message : String
  context : Option String
  found : Option String
  deriving DecidableEq, Repr

namespace SyntaxError

def inContext (kind : SyntaxErrorKind) (message : String) (input : List Char) (offset : Nat)
    (found : Option String) : SyntaxError :=
  ⟨kind, message, some (String.ofList (Text.excerpt input offset)), found⟩

def text (e : SyntaxError) : String :=
  e.message ++ (e.found.elim "" ("\nFound: " ++ ·)) ++ (e.context.elim "" ("\nContext: " ++ ·))

end SyntaxError

end CallByName
