/-! Comments run from a semicolon outside string literals to the end of the line. They are blanked
out, each character into as many spaces as it has bytes in UTF-8. -/

namespace CallByName.Comment

inductive Region
  | code
  | string
  | escape
  | comment
  deriving DecidableEq, Repr

def Region.next : Region → Char → Region
  | code, c => if c = ';' then comment else if c = '"' then string else code
  | string, c => if c = '\\' then escape else if c = '"' then code else string
  | escape, _ => string
  | comment, c => if c = '\n' then code else comment

def Region.keep : Region → Char → List Char
  | comment, c => if c = '\n' then [c] else List.replicate c.utf8Size ' '
  | code, c => if c = ';' then [' '] else [c]
  | _, c => [c]

def blankFrom : Region → List Char → List Char
  | _, [] => []
  | r, c :: cs => r.keep c ++ blankFrom (r.next c) cs

def Region.after (r : Region) (cs : List Char) : Region := cs.foldl next r

@[simp] theorem blankFrom_nil (r : Region) : blankFrom r [] = [] := by cases r <;> rfl

theorem blankFrom_append (r : Region) (cs ds : List Char) :
    blankFrom r (cs ++ ds) = blankFrom r cs ++ blankFrom (r.after cs) ds := by
  induction cs generalizing r with
  | nil => simp [Region.after]
  | cons c cs ih =>
    simp only [List.cons_append, blankFrom, ih, List.append_assoc]
    rfl

def blank (cs : List Char) : List Char := blankFrom .code cs

end CallByName.Comment
