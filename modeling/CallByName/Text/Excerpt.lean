import CallByName.Text.Utf8

/-! Excerpts of a text around a position, on one line. -/

namespace CallByName.Text

def cutMark : List Char := ['[', '.', '.', '.', ']']

def onOneLine (cs : List Char) : List Char :=
  cs.flatMap fun c => if c = '\n' then ['\\', 'n'] else if c = '\r' then [] else [c]

/-- At most a hundred characters from twenty before the position on. A cut at the start is seen
from the number of characters before it; a cut at the end is taken to be there while that number
and the excerpt's length in UTF-8 stay together below the length of the text in UTF-8. -/
def excerpt (text : List Char) (offset : Nat) : List Char :=
  let start := offset - 20
  let shown := (text.drop start).take 100
  let before := if 0 < start then cutMark else []
  let after := if start + utf8Length shown < utf8Length text then cutMark else []
  onOneLine (before ++ shown ++ after)

end CallByName.Text
