import CallByName.Comment
import CallByName.Datum.Scan
import CallByName.SyntaxError

/-! The data of a text, all of them or exactly one, and the reports on texts that have none such.
-/

namespace CallByName

/-- The report on a fault. Nothing but blanks from the fault on means that the text is not
complete. -/
def Fault.report (fault : Fault) (text : List Char) : SyntaxError :=
  let rest := text.drop fault.offset
  let near := String.ofList (rest.take 10)
  if fault.cause = .tooDeep then
    .inContext .tooDeep ("Expression too deeply nested (max depth: " ++ Nat.repr maxNesting ++ ")")
      text fault.offset none
  else if rest.all Text.isBlank then
    .inContext .incomplete "Unexpected end of input" text fault.offset none
  else
    let message := match fault.cause with
      | .unclosed => "Expected character at position " ++ Nat.repr fault.offset
      | _ => "Invalid syntax near '" ++ near ++ "'"
    .inContext .invalid message text fault.offset (some near)

namespace Datum

def readAll (text : List Char) : Except SyntaxError (List Datum) :=
  let s := scan text
  match s.fault? with
  | some fault => .error (fault.report text)
  | none => .ok (s.data.reverse.map Prod.fst)

def nothingToRead : SyntaxError := ⟨.incomplete, "Unexpected end of input", none, none⟩

def trailing (text : List Char) (offset : Nat) : SyntaxError :=
  let rest := String.ofList (Text.trimEnd (text.drop offset))
  .inContext .trailing ("Unexpected remaining input: '" ++ rest ++ "'") text offset (some rest)

/-- The first datum of the text, if nothing follows it. What follows need not be readable to be
refused. -/
def readOne (text : List Char) : Except SyntaxError Datum :=
  if text.all Text.isBlank then .error nothingToRead
  else
    let s := scan text
    match s.data.getLast?, s.fault? with
    | some (d, stop), _ =>
      match (text.drop stop).dropWhile Text.isSeparator with
      | [] => .ok d
      | rest => .error (trailing text (text.length - rest.length))
    | none, some fault => .error (fault.report text)
    | none, none => .error nothingToRead

end Datum

def readable (comments : Bool) (source : String) : List Char :=
  if comments then Comment.blank source.toList else source.toList

end CallByName
