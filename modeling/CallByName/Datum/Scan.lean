import CallByName.Datum.Basic
import CallByName.Symbol
import CallByName.Text.Blank

/-! Reading as a scan of characters. The state after a part of a text depends on that part alone,
so a text is read by reading its parts in order. -/

namespace CallByName

/-- A datum inside so many lists and quote marks lies too deep. -/
def maxNesting : Nat := 64

/-- An open list with its items so far, the latest first, or a quote mark. -/
inductive Enclosure
  | list (items : List Datum)
  | quote

inductive Cause
  | tooDeep
  | unclosed
  | noDatum
  deriving DecidableEq, Repr

structure Fault where
  cause : Cause
  offset : Nat
  deriving DecidableEq, Repr

inductive Phase
  | between
  | atom (start : Nat) (chars : List Char)
  | string (chars : List Char)
  | escape (chars : List Char)
  | failed (fault : Fault)

/-- The state of a scan: the number of characters read, the complete data with the position after
each, the latest first, what the place lies in, the innermost first, and what is being read there.
The characters of an atom or string are kept the latest first. -/
structure Scan where
  offset : Nat
  data : List (Datum × Nat)
  around : List Enclosure
  phase : Phase

def Datum.ofAtom? : List Char → Option Datum
  | '#' :: 't' :: [] => some (.bool true)
  | '#' :: 'f' :: [] => some (.bool false)
  | '#' :: 'x' :: ds => (Number.ofHex? ds).map .num
  | '#' :: 'X' :: ds => (Number.ofHex? ds).map .num
  | cs => if isSymbol cs then some (.sym (String.ofList cs)) else (Number.ofDecimal? cs).map .num

namespace Scan

def initial : Scan := ⟨0, [], [], .between⟩

def fail (s : Scan) (cause : Cause) (offset : Nat) : Scan :=
  { s with phase := .failed ⟨cause, offset⟩ }

/-- Why reading stops where no datum starts: in a list, its end would have done as well. -/
def missing : List Enclosure → Cause
  | .list _ :: _ => .unclosed
  | _ => .noDatum

def deliver (d : Datum) (stop : Nat) :
    List Enclosure → List (Datum × Nat) → List Enclosure × List (Datum × Nat)
  | [], data => ([], (d, stop) :: data)
  | .quote :: around, data => deliver (.list [.sym "quote", d]) stop around data
  | .list items :: around, data => (.list (d :: items) :: around, data)

def complete (s : Scan) (d : Datum) (stop : Nat) (around : List Enclosure) : Scan :=
  let r := deliver d stop around s.data
  { s with around := r.1, data := r.2, phase := .between }

def endAtom (s : Scan) : Scan :=
  match s.phase with
  | .atom start chars =>
    match Datum.ofAtom? chars.reverse with
    | some d => s.complete d s.offset s.around
    | none => s.fail (missing s.around) start
  | _ => s

def start (s : Scan) (c : Char) : Scan :=
  if Text.isSeparator c then s
  else if maxNesting ≤ s.around.length then s.fail .tooDeep s.offset
  else if c = '\'' then { s with around := .quote :: s.around }
  else if c = '(' then { s with around := .list [] :: s.around }
  else if c = '"' then { s with phase := .string [] }
  else if c = '#' || isSymbolChar c then { s with phase := .atom s.offset [c] }
  else if c = ')' then
    match s.around with
    | .list items :: around => s.complete (.list items.reverse) (s.offset + 1) around
    | _ => s.fail .noDatum s.offset
  else s.fail (missing s.around) s.offset

def react (s : Scan) (c : Char) : Scan :=
  match s.phase with
  | .between => s.start c
  | .atom pos chars =>
    if isSymbolChar c then { s with phase := .atom pos (c :: chars) }
    else
      let s := s.endAtom
      match s.phase with
      | .between => s.start c
      | _ => s
  | .string chars =>
    if c = '"' then s.complete (.str (String.ofList chars.reverse)) (s.offset + 1) s.around
    else if c = '\\' then { s with phase := .escape chars }
    else { s with phase := .string (c :: chars) }
  | .escape chars =>
    match Text.Quoted.unescape? c with
    | some c => { s with phase := .string (c :: chars) }
    | none => s.fail .noDatum (s.offset - 1)
  | .failed _ => s

def read (s : Scan) (c : Char) : Scan :=
  let r := s.react c
  { r with offset := s.offset + 1 }

def feed (s : Scan) (cs : List Char) : Scan := cs.foldl read s

def finish (s : Scan) : Scan :=
  let s := s.endAtom
  match s.phase with
  | .failed _ => s
  | .between =>
    match s.around with
    | [] => s
    | around => s.fail (if maxNesting ≤ around.length then .tooDeep else .unclosed) s.offset
  | _ => s.fail .unclosed s.offset

def fault? (s : Scan) : Option Fault :=
  match s.phase with
  | .failed fault => some fault
  | _ => none

@[simp] theorem feed_nil (s : Scan) : s.feed [] = s := rfl

@[simp] theorem feed_cons (s : Scan) (c : Char) (cs : List Char) :
    s.feed (c :: cs) = (s.read c).feed cs := rfl

theorem feed_append (s : Scan) (cs ds : List Char) : s.feed (cs ++ ds) = (s.feed cs).feed ds :=
  List.foldl_append

end Scan

def scan (text : List Char) : Scan := (Scan.initial.feed text).finish

end CallByName
