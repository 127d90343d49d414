import CallByName.Datum.Read
import Mathlib.Logic.Basic

/-! The excerpts that reports show, with marks where the text was cut. Whether there is more behind
an excerpt is decided by comparing lengths, one of which is counted in characters where the others
are in bytes: the mark behind it is never missing, but it also stands where nothing has been cut off
if a character before the excerpt has several bytes. -/

namespace CallByName

namespace Text

-- Decided along the text, not by a search through all characters.
instance decidableWide (cs : List Char) : Decidable (∃ c ∈ cs, c.utf8Size ≠ 1) :=
  List.decidableBEx _ cs

/-- The part of a text that is shown around a position: at most a hundred characters from twenty
before the position on, and fewer only if the text ends. -/
@[ext] structure Window (text : List Char) (offset : Nat) where
  before : List Char
  shown : List Char
  behind : List Char
  split : text = before ++ shown ++ behind
  start : before.length = offset - 20
  length_le : shown.length ≤ 100
  full : behind ≠ [] → shown.length = 100

def markIf (p : Prop) [Decidable p] : List Char := if p then cutMark else []

theorem onOneLine_append (as bs : List Char) :
    onOneLine (as ++ bs) = onOneLine as ++ onOneLine bs := List.flatMap_append

theorem onOneLine_markIf (p : Prop) [Decidable p] : onOneLine (markIf p) = markIf p := by
  unfold markIf
  split
  · rfl
  · rfl

theorem markIf_inj {p q : Prop} [Decidable p] [Decidable q] : markIf p = markIf q ↔ (p ↔ q) := by
  by_cases hp : p <;> by_cases hq : q <;> simp [markIf, cutMark, hp, hq]

theorem ne_of_mem_onOneLine {c : Char} {cs : List Char} (h : c ∈ onOneLine cs) :
    c ≠ '\n' ∧ c ≠ '\r' := by
  obtain ⟨d, -, hd⟩ := List.mem_flatMap.1 h
  split at hd
  · rw [List.mem_cons, List.mem_singleton] at hd
    obtain rfl | rfl := hd
    · exact ⟨by decide, by decide⟩
    · exact ⟨by decide, by decide⟩
  · rename_i hnewline
    split at hd
    · cases hd
    · rename_i hreturn
      rw [List.mem_singleton.1 hd]
      exact ⟨hnewline, hreturn⟩

namespace Window

variable {text : List Char} {offset : Nat}

def around (h : offset ≤ text.length) : Window text offset where
  before := text.take (offset - 20)
  shown := (text.drop (offset - 20)).take 100
  behind := (text.drop (offset - 20)).drop 100
  split := by rw [List.append_assoc, List.take_append_drop, List.take_append_drop]
  start := by
    rw [List.length_take]
    omega
  length_le := List.length_take_le _ _
  full := by
    intro hbehind
    have hlength := List.length_pos_iff.2 hbehind
    rw [List.length_drop] at hlength
    rw [List.length_take]
    omega

theorem before_eq (w : Window text offset) : text.take (offset - 20) = w.before := by
  calc text.take (offset - 20)
      = (w.before ++ (w.shown ++ w.behind)).take w.before.length := by
        rw [w.start, ← List.append_assoc, ← w.split]
    _ = w.before := List.take_left

theorem drop_eq (w : Window text offset) : text.drop (offset - 20) = w.shown ++ w.behind := by
  calc text.drop (offset - 20)
      = (w.before ++ (w.shown ++ w.behind)).drop w.before.length := by
        rw [w.start, ← List.append_assoc, ← w.split]
    _ = w.shown ++ w.behind := List.drop_left

theorem shown_eq (w : Window text offset) : (text.drop (offset - 20)).take 100 = w.shown := by
  rw [w.drop_eq]
  by_cases hbehind : w.behind = []
  · rw [hbehind, List.append_nil, List.take_of_length_le w.length_le]
  · rw [← w.full hbehind, List.take_left]

theorem unique (v w : Window text offset) : v = w := by
  have hbefore : v.before = w.before := v.before_eq.symm.trans w.before_eq
  have hshown : v.shown = w.shown := v.shown_eq.symm.trans w.shown_eq
  have hbehind : v.behind = w.behind := by
    have hdrop := v.drop_eq.symm.trans w.drop_eq
    rw [hshown] at hdrop
    exact List.append_cancel_left hdrop
  exact Window.ext hbefore hshown hbehind

theorem length_lt_iff (w : Window text offset) :
    offset - 20 + utf8Length w.shown < utf8Length text ↔
      w.behind ≠ [] ∨ ∃ c ∈ w.before, c.utf8Size ≠ 1 := by
  have hbytes : utf8Length text =
      utf8Length w.before + utf8Length w.shown + utf8Length w.behind := by
    rw [← utf8Length_append, ← utf8Length_append, ← w.split]
  have hle := length_le_utf8Length w.before
  have hwide : (∃ c ∈ w.before, c.utf8Size ≠ 1) ↔ utf8Length w.before ≠ w.before.length := by
    simp only [Ne, utf8Length_eq_length_iff, not_forall, exists_prop]
  rw [hwide, ← utf8Length_pos_iff, hbytes, ← w.start]
  omega

def marked (w : Window text offset) : List Char :=
  markIf (w.before ≠ []) ++ onOneLine w.shown ++ markIf (w.behind ≠ [])

theorem excerpt_eq (w : Window text offset) : excerpt text offset =
    markIf (w.before ≠ []) ++ onOneLine w.shown ++
      markIf (w.behind ≠ [] ∨ ∃ c ∈ w.before, c.utf8Size ≠ 1) := by
  have hstart : 0 < offset - 20 ↔ w.before ≠ [] := by rw [← w.start, List.length_pos_iff]
  have hbefore : (if 0 < offset - 20 then cutMark else []) = markIf (w.before ≠ []) :=
    if_congr hstart rfl rfl
  have hbehind : (if offset - 20 + utf8Length w.shown < utf8Length text then cutMark else []) =
      markIf (w.behind ≠ [] ∨ ∃ c ∈ w.before, c.utf8Size ≠ 1) := if_congr w.length_lt_iff rfl rfl
  simp only [excerpt, w.shown_eq]
  rw [hbefore, hbehind, onOneLine_append, onOneLine_append, onOneLine_markIf, onOneLine_markIf]

theorem excerpt_eq_marked_iff (w : Window text offset) : excerpt text offset = w.marked ↔
    w.behind ≠ [] ∨ ∀ c ∈ w.before, c.utf8Size = 1 := by
  have hnarrow : (¬ ∃ c ∈ w.before, c.utf8Size ≠ 1) ↔ ∀ c ∈ w.before, c.utf8Size = 1 := by
    simp only [not_exists, not_and, not_not]
  rw [w.excerpt_eq, marked, List.append_right_inj, markIf_inj, or_iff_left_iff_imp,
    imp_iff_not_or, hnarrow, or_comm]

end Window

end Text

open Text (Window markIf onOneLine)

/-- The context of a report is what is shown of the text, on one line, behind a mark if there are
characters before it. The mark behind it stands where there are characters behind it, but also where
a character before it has several bytes. So the marks are right where the text is cut at its end
anyway, and otherwise only if there is no such character. -/
theorem context_marks_cuts_or_wide_start (kind : SyntaxErrorKind) (message : String)
    (found : Option String) {text : List Char} {offset : Nat} (h : offset ≤ text.length) :
    ∃ (w : Window text offset) (context : List Char),
      (SyntaxError.inContext kind message text offset found).context =
        some (String.ofList context) ∧
      (∀ c ∈ context, c ≠ '\n' ∧ c ≠ '\r') ∧
      context = markIf (w.before ≠ []) ++ onOneLine w.shown ++
        markIf (w.behind ≠ [] ∨ ∃ c ∈ w.before, c.utf8Size ≠ 1) ∧
      (context = w.marked ↔ w.behind ≠ [] ∨ ∀ c ∈ w.before, c.utf8Size = 1) := by
  let w := Window.around h
  exact ⟨w, Text.excerpt text offset, rfl, fun c hc => Text.ne_of_mem_onOneLine hc, w.excerpt_eq,
    w.excerpt_eq_marked_iff⟩

theorem context_marks_cuts_or_wide_start_narrow :
    let text := "(f (lambda (x y)\n(+ x y".toList
    23 ≤ text.length ∧
      (SyntaxError.inContext .incomplete "Unexpected end of input" text 23 none).context =
        some "[...](lambda (x y)\\n(+ x y" := by
  intro text
  have h : 23 ≤ text.length := by decide
  obtain ⟨w, context, hcontext, -, -, htrue⟩ :=
    context_marks_cuts_or_wide_start .incomplete "Unexpected end of input" none h
  obtain rfl : Window.around h = w := Window.unique _ _
  have hbefore : (Window.around h).before = ['(', 'f', ' '] := rfl
  have hmarked : String.ofList (Window.around h).marked = "[...](lambda (x y)\\n(+ x y" := rfl
  have hnarrow : ∀ c ∈ (Window.around h).before, c.utf8Size = 1 := by
    rw [hbefore]
    simp [Char.utf8Size_eq_one_iff]
  refine ⟨h, ?_⟩
  rw [hcontext, htrue.2 (.inr hnarrow), hmarked]

/-- The report on an unfinished list. Nothing is cut off behind what is shown, but one of the
characters before it has two bytes, and there is a mark. -/
theorem context_marks_end_behind_wide_start :
    let text := "(é (lambda (x y) (+ x y".toList
    let report := SyntaxError.inContext .incomplete "Unexpected end of input" text 23 none
    23 ≤ text.length ∧ Datum.readAll text = .error report ∧
      report.context = some "[...](lambda (x y) (+ x y[...]" ∧
      ∀ w : Window text 23, w.behind = [] ∧ report.context ≠ some (String.ofList w.marked) := by
  intro text report
  have h : 23 ≤ text.length := by decide
  refine ⟨h, rfl, by decide, fun w => ?_⟩
  obtain rfl : Window.around h = w := Window.unique _ _
  have hmarked : String.ofList (Window.around h).marked = "[...](lambda (x y) (+ x y" := rfl
  refine ⟨rfl, ?_⟩
  rw [hmarked]
  decide

end CallByName
