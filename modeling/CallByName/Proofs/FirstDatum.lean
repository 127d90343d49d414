import CallByName.Proofs.Delivery
import CallByName.Proofs.WellFormed
import Mathlib.Data.List.Basic
import Mathlib.Data.List.Induction

/-! The first datum of a text. A scan completes one just if the grammar has one there, whatever
stands behind it. So it is known how one datum is taken from a text of which not all can be read, or
which holds more or less than one. -/

namespace CallByName

namespace Grammar

/-- The text begins with a datum, and what stands behind it need not be readable. -/
def BeginsWithDatum (text : List Char) : Prop := ∃ d rest, NextDatum 0 text d rest

def EndsClosed (text : List Char) : Prop :=
  ∃ c, text.getLast? = some c ∧ ¬ (c = '#' ∨ isSymbolChar c = true)

section

variable {c : Char} {text chars rest : List Char} {d : Datum}

theorem endsClosed_concat (hc : ¬ (c = '#' ∨ isSymbolChar c = true)) :
    EndsClosed (text ++ [c]) := ⟨c, List.getLast?_concat, hc⟩

theorem EndsClosed.of_append {start : List Char} (h : EndsClosed (start ++ text))
    (htext : text ≠ []) : EndsClosed text := by
  obtain ⟨c, hlast, hc⟩ := h
  rw [List.getLast?_append_of_ne_nil _ htext] at hlast
  exact ⟨c, hlast, hc⟩

theorem Atom.not_endsClosed (h : Atom text d) : ¬ EndsClosed text := by
  rintro ⟨x, hlast, hx⟩
  obtain ⟨c, tail, rfl, hc, htail⟩ := h.shape
  rcases List.mem_cons.1 (List.mem_of_getLast? hlast) with rfl | hmem
  · exact hx hc
  · exact hx (.inr (htail x hmem))

theorem EndsAtom.append {more : List Char} (h : EndsAtom rest) (hmore : rest = [] → EndsAtom more) :
    EndsAtom (rest ++ more) := by
  cases rest with
  | nil => exact hmore rfl
  | cons c rest => exact h

theorem Literal.append (h : Literal text chars rest) (more : List Char) :
    Literal (text ++ more) chars (rest ++ more) := by
  induction h with
  | close => exact .close
  | plain hquote hbackslash _ ih => exact .plain hquote hbackslash ih
  | escaped he _ ih => exact .escaped he ih

end

mutual

theorem IsDatum.append (more : List Char) : {depth : Nat} → {text : List Char} → {d : Datum} →
    {rest : List Char} → IsDatum depth text d rest →
    (rest = [] → EndsAtom more ∨ EndsClosed text) → IsDatum depth (text ++ more) d (rest ++ more)
  | _, _, _, _, @IsDatum.quote _ blanks text _ _ hdepth hblanks h, hend => by
    have htext : text ≠ [] := by
      rintro rfl
      exact not_isDatum_nil h
    have hclosed (hlast : EndsClosed (('\'' :: blanks) ++ text)) : EndsClosed text :=
      hlast.of_append htext
    have hinside := h.append more fun hrest => (hend hrest).imp_right hclosed
    rw [List.cons_append, List.append_assoc]
    exact .quote hdepth hblanks hinside
  | _, _, _, _, .list hdepth h hblanks, _ => by
    have hitems := h.append more (List.append_ne_nil_of_right_ne_nil _ (List.cons_ne_nil _ _))
    rw [List.append_assoc] at hitems
    exact .list hdepth hitems hblanks
  | _, _, _, _, .string hdepth h, _ => .string hdepth (h.append more)
  | _, _, _, _, .atom hdepth h hrest, hend => by
    rw [List.append_assoc]
    refine .atom hdepth h (hrest.append fun hnil => ?_)
    subst hnil
    rw [List.append_nil] at hend
    exact (hend rfl).resolve_right h.not_endsClosed

theorem AreData.append (more : List Char) : {depth : Nat} → {text : List Char} →
    {ds : List Datum} → {rest : List Char} → AreData depth text ds rest → rest ≠ [] →
    AreData depth (text ++ more) ds (rest ++ more)
  | _, _, _, _, .nil, _ => .nil
  | _, _, _, _, .cons hblanks h hs, hrest => by
    have hmiddle := hs.text_ne_nil hrest
    rw [List.append_assoc]
    exact .cons hblanks (h.append more fun hnil => absurd hnil hmiddle) (hs.append more hrest)

end

theorem NextDatum.append {depth : Nat} {text rest : List Char} {d : Datum} (more : List Char)
    (h : NextDatum depth text d rest) (hend : rest = [] → EndsAtom more ∨ EndsClosed text) :
    NextDatum depth (text ++ more) d (rest ++ more) := by
  obtain ⟨blanks, middle, hblanks, rfl, h⟩ := h
  have hmiddle : middle ≠ [] := by
    rintro rfl
    exact not_isDatum_nil h
  refine ⟨blanks, middle ++ more, hblanks, List.append_assoc _ _ _, h.append more fun hrest => ?_⟩
  exact (hend hrest).imp_right fun hclosed => hclosed.of_append hmiddle

theorem nextDatum_of_readAll {text : List Char} {d : Datum} {ds : List Datum}
    (h : Datum.readAll text = .ok (d :: ds)) : ∃ rest, NextDatum 0 text d rest := by
  rcases isProgram_iff.1 (readAll_eq_ok_iff_isProgram.1 h) with ⟨-, hnil⟩ | ⟨_, _, rest, heq, hd, -⟩
  · cases hnil
  · cases heq
    exact ⟨rest, hd⟩

end Grammar

open Grammar

namespace Scan

variable {o stop : Nat} {around : List Enclosure} {s : Scan} {c : Char} {d : Datum}
  {text : List Char}

def One (d : Datum) (o : Nat) : Scan := ⟨o, [(d, o)], [], .between⟩

theorem delivered_first (h : (delivered d stop around []).data ≠ []) :
    ∃ d', delivered d stop around [] = One d' stop := by
  induction around generalizing d with
  | nil => exact ⟨d, rfl⟩
  | cons e around ih =>
    cases e with
    | quote => exact ih h
    | list items => exact absurd rfl h

theorem read_between_first (hphase : s.phase = .between) (hdata : s.data = [])
    (h : (s.read c).data ≠ []) : c = ')' ∧ ∃ d, s.read c = One d (s.offset + 1) := by
  obtain ⟨o, data, around, phase⟩ := s
  dsimp only at hphase hdata
  subst hphase hdata
  have hstart := starts_read o [] around c
  generalize (Scan.mk o [] around .between).read c = s at *
  cases hstart with
  | closing => exact ⟨rfl, delivered_first h⟩
  | _ => exact absurd rfl h

theorem read_first (hdata : s.data = []) (h : (s.read c).data ≠ []) :
    (¬ (c = '#' ∨ isSymbolChar c = true) ∧ ∃ d, s.read c = One d (s.offset + 1)) ∨
      isSymbolChar c = false ∧ ∃ d, s.finish = One d s.offset := by
  obtain ⟨o, data, around, phase⟩ := s
  dsimp only at hdata
  subst hdata
  cases phase with
  | between =>
    obtain ⟨rfl, hread⟩ := read_between_first rfl rfl h
    exact .inl ⟨by decide, hread⟩
  | atom start chars =>
    by_cases hc : isSymbolChar c = true
    · rw [read_atom_more hc] at h
      exact absurd rfl h
    rw [Bool.not_eq_true] at hc
    cases hd : Datum.ofAtom? chars.reverse with
    | none =>
      refine absurd ?_ h
      simp [read, react, hc, endAtom, hd, fail]
    | some d =>
      rw [read_atom_some hd hc] at h ⊢
      by_cases hdelivered : (delivered d o around []).data = []
      · obtain ⟨rfl, hread⟩ := read_between_first rfl hdelivered h
        exact .inl ⟨by decide, hread⟩
      · obtain ⟨d', hone⟩ := delivered_first hdelivered
        refine .inr ⟨hc, d', ?_⟩
        rw [finish_atom hd, hone]
        rfl
  | string chars =>
    by_cases hquote : c = '"'
    · subst hquote
      exact .inl ⟨by decide, delivered_first h⟩
    · refine absurd ?_ h
      by_cases hbackslash : c = '\\'
      · rw [hbackslash, read_string_backslash]
      · rw [read_string_plain hquote hbackslash]
  | escape chars =>
    refine absurd ?_ h
    cases hc : Text.Quoted.unescape? c with
    | none => simp [read, react, hc, fail]
    | some x => rw [read_escape_some hc]
  | failed fault => exact absurd rfl h

theorem data_finish_between (o : Nat) (data : List (Datum × Nat)) (around : List Enclosure) :
    (Scan.mk o data around .between).finish.data = data := by
  cases around <;> rfl

theorem finish_first (hdata : s.data = []) (h : s.finish.data ≠ []) :
    ∃ d, s.finish = One d s.offset := by
  obtain ⟨o, data, around, phase⟩ := s
  dsimp only at hdata
  subst hdata
  cases phase with
  | between => exact absurd (data_finish_between o [] around) h
  | atom start chars =>
    cases hd : Datum.ofAtom? chars.reverse with
    | none =>
      refine absurd ?_ h
      simp [finish, endAtom, hd, fail]
    | some d =>
      rw [finish_atom hd] at h ⊢
      have hdelivered : (delivered d o around []).data ≠ [] := by
        rwa [delivered, data_finish_between] at h
      obtain ⟨d', hone⟩ := delivered_first hdelivered
      rw [hone]
      exact ⟨d', rfl⟩
  | _ => exact absurd rfl h

theorem readAll_of_finish (h : (initial.feed text).finish = One d o) :
    Datum.readAll text = .ok [d] := by
  have hscan : scan text = One d o := h
  rw [Datum.readAll, hscan]
  rfl

/-- By induction on the text from its end: the first datum is completed by some character, and the
characters behind it do not undo it. -/
theorem beginsWithDatum_of_feed (h : (initial.feed text).data ≠ []) :
    ∃ d rest, NextDatum 0 text d rest ∧ (rest = [] → EndsClosed text) := by
  induction text using List.reverseRecOn with
  | nil => exact absurd rfl h
  | append_singleton text c ih =>
    rw [feed_append, feed_cons, feed_nil] at h
    have hmore (rest : List Char) : rest ++ [c] ≠ [] :=
      List.append_ne_nil_of_right_ne_nil rest (List.cons_ne_nil c [])
    by_cases hdata : (initial.feed text).data = []
    · rcases read_first hdata h with ⟨hc, d, hread⟩ | ⟨hc, d, hfinish⟩
      · have hfinish : (initial.feed (text ++ [c])).finish = One d (text.length + 1) := by
          rw [feed_append, feed_cons, feed_nil, hread, offset_initial_feed]
          rfl
        obtain ⟨rest, hd⟩ := nextDatum_of_readAll (readAll_of_finish hfinish)
        exact ⟨d, rest, hd, fun _ => endsClosed_concat hc⟩
      · obtain ⟨rest, hd⟩ := nextDatum_of_readAll (readAll_of_finish hfinish)
        have hend : EndsAtom [c] := by
          intro x hx
          cases hx
          exact hc
        exact ⟨d, rest ++ [c], hd.append [c] fun _ => .inl hend, fun hnil => absurd hnil (hmore _)⟩
    · obtain ⟨d, rest, hd, hclosed⟩ := ih hdata
      exact ⟨d, rest ++ [c], hd.append [c] fun hrest => .inr (hclosed hrest),
        fun hnil => absurd hnil (hmore _)⟩

theorem data_scan_ne_nil_iff : (scan text).data ≠ [] ↔ BeginsWithDatum text := by
  constructor
  · intro h
    by_cases hdata : (initial.feed text).data = []
    · obtain ⟨d, hfinish⟩ := finish_first hdata h
      obtain ⟨rest, hd⟩ := nextDatum_of_readAll (readAll_of_finish hfinish)
      exact ⟨d, rest, hd⟩
    · obtain ⟨d, rest, hd, -⟩ := beginsWithDatum_of_feed hdata
      exact ⟨d, rest, hd⟩
  · rintro ⟨d, rest, hd⟩
    by_cases hrest : rest = []
    · subst hrest
      have hprogram : IsProgram text [d] :=
        isProgram_iff.2 (.inr ⟨d, [], [], rfl, hd, [], List.forall_mem_nil _, .nil⟩)
      have haccepts := readAll_eq_ok_iff_accepts.1 (readAll_eq_ok_iff_isProgram.2 hprogram)
      intro hnil
      have htrees : trees (scan text).data = [d] := haccepts.2
      rw [hnil] at htrees
      cases htrees
    · obtain ⟨blanks, middle, hblanks, rfl, hd⟩ := hd
      have hfeed : ∃ o, initial.feed (blanks ++ middle) =
        (Scan.mk o [] [] .between).feed middle := feed_blanks hblanks 0
      obtain ⟨o, hfeed⟩ := hfeed
      have hdelivered : ∃ stop, (Scan.mk o [] [] .between).feed middle =
        (delivered d stop [] []).feed rest := feed_of_isDatum hd rfl hrest o
      obtain ⟨stop, hdelivered⟩ := hdelivered
      have hbehind : delivered d stop [] [] = initial.behind stop [(d, stop)] := rfl
      rw [scan, hfeed, hdelivered, hbehind, feed_behind _ _ _ (.inl rfl), finish_behind]
      exact List.append_ne_nil_of_right_ne_nil _ (List.cons_ne_nil _ _)

end Scan

namespace Datum

variable {text : List Char}

theorem readOne_of_blank (h : text.all Text.isBlank = true) :
    readOne text = .error nothingToRead := if_pos h

theorem readOne_of_beginsWithDatum (hblank : text.all Text.isBlank = false)
    (hbegins : BeginsWithDatum text) (hone : ∀ d, readAll text ≠ .ok [d]) :
    ∃ e, readOne text = .error e ∧ e.kind = .trailing := by
  have hdata := Scan.data_scan_ne_nil_iff.2 hbegins
  cases hread : readOne text with
  | ok d => exact absurd (readOne_eq_ok_iff.1 hread) (hone d)
  | error e =>
    obtain ⟨⟨d, stop⟩, hlast⟩ := Option.isSome_iff_exists.1 (List.getLast?_isSome.2 hdata)
    simp only [readOne, hblank, Bool.false_eq_true, if_false, hlast] at hread
    split at hread
    · cases hread
    · cases hread
      exact ⟨_, rfl, rfl⟩

theorem readOne_of_not_beginsWithDatum (hblank : text.all Text.isBlank = false)
    (hbegins : ¬ BeginsWithDatum text) {e : SyntaxError} (h : readAll text = .error e) :
    readOne text = .error e := by
  have hdata : (scan text).data = [] := by
    by_contra hdata
    exact hbegins (Scan.data_scan_ne_nil_iff.1 hdata)
  obtain ⟨fault, hfault, rfl⟩ := exists_fault h
  simp [readOne, hblank, hdata, hfault]

end Datum

namespace Expr

variable {comments : Bool} {base : Nat} {source : String}

theorem ofSource_of_readOne {e : SyntaxError}
    (h : Datum.readOne (readable comments source) = .error e) :
    ofSource comments base source = .error (.unreadable e) := by
  rw [ofSource, h]
  rfl

theorem ofSource_eq_ok_iff_program {e : Expr} : ofSource comments base source = .ok e ↔
    Program.ofSource comments base source = .ok [e] := by
  rw [ofSource_eq_ok_iff, Program.ofSource_eq_ok_iff]
  constructor
  · rintro ⟨d, hd, hbuilds⟩
    exact ⟨[d], readOne_eq_ok_iff.1 hd, ofData_eq_ok_iff.2 (.cons hbuilds .nil)⟩
  · rintro ⟨ds, hds, hforms⟩
    cases ofData_eq_ok_iff.1 hforms with
    | cons hbuilds htail =>
      cases htail
      exact ⟨_, readOne_eq_ok_iff.2 hds, hbuilds⟩

end Expr

/-- One expression is parsed from a text just if it is the whole program. Less or more than one
datum is refused, and a text that cannot be read is refused as a program is, unless it is blank or
the first datum can be read. -/
theorem one_expression_agrees_with_program (comments : Bool) (base : Nat) (source : String) :
    (∀ e, Expr.ofSource comments base source = .ok e ↔
      Program.ofSource comments base source = .ok [e]) ∧
    (Datum.readAll (readable comments source) = .ok [] →
      ∃ e, Expr.ofSource comments base source = .error (.unreadable e) ∧ e.kind = .incomplete) ∧
    (∀ d d' ds, Datum.readAll (readable comments source) = .ok (d :: d' :: ds) →
      ∃ e, Expr.ofSource comments base source = .error (.unreadable e) ∧ e.kind = .trailing) ∧
    ∀ e, Datum.readAll (readable comments source) = .error e →
      ((readable comments source).all Text.isBlank = true →
        ∃ e', Expr.ofSource comments base source = .error (.unreadable e') ∧
          e'.kind = .incomplete ∧ e'.context = none) ∧
      ((readable comments source).all Text.isBlank = false →
        BeginsWithDatum (readable comments source) →
        ∃ e', Expr.ofSource comments base source = .error (.unreadable e') ∧
          e'.kind = .trailing) ∧
      ((readable comments source).all Text.isBlank = false →
        ¬ BeginsWithDatum (readable comments source) →
        Expr.ofSource comments base source = .error (.unreadable e)) := by
  refine ⟨fun e => Expr.ofSource_eq_ok_iff_program, fun hnone => ?_, fun d d' ds hmany => ?_,
    fun e herror => ⟨fun hblank => ?_, fun hblank hbegins => ?_, fun hblank hbegins => ?_⟩⟩
  · have hblanks : Blanks (readable comments source) := by
      rcases isProgram_iff.1 (readAll_eq_ok_iff_isProgram.1 hnone) with ⟨h, -⟩ | ⟨_, _, _, hnil, -⟩
      · exact h
      · cases hnil
    have hread := Datum.readOne_of_blank hblanks.all_isBlank
    exact ⟨_, Expr.ofSource_of_readOne hread, rfl⟩
  · have hbegins : BeginsWithDatum (readable comments source) := ⟨d, nextDatum_of_readAll hmany⟩
    obtain ⟨e, hread, hkind⟩ := Datum.readOne_of_beginsWithDatum (not_all_isBlank_of_readAll hmany)
      hbegins (by simp [hmany])
    exact ⟨e, Expr.ofSource_of_readOne hread, hkind⟩
  · exact ⟨_, Expr.ofSource_of_readOne (Datum.readOne_of_blank hblank), rfl, rfl⟩
  · obtain ⟨e', hread, hkind⟩ := Datum.readOne_of_beginsWithDatum hblank hbegins (by simp [herror])
    exact ⟨e', Expr.ofSource_of_readOne hread, hkind⟩
  · exact Expr.ofSource_of_readOne (Datum.readOne_of_not_beginsWithDatum hblank hbegins herror)

theorem one_expression_agrees_with_program_refusals :
    Expr.ofSource true 7 "x ; y" = .ok (.var "x") ∧
    (∃ e, Expr.ofSource true 7 "; x" = .error (.unreadable e) ∧ e.kind = .incomplete) ∧
    (∃ e, Expr.ofSource true 7 "1 \"" = .error (.unreadable e) ∧ e.kind = .trailing) ∧
    (∃ e, Expr.ofSource true 7 "1 2" = .error (.unreadable e) ∧ e.kind = .trailing) ∧
    (∃ e, Expr.ofSource false 7 "\u00a0" = .error (.unreadable e) ∧ e.kind = .incomplete ∧
      e.context = none) ∧
    Expr.ofSource true 7 "(#q" =
      .error (.unreadable ((Fault.mk .unclosed 1).report "(#q".toList)) := by
  have hone : Program.ofSource true 7 "x ; y" = .ok [.var "x"] :=
    Program.ofSource_eq_ok_iff.2 ⟨[.sym "x"], rfl, rfl⟩
  have hnone : Datum.readAll (readable true "; x") = .ok [] := rfl
  have hmany : Datum.readAll (readable true "1 2") = .ok [.num 1, .num 2] := rfl
  have hempty : Datum.readAll [] = .ok [] := rfl
  obtain ⟨e, hblank, -⟩ := readAll_stray hempty (c := '\u00a0') (by decide) (by decide) []
  have hbehind : Datum.readAll (readable true "1 \"") =
    .error ((Fault.mk .unclosed 3).report "1 \"".toList) := rfl
  have hdata : (scan (readable true "1 \"")).data = [(.num 1, 1)] := rfl
  have hbegins : BeginsWithDatum (readable true "1 \"") :=
    Scan.data_scan_ne_nil_iff.1 (hdata ▸ List.cons_ne_nil _ _)
  have hinside : Datum.readAll (readable true "(#q") =
    .error ((Fault.mk .unclosed 1).report "(#q".toList) := rfl
  have hnot : ¬ BeginsWithDatum (readable true "(#q") :=
    fun h => Scan.data_scan_ne_nil_iff.2 h rfl
  exact ⟨((one_expression_agrees_with_program true 7 "x ; y").1 _).2 hone,
    (one_expression_agrees_with_program true 7 "; x").2.1 hnone,
    ((one_expression_agrees_with_program true 7 "1 \"").2.2.2 _ hbehind).2.1 rfl hbegins,
    (one_expression_agrees_with_program true 7 "1 2").2.2.1 _ _ _ hmany,
    ((one_expression_agrees_with_program false 7 "\u00a0").2.2.2 _ hblank).1 rfl,
    ((one_expression_agrees_with_program true 7 "(#q").2.2.2 _ hinside).2.2 rfl hnot⟩

end CallByName
