import CallByName.Proofs.Lines

/-! What can still be completed. A text reported as not complete has an ending that makes it
readable, unless it was given up at a blank that separates no data. -/

namespace CallByName

open Comment (Region blankFrom)
open Grammar

namespace Enclosure

def closing : List Enclosure → List Char
  | [] => []
  | .list _ :: around => ')' :: closing around
  | .quote :: around => closing around

def ending : List Enclosure → List Char
  | .quote :: around => '"' :: '"' :: closing around
  | around => closing around

theorem blankFrom_closing (around : List Enclosure) :
    blankFrom .code (closing around) = closing around := by
  induction around with
  | nil => rfl
  | cons e around ih =>
    cases e with
    | quote => exact ih
    | list items => exact congrArg (')' :: ·) ih

theorem blankFrom_ending (around : List Enclosure) :
    blankFrom .code (ending around) = ending around := by
  match around with
  | [] => rfl
  | .quote :: around => exact congrArg ('"' :: '"' :: ·) (blankFrom_closing around)
  | .list items :: around => exact blankFrom_closing (.list items :: around)

theorem blankFrom_newline_ending (around : List Enclosure) {r : Region}
    (hr : r = .code ∨ r = .comment) :
    blankFrom r ('\n' :: ending around) = '\n' :: ending around := by
  rcases hr with rfl | rfl <;> exact congrArg ('\n' :: ·) (blankFrom_ending around)

theorem blankFrom_quote_closing (around : List Enclosure) :
    blankFrom .string ('"' :: closing around) = '"' :: closing around :=
  congrArg ('"' :: ·) (blankFrom_closing around)

theorem blankFrom_backslash_closing (around : List Enclosure) :
    blankFrom .escape ('\\' :: '"' :: closing around) = '\\' :: '"' :: closing around :=
  congrArg ('\\' :: ·) (blankFrom_quote_closing around)

theorem continuesAfter_closing {around : List Enclosure} (hroom : around.length ≤ 63) (d : Datum) :
    ∃ ds, ContinuesAfter around d (closing around) ds := by
  induction around generalizing d with
  | nil => exact ⟨[d], [], rfl, [], List.forall_mem_nil _, .nil⟩
  | cons e around ih =>
    have hroom' : around.length ≤ 62 := Nat.le_of_succ_le_succ hroom
    have ih := ih (Nat.le_succ_of_le hroom')
    cases e with
    | quote => exact ih _
    | list items =>
      obtain ⟨ds, h⟩ := ih (.list (items.reverse ++ [d]))
      exact ⟨ds, hroom', [], closing around, ⟨[], List.forall_mem_nil _, .nil⟩, h⟩

theorem continues_ending {around : List Enclosure} (hroom : around.length ≤ 63) :
    ∃ ds, Continues around (ending around) ds := by
  match around with
  | [] => exact ⟨[], [], List.forall_mem_nil _, .nil⟩
  | .quote :: around =>
    have hroom' : around.length ≤ 63 := Nat.le_of_succ_le hroom
    obtain ⟨ds, h⟩ := continuesAfter_closing hroom' (.list [.sym "quote", .str ""])
    exact ⟨ds, .str "", closing around,
      ⟨[], _, List.forall_mem_nil _, rfl, .string hroom .close⟩, h⟩
  | .list items :: around =>
    have hroom' : around.length ≤ 62 := Nat.le_of_succ_le_succ hroom
    obtain ⟨ds, h⟩ :=
      continuesAfter_closing (Nat.le_succ_of_le hroom') (.list (items.reverse ++ []))
    exact ⟨ds, hroom', [], closing around, ⟨[], List.forall_mem_nil _, .nil⟩, h⟩

end Enclosure

def blankCodes : List Nat :=
  [0x9, 0xa, 0xb, 0xc, 0xd, 0x20, 0x85, 0xa0, 0x1680, 0x2000, 0x2001, 0x2002, 0x2003, 0x2004,
    0x2005, 0x2006, 0x2007, 0x2008, 0x2009, 0x200a, 0x2028, 0x2029, 0x202f, 0x205f, 0x3000]

theorem not_startsAtom_of_isBlank {c : Char} (h : Text.isBlank c = true) :
    ¬ (c = '#' ∨ isSymbolChar c = true) := by
  have hcodes : ∀ n ∈ blankCodes,
      ¬ (Char.ofNat n = '#' ∨ isSymbolChar (Char.ofNat n) = true) := by decide +kernel
  have hmem : c.toNat ∈ blankCodes := by
    simp only [Text.isBlank, Bool.or_eq_true, Bool.and_eq_true, decide_eq_true_eq,
      List.contains_iff_mem, List.mem_cons, List.not_mem_nil, or_false] at h
    simp only [blankCodes, List.mem_cons, List.not_mem_nil, or_false]
    omega
  have hc := hcodes c.toNat hmem
  rwa [Char.ofNat_toNat] at hc

theorem ne_of_isBlank {c x : Char} (hc : Text.isBlank c = true) (hx : Text.isBlank x = false) :
    c ≠ x := by
  rintro rfl
  rw [hc] at hx
  cases hx

/-- A character that separates no data, with nothing but blanks from it on. -/
def StrayBlank (text : List Char) : Prop :=
  ∃ before c after, text = before ++ c :: after ∧ Text.isSeparator c = false ∧
    ∀ x ∈ c :: after, Text.isBlank x = true

theorem drop_eq_cons_of_getElem? {text : List Char} {i : Nat} {c : Char}
    (hc : text[i]? = some c) : text.drop i = c :: text.drop (i + 1) := by
  obtain ⟨hi, rfl⟩ := List.getElem?_eq_some_iff.1 hc
  exact List.drop_eq_getElem_cons hi

theorem strayBlank_of_getElem? {text : List Char} {i : Nat} {c : Char} (hc : text[i]? = some c)
    (hseparator : Text.isSeparator c = false) (hblank : (text.drop i).all Text.isBlank = true) :
    StrayBlank text := by
  refine ⟨text.take i, c, text.drop (i + 1), ?_, hseparator, ?_⟩
  · rw [← drop_eq_cons_of_getElem? hc, List.take_append_drop]
  · rwa [← drop_eq_cons_of_getElem? hc, ← List.all_eq_true]

namespace Scan

variable {o : Nat} {data : List (Datum × Nat)} {around : List Enclosure} {fault : Fault}

theorem read_newline (o : Nat) (data : List (Datum × Nat)) (around : List Enclosure) :
    (Scan.mk o data around .between).read '\n' = ⟨o + 1, data, around, .between⟩ := rfl

theorem room_of_fault (hfault : (Scan.mk o data around .between).finish.fault? = some fault)
    (hdeep : fault.cause ≠ .tooDeep) : around.length ≤ 63 := by
  by_cases haround : around = []
  · subst haround
    exact Nat.zero_le _
  · rw [fault?_finish_between haround] at hfault
    cases hfault
    refine Nat.le_of_lt_succ (Nat.lt_of_not_le fun hle => hdeep (if_pos hle))

theorem accepts_ending (hroom : around.length ≤ 63) :
    ∃ ds, (Scan.mk o data around .between).Accepts ('\n' :: Enclosure.ending around) ds := by
  obtain ⟨ds, h⟩ := Enclosure.continues_ending hroom
  refine ⟨trees data ++ ds, ?_⟩
  rw [accepts_cons, read_newline]
  exact accepts_between_iff.2 ⟨ds, rfl, h⟩

theorem accepts_string_ending (o : Nat) (data : List (Datum × Nat)) (hroom : around.length ≤ 63)
    (chars : List Char) :
    ∃ ds, (Scan.mk o data around (.string chars)).Accepts ('"' :: Enclosure.closing around) ds := by
  obtain ⟨ds, h⟩ :=
    Enclosure.continuesAfter_closing hroom (.str (String.ofList chars.reverse))
  refine ⟨trees data ++ ds, ?_⟩
  rw [accepts_cons, read_string_quote]
  exact accepts_between_iff.2 ((continues_deliver_iff _ _ data).2 ⟨ds, rfl, h⟩)

theorem exists_datum_of_atom {s : Scan} {text : List Char} {start : Nat} {chars : List Char}
    (hfits : s.phase.Fits text s.around) (hphase : s.phase = .atom start chars)
    (hfault : s.finish.fault? = some fault)
    (hblank : (text.drop fault.offset).all Text.isBlank = true) :
    ∃ d, Datum.ofAtom? chars.reverse = some d := by
  cases hd : Datum.ofAtom? chars.reverse with
  | some d => exact ⟨d, rfl⟩
  | none =>
    simp only [finish, endAtom, hphase, hd, fail, fault?, Option.some.injEq] at hfault
    rw [hphase] at hfits
    obtain ⟨c, hc, hstarts⟩ := hfits
    rw [← hfault, drop_eq_cons_of_getElem? hc, List.all_cons, Bool.and_eq_true] at hblank
    exact absurd hstarts (not_startsAtom_of_isBlank hblank.1)

theorem exists_ending {s : Scan} {r : Region} {text : List Char} (hregion : s.phase.In r)
    (hfits : s.phase.Fits text s.around) (hfault : s.finish.fault? = some fault)
    (hdeep : fault.cause ≠ .tooDeep) (hfailed : s.phase ≠ .failed fault)
    (hatom : ∀ start chars, s.phase = .atom start chars →
      ∃ d, Datum.ofAtom? chars.reverse = some d) :
    ∃ more ds, s.Accepts (blankFrom r more) ds := by
  obtain ⟨o, data, around, phase⟩ := s
  cases phase with
  | between =>
    have hr : r = .code ∨ r = .comment := by
      cases r with
      | code => exact .inl rfl
      | comment => exact .inr rfl
      | _ => exact hregion.elim
    obtain ⟨ds, h⟩ := accepts_ending (room_of_fault hfault hdeep)
    refine ⟨'\n' :: Enclosure.ending around, ds, ?_⟩
    rw [Enclosure.blankFrom_newline_ending around hr]
    exact h
  | atom start chars =>
    cases r with
    | code =>
      obtain ⟨d, hd⟩ := hatom start chars rfl
      rw [finish_atom hd] at hfault
      obtain ⟨ds, h⟩ := accepts_ending (room_of_fault hfault hdeep)
      refine ⟨'\n' :: Enclosure.ending (deliver d o around data).1, ds, ?_⟩
      rw [Enclosure.blankFrom_newline_ending _ (.inl rfl), accepts_cons,
        read_atom_some hd (by decide), ← accepts_cons]
      exact h
    | _ => exact hregion.elim
  | string chars =>
    cases r with
    | string =>
      obtain ⟨ds, h⟩ := accepts_string_ending o data hfits chars
      refine ⟨'"' :: Enclosure.closing around, ds, ?_⟩
      rwa [Enclosure.blankFrom_quote_closing]
    | _ => exact hregion.elim
  | escape chars =>
    cases r with
    | escape =>
      obtain ⟨ds, h⟩ := accepts_string_ending (o + 1) data hfits.1 ('\\' :: chars)
      refine ⟨'\\' :: '"' :: Enclosure.closing around, ds, ?_⟩
      rw [Enclosure.blankFrom_backslash_closing, accepts_cons, read_escape_some rfl]
      exact h
    | _ => exact hregion.elim
  | failed fault' =>
    rw [finish_of_failed rfl] at hfault
    exact absurd (congrArg Phase.failed (Option.some.inj hfault)) hfailed

end Scan

theorem readable_true_append (source more : String) : readable true (source ++ more) =
    readable true source ++ blankFrom (Region.code.after source.toList) more.toList :=
  readable_append true source more

theorem incomplete_iff {fault : Fault} {text : List Char} :
    (fault.report text).kind = .incomplete ↔
      fault.cause ≠ .tooDeep ∧ (text.drop fault.offset).all Text.isBlank = true := by
  rw [Fault.kind_report]
  by_cases hdeep : fault.cause = .tooDeep <;>
    by_cases hblank : (text.drop fault.offset).all Text.isBlank = true <;> simp [hdeep, hblank]

/-- A text reported as not complete has an ending, or it was given up at a stray blank. -/
theorem incomplete_completable_or_stray {source : String} {e : SyntaxError}
    (h : Datum.readAll (readable true source) = .error e) (hkind : e.kind = .incomplete) :
    (∃ more ds, Datum.readAll (readable true (source ++ more)) = .ok ds) ∨
    StrayBlank (readable true source) ∧
      ∀ more, ∃ e', Datum.readAll (readable true (source ++ more)) = .error e' := by
  obtain ⟨fault, hfault, rfl⟩ := Datum.exists_fault h
  obtain ⟨hdeep, hblank⟩ := incomplete_iff.1 hkind
  have hinitial : Scan.initial.phase.In .code := trivial
  have hfits := Scan.fits_feed (readable true source)
  have hregion : (Scan.initial.feed (readable true source)).phase.In
      (Region.code.after source.toList) := Scan.in_feed_blankFrom hinitial source.toList
  have hmore (more : String) (ds : List Datum) :
      Datum.readAll (readable true (source ++ more)) = .ok ds ↔
        (Scan.initial.feed (readable true source)).Accepts
          (blankFrom (Region.code.after source.toList) more.toList) ds := by
    rw [readable_true_append, readAll_eq_ok_iff_accepts, Scan.accepts_append]
  by_cases hfailed : (Scan.initial.feed (readable true source)).phase = .failed fault
  · rw [hfailed] at hfits
    obtain ⟨c, hc, hseparator⟩ := hfits
    refine .inr ⟨strayBlank_of_getElem? hc hseparator hblank, fun more => ?_⟩
    cases hread : Datum.readAll (readable true (source ++ more)) with
    | error e' => exact ⟨e', rfl⟩
    | ok ds => exact absurd ((hmore more ds).1 hread) (Scan.not_accepts_of_failed hfailed)
  · have hatom (start : Nat) (chars : List Char)
        (hphase : (Scan.initial.feed (readable true source)).phase = .atom start chars) :
        ∃ d, Datum.ofAtom? chars.reverse = some d :=
      Scan.exists_datum_of_atom hfits hphase hfault hblank
    obtain ⟨more, ds, h⟩ := Scan.exists_ending hregion hfits hfault hdeep hfailed hatom
    refine .inl ⟨String.ofList more, ds, (hmore _ _).2 ?_⟩
    rwa [String.toList_ofList]

theorem incomplete_string_completable :
    ∃ more ds, Datum.readAll (readable true ("(a \"b\\" ++ more)) = .ok ds := by
  have h : Datum.readAll (readable true "(a \"b\\") =
    .error ((Fault.mk .unclosed 6).report "(a \"b\\".toList) := rfl
  rcases incomplete_completable_or_stray h rfl with hmore | ⟨⟨before, c, after, htext, -, hall⟩, -⟩
  · exact hmore
  · have hlast : (c :: after).getLast? = some '\\' := by
      have h := congrArg List.getLast? htext
      rw [List.getLast?_append, List.getLast?_cons, Option.some_or] at h
      rw [List.getLast?_cons, ← h]
      rfl
    exact absurd (hall _ (List.mem_of_getLast? hlast)) (by decide)

namespace Scan

variable {o : Nat} {data : List (Datum × Nat)} {c : Char}

theorem read_stray (hblank : Text.isBlank c = true) (hseparator : Text.isSeparator c = false) :
    ((Scan.mk o data [] .between).read c).phase = .failed ⟨.noDatum, o⟩ := by
  have hatom := not_startsAtom_of_isBlank hblank
  rw [not_or, Bool.not_eq_true] at hatom
  have hquote : c ≠ '\'' := ne_of_isBlank hblank (by decide)
  have hopen : c ≠ '(' := ne_of_isBlank hblank (by decide)
  have hstring : c ≠ '"' := ne_of_isBlank hblank (by decide)
  have hclose : c ≠ ')' := ne_of_isBlank hblank (by decide)
  simp [read, react, start, hseparator, hquote, hopen, hstring, hatom, hclose, fail, missing,
    maxNesting]

theorem read_stray_of_finish {s : Scan} (hfault : s.finish.fault? = none)
    (hblank : Text.isBlank c = true) (hseparator : Text.isSeparator c = false) :
    (s.read c).phase = .failed ⟨.noDatum, s.offset⟩ := by
  have hsymbol : isSymbolChar c = false :=
    Bool.eq_false_iff.2 fun h => not_startsAtom_of_isBlank hblank (.inr h)
  obtain ⟨hfinish, hread⟩ := finish_of_fault?_eq_none hfault
  rw [hread c hsymbol, hfinish]
  exact read_stray hblank hseparator

end Scan

theorem readAll_stray {text : List Char} {ds : List Datum} {c : Char}
    (h : Datum.readAll text = .ok ds) (hblank : Text.isBlank c = true)
    (hseparator : Text.isSeparator c = false) (more : List Char) :
    ∃ e, Datum.readAll (text ++ c :: more) = .error e ∧
      (more.all Text.isBlank = true → e.kind = .incomplete) := by
  rw [readAll_eq_ok_iff_accepts] at h
  have hread := Scan.read_stray_of_finish h.1 hblank hseparator
  rw [Scan.offset_initial_feed] at hread
  have hfault : (scan (text ++ c :: more)).fault? = some ⟨.noDatum, text.length⟩ := by
    rw [scan, Scan.feed_append, Scan.feed_cons]
    exact Scan.fault?_finish_feed_of_failed hread more
  refine ⟨_, Datum.readAll_of_fault hfault, fun hmore => ?_⟩
  rw [incomplete_iff, List.drop_left, List.all_cons, hblank, hmore]
  refine ⟨?_, rfl⟩
  intro hdeep
  cases hdeep

/-- A complete list with a no-break space behind it. -/
theorem no_break_space_not_completable :
    (∃ e, Datum.readAll (readable true "(+ 1 2)\u00a0") = .error e ∧ e.kind = .incomplete) ∧
    ∀ more, ∃ e, Datum.readAll (readable true ("(+ 1 2)\u00a0" ++ more)) = .error e := by
  have hlist : Datum.readAll "(+ 1 2)".toList = .ok [.list [.sym "+", .num 1, .num 2]] := rfl
  have hstray := readAll_stray hlist (c := '\u00a0') (by decide) (by decide)
  refine ⟨?_, fun more => ?_⟩
  · obtain ⟨e, he, hkind⟩ := hstray []
    exact ⟨e, he, hkind rfl⟩
  · rw [readable_true_append]
    obtain ⟨e, he, -⟩ := hstray (blankFrom .code more.toList)
    exact ⟨e, he⟩

end CallByName
