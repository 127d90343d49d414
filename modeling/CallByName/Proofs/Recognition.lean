import CallByName.Datum.Read
import CallByName.Proofs.Continuation

/-! Reading accepts exactly the texts of the grammar. From any place between data a scan accepts
what the enclosures open there can go on with; the whole text is the case of none open. -/

namespace CallByName

open Grammar

namespace Scan

def Accepts (s : Scan) (text : List Char) (ds : List Datum) : Prop :=
  (s.feed text).finish.fault? = none ∧ trees (s.feed text).finish.data = ds

def delivered (d : Datum) (stop : Nat) (around : List Enclosure) (data : List (Datum × Nat)) :
    Scan :=
  ⟨stop, (deliver d stop around data).2, (deliver d stop around data).1, .between⟩

section

variable {s : Scan} {c : Char} {text : List Char} {fault : Fault}

theorem read_of_failed (h : s.phase = .failed fault) (c : Char) :
    (s.read c).phase = .failed fault := by
  simp [read, react, h]

theorem feed_of_failed (h : s.phase = .failed fault) (text : List Char) :
    (s.feed text).phase = .failed fault := by
  induction text generalizing s with
  | nil => exact h
  | cons c text ih => exact ih (read_of_failed h c)

theorem endAtom_of_failed (h : s.phase = .failed fault) : s.endAtom = s := by
  simp [endAtom, h]

theorem finish_of_failed (h : s.phase = .failed fault) : s.finish = s := by
  simp [finish, endAtom_of_failed h, h]

theorem fault?_of_failed (h : s.phase = .failed fault) : s.fault? = some fault := by
  simp [fault?, h]

theorem fault?_finish_feed_of_failed (h : s.phase = .failed fault) (text : List Char) :
    (s.feed text).finish.fault? = some fault := by
  have hfeed := feed_of_failed h text
  rw [finish_of_failed hfeed, fault?_of_failed hfeed]

theorem not_accepts_of_failed (h : s.phase = .failed fault) {ds : List Datum} :
    ¬ s.Accepts text ds := by
  rintro ⟨hfault, -⟩
  rw [fault?_finish_feed_of_failed h] at hfault
  cases hfault

theorem accepts_cons {ds : List Datum} : s.Accepts (c :: text) ds ↔ (s.read c).Accepts text ds :=
  Iff.rfl

theorem accepts_append {start : List Char} {ds : List Datum} :
    s.Accepts (start ++ text) ds ↔ (s.feed start).Accepts text ds := by
  rw [Accepts, Accepts, feed_append]

end

variable {o : Nat} {data : List (Datum × Nat)} {around : List Enclosure} {es : List Datum}

theorem not_accepts_nil_of_inside {chars : List Char} {phase : Phase}
    (hphase : phase = .string chars ∨ phase = .escape chars) :
    ¬ (Scan.mk o data around phase).Accepts [] es := by
  rintro ⟨hfault, -⟩
  rcases hphase with rfl | rfl <;> cases hfault

theorem read_string_quote (chars : List Char) :
    (Scan.mk o data around (.string chars)).read '"' =
      delivered (.str (String.ofList chars.reverse)) (o + 1) around data := rfl

theorem read_string_backslash (chars : List Char) :
    (Scan.mk o data around (.string chars)).read '\\' = ⟨o + 1, data, around, .escape chars⟩ := rfl

theorem read_string_plain {c : Char} (hquote : c ≠ '"') (hbackslash : c ≠ '\\')
    (chars : List Char) : (Scan.mk o data around (.string chars)).read c =
      ⟨o + 1, data, around, .string (c :: chars)⟩ := by
  simp [read, react, hquote, hbackslash]

theorem read_escape_some {e c : Char} (h : Text.Quoted.unescape? e = some c) (chars : List Char) :
    (Scan.mk o data around (.escape chars)).read e =
      ⟨o + 1, data, around, .string (c :: chars)⟩ := by
  simp [read, react, h]

theorem read_escape_none {e : Char} (h : Text.Quoted.unescape? e = none) (chars : List Char) :
    ((Scan.mk o data around (.escape chars)).read e).phase = .failed ⟨.noDatum, o - 1⟩ := by
  simp [read, react, h, fail]

theorem accepts_string_iff {P : Datum → List Char → Prop} {text : List Char}
    (hP : ∀ d n rest, rest.length < text.length →
      ((delivered d n around data).Accepts rest es ↔ P d rest)) (o : Nat) (chars : List Char) :
    (Scan.mk o data around (.string chars)).Accepts text es ↔
      ∃ more rest, Literal text more rest ∧
        P (.str (String.ofList (chars.reverse ++ more))) rest := by
  have key : ((Scan.mk o data around (.string chars)).Accepts text es ↔
        ∃ more rest, Literal text more rest ∧
          P (.str (String.ofList (chars.reverse ++ more))) rest) ∧
      ((Scan.mk o data around (.escape chars)).Accepts text es ↔
        ∃ more rest, Literal ('\\' :: text) more rest ∧
          P (.str (String.ofList (chars.reverse ++ more))) rest) := by
    induction text generalizing o chars with
    | nil =>
      constructor
      · refine iff_of_false (not_accepts_nil_of_inside (.inl rfl)) ?_
        rintro ⟨more, rest, h, -⟩
        exact not_literal_nil h
      · refine iff_of_false (not_accepts_nil_of_inside (.inr rfl)) ?_
        rintro ⟨more, rest, h, -⟩
        obtain ⟨e, c, text, chars, htext, -⟩ := literal_backslash_iff.1 h
        cases htext
    | cons c text ih =>
      have hshort := fun o chars => ih (fun d n rest h => hP d n rest (Nat.lt_succ_of_lt h)) o chars
      constructor
      · by_cases hquote : c = '"'
        · subst hquote
          rw [accepts_cons, read_string_quote, hP _ _ _ (Nat.lt_succ_self _)]
          constructor
          · intro h
            exact ⟨[], text, .close, by rwa [List.append_nil]⟩
          · rintro ⟨more, rest, h, hrest⟩
            obtain ⟨rfl, rfl⟩ := literal_quote_iff.1 h
            rwa [List.append_nil] at hrest
        · by_cases hbackslash : c = '\\'
          · subst hbackslash
            rw [accepts_cons, read_string_backslash]
            exact (hshort _ _).2
          · rw [accepts_cons, read_string_plain hquote hbackslash, (hshort _ _).1]
            simp only [literal_plain_iff hquote hbackslash, List.reverse_cons, List.append_assoc,
              List.singleton_append]
            constructor
            · rintro ⟨more, rest, h, hrest⟩
              exact ⟨c :: more, rest, ⟨more, rfl, h⟩, hrest⟩
            · rintro ⟨_, rest, ⟨more, rfl, h⟩, hrest⟩
              exact ⟨more, rest, h, hrest⟩
      · cases he : Text.Quoted.unescape? c with
        | none =>
          refine iff_of_false (not_accepts_of_failed (read_escape_none he chars)) ?_
          rintro ⟨more, rest, h, -⟩
          obtain ⟨e, x, text', chars', htext, -, hescape, -⟩ := literal_backslash_iff.1 h
          cases htext
          rw [mem_escapes_iff.1 hescape] at he
          cases he
        | some x =>
          rw [accepts_cons, read_escape_some he, (hshort _ _).1]
          simp only [List.reverse_cons, List.append_assoc, List.singleton_append]
          constructor
          · rintro ⟨more, rest, h, hrest⟩
            exact ⟨x :: more, rest, .escaped (mem_escapes_iff.2 he) h, hrest⟩
          · rintro ⟨more, rest, h, hrest⟩
            obtain ⟨e, y, text', more', htext, rfl, hescape, hmore⟩ := literal_backslash_iff.1 h
            cases htext
            obtain rfl : x = y := Option.some.inj (he.symm.trans (mem_escapes_iff.1 hescape))
            exact ⟨more', rest, hmore, hrest⟩
  exact key.1

theorem finish_atom {d : Datum} {stop start : Nat} {chars : List Char}
    (h : Datum.ofAtom? chars.reverse = some d) :
    (Scan.mk stop data around (.atom start chars)).finish =
      (delivered d stop around data).finish := by
  simp [finish, endAtom, h, complete, delivered]

theorem read_atom_some {d : Datum} {stop start : Nat} {chars : List Char} {c : Char}
    (h : Datum.ofAtom? chars.reverse = some d) (hc : isSymbolChar c = false) :
    (Scan.mk stop data around (.atom start chars)).read c =
      (delivered d stop around data).read c := by
  simp [read, react, hc, endAtom, h, complete, delivered]

theorem read_atom_none {stop start : Nat} {chars : List Char} {c : Char}
    (h : Datum.ofAtom? chars.reverse = none) (hc : isSymbolChar c = false) :
    ((Scan.mk stop data around (.atom start chars)).read c).phase =
      .failed ⟨missing around, start⟩ := by
  simp [read, react, hc, endAtom, h, fail]

theorem accepts_atom_iff {P : Datum → Prop} {text : List Char}
    (hP : ∀ d n, (delivered d n around data).Accepts (text.dropWhile isSymbolChar) es ↔ P d)
    (o start : Nat) (chars : List Char) :
    (Scan.mk o data around (.atom start chars)).Accepts text es ↔
      ∃ d, Datum.ofAtom? (chars.reverse ++ text.takeWhile isSymbolChar) = some d ∧ P d := by
  induction text generalizing o chars with
  | nil =>
    simp only [List.takeWhile_nil, List.append_nil]
    cases h : Datum.ofAtom? chars.reverse with
    | none =>
      refine iff_of_false ?_ (by simp)
      rintro ⟨hfault, -⟩
      simp [finish, endAtom, h, fail, fault?] at hfault
    | some d =>
      have hP := hP d o
      rw [List.dropWhile_nil, Accepts, feed_nil] at hP
      simp only [Accepts, feed_nil, finish_atom h, hP, Option.some.injEq, exists_eq_left']
  | cons c text ih =>
    by_cases hc : isSymbolChar c = true
    · rw [List.dropWhile_cons_of_pos hc] at hP
      have hread : (Scan.mk o data around (.atom start chars)).read c =
          ⟨o + 1, data, around, .atom start (c :: chars)⟩ := by
        simp [read, react, hc]
      rw [accepts_cons, hread, ih hP, List.takeWhile_cons_of_pos hc, List.reverse_cons,
        List.append_assoc, List.singleton_append]
    · rw [List.dropWhile_cons_of_neg hc] at hP
      rw [List.takeWhile_cons_of_neg hc, List.append_nil]
      have hc := Bool.eq_false_iff.2 hc
      cases h : Datum.ofAtom? chars.reverse with
      | none => exact iff_of_false (not_accepts_of_failed (read_atom_none h hc)) (by simp)
      | some d =>
        rw [accepts_cons, read_atom_some h hc, ← accepts_cons, hP d o]
        simp only [Option.some.injEq, exists_eq_left']

inductive Starts (o : Nat) (data : List (Datum × Nat)) : List Enclosure → Char → Scan → Prop
  | separator {around : List Enclosure} {c : Char} (h : Text.isSeparator c = true) :
      Starts o data around c ⟨o + 1, data, around, .between⟩
  | quote {around : List Enclosure} (hroom : around.length ≤ 63) :
      Starts o data around '\'' ⟨o + 1, data, .quote :: around, .between⟩
  | opening {around : List Enclosure} (hroom : around.length ≤ 63) :
      Starts o data around '(' ⟨o + 1, data, .list [] :: around, .between⟩
  | string {around : List Enclosure} (hroom : around.length ≤ 63) :
      Starts o data around '"' ⟨o + 1, data, around, .string []⟩
  | atom {around : List Enclosure} {c : Char} (hroom : around.length ≤ 63)
      (hc : c = '#' ∨ isSymbolChar c = true) :
      Starts o data around c ⟨o + 1, data, around, .atom o [c]⟩
  | closing {items : List Datum} {outer : List Enclosure}
      (hroom : (Enclosure.list items :: outer).length ≤ 63) :
      Starts o data (.list items :: outer) ')' (delivered (.list items.reverse) (o + 1) outer data)
  | failed {around : List Enclosure} {c : Char} {cause : Cause}
      (hseparator : Text.isSeparator c = false)
      (h : ∀ text ds, ¬ Continues around (c :: text) ds) :
      Starts o data around c ⟨o + 1, data, around, .failed ⟨cause, o⟩⟩

theorem starts_read (o : Nat) (data : List (Datum × Nat)) (around : List Enclosure) (c : Char) :
    Starts o data around c ((Scan.mk o data around .between).read c) := by
  have hread : (Scan.mk o data around .between).read c =
      { (Scan.mk o data around .between).start c with offset := o + 1 } := rfl
  rw [hread, start]
  by_cases hseparator : Text.isSeparator c = true
  · rw [if_pos hseparator]
    exact .separator hseparator
  rw [if_neg hseparator]
  rw [Bool.not_eq_true] at hseparator
  by_cases hdeep : maxNesting ≤ around.length
  · rw [if_pos hdeep]
    exact .failed hseparator fun _ _ => not_continues_of_maxNesting_le hdeep
  rw [if_neg hdeep]
  have hroom : around.length ≤ 63 := Nat.le_of_lt_succ (Nat.lt_of_not_le hdeep)
  by_cases hquote : c = '\''
  · rw [if_pos hquote, hquote]
    exact .quote hroom
  rw [if_neg hquote]
  by_cases hopen : c = '('
  · rw [if_pos hopen, hopen]
    exact .opening hroom
  rw [if_neg hopen]
  by_cases hstring : c = '"'
  · rw [if_pos hstring, hstring]
    exact .string hroom
  rw [if_neg hstring]
  by_cases hatom : c = '#' ∨ isSymbolChar c = true
  · rw [if_pos (by simpa using hatom)]
    exact .atom hroom hatom
  rw [if_neg (by simpa using hatom)]
  by_cases hclose : c = ')'
  · subst hclose
    rw [if_pos rfl]
    have houtside (hlist : ∀ items outer, around ≠ .list items :: outer) (text : List Char)
        (ds : List Datum) : ¬ Continues around (')' :: text) ds := by
      rw [continues_close hroom]
      rintro ⟨items, outer, h, -⟩
      exact hlist items outer h
    match around with
    | [] => exact .failed hseparator (houtside nofun)
    | .quote :: outer => exact .failed hseparator (houtside nofun)
    | .list items :: outer => exact .closing hroom
  · rw [if_neg hclose]
    exact .failed hseparator fun _ _ =>
      not_continues_cons hseparator hquote hopen hstring hatom hclose

theorem accepts_nil_between_iff :
    (Scan.mk o data around .between).Accepts [] es ↔ es = trees data ∧ around = [] := by
  cases around with
  | nil => simp [Accepts, finish, endAtom, fault?, eq_comm]
  | cons e around => simp [Accepts, finish, endAtom, fault?, fail]

theorem accepts_between_iff {text : List Char} :
    (Scan.mk o data around .between).Accepts text es ↔
      ∃ ds, es = trees data ++ ds ∧ Continues around text ds := by
  -- On the length of the text, since literals and atoms are read at once.
  induction hn : text.length using Nat.strongRecOn generalizing o data around text with
  | ind n ih =>
    subst hn
    cases text with
    | nil =>
      simp only [accepts_nil_between_iff, continues_nil]
      constructor
      · rintro ⟨rfl, rfl⟩
        exact ⟨[], (List.append_nil _).symm, rfl, rfl⟩
      · rintro ⟨ds, hes, rfl, rfl⟩
        exact ⟨by rw [hes, List.append_nil], rfl⟩
    | cons c text =>
      have hshort {o : Nat} {data : List (Datum × Nat)} {around : List Enclosure}
          {rest : List Char} (h : rest.length ≤ text.length) :
          (Scan.mk o data around .between).Accepts rest es ↔
            ∃ ds, es = trees data ++ ds ∧ Continues around rest ds :=
        ih _ (Nat.lt_succ_of_le h) rfl
      have hdelivered {d : Datum} {n : Nat} {around : List Enclosure} {rest : List Char}
          (h : rest.length ≤ text.length) : (delivered d n around data).Accepts rest es ↔
            ∃ ds, es = trees data ++ ds ∧ ContinuesAfter around d rest ds := by
        rw [delivered, hshort h]
        exact continues_deliver_iff d n data
      have hstart := starts_read o data around c
      rw [accepts_cons]
      generalize (Scan.mk o data around .between).read c = s at hstart
      cases hstart with
      | separator h =>
        rw [hshort (Nat.le_refl _)]
        simp only [continues_cons_of_isSeparator h]
      | quote hroom =>
        rw [hshort (Nat.le_refl _)]
        simp only [continues_quote hroom]
      | opening hroom =>
        rw [hshort (Nat.le_refl _)]
        simp only [continues_open]
      | string hroom =>
        rw [accepts_string_iff (fun d n rest h => hdelivered (Nat.le_of_lt h)) _ _]
        simp only [continues_string hroom, List.reverse_nil, List.nil_append]
        constructor
        · rintro ⟨chars, rest, h, ds, hes, hds⟩
          exact ⟨ds, hes, chars, rest, h, hds⟩
        · rintro ⟨ds, hes, chars, rest, h, hds⟩
          exact ⟨chars, rest, h, ds, hes, hds⟩
      | atom hroom hc =>
        have hlength : (text.dropWhile isSymbolChar).length ≤ text.length :=
          (List.dropWhile_suffix isSymbolChar).length_le
        rw [accepts_atom_iff (fun d n => hdelivered hlength) _ _ _]
        simp only [continues_atom hroom hc, ofAtom?_eq_some_iff, List.reverse_singleton,
          List.singleton_append]
        constructor
        · rintro ⟨d, h, ds, hes, hds⟩
          exact ⟨ds, hes, d, h, hds⟩
        · rintro ⟨ds, hes, d, h, hds⟩
          exact ⟨d, h, ds, hes, hds⟩
      | closing hroom =>
        rw [hdelivered (Nat.le_refl _)]
        simp only [continues_close hroom]
        constructor
        · rintro ⟨ds, hes, hds⟩
          exact ⟨ds, hes, _, _, rfl, hds⟩
        · rintro ⟨ds, hes, _, _, heq, hds⟩
          cases heq
          exact ⟨ds, hes, hds⟩
      | failed _ h =>
        refine iff_of_false (not_accepts_of_failed rfl) ?_
        rintro ⟨ds, -, hds⟩
        exact h text ds hds

end Scan

theorem readAll_eq_ok_iff_accepts {text : List Char} {ds : List Datum} :
    Datum.readAll text = .ok ds ↔ Scan.initial.Accepts text ds := by
  unfold Datum.readAll Scan.Accepts scan
  cases h : (Scan.initial.feed text).finish.fault? with
  | none => simp [h, trees]
  | some fault => simp [h]

theorem readAll_eq_ok_iff_isProgram {text : List Char} {ds : List Datum} :
    Datum.readAll text = .ok ds ↔ IsProgram text ds := by
  rw [readAll_eq_ok_iff_accepts, Scan.initial, Scan.accepts_between_iff]
  simp [trees, Continues]

/-- A text in which comments are not recognised is read as given data just if the grammar derives
them from it, and the grammar derives no others. -/
theorem reader_accepts_exactly_grammar :
    (∀ source ds, Datum.readAll (readable false source) = .ok ds ↔ IsProgram source.toList ds) ∧
    ∀ text ds ds', IsProgram text ds → IsProgram text ds' → ds = ds' := by
  refine ⟨fun source ds => readAll_eq_ok_iff_isProgram, ?_⟩
  intro text ds ds' h h'
  rw [← readAll_eq_ok_iff_isProgram] at h h'
  rw [h] at h'
  exact Except.ok.inj h'

theorem reader_accepts_quoted_list :
    IsProgram "'(x\"a\\n\") #xFF -5".toList
      [.list [.sym "quote", .list [.sym "x", .str "a\n"]], .num 255, .num (-5)] ∧
    ∀ ds, IsProgram "'(x\"a\\n\") #xFF -5".toList ds →
      ds = [.list [.sym "quote", .list [.sym "x", .str "a\n"]], .num 255, .num (-5)] :=
  have h : IsProgram "'(x\"a\\n\") #xFF -5".toList
      [.list [.sym "quote", .list [.sym "x", .str "a\n"]], .num 255, .num (-5)] :=
    (reader_accepts_exactly_grammar.1 _ _).1 rfl
  ⟨h, fun _ hds => reader_accepts_exactly_grammar.2 _ _ _ hds h⟩

end CallByName
