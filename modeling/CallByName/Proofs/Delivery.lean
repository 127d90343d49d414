import CallByName.Proofs.ScanState

/-! Scanning along a derivation. Where the grammar has a datum, the scan arrives right behind that
datum, in the state that what comes next goes on from. -/

namespace CallByName

open Grammar

theorem Grammar.AreData.text_ne_nil {depth : Nat} {text rest : List Char} {ds : List Datum}
    (h : AreData depth text ds rest) (hrest : rest ≠ []) : text ≠ [] := by
  cases h with
  | nil => exact hrest
  | cons _ h _ =>
    intro hnil
    rw [(List.append_eq_nil_iff.1 hnil).2] at h
    exact not_isDatum_nil h

namespace Scan

section

variable {o start : Nat} {data : List (Datum × Nat)} {around : List Enclosure} {c : Char}
  {text rest : List Char}

theorem not_maxNesting_le {n : Nat} (h : n ≤ 63) : ¬ maxNesting ≤ n :=
  Nat.not_le.2 (Nat.lt_succ_of_le h)

theorem read_separator (hc : Text.isSeparator c = true) :
    (Scan.mk o data around .between).read c = ⟨o + 1, data, around, .between⟩ := by
  simp [read, react, Scan.start, hc]

theorem read_tooDeep (hdeep : maxNesting ≤ around.length) (hc : Text.isSeparator c = false) :
    ((Scan.mk o data around .between).read c).phase = .failed ⟨.tooDeep, o⟩ := by
  simp [read, react, Scan.start, hc, hdeep, fail]

theorem read_mark (hroom : around.length ≤ 63) :
    (Scan.mk o data around .between).read '\'' = ⟨o + 1, data, .quote :: around, .between⟩ := by
  have hdeep := not_maxNesting_le hroom
  simp [read, react, Scan.start, hdeep, Text.isSeparator]

theorem read_opening (hroom : around.length ≤ 63) : (Scan.mk o data around .between).read '(' =
    ⟨o + 1, data, .list [] :: around, .between⟩ := by
  have hdeep := not_maxNesting_le hroom
  simp [read, react, Scan.start, hdeep, Text.isSeparator]

theorem read_closing {items : List Datum} (hroom : around.length ≤ 62) :
    (Scan.mk o data (.list items :: around) .between).read ')' =
      delivered (.list items.reverse) (o + 1) around data := by
  have hdeep := not_maxNesting_le (Nat.succ_le_succ hroom)
  have hsymbol : isSymbolChar ')' = false := by decide
  simp [read, react, Scan.start, hdeep, Text.isSeparator, hsymbol, complete, delivered]

theorem read_quotation (hroom : around.length ≤ 63) :
    (Scan.mk o data around .between).read '"' = ⟨o + 1, data, around, .string []⟩ := by
  have hdeep := not_maxNesting_le hroom
  simp [read, react, Scan.start, hdeep, Text.isSeparator]

theorem read_atom_first (hroom : around.length ≤ 63) (hc : c = '#' ∨ isSymbolChar c = true) :
    (Scan.mk o data around .between).read c = ⟨o + 1, data, around, .atom o [c]⟩ := by
  have hdeep := not_maxNesting_le hroom
  obtain ⟨hseparator, hquote, hopen, hstring, -⟩ := ne_of_startsAtom hc
  simp [read, react, Scan.start, hseparator, hdeep, hquote, hopen, hstring, hc]

theorem feed_blanks {blanks : List Char} (h : Blanks blanks) (o : Nat) :
    ∃ o', (Scan.mk o data around .between).feed (blanks ++ text) =
      (Scan.mk o' data around .between).feed text := by
  induction blanks generalizing o with
  | nil => exact ⟨o, rfl⟩
  | cons c blanks ih =>
    obtain ⟨hc, h⟩ := blanks_cons.1 h
    rw [List.cons_append, feed_cons, read_separator hc]
    exact ih h (o + 1)

theorem feed_atom {tail : List Char} (h : ∀ x ∈ tail, isSymbolChar x = true) (o : Nat)
    (chars : List Char) : (Scan.mk o data around (.atom start chars)).feed tail =
      ⟨o + tail.length, data, around, .atom start (tail.reverse ++ chars)⟩ := by
  induction tail generalizing o chars with
  | nil => rfl
  | cons c tail ih =>
    obtain ⟨hc, h⟩ := List.forall_mem_cons.1 h
    rw [feed_cons, read_atom_more hc, ih h, List.reverse_cons, List.append_assoc, List.length_cons,
      Nat.add_assoc, Nat.add_comm 1]
    rfl

theorem feed_literal {more : List Char} (h : Literal text more rest) (o : Nat) (chars : List Char) :
    ∃ stop, (Scan.mk o data around (.string chars)).feed text =
      (delivered (.str (String.ofList (chars.reverse ++ more))) stop around data).feed rest := by
  induction h generalizing o chars with
  | close =>
    refine ⟨o + 1, ?_⟩
    rw [feed_cons, read_string_quote, List.append_nil]
  | @plain c text more rest hquote hbackslash _ ih =>
    rw [feed_cons, read_string_plain hquote hbackslash]
    have hfeed := ih (o + 1) (c :: chars)
    rwa [List.reverse_cons, List.append_assoc] at hfeed
  | @escaped e c text more rest he _ ih =>
    rw [feed_cons, feed_cons, read_string_backslash, read_escape_some (mem_escapes_iff.1 he)]
    have hfeed := ih (o + 1 + 1) (c :: chars)
    rwa [List.reverse_cons, List.append_assoc] at hfeed

end

variable {data : List (Datum × Nat)}

mutual

/-- Where the grammar has a datum, the scan delivers it, if there is more to come: an atom at the
very end is still being read. -/
theorem feed_of_isDatum : {depth : Nat} → {text : List Char} → {d : Datum} → {rest : List Char} →
    IsDatum depth text d rest → {around : List Enclosure} → depth = around.length → rest ≠ [] →
    (o : Nat) → ∃ stop, (Scan.mk o data around .between).feed text =
      (delivered d stop around data).feed rest
  | _, _, _, _, .quote hroom hblanks h, around, hdepth, hrest, o => by
    have hinside : _ = (Enclosure.quote :: around).length := congrArg Nat.succ hdepth
    obtain ⟨o', hblanks⟩ := feed_blanks hblanks (o + 1)
    obtain ⟨stop, hfeed⟩ := feed_of_isDatum h hinside hrest o'
    refine ⟨stop, ?_⟩
    rw [feed_cons, read_mark (hdepth ▸ hroom), hblanks, hfeed]
    rfl
  | _, _, _, _, .list hroom h hblanks, around, hdepth, hrest, o => by
    obtain ⟨o', hitems⟩ := feed_of_areData h (congrArg Nat.succ hdepth)
      (List.append_ne_nil_of_right_ne_nil _ (List.cons_ne_nil _ _)) (o + 1) []
    obtain ⟨stop, hblanks⟩ := feed_blanks hblanks o'
    refine ⟨stop + 1, ?_⟩
    rw [feed_cons, read_opening (hdepth ▸ Nat.le_succ_of_le hroom), hitems, hblanks, feed_cons,
      read_closing (hdepth ▸ hroom), List.append_nil, List.reverse_reverse]
  | _, _, _, _, .string hroom h, around, hdepth, hrest, o => by
    rw [feed_cons, read_quotation (hdepth ▸ hroom)]
    exact feed_literal h (o + 1) []
  | _, _, d, _, .atom hroom h hend, around, hdepth, hrest, o => by
    obtain ⟨c, tail, rfl, hc, htail⟩ := h.shape
    obtain ⟨x, rest, rfl⟩ := List.exists_cons_of_ne_nil hrest
    have hatom : Datum.ofAtom? (tail.reverse ++ [c]).reverse = some d := by
      rw [List.reverse_append, List.reverse_reverse]
      exact ofAtom?_of_atom h
    refine ⟨o + 1 + tail.length, ?_⟩
    rw [List.cons_append, feed_cons, read_atom_first (hdepth ▸ hroom) hc, feed_append,
      feed_atom htail, feed_cons, read_atom_some hatom (hend x rfl), feed_cons]

theorem feed_of_areData : {depth : Nat} → {text : List Char} → {ds : List Datum} →
    {rest : List Char} → AreData depth text ds rest → {around : List Enclosure} →
    depth = around.length + 1 → rest ≠ [] → (o : Nat) → (items : List Datum) →
    ∃ o', (Scan.mk o data (.list items :: around) .between).feed text =
      (Scan.mk o' data (.list (ds.reverse ++ items) :: around) .between).feed rest
  | _, _, _, _, .nil, _, _, _, o, _ => ⟨o, rfl⟩
  | _, _, _, _, .cons hblanks h hs, around, hdepth, hrest, o, items => by
    have hinside : _ = (Enclosure.list items :: around).length := hdepth
    obtain ⟨o', hblanks⟩ := feed_blanks hblanks o
    obtain ⟨stop, hfeed⟩ := feed_of_isDatum h hinside (hs.text_ne_nil hrest) o'
    obtain ⟨o'', hfeeds⟩ := feed_of_areData hs hdepth hrest stop (_ :: items)
    refine ⟨o'', ?_⟩
    rw [hblanks, hfeed, List.reverse_cons, List.append_assoc]
    exact hfeeds

end

end Scan

end CallByName
