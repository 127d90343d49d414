import CallByName.Proofs.Grammar

/-! What a text must hold from some place on. Inside the enclosures that are open there, it has to
complete them, the innermost first, and may go on with further data behind them. -/

namespace CallByName.Grammar

def ContinuesAfter : List Enclosure → Datum → (text : List Char) → List Datum → Prop
  | [], d, text, ds => ∃ es, ds = d :: es ∧ IsProgram text es
  | .quote :: around, d, text, ds => ContinuesAfter around (.list [.sym "quote", d]) text ds
  | .list items :: around, d, text, ds => around.length ≤ 62 ∧ ∃ es rest,
      AreItems (around.length + 1) text es rest ∧
        ContinuesAfter around (.list (items.reverse ++ d :: es)) rest ds

/-- The rest of a text between data inside the given enclosures, with the outermost data that it
completes. -/
def Continues : List Enclosure → (text : List Char) → List Datum → Prop
  | [], text, ds => IsProgram text ds
  | .quote :: around, text, ds => ∃ d rest, NextDatum (around.length + 1) text d rest ∧
      ContinuesAfter around (.list [.sym "quote", d]) rest ds
  | .list items :: around, text, ds => around.length ≤ 62 ∧ ∃ es rest,
      AreItems (around.length + 1) text es rest ∧
        ContinuesAfter around (.list (items.reverse ++ es)) rest ds

def Closes : List Enclosure → (text : List Char) → List Datum → Prop
  | [], text, ds => Blanks text ∧ ds = []
  | .quote :: _, _, _ => False
  | .list items :: around, text, ds => around.length ≤ 62 ∧ ∃ blanks rest, Blanks blanks ∧
      text = blanks ++ ')' :: rest ∧ ContinuesAfter around (.list items.reverse) rest ds

variable {around : List Enclosure} {c : Char} {text : List Char} {ds : List Datum}

theorem continues_iff : Continues around text ds ↔
    (∃ d rest, NextDatum around.length text d rest ∧ ContinuesAfter around d rest ds) ∨
      Closes around text ds := by
  match around with
  | [] =>
    simp only [Continues, Closes, ContinuesAfter, List.length_nil]
    rw [isProgram_iff]
    constructor
    · rintro (h | ⟨d, es, middle, rfl, hd, hs⟩)
      · exact .inr h
      · exact .inl ⟨d, middle, hd, es, rfl, hs⟩
    · rintro (⟨d, middle, hd, es, rfl, hs⟩ | h)
      · exact .inr ⟨d, es, middle, rfl, hd, hs⟩
      · exact .inl h
  | .quote :: around => simp only [Continues, Closes, ContinuesAfter, List.length_cons, or_false]
  | .list items :: around =>
    simp only [Continues, Closes, ContinuesAfter, List.length_cons]
    constructor
    · rintro ⟨hdepth, es, rest, hitems, h⟩
      obtain ⟨blanks, hblanks, rfl, rfl⟩ | ⟨d, es, middle, rfl, hd, hitems⟩ := areItems_iff.1 hitems
      · rw [List.append_nil] at h
        exact .inr ⟨hdepth, blanks, rest, hblanks, rfl, h⟩
      · exact .inl ⟨d, middle, hd, hdepth, es, rest, hitems, h⟩
    · rintro (⟨d, middle, hd, hdepth, es, rest, hitems, h⟩ |
        ⟨hdepth, blanks, rest, hblanks, rfl, h⟩)
      · exact ⟨hdepth, d :: es, rest, areItems_iff.2 (.inr ⟨d, es, middle, rfl, hd, hitems⟩), h⟩
      · refine ⟨hdepth, [], rest, areItems_iff.2 (.inl ⟨blanks, hblanks, rfl, rfl⟩), ?_⟩
        rwa [List.append_nil]

theorem closes_cons_of_isSeparator (hc : Text.isSeparator c = true) :
    Closes around (c :: text) ds ↔ Closes around text ds := by
  match around with
  | [] => simp only [Closes, blanks_cons, hc, true_and]
  | .quote :: around => exact Iff.rfl
  | .list items :: around =>
    simp only [Closes]
    refine and_congr_right fun _ => ?_
    constructor
    · rintro ⟨blanks, rest, hblanks, htext, h⟩
      cases blanks with
      | nil =>
        cases htext
        exact absurd hc (by decide)
      | cons b blanks =>
        cases htext
        exact ⟨blanks, rest, (blanks_cons.1 hblanks).2, rfl, h⟩
    · rintro ⟨blanks, rest, hblanks, rfl, h⟩
      exact ⟨c :: blanks, rest, blanks_cons.2 ⟨hc, hblanks⟩, rfl, h⟩

theorem continues_cons_of_isSeparator (hc : Text.isSeparator c = true) :
    Continues around (c :: text) ds ↔ Continues around text ds := by
  simp only [continues_iff, nextDatum_cons_of_isSeparator hc, closes_cons_of_isSeparator hc]

theorem closes_cons (hc : Text.isSeparator c = false) : Closes around (c :: text) ds ↔
    c = ')' ∧ ∃ items outer, around = .list items :: outer ∧ outer.length ≤ 62 ∧
      ContinuesAfter outer (.list items.reverse) text ds := by
  match around with
  | [] => simp [Closes, blanks_cons, hc]
  | .quote :: around => simp [Closes]
  | .list items :: around =>
    simp only [Closes]
    constructor
    · rintro ⟨hdepth, blanks, rest, hblanks, htext, h⟩
      cases blanks with
      | nil =>
        cases htext
        exact ⟨rfl, items, around, rfl, hdepth, h⟩
      | cons b blanks =>
        cases htext
        exact absurd (blanks_cons.1 hblanks).1 (Bool.eq_false_iff.1 hc)
    · rintro ⟨rfl, _, _, heq, hdepth, h⟩
      cases heq
      exact ⟨hdepth, [], text, List.forall_mem_nil _, rfl, h⟩

theorem continues_cons (hc : Text.isSeparator c = false) : Continues around (c :: text) ds ↔
    (∃ d rest, IsDatum around.length (c :: text) d rest ∧ ContinuesAfter around d rest ds) ∨
    c = ')' ∧ ∃ items outer, around = .list items :: outer ∧ outer.length ≤ 62 ∧
      ContinuesAfter outer (.list items.reverse) text ds := by
  simp only [continues_iff, nextDatum_cons hc, closes_cons hc]

theorem continues_nil : Continues around [] ds ↔ around = [] ∧ ds = [] := by
  rw [continues_iff]
  match around with
  | [] => simp [Closes, not_nextDatum_nil, Blanks]
  | .quote :: around => simp [Closes, not_nextDatum_nil]
  | .list items :: around => simp [Closes, not_nextDatum_nil]

theorem not_continues_of_maxNesting_le (h : maxNesting ≤ around.length) :
    ¬ Continues around text ds := by
  have hdepth : 64 ≤ around.length := h
  rw [continues_iff]
  rintro (⟨d, rest, ⟨blanks, middle, -, -, hd⟩, -⟩ | hclose)
  · exact absurd hd.depth_le (by omega)
  · match around with
    | [] => exact absurd hdepth (by decide)
    | .list items :: around =>
      have hle : around.length ≤ 62 := hclose.1
      rw [List.length_cons] at hdepth
      omega

theorem continues_open :
    Continues around ('(' :: text) ds ↔ Continues (.list [] :: around) text ds := by
  have hatom : isSymbolChar '(' = false := by decide
  rw [continues_cons (by decide)]
  simp only [isDatum_cons_iff, Char.reduceEq, hatom, Bool.false_eq_true, false_and, or_self,
    or_false, false_or, true_and, Continues, List.reverse_nil, List.nil_append]
  constructor
  · rintro ⟨d, rest, ⟨hdepth, es, h, rfl⟩, hrest⟩
    exact ⟨hdepth, es, rest, h, hrest⟩
  · rintro ⟨hdepth, es, rest, h, hrest⟩
    exact ⟨_, rest, ⟨hdepth, es, h, rfl⟩, hrest⟩

section

variable (hroom : around.length ≤ 63)

include hroom

theorem continues_quote :
    Continues around ('\'' :: text) ds ↔ Continues (.quote :: around) text ds := by
  have hatom : isSymbolChar '\'' = false := by decide
  rw [continues_cons (by decide)]
  simp only [isDatum_cons_iff, Char.reduceEq, hatom, Bool.false_eq_true, false_and, or_self,
    or_false, true_and, Continues]
  constructor
  · rintro ⟨d, rest, ⟨-, e, h, rfl⟩, hrest⟩
    exact ⟨e, rest, h, hrest⟩
  · rintro ⟨e, rest, h, hrest⟩
    exact ⟨_, rest, ⟨hroom, e, h, rfl⟩, hrest⟩

theorem continues_string : Continues around ('"' :: text) ds ↔
    ∃ chars rest, Literal text chars rest ∧
      ContinuesAfter around (.str (String.ofList chars)) rest ds := by
  have hatom : isSymbolChar '"' = false := by decide
  rw [continues_cons (by decide)]
  simp only [isDatum_cons_iff, Char.reduceEq, hatom, Bool.false_eq_true, false_and, or_self,
    or_false, false_or, true_and]
  constructor
  · rintro ⟨d, rest, ⟨-, chars, h, rfl⟩, hrest⟩
    exact ⟨chars, rest, h, hrest⟩
  · rintro ⟨chars, rest, h, hrest⟩
    exact ⟨_, rest, ⟨hroom, chars, h, rfl⟩, hrest⟩

theorem continues_close : Continues around (')' :: text) ds ↔
    ∃ items outer, around = .list items :: outer ∧
      ContinuesAfter outer (.list items.reverse) text ds := by
  have hatom : isSymbolChar ')' = false := by decide
  rw [continues_cons (by decide)]
  simp only [isDatum_cons_iff, Char.reduceEq, hatom, Bool.false_eq_true, false_and, or_self,
    exists_false, false_or, true_and]
  constructor
  · rintro ⟨items, outer, h, -, hrest⟩
    exact ⟨items, outer, h, hrest⟩
  · rintro ⟨items, outer, rfl, hrest⟩
    exact ⟨items, outer, rfl, Nat.le_of_succ_le_succ hroom, hrest⟩

theorem continues_atom (hc : c = '#' ∨ isSymbolChar c = true) : Continues around (c :: text) ds ↔
    ∃ d, Atom (c :: text.takeWhile isSymbolChar) d ∧
      ContinuesAfter around d (text.dropWhile isSymbolChar) ds := by
  obtain ⟨hseparator, hquote, hopen, hstring, hclose⟩ := ne_of_startsAtom hc
  rw [continues_cons hseparator]
  simp only [isDatum_cons_iff, hquote, hopen, hstring, hclose, false_and, false_or, or_false]
  constructor
  · rintro ⟨d, rest, ⟨-, -, h, rfl⟩, hrest⟩
    exact ⟨d, h, hrest⟩
  · rintro ⟨d, h, hrest⟩
    exact ⟨d, _, ⟨hc, hroom, h, rfl⟩, hrest⟩

end

theorem not_continues_cons (hseparator : Text.isSeparator c = false) (hquote : c ≠ '\'')
    (hopen : c ≠ '(') (hstring : c ≠ '"') (hatom : ¬ (c = '#' ∨ isSymbolChar c = true))
    (hclose : c ≠ ')') : ¬ Continues around (c :: text) ds := by
  rw [continues_cons hseparator]
  simp only [isDatum_cons_iff, hquote, hopen, hstring, hatom, hclose, false_and, or_self,
    exists_false, not_false_iff]

abbrev trees (data : List (Datum × Nat)) : List Datum := data.reverse.map Prod.fst

theorem continues_deliver_iff (d : Datum) (stop : Nat) (data : List (Datum × Nat))
    {es : List Datum} :
    (∃ ds, es = trees (Scan.deliver d stop around data).2 ++ ds ∧
      Continues (Scan.deliver d stop around data).1 text ds) ↔
      ∃ ds, es = trees data ++ ds ∧ ContinuesAfter around d text ds := by
  induction around generalizing d with
  | nil =>
    simp only [ContinuesAfter, Scan.deliver, Continues, trees, List.reverse_cons, List.map_append,
      List.map_singleton, List.append_assoc, List.singleton_append]
    constructor
    · rintro ⟨ds, hes, h⟩
      exact ⟨d :: ds, hes, ds, rfl, h⟩
    · rintro ⟨_, hes, ds, rfl, h⟩
      exact ⟨ds, hes, h⟩
  | cons e around ih =>
    cases e with
    | quote => exact ih _
    | list items =>
      simp only [ContinuesAfter, Scan.deliver, Continues, List.reverse_cons, List.append_assoc,
        List.singleton_append]

end CallByName.Grammar
