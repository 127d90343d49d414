import CallByName.Datum.Scan

/-! The grammar of texts, said without reference to reading. A derivation tells how a text begins
and what it leaves over. The depth of a datum is the number of lists and quote marks around it. -/

namespace CallByName.Grammar

def Blanks (cs : List Char) : Prop := ∀ c ∈ cs, Text.isSeparator c = true

def EndsAtom (rest : List Char) : Prop := ∀ c ∈ rest.head?, isSymbolChar c = false

def escapes : List (Char × Char) :=
  [('n', '\n'), ('t', '\t'), ('r', '\r'), ('\\', '\\'), ('"', '"')]

inductive Literal : (text chars rest : List Char) → Prop
  | close {rest : List Char} : Literal ('"' :: rest) [] rest
  | plain {c : Char} {text chars rest : List Char} (hquote : c ≠ '"') (hbackslash : c ≠ '\\')
      (h : Literal text chars rest) : Literal (c :: text) (c :: chars) rest
  | escaped {e c : Char} {text chars rest : List Char} (he : (e, c) ∈ escapes)
      (h : Literal text chars rest) : Literal ('\\' :: e :: text) (c :: chars) rest

inductive Atom : List Char → Datum → Prop
  | decimal {ds : List Char} {n : Number} (hds : ds ≠ []) (h : ∀ c ∈ ds, c.isDigit = true)
      (hn : n.toInt = Number.decimalValue ds) : Atom ds (.num n)
  | negative {ds : List Char} {n : Number} (hds : ds ≠ []) (h : ∀ c ∈ ds, c.isDigit = true)
      (hn : n.toInt = -Number.decimalValue ds) : Atom ('-' :: ds) (.num n)
  | hexadecimal {x : Char} {ds : List Char} {n : Number} (hx : x = 'x' ∨ x = 'X') (hds : ds ≠ [])
      (h : ∀ c ∈ ds, Number.isHexDigit c = true) (hn : n.toInt = Number.hexValue ds) :
      Atom ('#' :: x :: ds) (.num n)
  | yes : Atom ['#', 't'] (.bool true)
  | no : Atom ['#', 'f'] (.bool false)
  | symbol {cs : List Char} (hcs : cs ≠ []) (hstart : startsNumeral cs = false)
      (h : ∀ c ∈ cs, isSymbolChar c = true) : Atom cs (.sym (String.ofList cs))

mutual

/-- One datum at a depth: a quote mark before a datum, a list, a string literal or an atom. A list
needs room for its items, even if it has none. -/
inductive IsDatum : (depth : Nat) → (text : List Char) → Datum → (rest : List Char) → Prop
  | quote {depth : Nat} {blanks text rest : List Char} {d : Datum} (hdepth : depth ≤ 63)
      (hblanks : Blanks blanks) (h : IsDatum (depth + 1) text d rest) :
      IsDatum depth ('\'' :: (blanks ++ text)) (.list [.sym "quote", d]) rest
  | list {depth : Nat} {text blanks rest : List Char} {ds : List Datum} (hdepth : depth ≤ 62)
      (h : AreData (depth + 1) text ds (blanks ++ ')' :: rest)) (hblanks : Blanks blanks) :
      IsDatum depth ('(' :: text) (.list ds) rest
  | string {depth : Nat} {text chars rest : List Char} (hdepth : depth ≤ 63)
      (h : Literal text chars rest) :
      IsDatum depth ('"' :: text) (.str (String.ofList chars)) rest
  | atom {depth : Nat} {cs rest : List Char} {d : Datum} (hdepth : depth ≤ 63) (h : Atom cs d)
      (hrest : EndsAtom rest) : IsDatum depth (cs ++ rest) d rest

inductive AreData : (depth : Nat) → (text : List Char) → List Datum → (rest : List Char) → Prop
  | nil {depth : Nat} {rest : List Char} : AreData depth rest [] rest
  | cons {depth : Nat} {blanks text middle rest : List Char} {d : Datum} {ds : List Datum}
      (hblanks : Blanks blanks) (h : IsDatum depth text d middle)
      (hs : AreData depth middle ds rest) : AreData depth (blanks ++ text) (d :: ds) rest

end

def IsProgram (text : List Char) (ds : List Datum) : Prop :=
  ∃ blanks, Blanks blanks ∧ AreData 0 text ds blanks

def NextDatum (depth : Nat) (text : List Char) (d : Datum) (rest : List Char) : Prop :=
  ∃ blanks middle, Blanks blanks ∧ text = blanks ++ middle ∧ IsDatum depth middle d rest

def AreItems (depth : Nat) (text : List Char) (ds : List Datum) (rest : List Char) : Prop :=
  ∃ blanks, Blanks blanks ∧ AreData depth text ds (blanks ++ ')' :: rest)

theorem mem_escapes_iff {e c : Char} : (e, c) ∈ escapes ↔ Text.Quoted.unescape? e = some c := by
  unfold Text.Quoted.unescape? escapes
  split <;> simp_all [eq_comm]

theorem blanks_cons {c : Char} {cs : List Char} :
    Blanks (c :: cs) ↔ Text.isSeparator c = true ∧ Blanks cs := List.forall_mem_cons

theorem Blanks.all_isBlank {cs : List Char} (h : Blanks cs) : cs.all Text.isBlank = true :=
  List.all_eq_true.2 fun c hc => Text.isBlank_of_isSeparator (h c hc)

section

variable {c : Char} {text : List Char}

theorem not_literal_nil {chars rest : List Char} : ¬ Literal [] chars rest := nofun

theorem literal_quote_iff {chars rest : List Char} :
    Literal ('"' :: text) chars rest ↔ chars = [] ∧ rest = text := by
  constructor
  · intro h
    cases h with
    | close => exact ⟨rfl, rfl⟩
    | plain hquote => exact absurd rfl hquote
  · rintro ⟨rfl, rfl⟩
    exact .close

theorem literal_backslash_iff {chars rest : List Char} : Literal ('\\' :: text) chars rest ↔
    ∃ e c text' chars', text = e :: text' ∧ chars = c :: chars' ∧ (e, c) ∈ escapes ∧
      Literal text' chars' rest := by
  constructor
  · intro h
    cases h with
    | plain _ hbackslash => exact absurd rfl hbackslash
    | escaped he h => exact ⟨_, _, _, _, rfl, rfl, he, h⟩
  · rintro ⟨e, c, text, chars, rfl, rfl, he, h⟩
    exact .escaped he h

theorem literal_plain_iff {chars rest : List Char} (hquote : c ≠ '"') (hbackslash : c ≠ '\\') :
    Literal (c :: text) chars rest ↔
      ∃ chars', chars = c :: chars' ∧ Literal text chars' rest := by
  constructor
  · intro h
    cases h with
    | close => exact absurd rfl hquote
    | plain _ _ h => exact ⟨_, rfl, h⟩
    | escaped => exact absurd rfl hbackslash
  · rintro ⟨chars, rfl, h⟩
    exact .plain hquote hbackslash h

theorem isAlphanum_iff : c.isAlphanum = true ↔
    ((65 ≤ c.toNat ∧ c.toNat ≤ 90) ∨ (97 ≤ c.toNat ∧ c.toNat ≤ 122)) ∨
      (48 ≤ c.toNat ∧ c.toNat ≤ 57) := by
  have h : c.isAlphanum = ((decide (65 ≤ c.val ∧ c.val ≤ 90) ||
      (97 ≤ c.val && c.val ≤ 122)) || (48 ≤ c.val && c.val ≤ 57)) := rfl
  simp only [h, Bool.or_eq_true, Bool.and_eq_true, decide_eq_true_eq, UInt32.le_iff_toNat_le]
  exact Iff.rfl

theorem isSymbolChar_of_isAlphanum (h : c.isAlphanum = true) : isSymbolChar c = true := by
  have hascii : c.toNat < 0x80 := by
    rw [isAlphanum_iff] at h
    omega
  rw [isSymbolChar, Text.isAlphanumeric_of_ascii hascii, h, Bool.true_or]

theorem isSymbolChar_of_isDigit (h : c.isDigit = true) : isSymbolChar c = true :=
  isSymbolChar_of_isAlphanum (by rw [Char.isAlphanum, h, Bool.or_true])

theorem isSymbolChar_of_isHexDigit (h : Number.isHexDigit c = true) : isSymbolChar c = true := by
  apply isSymbolChar_of_isAlphanum
  rw [isAlphanum_iff]
  simp only [Number.isHexDigit, Char.isDigit, Char.le_def, Bool.or_eq_true, Bool.and_eq_true,
    decide_eq_true_eq, UInt32.le_iff_toNat_le, ge_iff_le] at h
  change ((48 ≤ c.toNat ∧ c.toNat ≤ 57) ∨ (97 ≤ c.toNat ∧ c.toNat ≤ 102)) ∨
    (65 ≤ c.toNat ∧ c.toNat ≤ 70) at h
  omega

theorem Atom.shape {cs : List Char} {d : Datum} (h : Atom cs d) :
    ∃ c tail, cs = c :: tail ∧ (c = '#' ∨ isSymbolChar c = true) ∧
      ∀ x ∈ tail, isSymbolChar x = true := by
  cases h with
  | decimal hds h _ =>
    obtain ⟨c, ds, rfl⟩ := List.exists_cons_of_ne_nil hds
    obtain ⟨hc, h⟩ := List.forall_mem_cons.1 h
    exact ⟨c, ds, rfl, .inr (isSymbolChar_of_isDigit hc),
      fun x hx => isSymbolChar_of_isDigit (h x hx)⟩
  | negative _ h _ =>
    exact ⟨'-', _, rfl, .inr (by decide), fun x hx => isSymbolChar_of_isDigit (h x hx)⟩
  | @hexadecimal x ds _ hx _ h _ =>
    have hx : isSymbolChar x = true := by
      rcases hx with rfl | rfl <;> decide
    exact ⟨'#', x :: ds, rfl, .inl rfl,
      List.forall_mem_cons.2 ⟨hx, fun y hy => isSymbolChar_of_isHexDigit (h y hy)⟩⟩
  | yes => exact ⟨'#', ['t'], rfl, .inl rfl, List.forall_mem_singleton.2 (by decide)⟩
  | no => exact ⟨'#', ['f'], rfl, .inl rfl, List.forall_mem_singleton.2 (by decide)⟩
  | symbol hcs _ h =>
    obtain ⟨c, cs, rfl⟩ := List.exists_cons_of_ne_nil hcs
    obtain ⟨hc, h⟩ := List.forall_mem_cons.1 h
    exact ⟨c, cs, rfl, .inr hc, h⟩

theorem areDigits_iff {isDigit : Char → Bool} {ds : List Char} :
    Number.areDigits isDigit ds = true ↔ ds ≠ [] ∧ ∀ c ∈ ds, isDigit c = true := by
  simp [Number.areDigits]

theorem ofHex?_eq_some_iff {ds : List Char} {n : Number} : Number.ofHex? ds = some n ↔
    ds ≠ [] ∧ (∀ c ∈ ds, Number.isHexDigit c = true) ∧ n.toInt = Number.hexValue ds := by
  rw [Number.ofHex?]
  split
  · rename_i h
    obtain ⟨hds, h⟩ := areDigits_iff.1 h
    rw [Number.ofInt?_eq_some_iff]
    exact ⟨fun hn => ⟨hds, h, hn⟩, fun hn => hn.2.2⟩
  · rename_i h
    exact ⟨nofun, fun hn => absurd (areDigits_iff.2 ⟨hn.1, hn.2.1⟩) h⟩

theorem ofDecimal?_eq_some_iff {cs : List Char} {n : Number} : Number.ofDecimal? cs = some n ↔
    Number.areDigits Char.isDigit cs = true ∧ n.toInt = Number.decimalValue cs ∨
    ∃ ds, cs = '-' :: ds ∧ Number.areDigits Char.isDigit ds = true ∧
      n.toInt = -Number.decimalValue ds := by
  unfold Number.ofDecimal?
  split
  · rename_i ds
    have hminus : Number.areDigits Char.isDigit ('-' :: ds) = false := by
      simp [Number.areDigits]
    simp only [hminus, Bool.false_eq_true, false_and, false_or, List.cons.injEq, true_and,
      exists_eq_left']
    split <;> simp_all [Number.ofInt?_eq_some_iff]
  · rename_i hcs
    have hminus : ¬ ∃ ds, cs = '-' :: ds ∧ Number.areDigits Char.isDigit ds = true ∧
        n.toInt = -Number.decimalValue ds := fun ⟨ds, h, _⟩ => hcs ds h
    simp only [hminus, or_false]
    split <;> simp_all [Number.ofInt?_eq_some_iff]

theorem ofAtom?_of_head_ne {cs : List Char} (h : cs.head? ≠ some '#') : Datum.ofAtom? cs =
    if isSymbol cs then some (.sym (String.ofList cs)) else (Number.ofDecimal? cs).map .num := by
  unfold Datum.ofAtom?
  split
  · exact absurd rfl h
  · exact absurd rfl h
  · exact absurd rfl h
  · exact absurd rfl h
  · rfl

theorem startsNumeral_of_areDigits {cs : List Char}
    (h : Number.areDigits Char.isDigit cs = true) : startsNumeral cs = true := by
  obtain ⟨hcs, h⟩ := areDigits_iff.1 h
  obtain ⟨c, cs, rfl⟩ := List.exists_cons_of_ne_nil hcs
  have hc : c.isDigit = true := h c List.mem_cons_self
  unfold startsNumeral
  split
  · rename_i heq
    cases heq
    exact absurd hc (by decide)
  · rename_i heq
    cases heq
    exact hc
  · contradiction

theorem atom_of_ofAtom? {cs : List Char} {d : Datum} (h : Datum.ofAtom? cs = some d) :
    Atom cs d := by
  have hhex {x : Char} {ds : List Char} (hx : x = 'x' ∨ x = 'X')
      (h : (Number.ofHex? ds).map Datum.num = some d) : Atom ('#' :: x :: ds) d := by
    obtain ⟨n, hn, rfl⟩ := Option.map_eq_some_iff.1 h
    obtain ⟨hds, hdigits, hn⟩ := ofHex?_eq_some_iff.1 hn
    exact .hexadecimal hx hds hdigits hn
  unfold Datum.ofAtom? at h
  split at h
  · cases h
    exact .yes
  · cases h
    exact .no
  · exact hhex (.inl rfl) h
  · exact hhex (.inr rfl) h
  · split at h
    · rename_i hsymbol
      obtain ⟨hcs, hstart, hchars⟩ := isSymbol_eq_true_iff.1 hsymbol
      cases h
      exact .symbol hcs hstart hchars
    · obtain ⟨n, hn, rfl⟩ := Option.map_eq_some_iff.1 h
      obtain ⟨hds, hn⟩ | ⟨ds, rfl, hds, hn⟩ := ofDecimal?_eq_some_iff.1 hn
      · obtain ⟨hne, hdigits⟩ := areDigits_iff.1 hds
        exact .decimal hne hdigits hn
      · obtain ⟨hne, hdigits⟩ := areDigits_iff.1 hds
        exact .negative hne hdigits hn

theorem ofAtom?_of_atom {cs : List Char} {d : Datum} (h : Atom cs d) :
    Datum.ofAtom? cs = some d := by
  -- A numeral is no symbol, since its digits come first.
  have hnumeral {cs : List Char} {n : Number} (hhead : cs.head? ≠ some '#')
      (hstart : startsNumeral cs = true) (hn : Number.ofDecimal? cs = some n) :
      Datum.ofAtom? cs = some (.num n) := by
    have hsymbol : ¬ isSymbol cs = true := by simp [isSymbol, hstart]
    rw [ofAtom?_of_head_ne hhead, if_neg hsymbol, hn, Option.map_some]
  cases h with
  | decimal hds h hn =>
    have hdigits := areDigits_iff.2 ⟨hds, h⟩
    refine hnumeral ?_ (startsNumeral_of_areDigits hdigits)
      (ofDecimal?_eq_some_iff.2 (.inl ⟨hdigits, hn⟩))
    intro hhead
    exact absurd (h _ (List.mem_of_head? hhead)) (by decide)
  | @negative ds n hds h hn =>
    have hstart : startsNumeral ('-' :: ds) = true := by
      obtain ⟨c, ds, rfl⟩ := List.exists_cons_of_ne_nil hds
      exact h c List.mem_cons_self
    exact hnumeral (by simp) hstart
      (ofDecimal?_eq_some_iff.2 (.inr ⟨ds, rfl, areDigits_iff.2 ⟨hds, h⟩, hn⟩))
  | hexadecimal hx hds h hn =>
    have hhex := ofHex?_eq_some_iff.2 ⟨hds, h, hn⟩
    rcases hx with rfl | rfl
    · rw [Datum.ofAtom?, hhex, Option.map_some]
    · rw [Datum.ofAtom?, hhex, Option.map_some]
  | yes => rfl
  | no => rfl
  | symbol hcs hstart h =>
    have hhead : cs.head? ≠ some '#' := by
      intro hhead
      exact absurd (h _ (List.mem_of_head? hhead)) (by decide)
    rw [ofAtom?_of_head_ne hhead, if_pos (isSymbol_eq_true_iff.2 ⟨hcs, hstart, h⟩)]

theorem ofAtom?_eq_some_iff {cs : List Char} {d : Datum} :
    Datum.ofAtom? cs = some d ↔ Atom cs d := ⟨atom_of_ofAtom?, ofAtom?_of_atom⟩

theorem append_eq_iff_of_endsAtom {tail rest text : List Char}
    (htail : ∀ x ∈ tail, isSymbolChar x = true) (hrest : EndsAtom rest) (h : text = tail ++ rest) :
    tail = text.takeWhile isSymbolChar ∧ rest = text.dropWhile isSymbolChar := by
  subst h
  rw [List.takeWhile_append_of_pos htail, List.dropWhile_append_of_pos htail]
  cases rest with
  | nil => simp
  | cons c rest =>
    have hc : isSymbolChar c = false := hrest c rfl
    simp [hc]

theorem endsAtom_dropWhile (text : List Char) : EndsAtom (text.dropWhile isSymbolChar) := by
  intro c hc
  have := List.head?_dropWhile_not isSymbolChar text
  simp_all

variable {depth : Nat} {d : Datum} {ds : List Datum} {rest : List Char}

theorem IsDatum.depth_le (h : IsDatum depth text d rest) : depth ≤ 63 := by
  cases h with
  | quote hdepth => exact hdepth
  | list hdepth => exact Nat.le_succ_of_le hdepth
  | string hdepth => exact hdepth
  | atom hdepth => exact hdepth

theorem isDatum_cons_iff : IsDatum depth (c :: text) d rest ↔
    (c = '\'' ∧ depth ≤ 63 ∧ ∃ e, NextDatum (depth + 1) text e rest ∧
      d = .list [.sym "quote", e]) ∨
    (c = '(' ∧ depth ≤ 62 ∧ ∃ es, AreItems (depth + 1) text es rest ∧ d = .list es) ∨
    (c = '"' ∧ depth ≤ 63 ∧ ∃ chars, Literal text chars rest ∧ d = .str (String.ofList chars)) ∨
    ((c = '#' ∨ isSymbolChar c = true) ∧ depth ≤ 63 ∧
      Atom (c :: text.takeWhile isSymbolChar) d ∧ rest = text.dropWhile isSymbolChar) := by
  constructor
  · generalize htext : c :: text = full
    intro h
    cases h with
    | quote hdepth hblanks h =>
      cases htext
      exact .inl ⟨rfl, hdepth, _, ⟨_, _, hblanks, rfl, h⟩, rfl⟩
    | list hdepth h hblanks =>
      cases htext
      exact .inr (.inl ⟨rfl, hdepth, _, ⟨_, hblanks, h⟩, rfl⟩)
    | string hdepth h =>
      cases htext
      exact .inr (.inr (.inl ⟨rfl, hdepth, _, h, rfl⟩))
    | atom hdepth h hrest =>
      obtain ⟨x, tail, rfl, hx, htail⟩ := h.shape
      obtain ⟨rfl, hbehind⟩ := List.cons.inj htext
      obtain ⟨rfl, hend⟩ := append_eq_iff_of_endsAtom htail hrest hbehind
      exact .inr (.inr (.inr ⟨hx, hdepth, h, hend⟩))
  · rintro (⟨rfl, hdepth, e, ⟨blanks, middle, hblanks, rfl, h⟩, rfl⟩ |
      ⟨rfl, hdepth, es, ⟨blanks, hblanks, h⟩, rfl⟩ | ⟨rfl, hdepth, chars, h, rfl⟩ |
      ⟨-, hdepth, h, rfl⟩)
    · exact .quote hdepth hblanks h
    · exact .list hdepth h hblanks
    · exact .string hdepth h
    · have hdatum := IsDatum.atom hdepth h (endsAtom_dropWhile text)
      rwa [List.cons_append, List.takeWhile_append_dropWhile] at hdatum

theorem not_isDatum_nil : ¬ IsDatum depth [] d rest := by
  generalize htext : [] = full
  intro h
  cases h with
  | atom _ h =>
    obtain ⟨c, tail, rfl, -⟩ := h.shape
    cases htext
  | _ => cases htext

theorem ne_of_startsAtom (hc : c = '#' ∨ isSymbolChar c = true) : Text.isSeparator c = false ∧
    c ≠ '\'' ∧ c ≠ '(' ∧ c ≠ '"' ∧ c ≠ ')' := by
  have hsymbol {x : Char} (hx : isSymbolChar x = false) (hmark : x ≠ '#') : c ≠ x := by
    rintro rfl
    rcases hc with rfl | hc
    · exact hmark rfl
    · exact absurd hc (Bool.eq_false_iff.1 hx)
  refine ⟨?_, hsymbol (by decide) (by decide), hsymbol (by decide) (by decide),
    hsymbol (by decide) (by decide), hsymbol (by decide) (by decide)⟩
  simp only [Text.isSeparator, Bool.or_eq_false_iff, beq_eq_false_iff_ne]
  exact ⟨⟨⟨hsymbol (by decide) (by decide), hsymbol (by decide) (by decide)⟩,
    hsymbol (by decide) (by decide)⟩, hsymbol (by decide) (by decide)⟩

theorem not_isDatum_of_isSeparator (hc : Text.isSeparator c = true) :
    ¬ IsDatum depth (c :: text) d rest := by
  have hother : c ≠ '\'' ∧ c ≠ '(' ∧ c ≠ '"' ∧ ¬ (c = '#' ∨ isSymbolChar c = true) := by
    simp only [Text.isSeparator, Bool.or_eq_true, beq_iff_eq] at hc
    rcases hc with ((rfl | rfl) | rfl) | rfl <;> decide
  rw [isDatum_cons_iff]
  simp only [hother, false_and, or_self, not_false_iff]

theorem nextDatum_cons_of_isSeparator (hc : Text.isSeparator c = true) :
    NextDatum depth (c :: text) d rest ↔ NextDatum depth text d rest := by
  constructor
  · rintro ⟨blanks, middle, hblanks, htext, h⟩
    cases blanks with
    | nil =>
      cases htext
      exact absurd h (not_isDatum_of_isSeparator hc)
    | cons b blanks =>
      cases htext
      exact ⟨blanks, middle, (blanks_cons.1 hblanks).2, rfl, h⟩
  · rintro ⟨blanks, middle, hblanks, rfl, h⟩
    exact ⟨c :: blanks, middle, blanks_cons.2 ⟨hc, hblanks⟩, rfl, h⟩

theorem nextDatum_cons (hc : Text.isSeparator c = false) :
    NextDatum depth (c :: text) d rest ↔ IsDatum depth (c :: text) d rest := by
  constructor
  · rintro ⟨blanks, middle, hblanks, htext, h⟩
    cases blanks with
    | nil =>
      cases htext
      exact h
    | cons b blanks =>
      cases htext
      exact absurd (blanks_cons.1 hblanks).1 (Bool.eq_false_iff.1 hc)
  · intro h
    exact ⟨[], c :: text, List.forall_mem_nil _, rfl, h⟩

theorem not_nextDatum_nil : ¬ NextDatum depth [] d rest := by
  rintro ⟨blanks, middle, -, htext, h⟩
  obtain ⟨-, rfl⟩ := List.append_eq_nil_iff.1 htext.symm
  exact not_isDatum_nil h

theorem areData_iff : AreData depth text ds rest ↔ (ds = [] ∧ text = rest) ∨
    ∃ d es middle, ds = d :: es ∧ NextDatum depth text d middle ∧ AreData depth middle es rest := by
  constructor
  · intro h
    cases h with
    | nil => exact .inl ⟨rfl, rfl⟩
    | cons hblanks h hs => exact .inr ⟨_, _, _, rfl, ⟨_, _, hblanks, rfl, h⟩, hs⟩
  · rintro (⟨rfl, rfl⟩ | ⟨d, es, middle, rfl, ⟨blanks, text, hblanks, rfl, h⟩, hs⟩)
    · exact .nil
    · exact .cons hblanks h hs

theorem isProgram_iff : IsProgram text ds ↔ (Blanks text ∧ ds = []) ∨
    ∃ d es middle, ds = d :: es ∧ NextDatum 0 text d middle ∧ IsProgram middle es := by
  constructor
  · rintro ⟨blanks, hblanks, h⟩
    obtain ⟨rfl, rfl⟩ | ⟨d, es, middle, rfl, hd, hs⟩ := areData_iff.1 h
    · exact .inl ⟨hblanks, rfl⟩
    · exact .inr ⟨d, es, middle, rfl, hd, blanks, hblanks, hs⟩
  · rintro (⟨hblanks, rfl⟩ | ⟨d, es, middle, rfl, hd, blanks, hblanks, hs⟩)
    · exact ⟨text, hblanks, .nil⟩
    · exact ⟨blanks, hblanks, areData_iff.2 (.inr ⟨d, es, middle, rfl, hd, hs⟩)⟩

theorem areItems_iff : AreItems depth text ds rest ↔
    (∃ blanks, Blanks blanks ∧ text = blanks ++ ')' :: rest ∧ ds = []) ∨
    ∃ d es middle, ds = d :: es ∧ NextDatum depth text d middle ∧
      AreItems depth middle es rest := by
  constructor
  · rintro ⟨blanks, hblanks, h⟩
    obtain ⟨rfl, rfl⟩ | ⟨d, es, middle, rfl, hd, hs⟩ := areData_iff.1 h
    · exact .inl ⟨blanks, hblanks, rfl, rfl⟩
    · exact .inr ⟨d, es, middle, rfl, hd, blanks, hblanks, hs⟩
  · rintro (⟨blanks, hblanks, rfl, rfl⟩ | ⟨d, es, middle, rfl, hd, blanks, hblanks, hs⟩)
    · exact ⟨blanks, hblanks, .nil⟩
    · exact ⟨blanks, hblanks, areData_iff.2 (.inr ⟨d, es, middle, rfl, hd, hs⟩)⟩

end

end CallByName.Grammar
